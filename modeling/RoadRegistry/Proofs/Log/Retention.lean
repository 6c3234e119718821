import RoadRegistry.Proofs.Dictionary
import RoadRegistry.Proofs.Log.Reading
import RoadRegistry.Replica.Progress

namespace RoadRegistry

namespace Log

inductive Event where
  | append (key : Bytes) (value : Option Bytes)
  | compact
  | deleteRecords (partition bound : Int)
  | setUnavailable (message : String)
  | setAvailable

inductive Answer where
  | appended (outcome : Except StoreError Position)
  | dropped (count : Nat)
  | silent

def Event.run (log : Log) : Event → Answer × Log
  | .append key value =>
    match log.append key value with
    | .ok (position, log) => (.appended (.ok position), log)
    | .error error => (.appended (.error error), log)
  | .compact => log.compact.map .dropped id
  | .deleteRecords partition bound => (log.deleteRecords partition bound).map .dropped id
  | .setUnavailable message => (.silent, log.setUnavailable message)
  | .setAvailable => (.silent, log.setAvailable)

def after (log : Log) (events : List Event) : Log :=
  events.foldl (fun log event => (event.run log).2) log

end Log

/-- Records in the order of their offsets, all below the next one; the newest is there if any is. -/
structure Partition.Tidy (p : Partition) : Prop where
  sorted : p.records.Pairwise (·.offset < ·.offset)
  range : ∀ record ∈ p.records, 0 ≤ record.offset ∧ record.offset < p.nextOffset
  newest : p.records ≠ [] → ∃ record ∈ p.records, record.offset + 1 = p.nextOffset

namespace Partition.Tidy

variable {p : Partition}

theorem empty : Tidy .empty where
  sorted := .nil
  range _ member := by cases member
  newest none := absurd rfl none

theorem push (tidy : p.Tidy) {record : Record} (next : record.offset = p.nextOffset) :
    Tidy ⟨p.records ++ [record], p.nextOffset + 1⟩ where
  sorted := by
    rw [List.pairwise_append]
    refine ⟨tidy.sorted, List.pairwise_singleton _ _, fun earlier member last same => ?_⟩
    have below := (tidy.range earlier member).2
    rw [List.mem_singleton.mp same]
    omega
  range other member := by
    simp only
    rcases List.mem_append.mp member with earlier | same
    · have below := tidy.range other earlier
      omega
    · rw [List.mem_singleton.mp same]
      omega
  newest _ := by
    refine ⟨record, List.mem_append_right _ (List.mem_singleton_self _), ?_⟩
    simp only
    omega

theorem compact (tidy : p.Tidy) : p.compact.Tidy where
  sorted := tidy.sorted.sublist p.compact_sublist
  range record member := tidy.range record (p.compact_sublist.subset member)
  newest some := by
    have held : p.records ≠ [] := fun none => some (by rw [compact_eq, none]; rfl)
    obtain ⟨record, member, last⟩ := tidy.newest held
    obtain ⟨later, kept, _, above⟩ := exists_compact tidy.sorted member
    have below := (tidy.range later (p.compact_sublist.subset kept)).2
    have same_next : p.compact.nextOffset = p.nextOffset := rfl
    exact ⟨later, kept, by omega⟩

theorem mem_deleteBelow {bound : Int} {record : Record} :
    record ∈ (p.deleteBelow bound).records ↔ record ∈ p.records ∧ bound ≤ record.offset := by
  simp only [deleteBelow, List.mem_filter, decide_eq_true_eq]

theorem deleteBelow (tidy : p.Tidy) (bound : Int) : (p.deleteBelow bound).Tidy where
  sorted := tidy.sorted.sublist List.filter_sublist
  range record member := tidy.range record (mem_deleteBelow.mp member).1
  newest some := by
    obtain ⟨kept, member⟩ := List.exists_mem_of_ne_nil _ some
    obtain ⟨held, above⟩ := mem_deleteBelow.mp member
    obtain ⟨record, there, last⟩ := tidy.newest (List.ne_nil_of_mem held)
    have below := (tidy.range kept held).2
    exact ⟨record, mem_deleteBelow.mpr ⟨there, by omega⟩, last⟩

theorem earliest_lt_iff (tidy : p.Tidy) : p.earliest < p.nextOffset ↔ p.records ≠ [] := by
  unfold earliest
  cases held : p.records with
  | nil => simp
  | cons record rest =>
    have below := (tidy.range record (held ▸ List.mem_cons_self)).2
    simp only [below, ne_eq, reduceCtorEq, not_false_eq_true]

end Partition.Tidy

namespace Log

theorem part_deleteRecords (log : Log) (partition bound : Int) (index : Nat) :
    (log.deleteRecords partition bound).2.part index =
      if partition = index then (log.part index).deleteBelow bound else log.part index := by
  unfold deleteRecords
  by_cases here : partition = index
  · subst here
    rw [if_pos rfl, if_neg (by omega)]
    simp only [part, Int.toNat_natCast, List.getElem?_modify_eq]
    cases log.partitions[index]? <;> rfl
  · rw [if_neg here]
    split
    · rfl
    · have apart : partition.toNat ≠ index := by omega
      simp only [part, List.getElem?_modify_ne _ _ apart]

theorem route_deleteRecords (log : Log) (partition bound : Int) (key : Bytes) :
    (log.deleteRecords partition bound).2.route key = log.route key := by
  unfold deleteRecords
  split
  · rfl
  · simp only [route, partitionCount, List.length_modify]

def Event.isGentle : Event → Bool
  | .append _ _ | .compact => true
  | .deleteRecords _ _ | .setUnavailable _ | .setAvailable => false

theorem Event.part_run (event : Event) (log : Log) (index : Nat) :
    let p := log.part index
    let q := (event.run log).2.part index
    q = p ∨ (∃ record : Record, (record.partition = index ∧ log.route record.key = index) ∧
        record.offset = p.nextOffset ∧ q = ⟨p.records ++ [record], p.nextOffset + 1⟩) ∨
      q = p.compact ∨ (event.isGentle = false ∧ ∃ bound, q = p.deleteBelow bound) := by
  intro p q
  cases event with
  | append key value =>
    cases available : log.unavailable with
    | none =>
      have pushed : q = (log.push (log.nextRecord key value) (log.route key)).part index := by
        simp only [q, run, append_of_available available]
      by_cases here : log.route key = index
      · subst here
        rw [part_push_self (log.route_lt key)] at pushed
        exact .inr (.inl ⟨log.nextRecord key value, ⟨rfl, rfl⟩, rfl, pushed⟩)
      · rw [part_push_of_ne here] at pushed
        exact .inl pushed
    | some message =>
      exact .inl (by simp only [q, p, run, append_of_unavailable available])
  | compact => exact .inr (.inr (.inl (part_compact log index)))
  | deleteRecords partition bound =>
    have deleted : q = if partition = index then p.deleteBelow bound else p :=
      part_deleteRecords log partition bound index
    split at deleted
    · exact .inr (.inr (.inr ⟨rfl, bound, deleted⟩))
    · exact .inl deleted
  | setUnavailable message => exact .inl rfl
  | setAvailable => exact .inl rfl

theorem Event.route_run (event : Event) (log : Log) (key : Bytes) :
    (event.run log).2.route key = log.route key := by
  cases event with
  | append added value =>
    cases available : log.unavailable with
    | none =>
      simp only [run, append_of_available available]
      exact route_push ..
    | some message => simp only [run, append_of_unavailable available]
  | compact => exact route_compact log key
  | deleteRecords partition bound => exact route_deleteRecords log partition bound key
  | setUnavailable message => rfl
  | setAvailable => rfl

structure Tidy (log : Log) : Prop where
  placed : ∀ index : Nat, ∀ record ∈ (log.part index).records, record.partition = index
  routed : ∀ index : Nat, ∀ record ∈ (log.part index).records, log.route record.key = index
  tidy : ∀ index, (log.part index).Tidy

/-- A later state of a log: offsets have only grown, and no record has come back. -/
structure Before (log later : Log) : Prop where
  next : ∀ index, (log.part index).nextOffset ≤ (later.part index).nextOffset
  records : ∀ index, ∀ record ∈ (later.part index).records,
    record ∈ (log.part index).records ∨ (log.part index).nextOffset ≤ record.offset

theorem Tidy.create (topic : String) (partitions : Nat) : (create topic partitions).Tidy where
  placed index record member := by
    rw [part_create] at member
    cases member
  routed index record member := by
    rw [part_create] at member
    cases member
  tidy index := by
    rw [part_create]
    exact .empty

theorem Event.of_mem_part_run {event : Event} {log : Log} {index : Nat} {record : Record}
    (member : record ∈ ((event.run log).2.part index).records) :
    record ∈ (log.part index).records ∨
      record.partition = index ∧ log.route record.key = index ∧
        record.offset = (log.part index).nextOffset := by
  rcases event.part_run log index with same | ⟨added, placed, next, pushed⟩ | compacted |
    ⟨_, bound, deleted⟩
  · exact .inl (same ▸ member)
  · rw [pushed] at member
    rcases List.mem_append.mp member with earlier | last
    · exact .inl earlier
    · rw [List.mem_singleton.mp last]
      exact .inr ⟨placed.1, placed.2, next⟩
  · rw [compacted] at member
    exact .inl ((Partition.compact_sublist _).subset member)
  · rw [deleted] at member
    exact .inl (Partition.Tidy.mem_deleteBelow.mp member).1

theorem Tidy.run {log : Log} (tidy : log.Tidy) (event : Event) : (event.run log).2.Tidy where
  placed index record member := by
    rcases Event.of_mem_part_run member with earlier | ⟨placed, _⟩
    · exact tidy.placed index record earlier
    · exact placed
  routed index record member := by
    rw [event.route_run]
    rcases Event.of_mem_part_run member with earlier | ⟨_, routed, _⟩
    · exact tidy.routed index record earlier
    · exact routed
  tidy index := by
    have before := tidy.tidy index
    rcases event.part_run log index with same | ⟨record, _, next, pushed⟩ | compacted |
      ⟨_, bound, deleted⟩
    · rw [same]
      exact before
    · rw [pushed]
      exact before.push next
    · rw [compacted]
      exact before.compact
    · rw [deleted]
      exact before.deleteBelow bound

theorem Tidy.after {log : Log} (tidy : log.Tidy) (events : List Event) :
    (log.after events).Tidy := by
  induction events generalizing log with
  | nil => exact tidy
  | cons event rest ih => exact ih (tidy.run event)

theorem Before.refl (log : Log) : log.Before log where
  next _ := Nat.le_refl _
  records _ _ member := .inl member

theorem Before.trans {log middle later : Log} (first : log.Before middle)
    (second : middle.Before later) : log.Before later where
  next index := Nat.le_trans (first.next index) (second.next index)
  records index record member := by
    rcases second.records index record member with there | above
    · exact first.records index record there
    · have grown := first.next index
      exact .inr (by omega)

theorem Before.run (log : Log) (event : Event) : log.Before (event.run log).2 where
  next index := by
    rcases event.part_run log index with same | ⟨record, _, _, pushed⟩ | compacted |
      ⟨_, bound, deleted⟩
    · exact Nat.le_of_eq (congrArg Partition.nextOffset same.symm)
    · rw [pushed]
      exact Nat.le_succ _
    · rw [compacted]
      exact Nat.le_refl _
    · rw [deleted]
      exact Nat.le_refl _
  records index other member := by
    rcases Event.of_mem_part_run member with earlier | ⟨_, _, next⟩
    · exact .inl earlier
    · exact .inr (by omega)

theorem Before.after (log : Log) (events : List Event) : log.Before (log.after events) := by
  induction events generalizing log with
  | nil => exact .refl log
  | cons event rest ih => exact (Before.run log event).trans (ih _)

theorem Tidy.retains_after {log : Log} (tidy : log.Tidy) {events : List Event}
    (gentle : ∀ event ∈ events, event.isGentle = true) {index : Nat}
    (held : (log.part index).records ≠ []) : ((log.after events).part index).records ≠ [] := by
  induction events generalizing log with
  | nil => exact held
  | cons event rest ih =>
    refine ih (tidy.run event) (fun other member => gentle other (List.mem_cons_of_mem _ member)) ?_
    rcases event.part_run log index with same | ⟨record, _, _, pushed⟩ | compacted | ⟨harsh, _⟩
    · rw [same]
      exact held
    · rw [pushed]
      exact List.append_ne_nil_of_left_ne_nil held _
    · rw [compacted]
      obtain ⟨record, member⟩ := List.exists_mem_of_ne_nil _ held
      obtain ⟨later, kept, _⟩ := Partition.exists_compact (tidy.tidy index).sorted member
      exact List.ne_nil_of_mem kept
    · rw [gentle event List.mem_cons_self] at harsh
      cases harsh

theorem get?_offsets_from (f : Partition → Int) (partitions : List Partition) (first : Nat)
    (partition : Int) :
    ((partitions.zipIdx first).foldr (fun (p, index) d => d.insert (index : Int) (f p))
        (.empty : Dictionary Int Int)).get? partition =
      if partition < first then none else (partitions[partition.toNat - first]?).map f := by
  induction partitions generalizing first with
  | nil => simp [Dictionary.get?_empty]
  | cons p rest ih =>
    rw [List.zipIdx_cons, List.foldr_cons, Dictionary.get?_insert, ih (first + 1)]
    by_cases here : partition = first
    · have start : partition.toNat - first = 0 := by omega
      rw [if_pos here, if_neg (by omega), start]
      rfl
    · rw [if_neg here]
      by_cases below : partition < first
      · rw [if_pos (by omega), if_pos below]
      · have next : partition.toNat - first = (partition.toNat - (first + 1)) + 1 := by omega
        rw [if_neg (by omega), if_neg below, next, List.getElem?_cons_succ]

theorem get?_offsets (log : Log) (f : Partition → Int) (partition : Int) :
    (log.offsets f).get? partition = (log.partition? partition).map f := by
  rw [offsets, get?_offsets_from, partition?]
  split
  · next negative => rw [if_pos (by omega)]; rfl
  · next positive => rw [if_neg (by omega)]; rfl

theorem partition?_eq_some {log : Log} {partition : Int} {p : Partition}
    (found : log.partition? partition = some p) : ∃ index : Nat, partition = index ∧
      log.part index = p := by
  unfold partition? at found
  split at found
  · cases found
  · exact ⟨partition.toNat, by omega, by rw [part, found]; rfl⟩

theorem partition?_of_retains {log : Log} {index : Nat} (held : (log.part index).records ≠ []) :
    log.partition? index = some (log.part index) := by
  unfold partition?
  rw [if_neg (by omega), Int.toNat_natCast]
  unfold part at held ⊢
  cases found : log.partitions[index]? with
  | none => rw [found] at held; exact absurd rfl held
  | some p => rfl

/-- A replay has to consume the partitions that retain something, to their next offset. -/
theorem Tidy.get?_catchUpTarget {log : Log} (tidy : log.Tidy) {partition stop : Int} :
    (Progress.catchUpTarget (log.offsets fun p => p.nextOffset)
        (log.offsets Partition.earliest)).get? partition = some stop ↔
      ∃ index : Nat, partition = index ∧ (log.part index).records ≠ [] ∧
        stop = (log.part index).nextOffset := by
  rw [← Dictionary.mem_entries_iff, Progress.catchUpTarget, Dictionary.filter, List.mem_filter,
    Dictionary.mem_entries_iff]
  simp only [get?_offsets]
  constructor
  · rintro ⟨ended, retains⟩
    obtain ⟨p, found, rfl⟩ := Option.map_eq_some_iff.mp ended
    obtain ⟨index, rfl, rfl⟩ := partition?_eq_some found
    rw [found] at retains
    exact ⟨index, rfl, (tidy.tidy index).earliest_lt_iff.mp (of_decide_eq_true retains), rfl⟩
  · rintro ⟨index, rfl, held, rfl⟩
    rw [partition?_of_retains held]
    exact ⟨rfl, decide_eq_true ((tidy.tidy index).earliest_lt_iff.mpr held)⟩

end Log

end RoadRegistry
