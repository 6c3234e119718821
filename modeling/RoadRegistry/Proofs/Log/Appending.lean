import RoadRegistry.Cluster.Basic
import RoadRegistry.Proofs.Log.Readers

namespace RoadRegistry

namespace Log

def Event.drops : Event → Bool
  | .compact | .deleteRecords _ _ => true
  | .append _ _ | .setUnavailable _ | .setAvailable => false

def Dropped (log : Log) (record : Record) (events : List Event) : Prop :=
  ∃ before event after, events = before ++ event :: after ∧ event.drops = true ∧
    record ∈ (log.after before).held ∧ record ∉ (log.after (before ++ [event])).held

theorem after_concat (log : Log) (events : List Event) (event : Event) :
    log.after (events ++ [event]) = (event.run (log.after events)).2 := by
  rw [after, List.foldl_append]
  rfl

theorem mem_held_run {log : Log} {event : Event} (keeps : event.drops = false) {record : Record}
    (held : record ∈ log.held) : record ∈ (event.run log).2.held := by
  cases event with
  | append key value => exact mem_held_append key value held
  | compact => cases keeps
  | deleteRecords partition bound => cases keeps
  | setUnavailable message => exact held
  | setAvailable => exact held

theorem Dropped.concat {log : Log} {record : Record} {events : List Event}
    (dropped : log.Dropped record events) (event : Event) :
    log.Dropped record (events ++ [event]) := by
  obtain ⟨before, dropping, after, rfl, drops, there, gone⟩ := dropped
  exact ⟨before, dropping, after ++ [event], by simp, drops, there, gone⟩

theorem held_or_dropped_concat {log : Log} {record : Record} {events : List Event}
    (kept : record ∈ (log.after events).held ∨ log.Dropped record events) (event : Event) :
    record ∈ (log.after (events ++ [event])).held ∨ log.Dropped record (events ++ [event]) := by
  rcases kept with held | dropped
  · by_cases still : record ∈ (log.after (events ++ [event])).held
    · exact .inl still
    · cases drops : event.drops with
      | true => exact .inr ⟨events, event, [], rfl, drops, held, still⟩
      | false =>
        rw [after_concat] at still
        exact absurd (mem_held_run drops held) still
  · exact .inr (dropped.concat event)

theorem topic_push (log : Log) (record : Record) (index : Nat) :
    (log.push record index).topic = log.topic := rfl

structure Extended (old : Log) (records : List Record) (new : Log) : Prop where
  parts : ∀ index, (new.part index).records = (old.part index).records ++ onPartition index records
  next : ∀ index,
    (new.part index).nextOffset = (old.part index).nextOffset + (onPartition index records).length
  routes : ∀ key, new.route key = old.route key
  placed : ∀ record ∈ records, record.partition = old.route record.key
  fresh : ∀ record ∈ records, (old.part (old.route record.key)).nextOffset ≤ record.offset
  unavailable : new.unavailable = old.unavailable

namespace Extended

variable {old middle new : Log} {records more : List Record}

theorem refl (log : Log) : Extended log [] log where
  parts _ := (List.append_nil _).symm
  next _ := rfl
  routes _ := rfl
  placed := nofun
  fresh := nofun
  unavailable := rfl

theorem push (log : Log) (key : Bytes) (value : Option Bytes) :
    Extended log [log.nextRecord key value]
      (log.push (log.nextRecord key value) (log.route key)) where
  parts index := by
    by_cases here : log.route key = index
    · subst here
      rw [part_push_self (log.route_lt key), onPartition_cons_self rfl]
      rfl
    · rw [part_push_of_ne here, onPartition_cons_of_ne fun same => here (Int.ofNat.inj same)]
      exact (List.append_nil _).symm
  next index := by
    by_cases here : log.route key = index
    · subst here
      rw [part_push_self (log.route_lt key), onPartition_cons_self rfl, List.length_cons]
      rfl
    · rw [part_push_of_ne here, onPartition_cons_of_ne fun same => here (Int.ofNat.inj same)]
      exact (Nat.add_zero _).symm
  routes key := route_push ..
  placed record member := by
    rw [List.mem_singleton.mp member]
    rfl
  fresh record member := by
    rw [List.mem_singleton.mp member]
    exact Int.le_refl _
  unavailable := unavailable_push ..

theorem trans (first : Extended old records middle) (second : Extended middle more new) :
    Extended old (records ++ more) new where
  parts index := by
    rw [second.parts, first.parts, onPartition_append, List.append_assoc]
  next index := by
    rw [second.next, first.next, onPartition_append, List.length_append, Nat.add_assoc]
  routes key := (second.routes key).trans (first.routes key)
  placed record member := by
    rcases List.mem_append.mp member with earlier | later
    · exact first.placed record earlier
    · rw [second.placed record later, first.routes]
  fresh record member := by
    rcases List.mem_append.mp member with earlier | later
    · exact first.fresh record earlier
    · have above := second.fresh record later
      rw [first.routes] at above
      have grown := first.next (old.route record.key)
      omega
  unavailable := second.unavailable.trans first.unavailable

end Extended

/-- In each partition the same records in the same order, each where its key belongs. -/
structure Rearranged (route : Bytes → Nat) (records others : List Record) : Prop where
  parts : ∀ index, onPartition index records = onPartition index others
  placed : ∀ record, record ∈ records ∨ record ∈ others → record.partition = route record.key

namespace Rearranged

variable {route : Bytes → Nat} {records others more further : List Record}

theorem nil : Rearranged route [] [] where
  parts _ := rfl
  placed := nofun

theorem append (first : Rearranged route records others)
    (second : Rearranged route more further) :
    Rearranged route (records ++ more) (others ++ further) where
  parts index := by
    rw [onPartition_append, onPartition_append, first.parts, second.parts]
  placed record member := by
    rw [List.mem_append, List.mem_append, or_or_or_comm] at member
    exact member.elim (first.placed record) (second.placed record)

theorem symm (rearranged : Rearranged route records others) :
    Rearranged route others records where
  parts index := (rearranged.parts index).symm
  placed record member := rearranged.placed record member.symm

theorem mem_of_mem (rearranged : Rearranged route records others) {record : Record}
    (member : record ∈ records) : record ∈ others := by
  have there := mem_onPartition.mpr ⟨member, rearranged.placed record (.inl member)⟩
  rw [rearranged.parts] at there
  exact (mem_onPartition.mp there).1

end Rearranged

end Log

namespace Reader

theorem Served.nextRecord_not_mem {log : Log} {reader : Reader} {returned : List Record}
    (served : reader.Served log returned) (key : Bytes) (value : Option Bytes) :
    log.nextRecord key value ∉ returned := by
  intro given
  obtain ⟨index, placed, below⟩ := served.passed _ given
  have here : (log.route key : Int) = index := placed
  have behind := served.behind index
  obtain rfl : log.route key = index := by omega
  change ((log.part (log.route key)).nextOffset : Int) < _ at below
  omega

theorem filter_collect (base : Int) {positions : List Int} {partitions : List Partition}
    (placed : ∀ index : Nat, ∀ record ∈ (partitions[index]?.getD .empty).records,
      record.partition = base + index) (index : Nat) :
    (collect positions partitions).1.filter (fun record => record.partition = base + index) =
      fresh (positions[index]?.getD 0) (partitions[index]?.getD .empty) := by
  induction partitions generalizing base positions index with
  | nil => rfl
  | cons p rest ih =>
    have later (index : Nat) (record : Record)
        (member : record ∈ (rest[index]?.getD .empty).records) :
        record.partition = base + 1 + index := by
      have := placed (index + 1) record (by simpa using member)
      omega
    have first (record : Record) (member : record ∈ fresh (positions.headD 0) p) :
        record.partition = base := by
      have := placed 0 record (by simpa using (mem_fresh.mp member).1)
      omega
    rw [collect, List.filter_append]
    cases index with
    | zero =>
      have none_else : (collect positions.tail rest).1.filter
          (fun record => record.partition = base + (0 : Nat)) = [] := by
        refine List.filter_eq_nil_iff.mpr fun record member => ?_
        obtain ⟨index, there⟩ := mem_collect.mp member
        have := later index record (mem_fresh.mp there).1
        simp only [decide_eq_true_eq]
        omega
      rw [none_else, List.append_nil, List.filter_eq_self.mpr fun record member => ?_]
      · simp [List.headD_eq_head?_getD, List.head?_eq_getElem?]
      · simpa using first record member
    | succ index =>
      have none_here : (fresh (positions.headD 0) p).filter
          (fun record => record.partition = base + (index + 1 : Nat)) = [] := by
        refine List.filter_eq_nil_iff.mpr fun record member => ?_
        have := first record member
        simp only [decide_eq_true_eq]
        omega
      have shifted : base + (index + 1 : Nat) = base + 1 + index := by omega
      rw [none_here, List.nil_append, shifted, ih _ later, List.getElem?_tail]
      simp

theorem onPartition_batch {log : Log} (tidy : log.Tidy) (reader : Reader) (index : Nat) :
    Log.onPartition index (reader.batch log) = fresh (reader.position index) (log.part index) := by
  have placed (index : Nat) (record : Record)
      (held : record ∈ (log.partitions[index]?.getD .empty).records) :
      record.partition = 0 + index := by
    have here := tidy.placed index record held
    omega
  have all : (collect reader.positions log.partitions).1.filter
      (fun record => record.partition = 0 + (index : Int)) = _ := filter_collect 0 placed index
  rw [Int.zero_add] at all
  exact all

theorem Served.rearranged {old new : Log} {reader : Reader} {taken records : List Record}
    (served : reader.Served old taken) (idle : reader.batch old = []) (tidy : new.Tidy)
    (extended : old.Extended records new) :
    Log.Rearranged old.route (reader.batch new) records := by
  have parts (index : Nat) :
      Log.onPartition index (reader.batch new) = Log.onPartition index records := by
    have nothing : fresh (reader.position index) (old.part index) = [] := by
      refine List.eq_nil_iff_forall_not_mem.mpr fun record member => ?_
      have given : record ∈ reader.batch old := mem_batch.mpr ⟨index, mem_fresh.mp member⟩
      rw [idle] at given
      cases given
    have behind := served.behind index
    rw [onPartition_batch tidy, fresh, extended.parts, List.filter_append, ← fresh, nothing,
      List.nil_append, List.filter_eq_self]
    intro record member
    obtain ⟨written, here⟩ := Log.mem_onPartition.mp member
    have above := extended.fresh record written
    have placed := extended.placed record written
    obtain rfl : old.route record.key = index := by omega
    exact decide_eq_true (by omega)
  refine ⟨parts, fun record member => ?_⟩
  rcases member with given | written
  · obtain ⟨index, held, above⟩ := mem_batch.mp given
    have there := Log.mem_onPartition.mpr ⟨given, tidy.placed index record held⟩
    rw [parts] at there
    exact extended.placed record (Log.mem_onPartition.mp there).1
  · exact extended.placed record written

end Reader

namespace Rehearsal

variable {r : Rehearsal}

theorem append_cases (genuine : r.acknowledgements = []) (key : Bytes) (value : Option Bytes) :
    (r.log.unavailable = none ∧ r.append key value = .ok ((r.log.nextRecord key value).position,
        { r with
          log := r.log.push (r.log.nextRecord key value) (r.log.route key)
          accepted := r.accepted.map (· - 1) })) ∨
      ∃ error, r.append key value = .error error ∧ error.isFatal = true := by
  obtain ⟨log, accepted, acknowledgements⟩ := r
  cases genuine
  cases available : log.unavailable with
  | none =>
    have written := Log.append_of_available available key value
    match accepted with
    | some 0 => exact .inr ⟨_, rfl, rfl⟩
    | none | some (left + 1) =>
      refine .inl ⟨rfl, ?_⟩
      simp only [append, written]
      rfl
  | some message =>
    have refused := Log.append_of_unavailable available key value
    match accepted with
    | some 0 => exact .inr ⟨_, rfl, rfl⟩
    | none | some (left + 1) =>
      refine .inr ⟨.io log.topic message, ?_, rfl⟩
      simp only [append, refused]
      rfl

end Rehearsal

namespace Cluster

abbrev Item := Except StoreError (Bytes × Option Bytes)

def written : List Item → Rehearsal → List Record
  | [], _ | .error _ :: _, _ => []
  | .ok (key, value) :: rest, r =>
    match r.append key value with
    | .error _ => []
    | .ok (_, next) => r.log.nextRecord key value :: written rest next

def Item.ofRecord (record : Record) : Item := .ok (record.key, record.value)

variable {r : Rehearsal} {item : Item} {items : List Item}

theorem appendAll_cons_cases (genuine : r.acknowledgements = []) (item : Item) :
    (∃ key value next, item = .ok (key, value) ∧ next.acknowledgements = [] ∧
        r.append key value = .ok ((r.log.nextRecord key value).position, next) ∧
        r.log.Extended [r.log.nextRecord key value] next.log ∧
        next.log.topic = r.log.topic ∧
        next.log = ((Log.Event.append key value).run r.log).2 ∧
        ∀ rest, written (item :: rest) r = r.log.nextRecord key value :: written rest next ∧
          appendAll (item :: rest) r =
            ((appendAll rest next).1.map ((r.log.nextRecord key value).position :: ·),
              (appendAll rest next).2)) ∨
      ∃ error, (item = .error error ∨ ∃ key value, item = .ok (key, value) ∧
          r.append key value = .error error ∧ error.isFatal = true) ∧
        ∀ rest, written (item :: rest) r = [] ∧
          appendAll (item :: rest) r = (.error error, r) := by
  cases item with
  | error error => exact .inr ⟨error, .inl rfl, fun rest => ⟨rfl, rfl⟩⟩
  | ok entry =>
    obtain ⟨key, value⟩ := entry
    rcases Rehearsal.append_cases genuine key value with ⟨available, written⟩ |
      ⟨error, failed, fatal⟩
    · refine .inl ⟨key, value, { r with
        log := r.log.push (r.log.nextRecord key value) (r.log.route key)
        accepted := r.accepted.map (· - 1) }, rfl, genuine, written, .push r.log key value,
          Log.topic_push .., ?_, fun rest => ⟨?_, ?_⟩⟩
      · simp only [Log.Event.run, Log.append_of_available available]
      · simp only [Cluster.written, written]
      · simp only [appendAll, written]
    · refine .inr ⟨error, .inr ⟨key, value, rfl, failed, fatal⟩, fun rest => ⟨?_, ?_⟩⟩
      · simp only [written, failed]
      · simp only [appendAll, failed]

/-- What the appends of a call leave: the log with the records of a first part of its items. All is
well exactly if this part is all of them. -/
theorem appendAll_spec (genuine : r.acknowledgements = []) (items : List Item) :
    (appendAll items r).2.acknowledgements = [] ∧
      r.log.Extended (written items r) (appendAll items r).2.log ∧
      (written items r).map Item.ofRecord <+: items ∧
      (∀ positions, (appendAll items r).1 = .ok positions →
        (written items r).map Item.ofRecord = items ∧
          positions = (written items r).map Record.position) := by
  induction items generalizing r with
  | nil =>
    refine ⟨genuine, .refl r.log, List.prefix_rfl, fun positions done => ⟨rfl, ?_⟩⟩
    cases done
    rfl
  | cons item rest ih =>
    rcases appendAll_cons_cases genuine item with
      ⟨key, value, next, rfl, genuine', _, extended, _, _, onward⟩ | ⟨error, _, stays⟩
    · obtain ⟨first, all⟩ := onward rest
      obtain ⟨still, later, begun, finished⟩ := ih genuine'
      rw [first, all]
      refine ⟨still, extended.trans later, ?_, fun positions done => ?_⟩
      · exact (List.prefix_cons_inj _).mpr begun
      · cases outcome : (appendAll rest next).1 with
        | error error =>
          rw [outcome] at done
          cases done
        | ok others =>
          rw [outcome] at done
          cases done
          obtain ⟨every, same⟩ := finished others outcome
          exact ⟨congrArg (_ :: ·) every, congrArg (_ :: ·) same⟩
    · obtain ⟨nothing, failed⟩ := stays rest
      rw [nothing, failed]
      exact ⟨genuine, .refl r.log, List.nil_prefix, nofun⟩

theorem log_appendAll (genuine : r.acknowledgements = []) (items : List Item) :
    (appendAll items r).2.log =
      r.log.after ((written items r).map fun record => .append record.key record.value) := by
  induction items generalizing r with
  | nil => rfl
  | cons item rest ih =>
    rcases appendAll_cons_cases genuine item with
      ⟨key, value, next, rfl, genuine', _, _, _, pushed, onward⟩ | ⟨error, _, stays⟩
    · obtain ⟨first, all⟩ := onward rest
      rw [first, all, List.map_cons, Log.after, List.foldl_cons]
      have step : ((Log.Event.append (r.log.nextRecord key value).key
          (r.log.nextRecord key value).value).run r.log).2 = next.log := pushed.symm
      rw [step]
      exact ih genuine'
    · obtain ⟨nothing, failed⟩ := stays rest
      rw [nothing, failed]
      rfl

end Cluster

end RoadRegistry
