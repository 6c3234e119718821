import RoadRegistry.Log.Basic

namespace RoadRegistry

namespace Partition

/-- What a compaction keeps, read forwards: the records that no later one with their key
supersedes. -/
def retained : List Record → List Record
  | [] => []
  | record :: later =>
    if later.any (fun other => other.key = record.key) then retained later
    else record :: retained later

theorem sweep_cons (record : Record) (later : List Record) (next : Nat) :
    sweep ⟨record :: later, next⟩ = (sweep ⟨later, next⟩).visit record := by
  simp only [sweep, List.reverse_cons, List.foldl_append, List.foldl_cons, List.foldl_nil]

theorem mem_seen_sweep {records : List Record} {next : Nat} {key : Bytes} :
    key ∈ (sweep ⟨records, next⟩).seen ↔ records.any fun record => record.key = key := by
  induction records with
  | nil => simp [sweep, Sweep.start]
  | cons record later ih =>
    rw [sweep_cons, Sweep.visit, List.any_cons, Bool.or_eq_true, decide_eq_true_eq, ← ih]
    split
    · next met =>
      constructor
      · exact .inr
      · rintro (rfl | seen)
        · exact met
        · exact seen
    · rw [List.mem_cons, eq_comm]

theorem kept_sweep (records : List Record) (next : Nat) :
    (sweep ⟨records, next⟩).kept = retained records := by
  induction records with
  | nil => rfl
  | cons record later ih =>
    rw [sweep_cons, Sweep.visit, retained]
    by_cases superseded : later.any fun other => other.key = record.key
    · rw [if_pos superseded, if_pos (mem_seen_sweep.mpr superseded)]
      exact ih
    · rw [if_neg superseded, if_neg fun seen => superseded (mem_seen_sweep.mp seen), ih]

theorem compact_eq (p : Partition) : p.compact = ⟨retained p.records, p.nextOffset⟩ := by
  rw [compact, ← kept_sweep p.records p.nextOffset]

theorem removed_sweep (p : Partition) :
    p.sweep.removed + p.compact.records.length = p.records.length := by
  obtain ⟨records, next⟩ := p
  induction records with
  | nil => rfl
  | cons record later ih =>
    simp only [compact] at ih ⊢
    rw [sweep_cons, Sweep.visit, List.length_cons]
    split
    · simp only
      omega
    · simp only [List.length_cons]
      omega

theorem retained_sublist (records : List Record) : (retained records).Sublist records := by
  induction records with
  | nil => exact .slnil
  | cons record later ih =>
    unfold retained
    split
    · exact ih.cons record
    · exact ih.cons_cons record

theorem compact_sublist (p : Partition) : p.compact.records.Sublist p.records := by
  rw [compact_eq]
  exact retained_sublist p.records

theorem exists_retained {records : List Record} (sorted : records.Pairwise (·.offset < ·.offset))
    {record : Record} (member : record ∈ records) :
    ∃ later ∈ retained records, later.key = record.key ∧ record.offset ≤ later.offset := by
  induction records generalizing record with
  | nil => cases member
  | cons first rest ih =>
    rw [List.pairwise_cons] at sorted
    have within {other : Record} (held : other ∈ retained rest) :
        other ∈ retained (first :: rest) := by
      unfold retained
      split
      · exact held
      · exact List.mem_cons_of_mem _ held
    rcases List.mem_cons.mp member with rfl | member
    · by_cases superseded : rest.any (fun other => other.key = record.key)
      · obtain ⟨other, held, same⟩ := List.any_eq_true.mp superseded
        obtain ⟨later, kept, key, bound⟩ := ih sorted.2 held
        have above := sorted.1 other held
        exact ⟨later, within kept, key.trans (of_decide_eq_true same), by omega⟩
      · refine ⟨record, ?_, rfl, Int.le_refl _⟩
        rw [retained, if_neg superseded]
        exact List.mem_cons_self
    · obtain ⟨later, kept, key, bound⟩ := ih sorted.2 member
      exact ⟨later, within kept, key, bound⟩

theorem exists_compact {p : Partition} (sorted : p.records.Pairwise (·.offset < ·.offset))
    {record : Record} (member : record ∈ p.records) :
    ∃ later ∈ p.compact.records, later.key = record.key ∧ record.offset ≤ later.offset := by
  rw [compact_eq]
  exact exists_retained sorted member

end Partition

namespace Log

def part (log : Log) (index : Nat) : Partition := log.partitions[index]?.getD .empty

theorem partitionCount_pos (log : Log) : 0 < log.partitionCount :=
  List.length_pos_iff.mpr log.nonempty

theorem route_lt (log : Log) (key : Bytes) : log.route key < log.partitionCount :=
  Nat.mod_lt _ log.partitionCount_pos

theorem partitionCount_push (log : Log) (record : Record) (index : Nat) :
    (log.push record index).partitionCount = log.partitionCount :=
  List.length_modify ..

theorem unavailable_push (log : Log) (record : Record) (index : Nat) :
    (log.push record index).unavailable = log.unavailable := rfl

theorem route_push (log : Log) (record : Record) (index : Nat) (key : Bytes) :
    (log.push record index).route key = log.route key := by
  simp only [route, partitionCount_push]

theorem part_push_self {log : Log} {record : Record} {index : Nat}
    (inside : index < log.partitionCount) :
    (log.push record index).part index =
      ⟨(log.part index).records ++ [record], (log.part index).nextOffset + 1⟩ := by
  have found : log.partitions[index]? = some log.partitions[index] :=
    List.getElem?_eq_getElem inside
  simp only [part, push, List.getElem?_modify_eq, found, Option.map_eq_map, Option.map_some,
    Option.getD_some]

theorem part_push_of_ne {log : Log} {record : Record} {index other : Nat} (apart : index ≠ other) :
    (log.push record index).part other = log.part other := by
  simp only [part, push, List.getElem?_modify_ne _ _ apart]

theorem route_compact (log : Log) (key : Bytes) : log.compact.2.route key = log.route key := by
  simp only [route, partitionCount, compact, mapPartitions, List.length_map]

theorem part_compact (log : Log) (index : Nat) :
    log.compact.2.part index = (log.part index).compact := by
  simp only [part, compact, mapPartitions, List.getElem?_map]
  cases log.partitions[index]? <;> rfl

theorem part_create (topic : String) (partitions index : Nat) :
    (create topic partitions).part index = .empty := by
  simp only [part, create, List.getElem?_replicate]
  split <;> rfl

theorem append_of_available {log : Log} (available : log.unavailable = none) (key : Bytes)
    (value : Option Bytes) :
    log.append key value = .ok ((log.nextRecord key value).position,
      log.push (log.nextRecord key value) (log.route key)) := by
  unfold append checkAvailable
  rw [available]
  rfl

theorem append_of_unavailable {log : Log} {message : String}
    (lost : log.unavailable = some message) (key : Bytes) (value : Option Bytes) :
    log.append key value = .error (.io log.topic message) := by
  unfold append checkAvailable
  rw [lost]
  rfl

def onPartition (index : Nat) (records : List Record) : List Record :=
  records.filter fun record => record.partition = (index : Int)

theorem mem_onPartition {index : Nat} {records : List Record} {record : Record} :
    record ∈ onPartition index records ↔ record ∈ records ∧ record.partition = index := by
  simp only [onPartition, List.mem_filter, decide_eq_true_eq]

theorem onPartition_append (index : Nat) (records more : List Record) :
    onPartition index (records ++ more) = onPartition index records ++ onPartition index more :=
  List.filter_append ..

theorem onPartition_cons_self {index : Nat} {record : Record} (here : record.partition = index)
    (records : List Record) :
    onPartition index (record :: records) = record :: onPartition index records :=
  List.filter_cons_of_pos (by simpa using here)

theorem onPartition_cons_of_ne {index : Nat} {record : Record} (apart : record.partition ≠ index)
    (records : List Record) : onPartition index (record :: records) = onPartition index records :=
  List.filter_cons_of_neg (by simpa using apart)

/-- Offsets number the appended records of every partition, in the order of their appends, and what
the log retains it retains in that order. -/
structure Chronicle (log : Log) (appended : List Record) : Prop where
  placed : ∀ record ∈ appended, record.partition = log.route record.key
  numbered : ∀ index : Nat, (onPartition index appended).map (·.offset) =
    (List.range (log.part index).nextOffset).map Int.ofNat
  retained : ∀ index : Nat, (log.part index).records.Sublist (onPartition index appended)

def KeepsLatest (log : Log) (appended : List Record) : Prop :=
  ∀ record ∈ appended, ∃ later ∈ (log.part (log.route record.key)).records,
    later.key = record.key ∧ record.offset ≤ later.offset

namespace Chronicle

variable {log : Log} {appended : List Record}

theorem create (topic : String) (partitions : Nat) :
    Chronicle (Log.create topic partitions) [] where
  placed := by simp
  numbered index := by rw [part_create]; rfl
  retained index := by rw [part_create]; exact .slnil

theorem mem_appended (chronicle : Chronicle log appended) {record : Record} {index : Nat}
    (member : record ∈ (log.part index).records) : record ∈ appended ∧ record.partition = index :=
  mem_onPartition.mp ((chronicle.retained index).subset member)

theorem route_of_placed (chronicle : Chronicle log appended) {record : Record} {index : Nat}
    (member : record ∈ appended) (placed : record.partition = index) :
    log.route record.key = index :=
  Int.ofNat.inj ((chronicle.placed record member).symm.trans placed)

theorem numbered_sorted (chronicle : Chronicle log appended) (index : Nat) :
    (onPartition index appended).Pairwise (·.offset < ·.offset) := by
  have offsets : ((onPartition index appended).map (·.offset)).Pairwise (· < ·) := by
    rw [chronicle.numbered index, List.pairwise_map]
    exact List.pairwise_lt_range.imp fun less => Int.ofNat_lt.mpr less
  exact List.pairwise_map.mp offsets

theorem sorted (chronicle : Chronicle log appended) (index : Nat) :
    (log.part index).records.Pairwise (·.offset < ·.offset) :=
  (chronicle.numbered_sorted index).sublist (chronicle.retained index)

theorem ordered (chronicle : Chronicle log appended) :
    appended.Pairwise fun a b => a.partition = b.partition → a.offset < b.offset := by
  -- Two records of one partition are also in this order among the records of that partition.
  rw [List.pairwise_iff_forall_sublist]
  intro a b pair same
  have here := chronicle.placed a (pair.subset (by simp))
  have kept : (onPartition (log.route a.key) [a, b]).Sublist
      (onPartition (log.route a.key) appended) := pair.filter _
  rw [onPartition_cons_self here, onPartition_cons_self (same ▸ here)] at kept
  exact List.pairwise_iff_forall_sublist.mp (chronicle.numbered_sorted (log.route a.key)) kept

theorem offset_range (chronicle : Chronicle log appended) {record : Record}
    (member : record ∈ appended) :
    0 ≤ record.offset ∧ record.offset < (log.part (log.route record.key)).nextOffset := by
  have here := List.mem_map_of_mem (f := Record.offset)
    (mem_onPartition.mpr ⟨member, chronicle.placed record member⟩)
  rw [chronicle.numbered, List.mem_map] at here
  obtain ⟨offset, inside, same⟩ := here
  rw [List.mem_range] at inside
  rw [← same]
  exact ⟨Int.natCast_nonneg offset, Int.ofNat_lt.mpr inside⟩

theorem offset_lt (chronicle : Chronicle log appended) {record : Record} {index : Nat}
    (held : record ∈ (log.part index).records) : record.offset < (log.part index).nextOffset := by
  obtain ⟨member, placed⟩ := chronicle.mem_appended held
  rw [← chronicle.route_of_placed member placed]
  exact (chronicle.offset_range member).2

theorem push (chronicle : Chronicle log appended) (key : Bytes) (value : Option Bytes) :
    Chronicle (log.push (log.nextRecord key value) (log.route key))
      (appended ++ [log.nextRecord key value]) where
  placed record member := by
    rw [route_push]
    rcases List.mem_append.mp member with member | member
    · exact chronicle.placed record member
    · rw [List.mem_singleton.mp member]
      rfl
  numbered index := by
    rw [onPartition_append, List.map_append, chronicle.numbered]
    by_cases here : log.route key = index
    · subst here
      rw [part_push_self (log.route_lt key), List.range_succ, List.map_append,
        onPartition_cons_self rfl]
      rfl
    · rw [part_push_of_ne here, onPartition_cons_of_ne (fun same => here (Int.ofNat.inj same))]
      exact List.append_nil _
  retained index := by
    rw [onPartition_append]
    by_cases here : log.route key = index
    · subst here
      rw [part_push_self (log.route_lt key), onPartition_cons_self rfl]
      exact (chronicle.retained _).append (List.Sublist.refl _)
    · rw [part_push_of_ne here]
      exact (chronicle.retained index).trans (List.sublist_append_left _ _)

theorem compact (chronicle : Chronicle log appended) : Chronicle log.compact.2 appended where
  placed record member := by
    rw [route_compact]
    exact chronicle.placed record member
  numbered index := by
    rw [part_compact]
    exact chronicle.numbered index
  retained index := by
    rw [part_compact]
    exact (Partition.compact_sublist _).trans (chronicle.retained index)

end Chronicle

namespace KeepsLatest

variable {log : Log} {appended : List Record}

theorem push (keeps : KeepsLatest log appended) (key : Bytes) (value : Option Bytes) :
    KeepsLatest (log.push (log.nextRecord key value) (log.route key))
      (appended ++ [log.nextRecord key value]) := by
  have grows (index : Nat) : (log.part index).records.Sublist
      ((log.push (log.nextRecord key value) (log.route key)).part index).records := by
    by_cases here : log.route key = index
    · subst here
      rw [part_push_self (log.route_lt key)]
      exact List.sublist_append_left _ _
    · simp only [part_push_of_ne here, List.Sublist.refl]
  intro record member
  rw [route_push]
  rcases List.mem_append.mp member with member | member
  · obtain ⟨later, held, same, bound⟩ := keeps record member
    exact ⟨later, (grows _).subset held, same, bound⟩
  · rw [List.mem_singleton.mp member]
    refine ⟨log.nextRecord key value, ?_, rfl, Int.le_refl _⟩
    change _ ∈ (part _ (log.route key)).records
    rw [part_push_self (log.route_lt key)]
    exact List.mem_append_right _ (List.mem_singleton_self _)

theorem compact (chronicle : Chronicle log appended) (keeps : KeepsLatest log appended) :
    KeepsLatest log.compact.2 appended := by
  intro record member
  rw [route_compact, part_compact]
  obtain ⟨later, held, same, bound⟩ := keeps record member
  obtain ⟨last, kept, key, above⟩ := Partition.exists_compact (chronicle.sorted _) held
  exact ⟨last, kept, key.trans same, by omega⟩

end KeepsLatest

end Log

end RoadRegistry
