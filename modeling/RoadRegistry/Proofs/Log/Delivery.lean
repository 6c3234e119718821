import RoadRegistry.Proofs.Log.Reading

namespace RoadRegistry

namespace Reader

variable {log : Log} {appended : List Record}

structure Delivered (log : Log) (appended : List Record) (reader : Reader)
    (delivered : List Record) : Prop where
  passed : ∀ record ∈ delivered,
    record ∈ appended ∧ record.offset < reader.position (log.route record.key)
  ordered : delivered.Pairwise fun a b => a.partition = b.partition → a.offset < b.offset
  /-- Instead of a record that compaction hid, a later one with its key was given. -/
  covered : ∀ record ∈ appended, record.offset < reader.position (log.route record.key) →
    ∃ later ∈ delivered, later.key = record.key ∧ record.offset ≤ later.offset
  complete : ∀ index, ∀ record ∈ (log.part index).records,
    record.offset < reader.position index → record ∈ delivered
  started : ∀ index, 0 ≤ reader.position index
  behind : ∀ index, reader.position index ≤ (log.part index).nextOffset

def AtHead (reader : Reader) (log : Log) : Prop :=
  ∀ index < log.partitionCount, reader.position index = (log.part index).nextOffset

instance (reader : Reader) (log : Log) : Decidable (reader.AtHead log) :=
  inferInstanceAs (Decidable (∀ index < log.partitionCount, _))

theorem position_open (log : Log) (index : Nat) :
    position ⟨log.partitions.map fun _ => 0⟩ index = 0 := by
  simp only [position, List.getElem?_map]
  cases log.partitions[index]? <;> rfl

theorem openReader_of_available (available : log.unavailable = none) :
    log.openReader = .ok ⟨log.partitions.map fun _ => 0⟩ := by
  unfold Log.openReader Log.checkAvailable
  rw [available]
  rfl

theorem openReader_of_unavailable {message : String} (lost : log.unavailable = some message) :
    log.openReader = .error (.io log.topic message) := by
  unfold Log.openReader Log.checkAvailable
  rw [lost]
  rfl

namespace Delivered

variable {reader : Reader} {delivered : List Record}

theorem opened (chronicle : log.Chronicle appended) :
    Delivered log appended ⟨log.partitions.map fun _ => 0⟩ [] where
  passed := by simp
  ordered := .nil
  covered record member below := by
    rw [position_open] at below
    have := (chronicle.offset_range member).1
    omega
  complete index record held below := by
    rw [position_open] at below
    have := (chronicle.offset_range (chronicle.mem_appended held).1).1
    omega
  started index := Int.le_of_eq (position_open log index).symm
  behind index := by
    rw [position_open]
    exact Int.natCast_nonneg _

theorem push (given : Delivered log appended reader delivered) (key : Bytes)
    (value : Option Bytes) :
    Delivered (log.push (log.nextRecord key value) (log.route key))
      (appended ++ [log.nextRecord key value]) reader delivered where
  passed record member := by
    rw [Log.route_push]
    have ⟨known, below⟩ := given.passed record member
    exact ⟨List.mem_append_left _ known, below⟩
  ordered := given.ordered
  covered record member below := by
    rw [Log.route_push] at below
    rcases List.mem_append.mp member with member | member
    · exact given.covered record member below
    · rw [List.mem_singleton.mp member] at below
      exact absurd below (Int.not_lt.mpr (given.behind (log.route key)))
  complete index record held below := by
    by_cases here : log.route key = index
    · subst here
      rw [Log.part_push_self (log.route_lt key)] at held
      rcases List.mem_append.mp held with held | held
      · exact given.complete _ record held below
      · rw [List.mem_singleton.mp held] at below
        exact absurd below (Int.not_lt.mpr (given.behind (log.route key)))
    · rw [Log.part_push_of_ne here] at held
      exact given.complete index record held below
  started := given.started
  behind index := by
    have start := given.behind index
    by_cases here : log.route key = index
    · subst here
      rw [Log.part_push_self (log.route_lt key)]
      exact Int.le_trans start (Int.ofNat_le.mpr (Nat.le_succ _))
    · rw [Log.part_push_of_ne here]
      exact start

theorem compact (given : Delivered log appended reader delivered) :
    Delivered log.compact.2 appended reader delivered where
  passed record member := by
    rw [Log.route_compact]
    exact given.passed record member
  ordered := given.ordered
  covered record member below := by
    rw [Log.route_compact] at below
    exact given.covered record member below
  complete index record held below := by
    rw [Log.part_compact] at held
    exact given.complete index record ((Partition.compact_sublist _).subset held) below
  started := given.started
  behind index := by
    rw [Log.part_compact]
    exact given.behind index

theorem poll (chronicle : log.Chronicle appended) (keeps : log.KeepsLatest appended)
    (given : Delivered log appended reader delivered) :
    Delivered log appended (reader.next log) (delivered ++ reader.batch log) where
  passed record member := by
    rcases List.mem_append.mp member with member | member
    · have ⟨known, below⟩ := given.passed record member
      refine ⟨known, Int.lt_of_lt_of_le below ?_⟩
      rw [position_next]
      exact le_after
    · obtain ⟨index, held, _⟩ := mem_batch.mp member
      have ⟨known, placed⟩ := chronicle.mem_appended held
      rw [chronicle.route_of_placed known placed]
      exact ⟨known, lt_position_next (chronicle.sorted index) held⟩
  ordered := by
    have batch_ordered := batch_ordered chronicle.sorted
      (fun _ _ member => (chronicle.mem_appended member).2) reader
    refine List.pairwise_append.mpr ⟨given.ordered, batch_ordered, ?_⟩
    intro old before fresh member same
    obtain ⟨index, held, above⟩ := mem_batch.mp member
    have ⟨known, below⟩ := given.passed old before
    have placed := (chronicle.mem_appended held).2
    rw [chronicle.route_of_placed known (same.trans placed)] at below
    omega
  covered record member below := by
    by_cases read : record.offset < reader.position (log.route record.key)
    · obtain ⟨later, held, same, bound⟩ := given.covered record member read
      exact ⟨later, List.mem_append_left _ held, same, bound⟩
    · -- It was not passed before this poll, so the last record of its key was not either.
      obtain ⟨later, held, same, bound⟩ := keeps record member
      refine ⟨later, List.mem_append_right _ (mem_batch.mpr ⟨_, held, ?_⟩), same, bound⟩
      omega
  complete index record held below := by
    by_cases read : record.offset < reader.position index
    · exact List.mem_append_left _ (given.complete index record held read)
    · exact List.mem_append_right _ (mem_batch.mpr ⟨index, held, Int.not_lt.mp read⟩)
  started index := by
    rw [position_next]
    exact Int.le_trans (given.started index) le_after
  behind index := position_next_le (fun _ held => chronicle.offset_lt held) (given.behind index)

end Delivered

theorem AtHead.lt_position {reader : Reader} (at_head : reader.AtHead log)
    (chronicle : log.Chronicle appended) {record : Record} (member : record ∈ appended) :
    record.offset < reader.position (log.route record.key) := by
  rw [at_head _ (log.route_lt record.key)]
  exact (chronicle.offset_range member).2

theorem lt_position_of_poll (chronicle : log.Chronicle appended) (keeps : log.KeepsLatest appended)
    (reader : Reader) {record : Record} (member : record ∈ appended) :
    record.offset < (reader.next log).position (log.route record.key) := by
  obtain ⟨later, held, _, bound⟩ := keeps record member
  exact Int.lt_of_le_of_lt bound (lt_position_next (chronicle.sorted _) held)

theorem lt_position_of_batch_nil (keeps : log.KeepsLatest appended) {reader : Reader}
    (nothing : reader.batch log = []) {record : Record} (member : record ∈ appended) :
    record.offset < reader.position (log.route record.key) := by
  obtain ⟨later, held, _, bound⟩ := keeps record member
  by_cases read : later.offset < reader.position (log.route record.key)
  · exact Int.lt_of_le_of_lt bound read
  · have given := mem_batch.mpr ⟨_, held, Int.not_lt.mp read⟩
    rw [nothing] at given
    cases given

theorem Delivered.atHead_next {reader : Reader} {delivered : List Record}
    (given : Delivered log appended reader delivered) (chronicle : log.Chronicle appended)
    (keeps : log.KeepsLatest appended) : (reader.next log).AtHead log := by
  intro index _
  have polled := given.poll chronicle keeps
  have above := polled.behind index
  have start := polled.started index
  cases next : (log.part index).nextOffset with
  | zero => omega
  | succ last =>
    have numbered := chronicle.numbered index
    have there : (last : Int) ∈ (Log.onPartition index appended).map (·.offset) := by
      rw [numbered, next]
      exact List.mem_map.mpr ⟨last, List.mem_range.mpr (by omega), rfl⟩
    obtain ⟨record, member, level⟩ := List.mem_map.mp there
    obtain ⟨member, placed⟩ := Log.mem_onPartition.mp member
    have below := lt_position_of_poll chronicle keeps reader member
    rw [chronicle.route_of_placed member placed] at below
    omega

end Reader

end RoadRegistry
