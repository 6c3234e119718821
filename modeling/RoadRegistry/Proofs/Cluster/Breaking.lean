import RoadRegistry.Proofs.Cluster.Writing

namespace RoadRegistry

variable {f : Following V O E}

namespace Replica

theorem foldl_consume_of_broken {batch : List Record} {record : Record} {key : String}
    {error : DecodeError} (member : record ∈ batch)
    (broken : Decoded.ofRecord f.codec record = .broken key error) {r : Replica V O}
    (running : r.progress.stopped = false) (unfailed : r.progress.failure = none) (shared : E) :
    (batch.foldl (consume f) (r, shared)).1.progress.failure ≠ none := by
  induction batch generalizing r shared with
  | nil => cases member
  | cons head rest ih =>
    rw [List.foldl_cons]
    rcases consume_cases f shared head running with ⟨failure, ended⟩ | ⟨moved, legible, _⟩
    · obtain ⟨same, _, failed⟩ := foldl_consume_of_finished ended unfailed rest
        (consume f (r, shared) head).2
      rw [show consume f (r, shared) head =
        ((consume f (r, shared) head).1, (consume f (r, shared) head).2) from rfl, same, failed]
      nofun
    · rcases List.mem_cons.mp member with rfl | later
      · exact absurd broken (legible key error)
      · exact ih later ((congrArg Progress.stopped moved).trans running)
          ((congrArg Progress.failure moved).trans unfailed) _

end Replica

namespace Log

/-- Records are only added, above every offset given so far. -/
structure Grown (old new : Log) : Prop where
  kept : ∀ index, ∀ record ∈ (old.part index).records, record ∈ (new.part index).records
  offsets : ∀ index, (old.part index).nextOffset ≤ (new.part index).nextOffset

namespace Grown

theorem refl (log : Log) : Grown log log := ⟨fun _ _ => id, fun _ => Nat.le_refl _⟩

theorem trans {first second third : Log} (one : Grown first second) (two : Grown second third) :
    Grown first third where
  kept index record member := two.kept index record (one.kept index record member)
  offsets index := Nat.le_trans (one.offsets index) (two.offsets index)

theorem push (log : Log) (record : Record) {index : Nat} (inside : index < log.partitionCount) :
    Grown log (log.push record index) := by
  constructor
  · intro other old member
    by_cases here : index = other
    · subst here
      rw [part_push_self inside]
      exact List.mem_append_left _ member
    · rw [part_push_of_ne here]
      exact member
  · intro other
    by_cases here : index = other
    · subst here
      have pushed : (log.push record index).part index =
          ⟨(log.part index).records ++ [record], (log.part index).nextOffset + 1⟩ :=
        part_push_self inside
      exact Nat.le_of_lt (Nat.lt_of_lt_of_eq (Nat.lt_succ_self _)
        (congrArg Partition.nextOffset pushed).symm)
    · exact Nat.le_of_eq (congrArg Partition.nextOffset (part_push_of_ne here)).symm

end Grown

end Log

namespace Cluster

def Appended (old new : Log) (entry : Bytes × Option Bytes) : Prop :=
  ∃ index, ∃ record ∈ (new.part index).records,
    record.key = entry.1 ∧ record.value = entry.2 ∧ (old.part index).nextOffset ≤ record.offset

namespace Appended

variable {old log new : Log} {entry : Bytes × Option Bytes}

theorem push (log : Log) (key : Bytes) (value : Option Bytes) :
    Appended log (log.push (log.nextRecord key value) (log.route key)) (key, value) := by
  have offset : (log.nextRecord key value).offset = (log.part (log.route key)).nextOffset := rfl
  refine ⟨log.route key, log.nextRecord key value, ?_, rfl, rfl, Int.le_of_eq offset.symm⟩
  rw [Log.part_push_self (log.route_lt key)]
  exact List.mem_append_right _ (List.mem_singleton_self _)

theorem grow (there : Appended old log entry) (grown : log.Grown new) : Appended old new entry := by
  obtain ⟨index, record, held, rest⟩ := there
  exact ⟨index, record, grown.kept index record held, rest⟩

theorem since (there : Appended log new entry) (grown : old.Grown log) :
    Appended old new entry := by
  obtain ⟨index, record, held, same_key, same_value, above⟩ := there
  exact ⟨index, record, held, same_key, same_value,
    Int.le_trans (Int.ofNat_le.mpr (grown.offsets index)) above⟩

end Appended

theorem appendAll_of_available {r : Rehearsal} (unplanned : r.acknowledgements = [])
    (unbounded : r.accepted = none) (available : r.log.unavailable = none)
    (entries : List (Bytes × Option Bytes)) :
    ∃ positions log, appendAll (entries.map .ok) r = (.ok positions, { r with log }) ∧
      log.unavailable = none ∧ Log.Grown r.log log ∧
      ∀ entry ∈ entries, Appended r.log log entry := by
  induction entries generalizing r with
  | nil =>
    exact ⟨[], r.log, rfl, available, .refl _, fun _ member => absurd member List.not_mem_nil⟩
  | cons entry rest ih =>
    obtain ⟨key, value⟩ := entry
    have first := Rehearsal.append_of_unplanned unplanned unbounded available key value
    have inside := r.log.route_lt key
    have pushed := Log.Grown.push r.log (r.log.nextRecord key value) inside
    obtain ⟨positions, log, appended, still_available, grown, all⟩ :=
      ih (r := { r with log := r.log.push (r.log.nextRecord key value) (r.log.route key) })
        unplanned unbounded ((Log.unavailable_push ..).trans available)
    refine ⟨_, log, appendAll_cons first appended, still_available, pushed.trans grown,
      fun other member => ?_⟩
    rcases List.mem_cons.mp member with rfl | later
    · exact (Appended.push r.log key value).grow grown
    · exact (all other later).since pushed

theorem mem_followAll (f : Following V O E) (log : Log) {nodes : List (Node V O)} {node : Node V O}
    (member : node ∈ nodes) (shared : E) :
    ∃ before, (follow f log node before).1 ∈ (followAll f log nodes shared).1 := by
  induction nodes generalizing shared with
  | nil => cases member
  | cons first rest ih =>
    rcases List.mem_cons.mp member with rfl | later
    · exact ⟨shared, List.mem_cons_self⟩
    · obtain ⟨before, there⟩ := ih later (follow f log first shared).2
      exact ⟨before, List.mem_cons_of_mem _ there⟩

variable {c : Cluster V O E} {appended : List Record} {name : String}

theorem Active.follow_of_broken {old log : Log} {node : Node V O} {entry : Bytes × Option Bytes}
    {key : String} {error : DecodeError} (active : Active f.codec old appended node)
    (available : log.unavailable = none) (unread : Appended old log entry)
    (broken : ∀ partition offset,
      Decoded.ofRecord f.codec ⟨partition, offset, entry.1, entry.2⟩ = .broken key error)
    (shared : E) : (Cluster.follow f log node shared).1.replica.progress.failure ≠ none := by
  obtain ⟨index, record, held, same_key, same_value, above⟩ := unread
  obtain ⟨consumed, follows⟩ := active.follows
  have start := follows.delivered.behind index
  have member : record ∈ node.reader.batch log :=
    Reader.mem_batch.mpr ⟨index, held, Int.le_trans start above⟩
  have unreadable : Decoded.ofRecord f.codec record = .broken key error := by
    have here := broken record.partition record.offset
    rwa [← same_key, ← same_value] at here
  cases batch : node.reader.batch log with
  | nil =>
    rw [batch] at member
    cases member
  | cons first rest =>
    have read : (Cluster.follow f log node shared).1.replica =
        ((first :: rest).foldl (Replica.consume f) (node.replica, shared)).1.endOfBatch false := by
      unfold Cluster.follow
      rw [active.following, Reader.poll_of_available available, batch]
      simp only [Bool.false_eq_true, ite_false, Replica.receive, active.running, List.isEmpty_cons]
    obtain ⟨caughtUp, same⟩ := ((first :: rest).foldl (Replica.consume f)
      (node.replica, shared)).1.endOfBatch_eq false
    rw [batch] at member
    rw [read, same]
    exact Replica.foldl_consume_of_broken member unreadable active.running active.unfailed shared

/-- A call that writes an entry that does not decode appends it and breaks a store. -/
theorem Settled.write_of_broken (settled : Settled f c appended) {node : Node V O}
    (found : c.node? name = some node)
    (records : Replica V O → List (Except StoreError (Bytes × Option Bytes)))
    {entries : List (Bytes × Option Bytes)} (encoded : records node.replica = entries.map .ok)
    {entry : Bytes × Option Bytes} (member : entry ∈ entries) {key : String} {error : DecodeError}
    (broken : ∀ partition offset,
      Decoded.ofRecord f.codec ⟨partition, offset, entry.1, entry.2⟩ = .broken key error) :
    Appended c.log (c.write f name records).2.log entry ∧
      ∃ other ∈ (c.write f name records).2.nodes, other.replica.progress.failure ≠ none := by
  have there : node ∈ c.nodes := List.mem_of_find?_eq_some found
  have active := settled.active node there
  have is_open : node.replica.ensureOpen = .ok () := by
    unfold Replica.ensureOpen
    rw [active.unclosed, active.unfailed]
    rfl
  obtain ⟨positions, log, all_appended, available, _, unread⟩ :=
    appendAll_of_available settled.unplanned settled.unbounded settled.available entries
  have left : (c.write f name records).2 = settle f (c.withLog log) := by
    unfold Cluster.write
    rw [found]
    simp only [is_open, encoded, all_appended]
    rfl
  obtain ⟨before, kept⟩ := mem_followAll f log there c.shared
  rw [left]
  exact ⟨unread entry member, _, kept,
    active.follow_of_broken available (unread entry member) broken before⟩

end Cluster

end RoadRegistry
