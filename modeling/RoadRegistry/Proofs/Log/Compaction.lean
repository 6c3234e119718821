import RoadRegistry.Proofs.Log.Retention

namespace RoadRegistry

namespace Log

def withKey (key : Bytes) (records : List Record) : List Record :=
  records.filter fun record => record.key = key

theorem mem_withKey {key : Bytes} {records : List Record} {record : Record} :
    record ∈ withKey key records ↔ record ∈ records ∧ record.key = key := by
  simp only [withKey, List.mem_filter, decide_eq_true_eq]

theorem withKey_eq_nil_iff {key : Bytes} {records : List Record} :
    withKey key records = [] ↔ ∀ record ∈ records, record.key ≠ key := by
  simp only [withKey, List.filter_eq_nil_iff, decide_eq_true_eq, ne_eq]

theorem withKey_cons_self {key : Bytes} {record : Record} (same : record.key = key)
    (records : List Record) : withKey key (record :: records) = record :: withKey key records :=
  List.filter_cons_of_pos (by simpa using same)

theorem withKey_cons_of_ne {key : Bytes} {record : Record} (apart : record.key ≠ key)
    (records : List Record) : withKey key (record :: records) = withKey key records :=
  List.filter_cons_of_neg (by simpa using apart)

end Log

namespace Partition

theorem any_retained (key : Bytes) (records : List Record) :
    ((retained records).any fun record => record.key = key) =
      records.any fun record => record.key = key := by
  induction records with
  | nil => rfl
  | cons first rest ih =>
    unfold retained
    split
    · next superseded =>
      rw [ih, List.any_cons]
      by_cases same : first.key = key
      · subst same
        rw [superseded, Bool.or_true]
      · rw [decide_eq_false same, Bool.false_or]
    · rw [List.any_cons, List.any_cons, ih]

theorem retained_retained (records : List Record) :
    retained (retained records) = retained records := by
  induction records with
  | nil => rfl
  | cons first rest ih =>
    rw [retained]
    split
    · exact ih
    · next last => rw [retained, any_retained, if_neg last, ih]

theorem withKey_retained (key : Bytes) (records : List Record) :
    Log.withKey key (retained records) = (Log.withKey key records).getLast?.toList := by
  induction records with
  | nil => rfl
  | cons first rest ih =>
    rw [retained]
    by_cases same : first.key = key
    · subst same
      rw [Log.withKey_cons_self rfl, List.getLast?_cons]
      split
      · next superseded =>
        obtain ⟨other, member, same⟩ := List.any_eq_true.mp superseded
        have held := List.ne_nil_of_mem (Log.mem_withKey.mpr ⟨member, of_decide_eq_true same⟩)
        rw [ih, List.getLast?_eq_some_getLast held]
        rfl
      · next last =>
        have alone : Log.withKey first.key rest = [] :=
          Log.withKey_eq_nil_iff.mpr fun other member same =>
            last (List.any_eq_true.mpr ⟨other, member, decide_eq_true same⟩)
        rw [Log.withKey_cons_self rfl, ih, alone]
        rfl
    · rw [Log.withKey_cons_of_ne same]
      split
      · exact ih
      · rw [Log.withKey_cons_of_ne same, ih]

theorem retained_eq_filter {records : List Record}
    (sorted : records.Pairwise (·.offset < ·.offset)) :
    retained records = records.filter fun record => ∀ other ∈ records,
      other.key = record.key → other.offset ≤ record.offset := by
  induction records with
  | nil => rfl
  | cons first rest ih =>
    obtain ⟨above, sorted⟩ := List.pairwise_cons.mp sorted
    have later : rest.filter (fun record => ∀ other ∈ first :: rest,
        other.key = record.key → other.offset ≤ record.offset) = retained rest := by
      rw [ih sorted]
      refine List.filter_congr fun record member => decide_eq_decide.mpr ?_
      rw [List.forall_mem_cons, and_iff_right fun _ => Int.le_of_lt (above record member)]
    have latest : (∀ other ∈ first :: rest, other.key = first.key → other.offset ≤ first.offset) ↔
        ¬ rest.any fun other => other.key = first.key := by
      rw [List.forall_mem_cons, and_iff_right fun _ => Int.le_refl _, List.any_eq_true]
      constructor
      · rintro last ⟨other, member, same⟩
        have bound := last other member (of_decide_eq_true same)
        have := above other member
        omega
      · intro alone other member same
        exact absurd ⟨other, member, decide_eq_true same⟩ alone
    rw [List.filter_cons, later, retained]
    simp only [latest, decide_eq_true_eq]
    cases rest.any fun other => other.key = first.key <;> rfl

theorem retained_deleteBelow {records : List Record}
    (sorted : records.Pairwise (·.offset < ·.offset)) (bound : Int) :
    retained (records.filter fun record => bound ≤ record.offset) =
      (retained records).filter fun record => bound ≤ record.offset := by
  induction records with
  | nil => rfl
  | cons first rest ih =>
    obtain ⟨above, sorted⟩ := List.pairwise_cons.mp sorted
    by_cases kept : bound ≤ first.offset
    · have all_kept : (first :: rest).filter (fun record => bound ≤ record.offset) =
          first :: rest := by
        rw [List.filter_eq_self, List.forall_mem_cons]
        refine ⟨decide_eq_true kept, fun record member => decide_eq_true ?_⟩
        have := above record member
        omega
      rw [all_kept, eq_comm, List.filter_eq_self]
      intro record member
      rw [List.filter_eq_self] at all_kept
      exact all_kept record ((retained_sublist _).subset member)
    · rw [List.filter_cons_of_neg (by simpa using kept), ih sorted, retained]
      split
      · rfl
      · rw [List.filter_cons_of_neg (by simpa using kept)]

theorem Tidy.compact_deleteBelow {p : Partition} (tidy : p.Tidy) (bound : Int) :
    (p.deleteBelow bound).compact = p.compact.deleteBelow bound := by
  simp only [compact_eq, Partition.deleteBelow, retained_deleteBelow tidy.sorted bound]

theorem compact_compact (p : Partition) : p.compact.compact = p.compact := by
  simp only [compact_eq, retained_retained]

theorem Tidy.last {p : Partition} (tidy : p.Tidy) {record : Record}
    (last : p.records.getLast? = some record) : record.offset + 1 = p.nextOffset := by
  obtain ⟨before, split⟩ := List.getLast?_eq_some_iff.mp last
  obtain ⟨newest, member, next⟩ := tidy.newest (by rw [split]; simp)
  have sorted := tidy.sorted
  rw [split] at member sorted
  rcases List.mem_append.mp member with earlier | same
  · have below := (List.pairwise_append.mp sorted).2.2 newest earlier record
      (List.mem_singleton_self record)
    have bound := (tidy.range record (List.mem_of_getLast? last)).2
    omega
  · rw [← List.mem_singleton.mp same, next]

theorem Tidy.earliest_le {p : Partition} (tidy : p.Tidy) : p.earliest ≤ p.nextOffset := by
  by_cases held : p.records = []
  · have last : p.earliest = p.nextOffset := by rw [earliest, held]
    exact Int.le_of_eq last
  · exact Int.le_of_lt (tidy.earliest_lt_iff.mpr held)

theorem Tidy.earliest_eq_iff {p : Partition} (tidy : p.Tidy) :
    p.earliest = p.nextOffset ↔ p.records = [] := by
  have bound := tidy.earliest_le
  have below := tidy.earliest_lt_iff
  constructor
  · intro same
    by_cases held : p.records = []
    · exact held
    · have apart := below.mpr held
      omega
  · intro none
    by_cases apart : p.earliest < p.nextOffset
    · exact absurd none (below.mp apart)
    · omega

end Partition

namespace Log

variable {log : Log}

theorem partitions_eq (log : Log) :
    log.partitions = (List.range log.partitionCount).map log.part := by
  apply List.ext_getElem
  · simp [partitionCount]
  · intro index inside _
    simp [part, inside]

theorem eq_of_part {a b : Log} (topic : a.topic = b.topic)
    (unavailable : a.unavailable = b.unavailable) (count : a.partitionCount = b.partitionCount)
    (parts : ∀ index, a.part index = b.part index) : a = b := by
  have partitions : a.partitions = b.partitions := by
    rw [partitions_eq a, partitions_eq b, count, funext parts]
  cases a
  cases b
  simp only at topic unavailable partitions
  subst topic unavailable partitions
  rfl

theorem size_eq_foldl (log : Log) : log.size = (List.range log.partitionCount).foldl
    (fun total index => total + (log.part index).records.length) 0 := by
  conv => lhs; rw [size, partitions_eq log]
  exact List.foldl_map

theorem foldl_add_le {f g : Nat → Nat} (below : ∀ index, f index ≤ g index) (indices : List Nat)
    {start stop : Nat} (ahead : start ≤ stop) :
    indices.foldl (fun total index => total + f index) start ≤
      indices.foldl (fun total index => total + g index) stop := by
  induction indices generalizing start stop with
  | nil => exact ahead
  | cons index rest ih => exact ih (Nat.add_le_add ahead (below index))

theorem size_le {a b : Log} (count : a.partitionCount = b.partitionCount)
    (parts : ∀ index, (a.part index).records.length ≤ (b.part index).records.length) :
    a.size ≤ b.size := by
  rw [size_eq_foldl, size_eq_foldl, count]
  exact foldl_add_le parts _ (Nat.le_refl 0)

theorem partitionCount_compact (log : Log) : log.compact.2.partitionCount = log.partitionCount :=
  List.length_map ..

theorem deleteRecords_frame (log : Log) (partition bound : Int) :
    let left := (log.deleteRecords partition bound).2
    left.topic = log.topic ∧ left.unavailable = log.unavailable ∧
      left.partitionCount = log.partitionCount := by
  unfold deleteRecords
  split
  · exact ⟨rfl, rfl, rfl⟩
  · exact ⟨rfl, rfl, List.length_modify ..⟩

theorem foldl_removed (partitions : List Partition) (removed size : Nat) :
    partitions.foldl (fun removed p => removed + p.sweep.removed) removed +
        (partitions.map Partition.compact).foldl (fun total p => total + p.records.length) size =
      partitions.foldl (fun total p => total + p.records.length) (removed + size) := by
  induction partitions generalizing removed size with
  | nil => rfl
  | cons p rest ih =>
    have counted := p.removed_sweep
    have together : removed + p.sweep.removed + (size + p.compact.records.length) =
        removed + size + p.records.length := by omega
    rw [List.foldl_cons, List.map_cons, List.foldl_cons, List.foldl_cons, ih, together]

theorem dropped_compact (log : Log) : log.compact.1 + log.compact.2.size = log.size :=
  foldl_removed log.partitions 0 0

theorem dropped_deleteRecords (log : Log) (partition bound : Int) :
    (log.deleteRecords partition bound).1 + (log.deleteRecords partition bound).2.size =
      log.size := by
  have smaller : (log.deleteRecords partition bound).2.size ≤ log.size := by
    refine size_le (deleteRecords_frame log partition bound).2.2 fun index => ?_
    rw [part_deleteRecords]
    split
    · exact List.filter_sublist.length_le
    · exact Nat.le_refl _
  have said : (log.deleteRecords partition bound).1 =
      log.size - (log.deleteRecords partition bound).2.size := by
    unfold deleteRecords
    split
    · exact (Nat.sub_self _).symm
    · rfl
  omega

theorem compact_compact (log : Log) : log.compact.2.compact = (0, log.compact.2) := by
  have same : log.compact.2.compact.2 = log.compact.2 := by
    refine eq_of_part rfl rfl (partitionCount_compact _) fun index => ?_
    rw [part_compact, part_compact, Partition.compact_compact]
  have counted := dropped_compact log.compact.2
  rw [same] at counted
  exact Prod.ext (by omega) same

theorem Tidy.compact_deleteRecords (tidy : log.Tidy) (partition bound : Int) :
    (log.compact.2.deleteRecords partition bound).2 =
      (log.deleteRecords partition bound).2.compact.2 := by
  obtain ⟨topic, unavailable, count⟩ := deleteRecords_frame log partition bound
  obtain ⟨topic', unavailable', count'⟩ := deleteRecords_frame log.compact.2 partition bound
  refine eq_of_part (topic'.trans topic.symm) (unavailable'.trans unavailable.symm) ?_
    fun index => ?_
  · rw [count', partitionCount_compact, partitionCount_compact, count]
  · simp only [part_deleteRecords, part_compact]
    split
    · exact ((tidy.tidy index).compact_deleteBelow bound).symm
    · rfl

theorem Tidy.dropped_comm (tidy : log.Tidy) (partition bound : Int) :
    log.compact.1 + (log.compact.2.deleteRecords partition bound).1 =
      (log.deleteRecords partition bound).1 + (log.deleteRecords partition bound).2.compact.1 := by
  have compacted := dropped_compact log
  have then_deleted := dropped_deleteRecords log.compact.2 partition bound
  have deleted := dropped_deleteRecords log partition bound
  have then_compacted := dropped_compact (log.deleteRecords partition bound).2
  rw [tidy.compact_deleteRecords partition bound] at then_deleted
  omega

theorem Tidy.withKey_retains (tidy : log.Tidy) (key : Bytes) :
    withKey key (log.partitions.flatMap (·.records)) =
      withKey key (log.part (log.route key)).records := by
  have elsewhere {indices : List Nat} (absent : log.route key ∉ indices) :
      indices.flatMap (fun index => withKey key (log.part index).records) = [] := by
    refine List.flatMap_eq_nil_iff.mpr fun index member => withKey_eq_nil_iff.mpr ?_
    rintro record held rfl
    exact absent ((tidy.routed index record held).symm ▸ member)
  have inside : log.route key ∈ List.range log.partitionCount :=
    List.mem_range.mpr (log.route_lt key)
  obtain ⟨before, after, split⟩ := List.append_of_mem inside
  have unique := List.nodup_range (n := log.partitionCount)
  rw [split, List.nodup_append] at unique
  obtain ⟨_, later, apart⟩ := unique
  calc withKey key (log.partitions.flatMap (·.records))
      = (List.range log.partitionCount).flatMap fun index =>
          withKey key (log.part index).records := by
        conv => lhs; rw [partitions_eq log, List.flatMap_map, withKey, List.filter_flatMap]
        rfl
    _ = withKey key (log.part (log.route key)).records := by
        rw [split, List.flatMap_append, List.flatMap_cons, elsewhere (List.nodup_cons.mp later).1,
          elsewhere fun member => apart _ member _ List.mem_cons_self rfl, List.nil_append,
          List.append_nil]

theorem Tidy.withKey_compact (tidy : log.Tidy) (key : Bytes) :
    withKey key (log.compact.2.partitions.flatMap (·.records)) =
      (withKey key (log.partitions.flatMap (·.records))).getLast?.toList := by
  have compacted : log.compact.2.Tidy := tidy.run .compact
  rw [compacted.withKey_retains, tidy.withKey_retains, route_compact, part_compact,
    Partition.compact_eq]
  exact Partition.withKey_retained ..

def answers (log : Log) : List Event → List Answer
  | [] => []
  | event :: rest => (event.run log).1 :: answers (event.run log).2 rest

def Answer.landsOn (index : Nat) : Answer → Bool
  | .appended (.ok position) => position.partition = index
  | .appended (.error _) | .dropped _ | .silent => false

theorem nextOffset_run (event : Event) (log : Log) (index : Nat) :
    ((event.run log).2.part index).nextOffset =
      (log.part index).nextOffset + if (event.run log).1.landsOn index then 1 else 0 := by
  cases event with
  | append key value =>
    cases available : log.unavailable with
    | none =>
      simp only [Event.run, append_of_available available, Answer.landsOn, Record.position]
      by_cases here : log.route key = index
      · subst here
        rw [part_push_self (log.route_lt key), nextRecord, if_pos (decide_eq_true rfl)]
      · have apart : (log.nextRecord key value).partition ≠ index :=
          fun same => here (Int.ofNat.inj same)
        rw [part_push_of_ne here, if_neg (by simpa using apart), Nat.add_zero]
    | some message =>
      simp only [Event.run, append_of_unavailable available]
      rfl
  | compact =>
    have same : (log.compact.2.part index).nextOffset = (log.part index).nextOffset := by
      rw [part_compact]
      rfl
    exact same
  | deleteRecords partition bound =>
    have same : ((log.deleteRecords partition bound).2.part index).nextOffset =
        (log.part index).nextOffset := by
      rw [part_deleteRecords]
      split <;> rfl
    exact same
  | setUnavailable message => rfl
  | setAvailable => rfl

theorem nextOffset_after (log : Log) (events : List Event) (index : Nat) :
    ((log.after events).part index).nextOffset =
      (log.part index).nextOffset + (log.answers events).countP (·.landsOn index) := by
  induction events generalizing log with
  | nil => rfl
  | cons event rest ih =>
    rw [answers, List.countP_cons, after, List.foldl_cons]
    have first := nextOffset_run event log index
    have later := ih (event.run log).2
    rw [after] at later
    omega

theorem partitionCount_run (event : Event) (log : Log) :
    (event.run log).2.partitionCount = log.partitionCount := by
  cases event with
  | append key value =>
    cases available : log.unavailable with
    | none =>
      simp only [Event.run, append_of_available available]
      exact partitionCount_push ..
    | some message => simp only [Event.run, append_of_unavailable available]
  | compact => exact partitionCount_compact log
  | deleteRecords partition bound => exact (deleteRecords_frame log partition bound).2.2
  | setUnavailable message => rfl
  | setAvailable => rfl

theorem partitionCount_after (log : Log) (events : List Event) :
    (log.after events).partitionCount = log.partitionCount := by
  induction events generalizing log with
  | nil => rfl
  | cons event rest ih => exact (ih (event.run log).2).trans (partitionCount_run event log)

theorem offsets_of_available {log : Log} (available : log.unavailable = none) :
    log.endOffsets = .ok (log.offsets fun p => p.nextOffset) ∧
      log.earliestOffsets = .ok (log.offsets Partition.earliest) := by
  unfold endOffsets earliestOffsets checkAvailable
  rw [available]
  exact ⟨rfl, rfl⟩

theorem get?_offsets_of_lt (log : Log) (f : Partition → Int) {index : Nat}
    (inside : index < log.partitionCount) :
    (log.offsets f).get? index = some (f (log.part index)) := by
  have found : log.partitions[index]? = some log.partitions[index] :=
    List.getElem?_eq_getElem inside
  rw [get?_offsets, partition?, if_neg (by omega), Int.toNat_natCast, part, found]
  rfl

theorem append_fails_iff (log : Log) (key : Bytes) (value : Option Bytes) :
    let tried := (Event.append key value).run log
    ((∃ error, tried.1 = .appended (.error error)) ↔ log.unavailable ≠ none) ∧
      ((∃ error, tried.1 = .appended (.error error)) → tried.2 = log) := by
  intro tried
  cases available : log.unavailable with
  | none =>
    have succeeded : tried = (.appended (.ok (log.nextRecord key value).position),
        log.push (log.nextRecord key value) (log.route key)) := by
      simp only [tried, Event.run, append_of_available available]
    rw [succeeded]
    simp
  | some message =>
    have failed : tried = (.appended (.error (.io log.topic message)), log) := by
      simp only [tried, Event.run, append_of_unavailable available]
    rw [failed]
    simp

/-- What a log holds, whatever was done to it. In every partition there are records of its own, in
the order of their offsets, the last of them just below the next offset, which counts the appends
that went there. The first offset lies below the end unless nothing is retained. Compaction leaves
the last record of each key and no other, so that another one drops nothing, and it may as well
come after a deletion as before it. A deletion takes the records of its partition that lie below
its bound, no other record and no offset. An append that fails leaves the log as it was. -/
theorem contents_accounted_for (topic : String) (partitions : Nat) (events : List Event) :
    let first := create topic partitions
    let log := first.after events
    log.partitionCount = max partitions 1 ∧
      (∀ index : Nat,
        let p := log.part index
        (∀ record ∈ p.records, record.partition = index ∧ log.route record.key = index ∧
          0 ≤ record.offset ∧ record.offset < p.nextOffset) ∧
        p.records.Pairwise (·.offset < ·.offset) ∧
        (∀ record, p.records.getLast? = some record → record.offset + 1 = p.nextOffset) ∧
        p.nextOffset = (first.answers events).countP (·.landsOn index) ∧
        log.compact.2.part index = ⟨p.records.filter fun record => ∀ other ∈ p.records,
          other.key = record.key → other.offset ≤ record.offset, p.nextOffset⟩) ∧
      (log.unavailable = none → ∃ ends starts, log.endOffsets = .ok ends ∧
        log.earliestOffsets = .ok starts ∧ ∀ index < log.partitionCount,
          ∃ start stop, starts.get? index = some start ∧ ends.get? index = some stop ∧
            stop = (log.part index).nextOffset ∧ start ≤ stop ∧
            (start = stop ↔ (log.part index).records = [])) ∧
      (log.compact.1 + log.compact.2.size = log.size ∧
        log.compact.2.compact = (0, log.compact.2)) ∧
      (∀ partition bound,
        let compacted := log.compact.2.deleteRecords partition bound
        let deleted := log.deleteRecords partition bound
        compacted.2 = deleted.2.compact.2 ∧
          log.compact.1 + compacted.1 = deleted.1 + deleted.2.compact.1 ∧
          deleted.1 + deleted.2.size = log.size ∧
          ∀ index : Nat, let p := log.part index
            deleted.2.part index =
              if partition = index then
                ⟨p.records.filter fun record => bound ≤ record.offset, p.nextOffset⟩
              else p) ∧
      ∀ key value,
        let tried := (Event.append key value).run log
        ((∃ error, tried.1 = .appended (.error error)) ↔ log.unavailable ≠ none) ∧
          ((∃ error, tried.1 = .appended (.error error)) → tried.2 = log) := by
  intro first log
  have tidy : log.Tidy := (Tidy.create topic partitions).after events
  refine ⟨?_, fun index => ⟨fun record member => ?_, (tidy.tidy index).sorted,
    fun record last => (tidy.tidy index).last last, ?_, ?_⟩, fun available => ?_,
    ⟨dropped_compact log, compact_compact log⟩, fun partition bound => ?_, append_fails_iff log⟩
  · exact (partitionCount_after first events).trans List.length_replicate
  · exact ⟨tidy.placed index record member, tidy.routed index record member,
      (tidy.tidy index).range record member⟩
  · have counted := nextOffset_after first events index
    rw [part_create, Partition.empty, Nat.zero_add] at counted
    exact counted
  · rw [part_compact, Partition.compact_eq, Partition.retained_eq_filter (tidy.tidy index).sorted]
  · obtain ⟨ends, starts⟩ := offsets_of_available available
    refine ⟨_, _, ends, starts, fun index inside => ⟨_, _, get?_offsets_of_lt log _ inside,
      get?_offsets_of_lt log _ inside, rfl, (tidy.tidy index).earliest_le,
      (tidy.tidy index).earliest_eq_iff⟩⟩
  · exact ⟨tidy.compact_deleteRecords partition bound, tidy.dropped_comm partition bound,
      dropped_deleteRecords log partition bound, part_deleteRecords log partition bound⟩

example :
    let log := (create "roads" 1).after [.append [1] none, .append [2] none, .append [1] (some [7]),
      .append [2] (some [8]), .append [3] none, .compact, .deleteRecords 0 3]
    (log.part 0).records.map (·.offset) = [3, 4] ∧ (log.part 0).nextOffset = 5 := by
  decide +kernel

end Log

end RoadRegistry
