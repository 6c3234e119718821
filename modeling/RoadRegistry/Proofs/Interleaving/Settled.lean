import RoadRegistry.Proofs.Interleaving.Answers

namespace RoadRegistry

theorem Progress.mem_pending_of_sync {progress : Progress} {positions : List Position}
    {position : Position} (looked : progress.sync positions = .pending position) :
    position ∈ progress.pending positions := by
  have unfailed := unfailed_of_sync_pending looked
  have running := sync_pending looked
  simp only [sync, unfailed, running, Bool.false_eq_true, ite_false] at looked
  split at looked
  · next partition offset found =>
    cases looked
    have ahead := List.find?_some found
    exact List.mem_map.mpr
      ⟨(partition, offset), List.mem_filter.mpr ⟨List.mem_of_find?_eq_some found, ahead⟩, rfl⟩
  · cases looked

namespace Writing

variable {f : Following V O E} {records : Replica V O → List Cluster.Item} {s : Writing V O E}

theorem turns_of_answered {outcome : Except StoreError Unit}
    (answered : s.stage = .answered outcome) (count : Nat) :
    s.run f records (List.replicate count (.turn none)) = s := by
  induction count with
  | zero => rfl
  | succ count ih =>
    have stays : s.step f records (.turn none) = s := by simp only [step, turn, answered]
    rw [List.replicate_succ, run_cons, stays, ih]

theorem exists_turn_of_waiting (records : Replica V O → List Cluster.Item)
    {positions : List Position} (waiting : s.stage = .waiting positions) : ∃ late,
    s.turn records late = s.answer (s.tailer.replica.progress.sync positions).answer := by
  simp only [turn, waiting]
  cases looked : s.tailer.replica.progress.sync positions with
  | done | failed error => exact ⟨none, rfl⟩
  | pending position =>
    have first := Progress.mem_pending_of_sync looked
    refine ⟨some position, ?_⟩
    simp only [Option.filter_some, first, decide_true, ite_true]
    rfl

theorem turns_of_appending {rest : List Cluster.Item} {positions : List Position}
    (stage : s.stage = .appending rest positions) :
    let t := s.run f records (List.replicate (rest.length + 1) (.turn none))
    t.rehearsal = (Cluster.appendAll rest s.rehearsal).2 ∧ t.tailer = s.tailer ∧
      t.stage = match (Cluster.appendAll rest s.rehearsal).1 with
        | .ok more => .waiting (positions ++ more)
        | .error error => .answered (.error error) := by
  induction rest generalizing s positions with
  | nil =>
    simp only [run, List.length_nil, List.replicate_succ, List.replicate_zero, List.foldl_cons,
      List.foldl_nil, step, turn, stage, Cluster.appendAll, List.append_nil, and_self]
  | cons item rest ih =>
    rw [List.length_cons, List.replicate_succ]
    simp only [run_cons]
    cases item with
    | error error =>
      have answered : s.step f records (.turn none) = s.answer (.error error) := by
        simp only [step, turn, stage]
      -- The turns that are left find a writer that was answered.
      rw [answered, turns_of_answered rfl]
      exact ⟨rfl, rfl, rfl⟩
    | ok entry =>
      obtain ⟨key, value⟩ := entry
      cases appended : s.rehearsal.append key value with
      | error error =>
        have answered : s.step f records (.turn none) = s.answer (.error error) := by
          simp only [step, turn, stage, appended]
        rw [answered, turns_of_answered rfl]
        simp only [Cluster.appendAll, appended]
        exact ⟨rfl, rfl, rfl⟩
      | ok next =>
        obtain ⟨position, rehearsal⟩ := next
        let next : Writing V O E := { s.act rehearsal (.own (s.log.nextRecord key value)) with
          stage := .appending rest (positions ++ [position]) }
        have onward : s.step f records (.turn none) = next := by
          simp only [step, turn, stage, appended, next]
        obtain ⟨left, same, reached⟩ := ih (s := next) rfl
        rw [show next.rehearsal = rehearsal from rfl] at left reached
        rw [onward]
        refine ⟨?_, same, ?_⟩
        · rw [left]
          simp only [Cluster.appendAll, appended]
        · rw [reached]
          simp only [Cluster.appendAll, appended]
          cases (Cluster.appendAll rest rehearsal).1 with
          | error error => rfl
          | ok more => exact congrArg Stage.waiting (List.append_cons ..).symm

theorem exists_run_follow (f : Following V O E) (records : Replica V O → List Cluster.Item)
    {node : Node V O} (tailer : s.tailer = { reader := node.reader, replica := node.replica })
    (shared : E) :
    ∃ moves, let t := s.run f records moves
      let next := (Cluster.follow f s.log node shared).1
      t.rehearsal = s.rehearsal ∧ t.stage = s.stage ∧ t.tailer.reader = next.reader ∧
        t.tailer.replica = next.replica := by
  rcases Cluster.follow_cases f s.log node shared with ⟨same, _⟩ | ⟨_, running, polled⟩
  · refine ⟨[], rfl, rfl, ?_, ?_⟩ <;> rw [same, run, List.foldl_nil, tailer]
  · rw [polled]
    let before : Writing V O E := { s with shared }
    let t : Tailer V O := { reader := node.reader, replica := node.replica }
    have poll_eq : (before.step f records .poll).tailer = t.poll s.log :=
      congrArg (Tailer.poll s.log) tailer
    cases given : node.reader.poll s.log with
    | error error =>
      refine ⟨[.surroundings fun _ => shared, .poll], rfl, rfl, ?_⟩
      have failed : t.poll s.log = { t with replica := node.replica.finish (some error) } := by
        simp only [t, Tailer.poll, running, given, Option.isSome_none, Bool.or_self,
          Bool.false_eq_true, ite_false]
      have left : s.run f records [.surroundings fun _ => shared, .poll] =
        before.step f records .poll := rfl
      rw [left, poll_eq, failed]
      simp only [t, Replica.poll, given, Replica.receive, running, Bool.false_eq_true, ite_false,
        and_self]
    | ok batch =>
      refine ⟨.surroundings (fun _ => shared) :: .poll ::
        List.replicate (batch.1.length + 1) .consume, ?_⟩
      have left (count : Nat) : s.run f records (.surroundings (fun _ => shared) :: .poll ::
          List.replicate count .consume) =
        (before.step f records .poll).run f records (List.replicate count .consume) := rfl
      obtain ⟨rehearsal, stage, _, drained⟩ := run_consumes f records (before.step f records .poll)
        (batch.1.length + 1)
      rw [poll_eq] at drained
      have same := drained.trans (congrArg Prod.fst (Tailer.drain_poll (t := t) running rfl given))
      rw [left]
      exact ⟨rehearsal, stage, congrArg Tailer.reader same, congrArg Tailer.replica same⟩

theorem exists_run_appendAll (f : Following V O E) {c : Cluster V O E} {node : Node V O}
    (door : node.replica.ensureOpen = .ok ()) (records : Replica V O → List Cluster.Item) :
    ∃ moves, let s := (begin c node).run f records moves
      let appended := Cluster.appendAll (records node.replica) c.rehearsal
      s.rehearsal = appended.2 ∧
        s.tailer = { reader := node.reader, replica := node.replica } ∧
        s.stage = match appended.1 with
          | .ok positions => .waiting positions
          | .error error => .answered (.error error) := by
  have listed : (begin c node).run f records [.turn none, .turn none] =
      { begin c node with
        stage := .appending (records node.replica) []
        items := records node.replica } := by
    simp only [run, List.foldl_cons, List.foldl_nil, step, turn, begin, door]
  refine ⟨[.turn none, .turn none] ++
    List.replicate ((records node.replica).length + 1) (.turn none), ?_⟩
  rw [run_append, listed]
  exact turns_of_appending (s := { begin c node with
    stage := .appending (records node.replica) []
    items := records node.replica }) rfl

/-- A write on a cluster is a call on its store, and leaves the log and the store as the call. -/
theorem exists_run_write (f : Following V O E) {c : Cluster V O E} {name : String}
    {node : Node V O} (found : c.node? name = some node)
    (records : Replica V O → List Cluster.Item) :
    ∃ moves final, let s := (begin c node).run f records moves
      let written := c.write f name records
      s.stage = .answered written.1 ∧ s.rehearsal = written.2.rehearsal ∧
        written.2.node? name = some final ∧ s.tailer.reader = final.reader ∧
        s.tailer.replica = final.replica := by
  cases door : node.replica.ensureOpen with
  | error error =>
    refine ⟨[.turn none], node, ?_⟩
    simp only [run, List.foldl_cons, List.foldl_nil, step, turn, begin, Cluster.write, found, door]
    exact ⟨rfl, rfl, trivial, rfl, rfl⟩
  | ok _ =>
    rw [Cluster.write_of_open found door]
    let appended := Cluster.appendAll (records node.replica) c.rehearsal
    obtain ⟨before, there⟩ :=
      Cluster.node?_settle (c := { c with rehearsal := appended.2 }) f found
    obtain ⟨appending, rehearsal, tailer, stage⟩ := exists_run_appendAll f door records
    obtain ⟨settling, same, still, reader, replica⟩ := exists_run_follow f records tailer before
    rw [← run_append] at same still reader replica
    have log_eq : ((begin c node).run f records appending).log = appended.2.log :=
      congrArg Rehearsal.log rehearsal
    rw [log_eq] at reader replica
    cases outcome : appended.1 with
    | error error =>
      refine ⟨appending ++ settling, _, ?_, same.trans rehearsal, there, reader, replica⟩
      rw [still, stage, outcome]
      rfl
    | ok positions =>
      have waiting : ((begin c node).run f records (appending ++ settling)).stage =
          .waiting positions := by
        rw [still, stage, outcome]
      obtain ⟨late, told⟩ := exists_turn_of_waiting records waiting
      have answered : (begin c node).run f records (appending ++ settling ++ [.turn late]) = _ :=
        (run_append ..).trans told
      refine ⟨appending ++ settling ++ [.turn late], _, ?_, ?_, there, ?_, ?_⟩
      · rw [answered, replica]
        exact congrArg Stage.answered (Cluster.sync_of_found there positions).symm
      · rw [answered]
        exact same.trans rehearsal
      · rw [answered]
        exact reader
      · rw [answered]
        exact replica

end Writing

end RoadRegistry
