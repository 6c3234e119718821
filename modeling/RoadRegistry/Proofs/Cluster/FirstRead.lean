import RoadRegistry.Proofs.Cluster.Stopping
import RoadRegistry.Proofs.Replica.Muting
import RoadRegistry.Proofs.Replica.Replay

namespace RoadRegistry

namespace Reader

theorem batch_open {log : Log} (tidy : log.Tidy) :
    (⟨log.partitions.map fun _ => 0⟩ : Reader).batch log = log.partitions.flatMap (·.records) := by
  refine (collect_eq_filter (fun _ => true) fun index record held => ?_).trans
    (List.filter_true _)
  have above := ((tidy.tidy index).range record held).1
  have start := position_open log index
  simp only [position] at start
  simp only [start, above]

end Reader

namespace Replay

variable {f : Following V O E} {log : Log}

theorem caughtUp_start_iff (tidy : log.Tidy) (available : log.unavailable = none)
    (observers : List O) (shared : E) :
    (start log observers shared : Replay V O E).caughtUp = true ↔
      log.partitions.flatMap (·.records) = [] := by
  obtain ⟨target, targets, sound, running, _, none_yet, _⟩ :=
    start_sound tidy available observers shared
  rw [(sound.running running).caughtUp_iff, none_yet]
  constructor
  · intro all
    rw [List.eq_nil_iff_forall_not_mem]
    intro record member
    obtain ⟨index, held⟩ := Log.mem_held.mp member
    have listed := (targets.contains_iff index).mpr ⟨index, rfl, List.ne_nil_of_mem held⟩
    obtain ⟨_, delivered, _⟩ := all index (Dictionary.mem_keys_iff.mpr listed)
    cases delivered
  · intro nothing partition listed
    obtain ⟨index, rfl, held⟩ :=
      (targets.contains_iff partition).mp (Dictionary.mem_keys_iff.mp listed)
    obtain ⟨record, there⟩ := List.exists_mem_of_ne_nil _ held
    have member : record ∈ log.partitions.flatMap (·.records) := Log.mem_held.mpr ⟨index, there⟩
    rw [nothing] at member
    cases member

theorem caughtUp_first_poll (tidy : log.Tidy) (available : log.unavailable = none)
    (observers : List O) (shared : E) (retained : log.partitions.flatMap (·.records) ≠ []) :
    let t := (start log observers shared : Replay V O E).step f .poll
    t.caughtUp = t.isRunning := by
  intro t
  obtain ⟨target, targets, sound, _, same_log, _, unread⟩ :=
    start_sound tidy available observers shared
  cases goes_on : t.isRunning with
  | true =>
    rw [((sound.poll targets).running goes_on).caughtUp_iff]
    intro partition listed
    obtain ⟨index, rfl, held⟩ :=
      (targets.contains_iff partition).mp (Dictionary.mem_keys_iff.mp listed)
    exact mem_first_poll tidy same_log unread (List.forall_mem_nil _) held goes_on
  | false =>
    obtain ⟨_, _, ⟨_, same_flag, _⟩ | ⟨_, _, _, r, _, running, finished⟩⟩ :=
      poll_cases f (start log observers shared : Replay V O E)
    · rw [same_flag, ← Bool.not_eq_true, caughtUp_start_iff tidy available observers shared]
      exact retained
    · obtain ⟨caughtUp, same⟩ := r.endOfBatch_eq
        ((start log observers shared : Replay V O E).reader.batch _).isEmpty
      have still : t.replica.progress.stopped = false := by
        rw [finished, same]
        exact running
      rw [isRunning, still] at goes_on
      cases goes_on

theorem endOfBatch_first (tidy : log.Tidy) (available : log.unavailable = none)
    (observers : List O) (shared : E) (retained : log.partitions.flatMap (·.records) ≠ []) :
    let s : Replay V O E := start log observers shared
    let state :=
      (log.partitions.flatMap (·.records)).foldl (Replica.consume f) (s.replica, s.shared)
    state.1.endOfBatch false = { state.1 with
      progress := { state.1.progress with caughtUp := !state.1.progress.stopped } } := by
  intro s state
  obtain ⟨_, _, _, running, same_log, _⟩ := start_sound tidy available observers shared
  have read : s.reader.batch s.log = log.partitions.flatMap (·.records) := by
    simp only [s, start, Cluster.openLog_of_available available]
    exact Reader.batch_open tidy
  have left : (s.step f .poll).replica = state.1.endOfBatch false := by
    rw [step_poll_of_available (by rw [same_log]; exact available) (isRunning_iff.mp running), read,
      List.isEmpty_eq_false_iff.mpr retained]
  have completed : (s.step f .poll).caughtUp = (s.step f .poll).isRunning :=
    caughtUp_first_poll tidy available observers shared retained
  obtain ⟨done, finished⟩ := state.1.endOfBatch_eq false
  rw [caughtUp, isRunning, left, finished] at completed
  rw [finished]
  exact congrArg (fun flag => { state.1 with
    progress := { state.1.progress with caughtUp := flag } }) completed

end Replay

namespace Cluster

section Gated

variable {f : Following V (Gated O) E} {inner : Notify V O E}

theorem follow_gated (gated : f.notify = Gated.notify inner) (log : Log)
    {node : Node V (Gated O)} (muted : node.replica.Muted) (shared : E) :
    follow f log node shared = follow (.muting f.codec f.now) log node shared := by
  unfold follow
  simp only [Replica.receive_gated gated muted]

theorem followAll_gated (gated : f.notify = Gated.notify inner) (log : Log)
    {nodes : List (Node V (Gated O))} (muted : ∀ node ∈ nodes, node.replica.Muted) (shared : E) :
    followAll f log nodes shared = followAll (.muting f.codec f.now) log nodes shared := by
  induction nodes generalizing shared with
  | nil => rfl
  | cons node rest ih =>
    obtain ⟨first, others⟩ := List.forall_mem_cons.mp muted
    simp only [followAll, follow_gated gated log first, ih others]

theorem start_gated (gated : f.notify = Gated.notify inner) {c : Cluster V (Gated O) E}
    (muted : ∀ node ∈ c.nodes, node.replica.Muted) (name : String)
    (observers : List (Gated O)) (silent : ∀ o ∈ observers, o.gate.muted = true)
    (plan : StartPlan) :
    c.start f name observers plan = c.start (.muting f.codec f.now) name observers plan := by
  have settled {node : Node V (Gated O)} (same : node.replica.observers = observers) :
      settle f (c.setNode node) = settle (.muting f.codec f.now) (c.setNode node) := by
    have all_muted := forall_setNode muted
      (show node.replica.Muted from fun o member => silent o (same ▸ member))
    simp only [settle, followAll_gated gated _ all_muted]
  unfold start
  cases openLog c.log plan with
  | error error => exact settled rfl
  | ok opened =>
    obtain ⟨target, caughtUp, begun⟩ :=
      ({ topic := c.log.topic, observers } : Replica V (Gated O)).begin_eq opened.2.1 opened.2.2
    exact settled (congrArg Replica.observers begun)

end Gated

theorem start_alone (f : Following V O E) {log : Log} (available : log.unavailable = none)
    (name : String) (observers : List O) (shared : E) :
    let s : Replay V O E := Replay.start log observers shared
    let first := follow f log ⟨name, false, s.reader, s.replica⟩ s.shared
    ({ rehearsal := { log }, shared } : Cluster V O E).start f name observers {} =
      { rehearsal := { log }, nodes := [first.1], shared := first.2 } := by
  have same_log : ({ rehearsal := { log }, shared } : Cluster V O E).log = log := rfl
  simp only [start, Replay.start, same_log, openLog_of_available available]
  rfl

/-- The first store on a log that is there has read all of it, and has caught up exactly if it goes
on tailing. -/
theorem start_first (f : Following V O E) {log : Log} (tidy : log.Tidy)
    (available : log.unavailable = none) (name : String) (observers : List O) (shared : E) :
    ∃ target caughtUp reader,
      let begun : Replica V O := { topic := log.topic, observers, progress := { target, caughtUp } }
      let state := (log.partitions.flatMap (·.records)).foldl (Replica.consume f) (begun, shared)
      ({ rehearsal := { log }, shared } : Cluster V O E).start f name observers {} = {
        rehearsal := { log }
        nodes := [⟨name, false, reader, { state.1 with
          progress := { state.1.progress with caughtUp := !state.1.progress.stopped } }⟩]
        shared := state.2 } := by
  obtain ⟨target, caughtUp, begins⟩ := ({ topic := log.topic, observers } : Replica V O).begin_eq
    (log.offsets fun p => p.nextOffset) (log.offsets Partition.earliest)
  let begun : Replica V O := { topic := log.topic, observers, progress := { target, caughtUp } }
  let reader : Reader := ⟨log.partitions.map fun _ => 0⟩
  have started : Replay.start log observers shared =
      ({ log, reader, replica := begun, shared } : Replay V O E) := by
    simp only [Replay.start, openLog_of_available available, begins]
    rfl
  have alone := start_alone f available name observers shared
  have flag := Replay.caughtUp_start_iff (V := V) tidy available observers shared
  have ended := Replay.endOfBatch_first (f := f) tidy available observers shared
  have polled := Reader.poll_of_available available reader
  rw [started] at alone flag ended
  rw [Reader.batch_open tidy] at polled
  cases retained : log.partitions.flatMap (·.records) with
  | nil =>
    have unread : follow f log ⟨name, false, reader, begun⟩ shared =
        (⟨name, false, reader, begun⟩, shared) := by
      rw [retained] at polled
      simp only [follow, polled]
      rfl
    have completed : caughtUp = true := flag.mpr retained
    refine ⟨target, caughtUp, reader, alone.trans ?_⟩
    simp only [unread]
    simp only [begun, completed]
    rfl
  | cons first rest =>
    rw [retained] at polled ended
    let state := (first :: rest).foldl (Replica.consume f) (begun, shared)
    have followed : follow f log ⟨name, false, reader, begun⟩ shared =
        (⟨name, false, reader.next log, state.1.endOfBatch false⟩, state.2) := by
      simp only [follow, polled]
      rfl
    refine ⟨target, caughtUp, reader.next log, alone.trans ?_⟩
    simp only [followed]
    rw [ended (List.cons_ne_nil first rest)]

end Cluster

end RoadRegistry
