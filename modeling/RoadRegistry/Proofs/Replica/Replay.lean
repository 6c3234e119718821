import RoadRegistry.Proofs.Replica.Tailing

namespace RoadRegistry

structure Replay (V O E : Type) where
  log : Log
  reader : Reader
  replica : Replica V O
  shared : E
  delivered : List Record := []

namespace Replay

inductive Event where
  | log (event : Log.Event)
  | poll

def start (log : Log) (observers : List O) (shared : E) : Replay V O E :=
  let replica : Replica V O := { topic := log.topic, observers }
  match Cluster.openLog log {} with
  | .ok (reader, ends, earliest) =>
    { log, reader, replica := replica.begin ends earliest, shared }
  | .error error => { log, reader := ⟨[]⟩, replica := replica.finish (some error), shared }

def step (f : Following V O E) (s : Replay V O E) : Event → Replay V O E
  | .log event => { s with log := (event.run s.log).2 }
  | .poll =>
    let (reader, replica, shared) := Replica.poll f s.log s.reader (s.replica, s.shared)
    let delivered := if replica.progress.stopped then [] else s.reader.batch s.log
    { s with reader, replica, shared, delivered := s.delivered ++ delivered }

def run (f : Following V O E) (s : Replay V O E) (events : List Event) : Replay V O E :=
  events.foldl (step f) s

def isRunning (s : Replay V O E) : Bool := !s.replica.progress.stopped

def caughtUp (s : Replay V O E) : Bool := s.replica.progress.caughtUp

/-- Of the records that the original log had, those that are left have been delivered. -/
def Covered (origin : Log) (s : Replay V O E) : Prop :=
  ∀ index, ∀ record ∈ (s.log.part index).records,
    record.offset < (origin.part index).nextOffset → record ∈ s.delivered

def Targets (origin : Log) (target : Dictionary Int Int) : Prop :=
  ∀ partition stop, target.get? partition = some stop ↔ ∃ index : Nat, partition = index ∧
    (origin.part index).records ≠ [] ∧ stop = (origin.part index).nextOffset

structure Running (origin : Log) (target : Dictionary Int Int) (s : Replay V O E) : Prop where
  delivered : ∀ partition, s.replica.progress.consumed.contains partition = true ↔
    ∃ record ∈ s.delivered, record.partition = partition
  due : s.replica.progress.Due target
  flag : s.caughtUp = true ↔ s.replica.progress.AllDelivered target
  replayed : (∀ index, s.reader.position index = 0) ∨ s.Covered origin

/-- What holds of a replay at any time, be it over, failed or under way. -/
structure Sound (origin : Log) (target : Dictionary Int Int) (s : Replay V O E) : Prop where
  tidy : s.log.Tidy
  before : origin.Before s.log
  targeted : s.replica.progress.target = some target
  covered : s.caughtUp = true → s.Covered origin
  running : s.isRunning = true → s.Running origin target

variable {f : Following V O E} {origin : Log} {target : Dictionary Int Int} {s : Replay V O E}

theorem Covered.run (covered : s.Covered origin) (before : origin.Before s.log)
    (event : Log.Event) : (s.step f (.log event)).Covered origin := by
  intro index record member below
  rcases (Log.Before.run s.log event).records index record member with there | above
  · exact covered index record there below
  · have grown := before.next index
    omega

theorem Sound.log (sound : s.Sound origin target) (event : Log.Event) :
    (s.step f (.log event)).Sound origin target where
  tidy := sound.tidy.run event
  before := sound.before.trans (.run s.log event)
  targeted := sound.targeted
  covered caughtUp := (sound.covered caughtUp).run sound.before event
  running goes_on := by
    obtain ⟨delivered, due, flag, replayed⟩ := sound.running goes_on
    refine ⟨delivered, due, flag, ?_⟩
    rcases replayed with unread | covered
    · exact .inl unread
    · exact .inr (covered.run sound.before event)

theorem newest_mem_batch {log : Log} (tidy : log.Tidy) {reader : Reader} {record : Record}
    {index : Nat} (given : record ∈ reader.batch log) (placed : record.partition = index) :
    ∃ newest ∈ reader.batch log, newest.partition = index ∧
      newest.offset + 1 = (log.part index).nextOffset := by
  obtain ⟨here, held, unread⟩ := Reader.mem_batch.mp given
  have same : here = index := by
    have := tidy.placed here record held
    omega
  subst same
  obtain ⟨newest, there, last⟩ := (tidy.tidy here).newest (List.ne_nil_of_mem held)
  have below := ((tidy.tidy here).range record held).2
  exact ⟨newest, Reader.mem_batch.mpr ⟨here, there, by omega⟩, tidy.placed here newest there, last⟩

theorem due_past (targets : Targets origin target) (tidy : s.log.Tidy)
    (before : origin.Before s.log) {progress : Progress} (due : progress.Due target) :
    (progress.past (s.reader.batch s.log)).Due target where
  positive := due.positive
  ended partition stop entry delivered := by
    obtain ⟨index, rfl, _, rfl⟩ := (targets partition stop).mp entry
    by_cases given : ∃ record ∈ s.reader.batch s.log, record.partition = index
    · obtain ⟨record, member, placed⟩ := given
      obtain ⟨newest, there, here, last⟩ := newest_mem_batch tidy member placed
      have ordered := Reader.batch_ordered (fun index => (tidy.tidy index).sorted) tidy.placed
        s.reader
      have passed : newest.offset <
          (progress.past (s.reader.batch s.log)).watermark newest.partition :=
        Progress.lt_watermark_past ordered there
      rw [here] at passed
      have grown := before.next index
      omega
    · rw [Progress.watermark_past_of_absent fun record member same => given ⟨record, member, same⟩]
      rw [Progress.contains_past] at delivered
      exact due.ended _ _ entry (delivered.resolve_right given)

theorem step_poll_of_stopped (ended : s.replica.progress.stopped = true) :
    (s.step f .poll).log = s.log ∧ (s.step f .poll).replica = s.replica ∧
      (s.step f .poll).delivered = s.delivered := by
  have unheard (polled : Except StoreError (List Record)) :
      Replica.receive f (s.replica, s.shared) polled = (s.replica, s.shared) := by
    simp only [Replica.receive, ended, ite_true]
  have same : (Replica.poll f s.log s.reader (s.replica, s.shared)).2.1 = s.replica := by
    unfold Replica.poll
    cases s.reader.poll s.log <;> exact congrArg Prod.fst (unheard _)
  refine ⟨rfl, same, ?_⟩
  simp only [step, same, ended, ite_true, List.append_nil]

theorem step_poll_of_unavailable {message : String} (lost : s.log.unavailable = some message)
    (running : s.replica.progress.stopped = false) :
    ∃ error, s.step f .poll = { s with replica := s.replica.finish (some error) } := by
  have failed := Reader.poll_of_unavailable lost s.reader
  refine ⟨.io s.log.topic message, ?_⟩
  have ended : (s.replica.finish (some (.io s.log.topic message))).progress.stopped = true := rfl
  simp only [step, Replica.poll, failed, Replica.receive, running, Bool.false_eq_true, ite_false,
    ended, ite_true, List.append_nil]

theorem step_poll_of_available (available : s.log.unavailable = none)
    (running : s.replica.progress.stopped = false) :
    let batch := s.reader.batch s.log
    let state := batch.foldl (Replica.consume f) (s.replica, s.shared)
    s.step f .poll = { s with
      reader := s.reader.next s.log
      replica := state.1.endOfBatch batch.isEmpty
      shared := state.2
      delivered := s.delivered ++ if state.1.progress.stopped then [] else batch } := by
  intro batch state
  have polled := Reader.poll_of_available available s.reader
  obtain ⟨caughtUp, finished⟩ := state.1.endOfBatch_eq batch.isEmpty
  have stopped : state.1.progress.stopped =
      (state.1.endOfBatch batch.isEmpty).progress.stopped := by rw [finished]
  rw [stopped]
  simp only [step, Replica.poll, polled, Replica.receive, running, Bool.false_eq_true, ite_false]
  rfl

/-- A poll either leaves a store that no longer tails, with its flag as it was, or is completed: the
progress moves past the whole batch, at whose end the flag is set. -/
theorem poll_cases (f : Following V O E) (s : Replay V O E) :
    let t := s.step f .poll
    t.log = s.log ∧ t.replica.progress.target = s.replica.progress.target ∧
      ((t.isRunning = false ∧ t.caughtUp = s.caughtUp ∧ t.delivered = s.delivered) ∨
        (s.isRunning = true ∧ t.delivered = s.delivered ++ s.reader.batch s.log ∧
          t.reader = s.reader.next s.log ∧
          ∃ r : Replica V O, r.progress = s.replica.progress.past (s.reader.batch s.log) ∧
            r.progress.stopped = false ∧
              t.replica = r.endOfBatch (s.reader.batch s.log).isEmpty)) := by
  intro t
  cases ended : s.replica.progress.stopped with
  | true =>
    obtain ⟨same_log, same_replica, same_delivered⟩ := step_poll_of_stopped (f := f) ended
    refine ⟨same_log, congrArg (·.progress.target) same_replica, .inl ⟨?_, ?_, same_delivered⟩⟩
    · rw [isRunning, same_replica, ended, Bool.not_true]
    · exact congrArg (·.progress.caughtUp) same_replica
  | false =>
    cases available : s.log.unavailable with
    | some message =>
      obtain ⟨error, failed⟩ := step_poll_of_unavailable (f := f) available ended
      have same : t = { s with replica := s.replica.finish (some error) } := failed
      rw [same]
      exact ⟨rfl, rfl, .inl ⟨rfl, rfl, rfl⟩⟩
    | none =>
      let batch := s.reader.batch s.log
      let state := batch.foldl (Replica.consume f) (s.replica, s.shared)
      have received : t = _ := step_poll_of_available (f := f) available ended
      obtain ⟨same_target, same_flag⟩ := Replica.foldl_consume_replay f batch (s.replica, s.shared)
      obtain ⟨caughtUp, finished⟩ := state.1.endOfBatch_eq batch.isEmpty
      have target : (state.1.endOfBatch batch.isEmpty).progress.target =
          state.1.progress.target := by rw [finished]
      rw [received]
      refine ⟨rfl, target.trans same_target, ?_⟩
      cases halted : state.1.progress.stopped with
      | true =>
        have left : state.1.endOfBatch batch.isEmpty = state.1 := by
          simp only [Replica.endOfBatch, halted, ite_true]
        refine .inl ⟨?_, ?_, ?_⟩
        · have stopped := (congrArg (·.progress.stopped) left).trans halted
          exact congrArg Bool.not stopped
        · exact (congrArg (·.progress.caughtUp) left).trans same_flag
        · exact List.append_nil _
      | false =>
        refine .inr ⟨?_, ?_, rfl, state.1, Replica.foldl_consume_progress batch halted, halted, rfl⟩
        · rw [isRunning, ended, Bool.not_false]
        · rfl

theorem Running.covered (going : s.Running origin target) (tidy : s.log.Tidy)
    {t : Replay V O E} (same_log : t.log = s.log)
    (more : t.delivered = s.delivered ++ s.reader.batch s.log) : t.Covered origin := by
  intro index record member below
  rw [same_log] at member
  rw [more, List.mem_append]
  rcases going.replayed with unread | covered
  · have range := (tidy.tidy index).range record member
    have start := unread index
    exact .inr (Reader.mem_batch.mpr ⟨index, member, by omega⟩)
  · exact .inl (covered index record member below)

theorem Sound.completed (targets : Targets origin target) (sound : s.Sound origin target)
    (going : s.Running origin target) {t : Replay V O E} {r : Replica V O} {idle : Bool}
    (covered : t.Covered origin) (more : t.delivered = s.delivered ++ s.reader.batch s.log)
    (passed : r.progress = s.replica.progress.past (s.reader.batch s.log))
    (running : r.progress.stopped = false) (finished : t.replica = r.endOfBatch idle) :
    t.Running origin target := by
  obtain ⟨same, kept⟩ := Progress.past_replay s.replica.progress (s.reader.batch s.log)
  have still_due : r.progress.Due target := by
    rw [passed]
    exact due_past targets sound.tidy sound.before going.due
  have still_targeted : r.progress.target = some target := by rw [passed, same, sound.targeted]
  have flag := Replica.endOfBatch_caughtUp running still_due still_targeted idle
  have known (partition : Int) : r.progress.consumed.contains partition = true ↔
      s.replica.progress.consumed.contains partition = true ∨
        ∃ record ∈ s.reader.batch s.log, record.partition = partition := by
    rw [passed]
    exact Progress.contains_past _ _ _
  obtain ⟨caughtUp, closed⟩ := r.endOfBatch_eq idle
  have same_progress : t.replica.progress = { r.progress with caughtUp } := by
    rw [finished, closed]
  refine ⟨fun partition => ?_, ?_, ?_, .inr covered⟩
  · rw [same_progress, more]
    refine (known partition).trans ?_
    rw [going.delivered]
    simp only [List.mem_append, or_and_right, exists_or]
  · rw [same_progress]
    exact ⟨still_due.positive, still_due.ended⟩
  · have all_delivered : t.replica.progress.AllDelivered target ↔
        r.progress.AllDelivered target := by
      rw [same_progress]
      rfl
    rw [all_delivered, Replay.caughtUp, finished, flag]
    refine or_iff_right_of_imp fun already partition listed => ?_
    rw [passed, kept] at already
    exact (known partition).mpr (.inl (going.flag.mp already partition listed))

theorem Sound.poll (targets : Targets origin target) (sound : s.Sound origin target) :
    (s.step f .poll).Sound origin target := by
  obtain ⟨same_log, same_target, outcome⟩ := poll_cases f s
  have tidy : (s.step f .poll).log.Tidy := same_log ▸ sound.tidy
  have before : origin.Before (s.step f .poll).log := same_log ▸ sound.before
  have targeted := same_target.trans sound.targeted
  rcases outcome with ⟨ended, same_flag, same_delivered⟩ |
    ⟨started, more, _, r, passed, running, finished⟩
  · refine ⟨tidy, before, targeted, fun caughtUp => ?_, fun goes_on => ?_⟩
    · have covered := sound.covered (same_flag ▸ caughtUp)
      intro index record member below
      rw [same_log] at member
      rw [same_delivered]
      exact covered index record member below
    · rw [ended] at goes_on
      cases goes_on
  · have going := sound.running started
    have covered := going.covered sound.tidy same_log more
    exact ⟨tidy, before, targeted, fun _ => covered,
      fun _ => sound.completed targets going covered more passed running finished⟩

theorem Sound.run (targets : Targets origin target) (sound : s.Sound origin target)
    (events : List Event) : (s.run f events).Sound origin target := by
  induction events generalizing s with
  | nil => exact sound
  | cons event rest ih =>
    cases event with
    | log event => exact ih (sound.log event)
    | poll => exact ih (sound.poll targets)

theorem caughtUp_step (already : s.caughtUp = true) (event : Event) :
    (s.step f event).caughtUp = true := by
  cases event with
  | log event => exact already
  | poll =>
    obtain ⟨_, _, ⟨_, same_flag, _⟩ | ⟨_, _, _, r, passed, _, finished⟩⟩ := poll_cases f s
    · exact same_flag.trans already
    · obtain ⟨_, kept⟩ := Progress.past_replay s.replica.progress (s.reader.batch s.log)
      rw [Replay.caughtUp, finished]
      exact Replica.caughtUp_endOfBatch (by rw [passed, kept]; exact already) _

theorem caughtUp_run (already : s.caughtUp = true) (events : List Event) :
    (s.run f events).caughtUp = true := by
  induction events generalizing s with
  | nil => exact already
  | cons event rest ih => exact ih (caughtUp_step already event)

/-- What was delivered has been consumed, and a store that tails shows it. -/
structure Fed (codec : Codec V) (s : Replay V O E) : Prop where
  tidy : s.log.Tidy
  reached : ∀ record ∈ s.delivered,
    s.replica.progress.reached record.partition record.offset = true
  tails : s.isRunning = true → s.replica.Tails codec s.log s.reader s.delivered []

theorem isRunning_iff : s.isRunning = true ↔ s.replica.progress.stopped = false := by
  rw [isRunning, Bool.not_eq_true']

theorem Fed.log (fed : s.Fed f.codec) (event : Log.Event) :
    (s.step f (.log event)).Fed f.codec where
  tidy := fed.tidy.run event
  reached := fed.reached
  tails goes_on := (fed.tails goes_on).later (.run s.log event)

theorem Fed.reached_batch (fed : s.Fed f.codec) (running : s.isRunning = true) {record : Record}
    (member : record ∈ s.delivered) :
    ((s.reader.batch s.log).foldl (Replica.consume f) (s.replica, s.shared)).1.progress.reached
      record.partition record.offset = true := by
  have ordered := ((fed.tails running).poll fed.tidy).served.ordered
  rw [List.pairwise_append] at ordered
  exact Replica.reached_foldl_consume f s.replica s.shared
    (fun later there same => ordered.2.2 record member later there same.symm)
    (fed.reached record member)

theorem Fed.poll_of_available (fed : s.Fed f.codec) (running : s.isRunning = true)
    (available : s.log.unavailable = none) : (s.step f .poll).Fed f.codec := by
  let batch := s.reader.batch s.log
  let state := batch.foldl (Replica.consume f) (s.replica, s.shared)
  obtain ⟨caughtUp, finished⟩ := state.1.endOfBatch_eq batch.isEmpty
  have given : s.replica.Tails f.codec s.log (s.reader.next s.log) s.delivered (batch ++ []) := by
    rw [List.append_nil]
    exact (fed.tails running).poll fed.tidy
  have taken := (given.consume_all s.shared).endOfBatch batch.isEmpty
  rw [step_poll_of_available available (isRunning_iff.mp running)]
  cases halted : state.1.progress.stopped with
  | true =>
    refine ⟨fed.tidy, fun record member => ?_, fun goes_on => ?_⟩
    · simp only [ite_true, List.append_nil] at member ⊢
      rw [finished]
      exact fed.reached_batch running member
    · have still : (state.1.endOfBatch batch.isEmpty).progress.stopped = false :=
        isRunning_iff.mp goes_on
      rw [finished, halted] at still
      cases still
  | false =>
    have shown := taken.mirrors (by rw [finished]; exact halted)
    exact ⟨fed.tidy, fun record member => decide_eq_true (shown.passed record member),
      fun _ => taken⟩

theorem Fed.poll (fed : s.Fed f.codec) : (s.step f .poll).Fed f.codec := by
  cases ended : s.replica.progress.stopped with
  | true =>
    obtain ⟨same_log, same_replica, same_delivered⟩ := step_poll_of_stopped (f := f) ended
    refine ⟨same_log ▸ fed.tidy, ?_, fun goes_on => ?_⟩
    · rw [same_delivered, same_replica]
      exact fed.reached
    · rw [isRunning_iff, same_replica, ended] at goes_on
      cases goes_on
  | false =>
    cases available : s.log.unavailable with
    | some message =>
      obtain ⟨error, failed⟩ := step_poll_of_unavailable (f := f) available ended
      rw [failed]
      exact ⟨fed.tidy, fed.reached, nofun⟩
    | none => exact fed.poll_of_available (isRunning_iff.mpr ended) available

theorem Fed.run (fed : s.Fed f.codec) (events : List Event) : (s.run f events).Fed f.codec := by
  induction events generalizing s with
  | nil => exact fed
  | cons event rest ih =>
    cases event with
    | log event => exact ih (fed.log event)
    | poll => exact ih fed.poll

theorem start_fed {log : Log} (tidy : log.Tidy) (available : log.unavailable = none)
    (codec : Codec V) (observers : List O) (shared : E) :
    (start log observers shared : Replay V O E).Fed codec := by
  simp only [start, Cluster.openLog_of_available available]
  exact ⟨tidy, List.forall_mem_nil _, fun _ => .begin tidy codec log.topic observers _ _⟩

theorem Targets.contains_iff (targets : Targets origin target) (partition : Int) :
    target.contains partition = true ↔
      ∃ index : Nat, partition = index ∧ (origin.part index).records ≠ [] := by
  rw [Dictionary.contains, Option.isSome_iff_exists]
  constructor
  · rintro ⟨stop, entry⟩
    obtain ⟨index, here, held, _⟩ := (targets partition stop).mp entry
    exact ⟨index, here, held⟩
  · rintro ⟨index, here, held⟩
    exact ⟨_, (targets partition _).mpr ⟨index, here, held, rfl⟩⟩

theorem start_sound {log : Log} (tidy : log.Tidy) (available : log.unavailable = none)
    (observers : List O) (shared : E) :
    let s : Replay V O E := start log observers shared
    ∃ target, Targets log target ∧ s.Sound log target ∧ s.isRunning = true ∧ s.log = log ∧
      s.delivered = [] ∧ ∀ index, s.reader.position index = 0 := by
  intro s
  let ends := log.offsets fun p => p.nextOffset
  let earliest := log.offsets Partition.earliest
  let target := Progress.catchUpTarget ends earliest
  let fresh : Progress := { target := some target }
  have targets : Targets log target := fun partition stop => tidy.get?_catchUpTarget
  have started : s = {
      log, shared
      reader := ⟨log.partitions.map fun _ => 0⟩
      replica := { topic := log.topic, observers, progress := fresh.evaluate } } := by
    simp only [s, start, Cluster.openLog_of_available available]
    rfl
  have due : fresh.Due target := by
    refine ⟨fun partition stop entry => ?_, fun partition stop entry delivered => ?_⟩
    · obtain ⟨index, _, held, rfl⟩ := (targets partition stop).mp entry
      obtain ⟨record, _, last⟩ := (tidy.tidy index).newest held
      have range := (tidy.tidy index).range record ‹_›
      omega
    · cases delivered
  obtain ⟨caughtUp, evaluated⟩ := fresh.evaluate_eq
  have flag : caughtUp = true ↔ fresh.AllDelivered target := by
    have set := due.evaluate rfl
    rw [evaluated] at set
    simpa [fresh] using set
  rw [evaluated] at started
  rw [started]
  refine ⟨target, targets, ⟨tidy, .refl log, rfl, fun done => ?_, fun _ => ?_⟩, rfl, rfl, rfl,
    Reader.position_open log⟩
  · -- Where the replay is over at once, nothing was retained.
    intro index record member _
    have listed := (targets.contains_iff index).mpr ⟨index, rfl, List.ne_nil_of_mem member⟩
    cases flag.mp done index listed
  · refine ⟨fun partition => ?_, ⟨due.positive, due.ended⟩, flag, .inl (Reader.position_open log)⟩
    simp [Dictionary.contains, fresh, Dictionary.get?_empty]

theorem Running.caughtUp_iff (going : s.Running origin target) : s.caughtUp = true ↔
    ∀ partition ∈ target.keys, ∃ record ∈ s.delivered, record.partition = partition := by
  rw [going.flag]
  simp only [Progress.AllDelivered, Dictionary.mem_keys_iff, going.delivered]

theorem run_log (f : Following V O E) (s : Replay V O E) (events : List Log.Event) :
    s.run f (events.map .log) = { s with log := s.log.after events } := by
  induction events generalizing s with
  | nil => rfl
  | cons event rest ih => exact ih (s.step f (.log event))

theorem mem_first_poll {log : Log} (tidy : log.Tidy) {s : Replay V O E} (same_log : s.log = log)
    (unread : ∀ index, s.reader.position index = 0) {events : List Log.Event}
    (gentle : ∀ event ∈ events, event.isGentle = true) {index : Nat}
    (held : (log.part index).records ≠ [])
    (goes_on : (s.run f (events.map .log ++ [.poll])).isRunning = true) :
    ∃ record ∈ (s.run f (events.map .log ++ [.poll])).delivered, record.partition = index := by
  let ready : Replay V O E := { s with log := log.after events }
  have polled : s.run f (events.map .log ++ [.poll]) = ready.step f .poll := by
    rw [run, List.foldl_append]
    change (s.run f (events.map .log)).step f .poll = _
    rw [run_log, same_log]
  rw [polled] at goes_on ⊢
  obtain ⟨record, member⟩ := List.exists_mem_of_ne_nil _ (tidy.retains_after gentle held)
  have later := tidy.after events
  have range := ((later.tidy index).range record member).1
  have start : ready.reader.position index = 0 := unread index
  have given : record ∈ ready.reader.batch ready.log :=
    Reader.mem_batch.mpr ⟨index, member, by omega⟩
  obtain ⟨_, _, ⟨ended, _⟩ | ⟨_, more, _⟩⟩ := poll_cases f ready
  · rw [ended] at goes_on
    cases goes_on
  · exact ⟨record, more ▸ List.mem_append_right _ given, later.placed index record member⟩

/-- Catching up is exact, whatever happens to the log before the start of a store and after it. The
target is what the log retained at the start. The flag is set there only when that is nothing. What
is delivered is what the store has moved past and, as long as tailing goes on, what it shows; so
long the flag tells whether each partition of the target has delivered a record. It never goes out
again, and where it is set, all that is left of the log as it was has been delivered. When records
are only appended and compacted away, the first poll completes the replay. -/
theorem catch_up_is_exact (f : Following V O E) (topic : String) (partitions : Nat)
    (history : List Log.Event) (observers : List O) (shared : E)
    (available : ((Log.create topic partitions).after history).unavailable = none) :
    let log := (Log.create topic partitions).after history
    let started : Replay V O E := start log observers shared
    ∃ target : Dictionary Int Int,
      (∀ partition stop, target.get? partition = some stop ↔ ∃ index : Nat, partition = index ∧
        (log.part index).records ≠ [] ∧ stop = (log.part index).nextOffset) ∧
      (started.isRunning = true ∧ (started.caughtUp = true ↔ target.entries = [])) ∧
      (∀ events : List Event,
        let s := started.run f events
        s.replica.progress.target = some target ∧
        (∀ record ∈ s.delivered,
          s.replica.progress.reached record.partition record.offset = true) ∧
        (s.isRunning = true → s.replica.Mirrors f.codec s.delivered ∧
          (s.caughtUp = true ↔ ∀ partition ∈ target.keys,
            ∃ record ∈ s.delivered, record.partition = partition)) ∧
        (s.caughtUp = true →
          (∀ more, (s.run f more).caughtUp = true) ∧
          ∀ index, ∀ record ∈ (s.log.part index).records,
            record.offset < (log.part index).nextOffset → record ∈ s.delivered)) ∧
      ∀ gentle : List Log.Event, (∀ event ∈ gentle, event.isGentle = true) →
        let s := started.run f (gentle.map .log ++ [.poll])
        s.isRunning = true → s.caughtUp = true := by
  intro log started
  have tidy : log.Tidy := (Log.Tidy.create topic partitions).after history
  obtain ⟨target, targets, sound, running, same_log, none_yet, unread⟩ := start_sound tidy available
    observers shared
  refine ⟨target, targets, ⟨running, ?_⟩, fun events => ?_, fun gentle harmless goes_on => ?_⟩
  · rw [(sound.running running).caughtUp_iff, none_yet]
    constructor
    · intro all
      cases listed : target.entries with
      | nil => rfl
      | cons first rest =>
        have member : first.1 ∈ target.keys := by
          rw [Dictionary.keys, listed]
          exact List.mem_cons_self
        obtain ⟨record, delivered, _⟩ := all first.1 member
        cases delivered
    · intro none partition listed
      rw [Dictionary.keys, none] at listed
      cases listed
  · have later := sound.run (f := f) targets events
    have fed : (started.run f events).Fed f.codec :=
      (start_fed tidy available f.codec observers shared).run events
    have shown (goes_on : (started.run f events).isRunning = true) :=
      (fed.tails goes_on).mirrors (isRunning_iff.mp goes_on)
    exact ⟨later.targeted, fed.reached,
      fun goes_on => ⟨shown goes_on, (later.running goes_on).caughtUp_iff⟩,
      fun done => ⟨caughtUp_run done, later.covered done⟩⟩
  · have later := sound.run (f := f) targets (gentle.map .log ++ [.poll])
    rw [(later.running goes_on).caughtUp_iff]
    intro partition listed
    obtain ⟨index, rfl, held⟩ :=
      (targets.contains_iff partition).mp (Dictionary.mem_keys_iff.mp listed)
    exact mem_first_poll tidy same_log unread harmless held goes_on

def gaps : List Log.Event :=
  [.append (Key.encode "a") (some [1, 7]), .append (Key.encode "b") none,
    .append (Key.encode "a") (some [1, 8]), .compact, .deleteRecords 0 2]

theorem gaps_are_passed_over :
    let log := (Log.create "roads" 1).after gaps
    let later : List Log.Event := [.append (Key.encode "c") (some [1]), .compact]
    let s := (start log [] () : Replay Bytes Unit Unit).run .plain (later.map .log ++ [.poll])
    log.unavailable = none ∧ (∀ event ∈ later, event.isGentle = true) ∧ s.isRunning = true ∧
      s.caughtUp = true := by
  intro log later s
  have available : log.unavailable = none := rfl
  have gentle : ∀ event ∈ later, event.isGentle = true := by decide
  have running : s.isRunning = true := by decide +kernel
  obtain ⟨_, _, _, _, first_poll⟩ := catch_up_is_exact .plain "roads" 1 gaps [] () available
  exact ⟨available, gentle, running, first_poll later gentle running⟩

end Replay

end RoadRegistry
