import RoadRegistry.Proofs.Cluster.Batching
import RoadRegistry.Proofs.Interleaving.Soundness

namespace RoadRegistry

theorem Progress.last_of_pending {progress : Progress} {positions : List Position}
    {position : Position} (pending : position ∈ progress.pending positions) :
    position ∈ positions ∧
      (∀ other ∈ positions, other.partition = position.partition →
        other.offset ≤ position.offset) ∧
      progress.reached position.partition position.offset = false := by
  obtain ⟨⟨partition, offset⟩, waiting, rfl⟩ := List.mem_map.mp pending
  obtain ⟨entry, ahead⟩ := List.mem_filter.mp waiting
  have target := Dictionary.mem_entries_iff.mp entry
  refine ⟨mem_of_syncTargets target, fun other member same => ?_, by simpa using ahead⟩
  obtain ⟨greatest, known, bound⟩ := le_syncTargets member
  rw [same] at known
  obtain rfl := Option.some.inj (known.symm.trans target)
  exact bound

theorem Progress.unfailed_of_sync_pending {progress : Progress} {positions : List Position}
    {position : Position} (pending : progress.sync positions = .pending position) :
    progress.failure = none := by
  cases failed : progress.failure with
  | none => rfl
  | some error =>
    rw [sync_of_failed failed] at pending
    cases pending

theorem Replica.fatal_of_ensureOpen {r : Replica V O} (grave : r.progress.Grave)
    {error : StoreError} (refusal : r.ensureOpen = .error error) : error.isFatal = true := by
  unfold ensureOpen at refusal
  split at refusal
  · cases refusal
    rfl
  · split at refusal
    · next failed =>
      cases refusal
      exact grave _ failed
    · cases refusal

/-- What a write may list to append. A clear comes to the keys in any order. -/
def Cluster.Event.Lists (codec : Codec V) (event : Event V P F)
    (records : Replica V O → List Item) : Prop :=
  ∀ r, match event with
    | .clear _ => ∃ order : List String, order.Perm r.keys ∧
      records r = order.map fun key => .ok (Replica.encodeTombstone key)
    | event => records r = event.records codec r

theorem Cluster.Event.Lists.fatal {codec : Codec V} {event : Event V P F}
    {records : Replica V O → List Item} (lists : event.Lists codec records) (r : Replica V O)
    (error : StoreError) (member : .error error ∈ records r) : error.isFatal = true := by
  have listed := lists r
  split at listed
  · obtain ⟨order, _, keys⟩ := listed
    rw [keys] at member
    obtain ⟨key, _, failed⟩ := List.mem_map.mp member
    cases failed
  · rw [listed] at member
    exact Event.fatal_of_records codec _ r member

namespace Writing

variable {f : Following V O E} {records : Replica V O → List Cluster.Item} {start : Log}
variable {past : List Record} {s : Writing V O E}

/-- Where a writer has come to when it is given its answer. -/
inductive Account (start : Log) (s : Writing V O E) : Except StoreError Unit → Prop where
  | refused {error : StoreError} (refusal : s.tailer.replica.ensureOpen = .error error)
      (untouched : s.written = []) (fatal : error.isFatal = true) : Account start s (.error error)
  | broken {error : StoreError} {item : Cluster.Item} {rest : List Cluster.Item}
      (some_left : s.items = s.written.map .ofRecord ++ item :: rest)
      (cause : item = .error error ∨
        ∃ key value, item = .ok (key, value) ∧ s.rehearsal.append key value = .error error)
      (fatal : error.isFatal = true) : Account start s (.error error)
  | ended {error : StoreError} (all : s.items = s.written.map .ofRecord)
      (cause : s.tailer.replica.progress.failure = some error ∨
        s.tailer.replica.progress.failure = none ∧ s.tailer.replica.progress.stopped = true ∧
          error = .closed)
      (fatal : error.isFatal = true) : Account start s (.error error)
  | late {record : Record} (all : s.items = s.written.map .ofRecord) (mine : record ∈ s.written)
      (last : ∀ other ∈ s.written, other.partition = record.partition →
        other.offset ≤ record.offset)
      (ahead : s.tailer.replica.progress.reached record.partition record.offset = false)
      (untaken : record ∉ s.tailer.consumed)
      (unfailed : s.tailer.replica.progress.failure = none)
      (running : s.tailer.replica.progress.stopped = false) :
      Account start s (.error (.syncTimeout record.partition record.offset))
  | done (all : s.items = s.written.map .ofRecord)
      (reached : ∀ record ∈ s.written,
        s.tailer.replica.progress.reached record.partition record.offset = true)
      (taken : ∀ record ∈ s.written,
        record ∈ s.tailer.consumed ∨ start.Dropped record s.events)
      (unfailed : s.tailer.replica.progress.failure = none)
      (running : s.tailer.replica.progress.stopped = false) : Account start s (.ok ())

/-- What a call has left on the log, among what others have done to it meanwhile. -/
structure OnLog (start : Log) (meanwhile : List Log.Event) (s : Writing V O E) : Prop where
  log : s.log = start.after s.events
  others : s.deeds.filterMap Deed.other? = meanwhile
  untouched : s.written = [] → s.log = start.after meanwhile
  ordered : s.written.Pairwise fun a b => a.partition = b.partition → a.offset < b.offset
  kept : ∀ record ∈ s.written, record ∈ s.log.held ∨ start.Dropped record s.events

namespace Sound

theorem taken_of_reached (sound : Sound f start past s)
    (running : s.tailer.replica.progress.stopped = false) {record : Record}
    (mine : record ∈ s.written)
    (reached : s.tailer.replica.progress.reached record.partition record.offset = true) :
    record ∈ s.tailer.consumed ∨ start.Dropped record s.events := by
  refine (sound.kept record mine).imp_left fun held => ?_
  obtain ⟨index, held⟩ := Log.mem_held.mp held
  have placed := sound.tidy.placed index record held
  have natural := ((sound.tidy.tidy index).range record held).1
  obtain ⟨other, before, same, above⟩ :=
    (sound.tails.mirrors running).reached _ _ reached (by omega)
  have served := sound.tails.served
  obtain ⟨there, placed', below⟩ := served.passed other (List.mem_append_left _ before)
  obtain rfl : there = index := by omega
  have given := served.complete there record held (by omega)
  rcases List.mem_append.mp given with taken | pending
  · exact (List.mem_append.mp taken).resolve_left (sound.unread record mine)
  · -- A batch is taken in order, so what is in hand lies above all that was taken.
    have later := (List.pairwise_append.mp served.ordered).2.2 other before record pending same
    omega

theorem untaken_of_ahead (sound : Sound f start past s)
    (running : s.tailer.replica.progress.stopped = false) {record : Record}
    (ahead : s.tailer.replica.progress.reached record.partition record.offset = false) :
    record ∉ s.tailer.consumed := by
  intro taken
  have passed := (sound.tails.mirrors running).passed record (List.mem_append_right _ taken)
  exact of_decide_eq_false ahead passed

theorem applied_nodup (sound : Sound f start past s) : s.applied.Nodup := by
  have given := sound.tails.served.nodup.of_map
  rw [List.append_assoc] at given
  exact (given.of_append_right.of_append_left).sublist sound.applied

theorem account_of_done (sound : Sound f start past s) (all : s.items = s.written.map .ofRecord)
    (looked : s.tailer.replica.progress.sync (s.written.map Record.position) = .done) :
    Account start s (.ok ()) := by
  obtain ⟨unfailed, running, reached⟩ := Progress.sync_eq_done_iff.mp looked
  replace reached := List.forall_mem_map.mp reached
  exact .done all reached
    (fun record mine => sound.taken_of_reached running mine (reached record mine)) unfailed running

theorem account_of_failed (sound : Sound f start past s)
    (all : s.items = s.written.map .ofRecord) {error : StoreError}
    (looked : s.tailer.replica.progress.sync (s.written.map Record.position) = .failed error) :
    Account start s (.error error) := by
  have cause := Progress.sync_failed looked
  refine .ended all cause ?_
  rcases cause with failed | ⟨_, _, rfl⟩
  · exact sound.tails.grave error failed
  · rfl

theorem account_of_pending (sound : Sound f start past s)
    (all : s.items = s.written.map .ofRecord) {first position : Position}
    (looked : s.tailer.replica.progress.sync (s.written.map Record.position) = .pending first)
    (waited_for :
      position ∈ s.tailer.replica.progress.pending (s.written.map Record.position)) :
    Account start s (.error (.syncTimeout position.partition position.offset)) := by
  have running := Progress.sync_pending looked
  obtain ⟨member, last, ahead⟩ := Progress.last_of_pending waited_for
  obtain ⟨record, mine, rfl⟩ := List.mem_map.mp member
  exact .late all mine (List.forall_mem_map.mp last) ahead (sound.untaken_of_ahead running ahead)
    (Progress.unfailed_of_sync_pending looked) running

theorem account_of_waiting (sound : Sound f start past s)
    (all : s.items = s.written.map .ofRecord)
    (waiting : s.stage = .waiting (s.written.map Record.position)) {late : Option Position}
    {outcome : Except StoreError Unit}
    (answered : (s.turn records late).stage = .answered outcome) :
    s.turn records late = s.answer outcome ∧ Account start s outcome := by
  simp only [Writing.turn, waiting] at answered ⊢
  cases looked : s.tailer.replica.progress.sync (s.written.map Record.position) with
  | done =>
    rw [looked] at answered
    cases answered
    exact ⟨rfl, sound.account_of_done all looked⟩
  | failed error =>
    rw [looked] at answered
    cases answered
    exact ⟨rfl, sound.account_of_failed all looked⟩
  | pending first =>
    simp only [looked] at answered ⊢
    cases reported : late.filter
        (· ∈ s.tailer.replica.progress.pending (s.written.map Record.position)) with
    | none =>
      rw [reported] at answered
      cases waiting.symm.trans answered
    | some position =>
      rw [reported] at answered
      cases answered
      have waited_for := of_decide_eq_true (Option.filter_eq_some_iff.mp reported).2
      exact ⟨rfl, sound.account_of_pending all looked waited_for⟩

theorem account (sound : Sound f start past s) {late : Option Position}
    {outcome : Except StoreError Unit} (unanswered : ∀ earlier, s.stage ≠ .answered earlier)
    (answered : (s.turn records late).stage = .answered outcome) :
    s.turn records late = s.answer outcome ∧ Account start s outcome := by
  have fits := sound.fits
  cases stage : s.stage with
  | arriving =>
    rw [stage] at fits
    simp only [Writing.turn, stage] at answered ⊢
    cases refusal : s.tailer.replica.ensureOpen with
    | ok _ =>
      rw [refusal] at answered
      cases answered
    | error error =>
      rw [refusal] at answered
      cases answered
      exact ⟨rfl, .refused refusal fits.2 (Replica.fatal_of_ensureOpen sound.tails.grave refusal)⟩
  | admitted =>
    simp only [Writing.turn, stage] at answered
    cases answered
  | appending left positions =>
    rw [stage] at fits
    rcases left with _ | ⟨error | ⟨key, value⟩, rest⟩
    · simp only [Writing.turn, stage] at answered
      cases answered
    · simp only [Writing.turn, stage] at answered ⊢
      cases answered
      refine ⟨rfl, .broken fits.1 (.inl rfl) (sound.fatal error ?_)⟩
      rw [fits.1]
      exact List.mem_append_right _ List.mem_cons_self
    · simp only [Writing.turn, stage] at answered ⊢
      cases appended : s.rehearsal.append key value with
      | ok next =>
        rw [appended] at answered
        cases answered
      | error error =>
        rw [appended] at answered
        cases answered
        exact ⟨rfl, .broken fits.1 (.inr ⟨key, value, rfl, appended⟩)
          (Rehearsal.fatal_of_append appended)⟩
  | waiting positions =>
    rw [stage] at fits
    obtain ⟨all, rfl⟩ := fits
    exact sound.account_of_waiting all stage answered
  | answered earlier => exact absurd stage (unanswered earlier)

end Sound

def catchUp (s : Writing V O E) : List (Move E) :=
  List.replicate (s.tailer.pending.length + 1) .consume ++
    .poll :: List.replicate ((s.tailer.reader.batch s.log).length + 1) .consume

theorem run_catchUp
    (running : (s.run f records s.catchUp).tailer.replica.progress.stopped = false) :
    let t := s.run f records s.catchUp
    t.rehearsal = s.rehearsal ∧ t.deeds = s.deeds ∧ t.tailer.batch = none ∧
      t.tailer.reader = s.tailer.reader.next s.log := by
  revert running
  rw [catchUp, run_append, run_cons]
  intro running
  have polled_running := running_of_run running
  have still := running_of_step polled_running
  obtain ⟨rehearsal, _, deeds, drained⟩ := run_consumes f records s (s.tailer.pending.length + 1)
  generalize s.run f records (List.replicate (s.tailer.pending.length + 1) .consume) = emptied at *
  have free : emptied.tailer.batch = none := by
    rw [drained]
    exact Tailer.batch_drain (.inr (Nat.lt_succ_self _))
  have reader : emptied.tailer.reader = s.tailer.reader := by
    rw [drained, Tailer.reader_drain]
  have same_log : emptied.log = s.log := congrArg Rehearsal.log rehearsal
  -- On a log that is not available the poll would have stopped the store.
  have polled : (emptied.step f records .poll).tailer = { emptied.tailer with
      reader := s.tailer.reader.next s.log
      batch := some (s.tailer.reader.batch s.log, (s.tailer.reader.batch s.log).isEmpty) } := by
    simp only [step, Tailer.poll, still, free, same_log, reader, Option.isSome_none, Bool.or_self,
      Bool.false_eq_true, ite_false] at polled_running ⊢
    cases available : s.log.unavailable with
    | none => simp only [Reader.poll_of_available available]
    | some message =>
      rw [Reader.poll_of_unavailable available] at polled_running
      cases polled_running
  obtain ⟨rehearsal', _, deeds', drained'⟩ := run_consumes f records
    (emptied.step f records .poll) ((s.tailer.reader.batch s.log).length + 1)
  refine ⟨rehearsal'.trans rehearsal, deeds'.trans deeds, ?_, ?_⟩
  · rw [drained']
    refine Tailer.batch_drain (.inr ?_)
    rw [polled]
    exact Nat.lt_succ_self _
  · rw [drained', Tailer.reader_drain, polled]

theorem Sound.taken_of_catchUp (sound : Sound f start past s)
    (caught_up : Sound f start past (s.run f records s.catchUp))
    (running : (s.run f records s.catchUp).tailer.replica.progress.stopped = false)
    {record : Record} (mine : record ∈ (s.run f records s.catchUp).written) :
    record ∈ (s.run f records s.catchUp).tailer.consumed ∨
      start.Dropped record (s.run f records s.catchUp).events := by
  obtain ⟨rehearsal, deeds, free, reader⟩ := run_catchUp running
  generalize s.run f records s.catchUp = t at *
  have same_log : t.log = s.log := congrArg Rehearsal.log rehearsal
  refine (caught_up.kept record mine).imp_left fun held => ?_
  have served := caught_up.tails.served
  rw [Tailer.pending, free, List.append_nil, reader, same_log] at served
  -- What is still on the log was either taken or would be given by another poll.
  have nothing_left := Reader.batch_next sound.tidy s.tailer.reader
  rw [served.batch_eq sound.tidy] at nothing_left
  have taken : record ∈ past ++ t.tailer.consumed := by
    by_contra unread
    rw [same_log] at held
    have left : record ∈ s.log.held.filter (· ∉ past ++ t.tailer.consumed) :=
      List.mem_filter.mpr ⟨held, decide_eq_true unread⟩
    rw [nothing_left] at left
    cases left
  exact (List.mem_append.mp taken).resolve_left (caught_up.unread record mine)

theorem Sound.applied_of_catchUp {first : Writing V O E} (fresh : first.tailer.consumed = [])
    {moves : List (Move E)} (reached : s = first.run f records moves)
    (sound : Sound f start past s) (caught_up : Sound f start past (s.run f records s.catchUp))
    {record : Record} (mine : record ∈ (s.run f records s.catchUp).written)
    (entry : (Decoded.ofRecord f.codec record).isEntry = true) :
    let t := s.run f records s.catchUp
    record ∈ t.applied ∨ (record ∉ t.tailer.consumed ∧ start.Dropped record t.events) ∨
      first.StoppedBefore f records (moves ++ s.catchUp) record := by
  intro t
  have whole : t = first.run f records (moves ++ s.catchUp) := by
    rw [run_append, ← reached]
  by_cases taken : record ∈ t.tailer.consumed
  · rw [whole] at taken ⊢
    exact (applied_or_stopped_before fresh _ entry taken).imp_right .inr
  · refine .inr ?_
    cases ended : t.tailer.replica.progress.stopped with
    | true =>
      rw [whole] at ended taken
      exact .inr ⟨_, List.prefix_rfl, ended, taken⟩
    | false =>
      have gone := sound.taken_of_catchUp caught_up ended mine
      exact .inl ⟨taken, gone.resolve_left taken⟩

theorem Sound.onLog (sound : Sound f start past s) {meanwhile : List Log.Event}
    (others : s.deeds.filterMap Deed.other? = meanwhile) : OnLog start meanwhile s where
  log := sound.logged
  others := others
  untouched unwritten := by
    rw [sound.logged, events_of_unwritten unwritten, others]
  ordered := sound.ordered
  kept := sound.kept

/-- Whatever else goes on from when a store is called to write until the call answers: the answer
tells how far the writer has come, and changes nothing. All is well only if each record of the call
was appended and the store is past it and has not failed; a deadline is reported only if all were
appended, at the last of those in some partition that the store has not come to. Any other error
comes from the door, from the store that stopped, or from a record that was not appended, after
exactly those before it. What was appended is on the log in its order; where nothing was, the log is
as others have left it. Whatever goes on afterwards, the store applies no record of the call twice,
and when it has caught up, it has applied each that decodes, unless it stopped before it came to it
or did not find it on the log any more. -/
theorem answer_accounts_for_log (f : Following V O E) (topic : String) (partitions : Nat)
    (shared : E) {history : List (Cluster.Event V O E)}
    (genuine : ∀ event ∈ history, event.genuine) {name : String} {node : Node V O}
    (found : (Cluster.after f (Log.create topic partitions) shared history).node? name = some node)
    {event : Cluster.Event V O E} {records : Replica V O → List Cluster.Item}
    (lists : event.Lists f.codec records) (moves : List (Move E)) {late : Option Position}
    {outcome : Except StoreError Unit} :
    let c := Cluster.after f (Log.create topic partitions) shared history
    let s := (begin c node).run f records moves
    (∀ earlier, s.stage ≠ .answered earlier) →
      (s.turn records late).stage = .answered outcome →
      s.turn records late = s.answer outcome ∧ Account c.log s outcome ∧
        (s.stage = .arriving ∨ ∃ early, early <+: moves ∧
          s.items = records ((begin c node).run f records early).tailer.replica) ∧
        OnLog c.log (moves.filterMap Move.other?) s ∧
        ∀ later, let since := moves ++ .turn late :: later
          let t := (begin c node).run f records since
          let v := t.run f records t.catchUp
          t.written = s.written ∧
            t.tailer.replica.counters.applied =
              node.replica.counters.applied + t.applied.length ∧
            ∀ record ∈ s.written, t.applied.count record ≤ 1 ∧
              ((Decoded.ofRecord f.codec record).isEntry = true →
                record ∈ v.applied ∨
                  (record ∉ v.tailer.consumed ∧ c.log.Dropped record v.events) ∨
                  (begin c node).StoppedBefore f records (since ++ t.catchUp) record) := by
  intro c s unanswered answered
  obtain ⟨past, begun⟩ :=
    Sound.begin (Cluster.after_atRest f topic partitions shared genuine) found
  have sound (moves : List (Move E)) : Sound f c.log past ((begin c node).run f records moves) :=
    begun.run lists.fatal moves
  obtain ⟨only, account⟩ := (sound moves).account unanswered answered
  refine ⟨only, account, ?_, (sound moves).onLog (others_run f records (begin c node) moves), ?_⟩
  · cases stage : s.stage with
    | arriving => exact .inl rfl
    | admitted =>
      simp only [turn, stage] at answered
      cases answered
    | appending rest positions | waiting positions =>
      exact .inr (items_run rfl (congrArg Stage.isUnderway stage))
    | answered earlier => exact absurd stage (unanswered earlier)
  intro later since t v
  have answered_then (later : List (Move E)) :
      ((begin c node).run f records (moves ++ .turn late :: later)).written = s.written := by
    rw [run_append, run_cons]
    change ((s.turn records late).run f records later).written = s.written
    rw [only]
    exact (run_of_answered rfl later).2
  have caught_up : Sound f c.log past v := (sound since).run lists.fatal t.catchUp
  refine ⟨answered_then later, ?_, fun record mine => ⟨?_, fun entry => ?_⟩⟩
  · have counted := applied_run f records (begin c node) since
    change t.tailer.replica.counters.applied + 0 =
      node.replica.counters.applied + t.applied.length at counted
    exact counted
  · exact List.nodup_iff_count_le_one.mp (sound since).applied_nodup record
  · refine Sound.applied_of_catchUp rfl rfl (sound since) caught_up ?_ entry
    have whole :
        v = (begin c node).run f records (moves ++ .turn late :: (later ++ t.catchUp)) := by
      rw [← List.cons_append, ← List.append_assoc, run_append]
    change record ∈ v.written
    rw [whole, answered_then]
    exact mine

def Stage.isLate (partition offset : Int) : Stage → Bool
  | .answered (.error (.syncTimeout p o)) => p = partition && o = offset
  | _ => false

theorem Stage.answered_of_isLate {partition offset : Int} {stage : Stage}
    (late : stage.isLate partition offset = true) :
    stage = .answered (.error (.syncTimeout partition offset)) := by
  unfold isLate at late
  split at late
  · rw [Bool.and_eq_true, decide_eq_true_eq, decide_eq_true_eq] at late
    rw [late.1, late.2]
  · cases late

/-- The store reads the first of two records before the writer appends the second. -/
def readBetween : List (Move Unit) :=
  [.turn none, .turn none, .turn none, .poll, .turn none, .consume, .turn none]

theorem late_answer_accounts_for_log :
    let history : List (Cluster.Event Bytes Unit Unit) := [.start "roads" [()] {}]
    let c := Cluster.after .plain (Log.create "roads" 3) () history
    let write : Cluster.Event Bytes Unit Unit := .putAll "roads" [("a", [7]), ("b", [8])]
    let records : Replica Bytes Unit → List Cluster.Item := write.records Codec.plain
    (∀ event ∈ history, event.genuine = true) ∧ write.Lists Codec.plain records ∧
      ∃ node, c.node? "roads" = some node ∧
      let s := (begin c node).run .plain records readBetween
      let late := Except.error (.syncTimeout 0 0)
      let t := (begin c node).run .plain records (readBetween ++ [.turn (some ⟨0, 0⟩)])
      let v := t.run .plain records t.catchUp
      (∀ earlier, s.stage ≠ .answered earlier) ∧
        (s.turn records (some ⟨0, 0⟩)).stage = .answered late ∧ Account c.log s late ∧
        OnLog c.log [] s ∧ (∀ record ∈ s.written, t.applied.count record ≤ 1) ∧
        v.applied = s.written := by
  intro history c write records
  have genuine : ∀ event ∈ history, event.genuine = true := by decide
  have state : (c.node? "roads").any (fun node =>
      let s := (begin c node).run .plain records readBetween
      let t := (begin c node).run .plain records (readBetween ++ [.turn (some ⟨0, 0⟩)])
      s.stage.isUnderway && (s.turn records (some ⟨0, 0⟩)).stage.isLate 0 0 &&
        (t.run .plain records t.catchUp).applied = s.written) = true := by decide +kernel
  obtain ⟨node, found, all⟩ := (Option.any_eq_true _ _).mp state
  simp only [Bool.and_eq_true, decide_eq_true_eq] at all
  obtain ⟨⟨underway, is_late⟩, applied⟩ := all
  have lists : write.Lists Codec.plain records := fun r => rfl
  refine ⟨genuine, lists, node, found, ?_⟩
  intro s late t v
  have unanswered (earlier : Except StoreError Unit) : s.stage ≠ .answered earlier := by
    intro told
    rw [told] at underway
    cases underway
  have answered := Stage.answered_of_isLate is_late
  obtain ⟨_, account, _, onLog, later⟩ := answer_accounts_for_log .plain "roads" 3 () genuine found
    lists readBetween unanswered answered
  exact ⟨unanswered, answered, account, onLog, fun record mine => ((later []).2.2 record mine).1,
    applied⟩

end Writing

end RoadRegistry
