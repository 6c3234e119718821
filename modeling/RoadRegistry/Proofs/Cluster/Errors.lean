import RoadRegistry.Proofs.Cluster.Breaking
import RoadRegistry.Proofs.Cluster.Stopping

namespace RoadRegistry

theorem Log.fatal_of_append {log : Log} {key : Bytes} {value : Option Bytes} {error : StoreError}
    (failed : log.append key value = .error error) : error.isFatal = true := by
  cases available : log.unavailable with
  | none =>
    rw [Log.append_of_available available] at failed
    cases failed
  | some message =>
    rw [Log.append_of_unavailable available] at failed
    cases failed
    rfl

theorem Rehearsal.fatal_of_append {r : Rehearsal} {key : Bytes} {value : Option Bytes}
    {error : StoreError} (failed : r.append key value = .error error) :
    error.isFatal = true := by
  unfold append at failed
  split at failed
  · cases failed
  · split at failed
    · cases failed
      rfl
    · cases appended : r.log.append key value with
      | error other =>
        rw [appended] at failed
        cases failed
        exact Log.fatal_of_append appended
      | ok pushed =>
        rw [appended] at failed
        cases failed

theorem Progress.sync_failed {progress : Progress} {positions : List Position} {error : StoreError}
    (failed : progress.sync positions = .failed error) : progress.failure = some error ∨
      progress.failure = none ∧ progress.stopped = true ∧ error = .closed := by
  unfold sync at failed
  cases failure : progress.failure with
  | some other =>
    simp only [failure, SyncOutcome.failed.injEq] at failed
    exact .inl (congrArg some failed)
  | none =>
    cases ended : progress.stopped with
    | true =>
      simp only [failure, ended, ite_true, SyncOutcome.failed.injEq] at failed
      exact .inr ⟨rfl, rfl, failed.symm⟩
    | false =>
      simp only [failure, ended, Bool.false_eq_true, ite_false] at failed
      split at failed <;> cases failed

theorem Progress.sync_pending {progress : Progress} {positions : List Position}
    {position : Position} (pending : progress.sync positions = .pending position) :
    progress.stopped = false := by
  unfold sync at pending
  cases failure : progress.failure with
  | some other => simp only [failure, reduceCtorEq] at pending
  | none =>
    cases ended : progress.stopped with
    | true => simp only [failure, ended, ite_true, reduceCtorEq] at pending
    | false => rfl

namespace Cluster

variable {f : Following V O E} {log : Log} {shared : E} {c : Cluster V O E} {name : String}
variable {node : Node V O}

theorem waitUntilCaughtUp_of_failed (found : c.node? name = some node) {error : StoreError}
    (failed : node.replica.progress.failure = some error) (timeout : Duration) :
    c.waitUntilCaughtUp name timeout =
      if node.replica.progress.caughtUp then .ok () else .error error := by
  unfold waitUntilCaughtUp Progress.catchUp
  simp only [found, failed]
  cases node.replica.progress.caughtUp <;> rfl

/-- Once a store has failed, whatever else happens, waiting for the end of its replay answers with
the failure exactly if the replay was not over when it failed. Every write does so in any case, as
long as the store is not closed. -/
theorem wait_tells_failure_unless_caught_up {history more : List (Event V O E)}
    (found : (after f log shared history).node? name = some node) {error : StoreError}
    (failed : node.replica.progress.failure = some error)
    (lasts : ∀ event ∈ more, event.starts name = false) :
    let later := after f log shared (history ++ more)
    (∀ timeout, call f later (.waitUntilCaughtUp name timeout) =
        (.done (if node.replica.progress.caughtUp then .ok () else .error error), later)) ∧
      ((node.replica.closed || more.any (·.closes name)) = false →
        ∀ event : Event V O E, event.writes name = true →
          (call f later event).1.error? = some error ∧ (call f later event).2 = later) := by
  intro later
  have ended : node.replica.progress.failure ≠ none := by rw [failed]; nofun
  obtain ⟨_, final, there, same⟩ := after_of_stopped found (.inr ended) lasts
  have still_failed : final.replica.progress.failure = some error := by rw [same, failed]
  refine ⟨fun timeout => ?_, fun unclosed event writing => ?_⟩
  · have answered := waitUntilCaughtUp_of_failed there still_failed timeout
    simp only [call, Event.run, later, answered, same]
  · have reason : final.replica.refusal = some error := by
      rw [Replica.refusal, still_failed, same]
      simp only [unclosed, Bool.false_eq_true, ite_false]
    exact Event.refused _ _ there reason event writing

theorem late_failure_is_not_told_to_who_waits :
    let c := after .plain (Log.create "roads" 1) () poisoned
    ∃ node error, c.node? "roads" = some node ∧
      node.replica.progress.failure = some error ∧ node.replica.closed = false ∧
      (∀ timeout, c.waitUntilCaughtUp "roads" timeout = .ok ()) ∧
      (call .plain c (.put "roads" "a" [8])).1.error? = some error := by
  intro c
  have failed : (c.node? "roads").any (fun node => node.replica.progress.failure.isSome &&
      !node.replica.closed && node.replica.progress.caughtUp) = true := by decide +kernel
  obtain ⟨node, found, all⟩ := (Option.any_eq_true _ _).mp failed
  simp only [Bool.and_eq_true, Bool.not_eq_true'] at all
  obtain ⟨⟨failed, unclosed⟩, caughtUp⟩ := all
  obtain ⟨error, failure⟩ := Option.isSome_iff_exists.mp failed
  have reason : node.replica.refusal = some error := by
    rw [Replica.refusal, unclosed, failure]
    rfl
  refine ⟨node, error, found, failure, unclosed, fun timeout => ?_,
    (Event.refused _ _ found reason (.put "roads" "a" [8]) rfl).1⟩
  rw [waitUntilCaughtUp_of_failed found failure, if_pos caughtUp]

theorem early_failure_is_told_to_who_waits :
    let history : List (Event Bytes Unit Unit) :=
      [.log (.append [120] (some [1, 7])), .start "roads" [()] {}]
    let more : List (Event Bytes Unit Unit) := [.log .compact, .start "other" [] {}]
    ∃ node error, (after .plain (Log.create "roads" 1) () history).node? "roads" = some node ∧
      node.replica.progress.failure = some error ∧
      (∀ event ∈ more, event.starts "roads" = false) ∧
      (call .plain (after .plain (Log.create "roads" 1) () (history ++ more))
        (.waitUntilCaughtUp "roads" ⟨0⟩)).1.error? = some error := by
  intro history more
  have failed : ((after .plain (Log.create "roads" 1) () history).node? "roads").any (fun node =>
      node.replica.progress.failure.isSome && !node.replica.progress.caughtUp) = true := by
    decide +kernel
  obtain ⟨node, found, all⟩ := (Option.any_eq_true _ _).mp failed
  rw [Bool.and_eq_true, Bool.not_eq_true'] at all
  obtain ⟨error, failure⟩ := Option.isSome_iff_exists.mp all.1
  have lasts : ∀ event ∈ more, event.starts "roads" = false := by decide
  have told := (wait_tells_failure_unless_caught_up found failure lasts).1 ⟨0⟩
  rw [all.2] at told
  exact ⟨node, error, found, failure, lasts, congrArg (·.1.error?) told⟩

theorem fatal_of_appendAll {items : List (Except StoreError (Bytes × Option Bytes))}
    (encoding : ∀ error, .error error ∈ items → error.isFatal = true) {r : Rehearsal}
    {error : StoreError} (failed : (appendAll items r).1 = .error error) :
    error.isFatal = true := by
  induction items generalizing r with
  | nil => cases failed
  | cons item rest ih =>
    cases item with
    | error other =>
      cases failed
      exact encoding error List.mem_cons_self
    | ok entry =>
      cases appended : r.append entry.1 entry.2 with
      | error other =>
        simp only [appendAll, appended] at failed
        cases failed
        exact Rehearsal.fatal_of_append appended
      | ok next =>
        simp only [appendAll, appended] at failed
        cases later : (appendAll rest next.2).1 with
        | error other =>
          rw [later] at failed
          cases failed
          exact ih (fun other member => encoding other (List.mem_cons_of_mem _ member)) later
        | ok positions =>
          rw [later] at failed
          cases failed

theorem Event.fatal_of_records (codec : Codec V) (event : Event V P F) (r : Replica V O)
    {error : StoreError} (member : .error error ∈ event.records codec r) :
    error.isFatal = true := by
  have encoding {key : String} {value : V}
      (failed : Replica.encodeEntry codec key value = .error error) : error.isFatal = true := by
    unfold Replica.encodeEntry at failed
    split at failed
    · cases failed
    · cases failed
      rfl
  cases event with
  | put store key value => exact encoding (List.mem_singleton.mp member).symm
  | putAll store entries =>
    obtain ⟨entry, _, failed⟩ := List.mem_map.mp member
    exact encoding failed
  | remove store key => cases List.mem_singleton.mp member
  | clear store =>
    obtain ⟨key, _, failed⟩ := List.mem_map.mp member
    cases failed
  | _ => cases member

theorem sync_error (found : c.node? name = some node) (consistent : node.replica.Consistent)
    {positions : List Position} {error : StoreError}
    (failed : c.sync name positions = .error error) : node.replica.EndedBy error ∨
      ∃ partition offset, error = .syncTimeout partition offset ∧ node.replica.refusal = none := by
  simp only [sync, found] at failed
  split at failed
  · cases failed
  · next other looked =>
    cases failed
    rcases Progress.sync_failed looked with failure | ⟨unfailed, stopped, rfl⟩
    · exact .inl (.inl failure)
    · rcases consistent.mp stopped with shut | failure
      · exact .inl (.inr ⟨shut, rfl⟩)
      · exact absurd unfailed failure
  · next position looked =>
    cases failed
    exact .inr ⟨_, _, rfl, consistent.refusal_eq_none_iff.mpr (Progress.sync_pending looked)⟩

theorem write_error (found : c.node? name = some node)
    (consistent : ∀ node ∈ c.nodes, node.replica.Consistent)
    (records : Replica V O → List (Except StoreError (Bytes × Option Bytes)))
    {error : StoreError} (failed : (c.write f name records).1 = .error error) :
    ∃ final, (c.write f name records).2.node? name = some final ∧
      (final.replica.EndedBy error ∨
        (appendAll (records node.replica) c.rehearsal).1 = .error error ∨
        ∃ partition offset, error = .syncTimeout partition offset ∧
          final.replica.refusal = none) := by
  cases refused : node.replica.refusal with
  | some reason =>
    rw [write_of_refused found refused] at failed ⊢
    cases failed
    exact ⟨node, found, .inl (.of_refusal refused)⟩
  | none =>
    have is_open : node.replica.ensureOpen = .ok () := by rw [Replica.ensureOpen_eq, refused]
    let appended := appendAll (records node.replica) c.rehearsal
    obtain ⟨before, there⟩ := node?_settle (c := { c with rehearsal := appended.2 }) f found
    have settled := forall_settle (c := { c with rehearsal := appended.2 })
      (Replica.Consistent.invariant f) consistent
    simp only [write, found, is_open] at failed ⊢
    cases outcome : (appendAll (records node.replica) c.rehearsal).1 with
    | error other =>
      simp only [outcome] at failed ⊢
      cases failed
      exact ⟨_, there, .inr (.inl rfl)⟩
    | ok positions =>
      simp only [outcome] at failed ⊢
      refine ⟨_, there, ?_⟩
      rcases sync_error there (settled _ (mem_of_node? there)) failed with ended | late
      · exact .inl ended
      · exact .inr (.inr late)

theorem wait_error (found : c.node? name = some node) (consistent : node.replica.Consistent)
    {timeout : Duration} {error : StoreError}
    (failed : c.waitUntilCaughtUp name timeout = .error error) :
    node.replica.EndedBy error ∨ error = .notCaughtUp node.replica.topic timeout := by
  unfold waitUntilCaughtUp Progress.catchUp at failed
  simp only [found] at failed
  cases caughtUp : node.replica.progress.caughtUp with
  | true =>
    simp only [caughtUp, ite_true] at failed
    cases failed
  | false =>
    cases failure : node.replica.progress.failure with
    | some other =>
      simp only [caughtUp, failure, Bool.false_eq_true, ite_false] at failed
      cases failed
      exact .inl (.inl failure)
    | none =>
      cases ended : node.replica.progress.stopped with
      | true =>
        simp only [caughtUp, failure, ended, Bool.false_eq_true, ite_false, ite_true] at failed
        cases failed
        rcases consistent.mp ended with shut | failing
        · exact .inl (.inr ⟨shut, rfl⟩)
        · exact absurd failure failing
      | false =>
        simp only [caughtUp, failure, ended, Bool.false_eq_true, ite_false] at failed
        cases failed
        exact .inr rfl

/-- Whatever else happens, no write on the store succeeds any more. -/
def Unusable (f : Following V O E) (c : Cluster V O E) (name : String) : Prop :=
  ∀ more : List (Event V O E), (∀ event ∈ more, event.starts name = false) →
    ∀ write : Event V O E, write.writes name = true →
      (call f (Event.runAll f (fun _ observer => observer) id c more) write).1.error? ≠ none

theorem node?_setHeld (f : Following V O E) (found : c.node? name = some node) :
    (c.setHeld f name true).node? name = some { node with held := true } := by
  have set := node?_setNode c { node with held := true } name
  rw [if_pos (node?_name found)] at set
  obtain ⟨before, there⟩ := node?_settle f
    (show { c.setNode { node with held := true } with shared := c.shared }.node? name = _ from set)
  simp only [setHeld, onNode, found]
  exact there

theorem putAll_nil_of_held (found : c.node? name = some node) (held : node.held = true)
    (consistent : node.replica.Consistent) (unrefused : node.replica.refusal = none) :
    (c.putAll f name []).1 = .ok () := by
  have is_open : node.replica.ensureOpen = .ok () := by rw [Replica.ensureOpen_eq, unrefused]
  have running := consistent.refusal_eq_none_iff.mp unrefused
  have unfailed : node.replica.progress.failure = none :=
    by_contra fun failing => Replica.refusal_ne_none_iff.mpr (.inr failing) unrefused
  have synced : (settle f c).sync name [] = .ok () := by
    obtain ⟨before, there⟩ := node?_settle f found
    have still : follow f c.log node before = (node, before) := by
      simp only [follow, held, Bool.true_or, ite_true]
    have done : node.replica.progress.sync [] = .done :=
      Progress.sync_eq_done_iff.mpr ⟨unfailed, running, List.forall_mem_nil _⟩
    rw [still] at there
    simp only [sync, there, done]
  simp only [putAll, write, found, is_open, List.map_nil, appendAll]
  exact synced

theorem unusable_iff (f : Following V O E) (found : c.node? name = some node)
    (consistent : node.replica.Consistent) :
    Unusable f c name ↔ node.replica.closed = true ∨ node.replica.progress.failure ≠ none := by
  rw [← Replica.refusal_ne_none_iff]
  constructor
  · intro unusable unrefused
    -- A store that is held waits for nothing it has to consume, so writing no entries succeeds.
    have failed := unusable [.setHeld name true]
      (List.forall_mem_singleton.mpr rfl) (.putAll name []) (decide_eq_true rfl)
    have succeeded := putAll_nil_of_held (f := f) (node?_setHeld f found) rfl consistent unrefused
    exact failed (congrArg (fun outcome => (Event.Answer.done (V := V) outcome).error?) succeeded)
  · intro refused more lasts write writing
    obtain ⟨final, there, same⟩ := Event.stays_all (f := f) (fun _ observer => observer) id found
      (consistent.refusal_ne_none_iff.mp refused) lasts
    have still_refused : final.replica.refusal ≠ none := by
      rw [same, Replica.refusal_ne_none_iff]
      exact (Replica.refusal_ne_none_iff.mp refused).imp (fun shut => by rw [shut, Bool.true_or]) id
    obtain ⟨reason, known⟩ := Option.ne_none_iff_exists'.mp still_refused
    rw [call, (Event.refused _ _ there known write writing).1]
    exact Option.some_ne_none reason

theorem put_of_open (found : c.node? name = some node) (unrefused : node.replica.refusal = none)
    (available : c.log.unavailable = none) (unbounded : c.rehearsal.accepted = none)
    (unplanned : c.rehearsal.acknowledgements = []) {key : String} {value : V} {payload : Bytes}
    (encoded : f.codec.encode value = .ok payload) :
    Appended c.log (call f c (.put name key value)).2.log (Key.encode key, some payload) := by
  have is_open : node.replica.ensureOpen = .ok () := by rw [Replica.ensureOpen_eq, unrefused]
  obtain ⟨positions, log, appended, _, _, all⟩ := appendAll_of_available unplanned unbounded
    available [(Key.encode key, some payload)]
  have item : Replica.encodeEntry f.codec key value = .ok (Key.encode key, some payload) := by
    simp only [Replica.encodeEntry, encoded]
  have there := all _ (List.mem_singleton_self _)
  simp only [call, Event.run, put, write, found, is_open, item]
  rw [List.map_singleton] at appended
  simp only [appended]
  exact there

theorem call_error (found : c.node? name = some node)
    (consistent : ∀ node ∈ c.nodes, node.replica.Consistent) {event : Event V O E}
    (called : event.writes name = true ∨ ∃ timeout, event = .waitUntilCaughtUp name timeout)
    {error : StoreError} (answered : (call f c event).1.error? = some error) :
    ∃ final, (call f c event).2.node? name = some final ∧
      (final.replica.EndedBy error ∨
        (error.isFatal = true ∧
          ((∃ timeout, event = .waitUntilCaughtUp name timeout ∧
              error = .notCaughtUp node.replica.topic timeout) ∨
            event.writes name = true ∧
              (appendAll (event.records f.codec node.replica) c.rehearsal).1 = .error error)) ∨
        ∃ partition offset, error = .syncTimeout partition offset ∧
          final.replica.refusal = none) := by
  rcases called with writing | ⟨timeout, rfl⟩
  · obtain ⟨same_answer, same_left⟩ :=
      event.run_of_writes (f := f) (fun _ observer => observer) id c writing
    rw [call, same_answer, Event.Answer.error?_done] at answered
    rw [call, same_left]
    obtain ⟨final, there, ended | refused | late⟩ := write_error found consistent _ answered
    · exact ⟨final, there, .inl ended⟩
    · have fatal := fatal_of_appendAll
        (fun _ => event.fatal_of_records f.codec node.replica) refused
      exact ⟨final, there, .inr (.inl ⟨fatal, .inr ⟨writing, refused⟩⟩)⟩
    · exact ⟨final, there, .inr (.inr late)⟩
  · have failed : c.waitUntilCaughtUp name timeout = .error error :=
      Event.Answer.error?_done.mp answered
    refine ⟨node, found, ?_⟩
    rcases wait_error found (consistent node (mem_of_node? found)) failed with ended | rfl
    · exact .inl ended
    · exact .inr (.inl ⟨rfl, .inl ⟨timeout, rfl, rfl⟩⟩)

/-- When a call on a store answers with an error, the store is unusable from then on exactly if it
was closed or has failed by the end of the call. If that is not where the error came from, it came
from the deadline of the wait, from an entry without an encoding or an append that the log refused,
which all count as fatal, or from the deadline of the write. An error that does not count as fatal
leaves the store usable, unless it is what the store had failed with; and a usable store goes on
to append. -/
theorem error_final_iff_ended (f : Following V O E) (log : Log) (shared : E)
    (history : List (Event V O E)) {name : String} {node : Node V O} {event : Event V O E}
    (found : (after f log shared history).node? name = some node)
    (called : event.writes name = true ∨ ∃ timeout, event = .waitUntilCaughtUp name timeout)
    {error : StoreError}
    (answered : (call f (after f log shared history) event).1.error? = some error) :
    let c := after f log shared history
    let left := (call f c event).2
    ∃ final, left.node? name = some final ∧
      (Unusable f left name ↔
        final.replica.closed = true ∨ final.replica.progress.failure ≠ none) ∧
      (final.replica.EndedBy error ∨
        (error.isFatal = true ∧
          ((∃ timeout, event = .waitUntilCaughtUp name timeout ∧
              error = .notCaughtUp node.replica.topic timeout) ∨
            event.writes name = true ∧
              (appendAll (event.records f.codec node.replica) c.rehearsal).1 = .error error)) ∨
        ∃ partition offset, error = .syncTimeout partition offset ∧ ¬ Unusable f left name) ∧
      (error.isFatal = false →
        ¬ Unusable f left name ∨ final.replica.progress.failure = some error) ∧
      (¬ Unusable f left name → left.log.unavailable = none → left.rehearsal.accepted = none →
        left.rehearsal.acknowledgements = [] → ∀ key value payload,
          f.codec.encode value = .ok payload →
          Appended left.log (call f left (.put name key value)).2.log
            (Key.encode key, some payload)) := by
  intro c left
  have consistent := after_consistent f log shared history
  obtain ⟨final, there, cause⟩ := call_error found consistent called answered
  have left_consistent : final.replica.Consistent :=
    Event.forall_run (Replica.Consistent.invariant f) consistent _ _ event final
      (mem_of_node? there)
  have unusable := unusable_iff f there left_consistent
  have usable : ¬ Unusable f left name ↔ final.replica.refusal = none := by
    rw [unusable, ← Replica.refusal_ne_none_iff, ne_eq, Decidable.not_not]
  refine ⟨final, there, unusable, ?_, fun mild => ?_, ?_⟩
  · rw [usable]
    exact cause
  · rcases cause with (failure | ⟨_, rfl⟩) | ⟨fatal, _⟩ | ⟨_, _, _, unrefused⟩
    · exact .inr failure
    · cases mild
    · rw [mild] at fatal
      cases fatal
    · exact .inl (usable.mpr unrefused)
  · intro still available unbounded unplanned key value payload
    exact put_of_open there (usable.mp still) available unbounded unplanned

def cutOff : List (Event Bytes Unit Unit) := [.start "roads" [()] {}, .rehearse (some 0) []]

theorem refused_append_is_not_final :
    let log := Log.create "roads" 1
    let write : Event Bytes Unit Unit := .put "roads" "a" [7]
    (call .plain (after .plain log () cutOff) write).1.error?.any StoreError.isFatal = true ∧
      (call .plain (after .plain log () (cutOff ++ [write, .rehearse none []])) write).1.error? =
        none := by
  intro log write
  have succeeded : (call .plain (after .plain log () (cutOff ++ [write, .rehearse none []]))
      write).1.error?.isNone = true := by decide +kernel
  exact ⟨by decide +kernel, Option.isNone_iff_eq_none.mp succeeded⟩

theorem refused_append_leaves_store_usable :
    let c := after .plain (Log.create "roads" 1) () cutOff
    let write : Event Bytes Unit Unit := .put "roads" "a" [7]
    (∃ node, c.node? "roads" = some node) ∧ write.writes "roads" = true ∧
      ∃ error, (call .plain c write).1.error? = some error ∧ error.isFatal = true ∧
        ¬ Unusable .plain (call .plain c write).2 "roads" := by
  intro c write
  have known : (c.node? "roads").isSome = true := by decide +kernel
  obtain ⟨node, found⟩ := Option.isSome_iff_exists.mp known
  have refused : (call .plain c write).1.error?.any StoreError.isFatal = true := by decide +kernel
  obtain ⟨error, answered, fatal⟩ := (Option.any_eq_true _ _).mp refused
  have healthy : ((call .plain c write).2.node? "roads").all (fun node =>
      !node.replica.closed && node.replica.progress.failure.isNone) = true := by decide +kernel
  obtain ⟨final, there, unusable, _⟩ :=
    error_final_iff_ended .plain (Log.create "roads" 1) () cutOff found (.inl rfl) answered
  refine ⟨⟨node, found⟩, rfl, error, answered, fatal, fun lost => ?_⟩
  have sound := (Option.all_eq_true _ _).mp healthy final there
  rw [Bool.and_eq_true, Bool.not_eq_true', Option.isNone_iff_eq_none] at sound
  rcases unusable.mp lost with shut | failed
  · rw [sound.1] at shut
    cases shut
  · exact failed sound.2

end Cluster

end RoadRegistry
