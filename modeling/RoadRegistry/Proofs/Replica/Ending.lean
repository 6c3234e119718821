import RoadRegistry.Proofs.Replica.Following

namespace RoadRegistry

namespace Replica

def Consistent (r : Replica V O) : Prop :=
  r.progress.stopped = true ↔ r.closed = true ∨ r.progress.failure ≠ none

def refusal (r : Replica V O) : Option StoreError :=
  if r.closed then some .closed else r.progress.failure

variable {f : Following V O E} {r s : Replica V O} {shared : E}

def EndedBy (r : Replica V O) (error : StoreError) : Prop :=
  r.progress.failure = some error ∨ r.closed = true ∧ error = .closed

theorem ensureOpen_eq (r : Replica V O) : r.ensureOpen =
    match r.refusal with
    | some error => .error error
    | none => .ok () := by
  unfold ensureOpen refusal
  cases r.closed <;> rfl

theorem refusal_ne_none_iff : r.refusal ≠ none ↔ r.closed = true ∨ r.progress.failure ≠ none := by
  unfold refusal
  cases r.closed <;> simp

theorem EndedBy.of_refusal {error : StoreError} (refused : r.refusal = some error) :
    r.EndedBy error := by
  unfold refusal at refused
  split at refused
  · next shut => exact .inr ⟨shut, (Option.some.inj refused).symm⟩
  · exact .inl refused

theorem Consistent.refusal_ne_none_iff (consistent : r.Consistent) :
    r.refusal ≠ none ↔ r.progress.stopped = true :=
  Replica.refusal_ne_none_iff.trans consistent.symm

theorem Consistent.refusal_eq_none_iff (consistent : r.Consistent) :
    r.refusal = none ↔ r.progress.stopped = false := by
  rw [← Bool.not_eq_true, ← consistent.refusal_ne_none_iff, ne_eq, Decidable.not_not]

theorem receive_of_stopped (ended : r.progress.stopped = true)
    (polled : Except StoreError (List Record)) : receive f (r, shared) polled = (r, shared) := by
  simp only [receive, ended, ite_true]

theorem poll_of_stopped (ended : r.progress.stopped = true) (log : Log) (reader : Reader) :
    (poll f log reader (r, shared)).2 = (r, shared) := by
  unfold poll
  cases reader.poll log <;> simp only [receive_of_stopped ended]

theorem endOfBatch_of_stopped (ended : r.progress.stopped = true) (isIdle : Bool) :
    r.endOfBatch isIdle = r := by
  simp only [endOfBatch, ended, ite_true]

theorem close_of_closed (shut : r.closed = true) : r.close = .error .closed := by
  simp only [close, shut, ite_true]

theorem close_of_stopped (ended : r.progress.stopped = true) (unclosed : r.closed = false) :
    r.close = .ok { r with closed := true } := by
  simp only [close, unclosed, ended, Bool.false_eq_true, ite_false, ite_true]

theorem close_of_running (running : r.progress.stopped = false) (unclosed : r.closed = false) :
    r.close = .ok ({ r with closed := true }.finish none) := by
  simp only [close, unclosed, running, Bool.false_eq_true, ite_false]

theorem closed_of_close (shut : r.close = .ok s) :
    s.closed = true ∧ s.progress.stopped = true := by
  unfold close at shut
  split at shut
  · cases shut
  · cases shut
    cases ended : r.progress.stopped <;> simp [ended, finish, Progress.finish]

/-- A property that no replica of a cluster loses, whatever is done to it. -/
structure Invariant (f : Following V O E) (P : Replica V O → Prop) : Prop where
  begun : ∀ topic observers ends earliest,
    P (({ topic, observers } : Replica V O).begin ends earliest)
  unopened : ∀ topic observers error,
    P (({ topic, observers } : Replica V O).finish (some error))
  received : ∀ r shared polled, P r → P (receive f (r, shared) polled).1
  idled : ∀ r, P r → P (r.endOfBatch true)
  closed : ∀ r s, P r → r.close = .ok s → P s

namespace Consistent

theorem congr (consistent : r.Consistent) (stopped : s.progress.stopped = r.progress.stopped)
    (closed : s.closed = r.closed) (failure : s.progress.failure = r.progress.failure) :
    s.Consistent := by
  unfold Consistent
  rw [stopped, closed, failure]
  exact consistent

theorem of_finish {error : StoreError} (ended : s.progress = r.progress.finish (some error)) :
    s.Consistent := by
  unfold Consistent
  rw [ended]
  simp [Progress.finish]

theorem begin (topic : String) (observers : List O) (ends earliest : Dictionary Int Int) :
    (({ topic, observers } : Replica V O).begin ends earliest).Consistent := by
  obtain ⟨target, caughtUp, begun⟩ :=
    ({ topic, observers } : Replica V O).begin_eq ends earliest
  rw [begun]
  simp [Consistent]

theorem consume (consistent : r.Consistent) (shared : E) (record : Record) :
    (consume f (r, shared) record).1.Consistent := by
  cases ended : r.progress.stopped with
  | true =>
    rw [consume_of_stopped ended]
    exact consistent
  | false =>
    rcases consume_cases f shared record ended with ⟨failure, failed⟩ | ⟨moved, _⟩
    · exact of_finish failed
    · refine consistent.congr ?_ consume_closed ?_
      · exact (congrArg Progress.stopped moved).trans rfl
      · exact (congrArg Progress.failure moved).trans rfl

theorem foldl_consume (consistent : r.Consistent) (shared : E) (records : List Record) :
    (records.foldl (Replica.consume f) (r, shared)).1.Consistent := by
  induction records generalizing r shared with
  | nil => exact consistent
  | cons record rest ih => exact ih (consistent.consume shared record) _

theorem endOfBatch (consistent : r.Consistent) (isIdle : Bool) :
    (r.endOfBatch isIdle).Consistent := by
  obtain ⟨caughtUp, same⟩ := r.endOfBatch_eq isIdle
  rw [same]
  exact consistent.congr rfl rfl rfl

theorem receive (consistent : r.Consistent) (shared : E)
    (polled : Except StoreError (List Record)) :
    (receive f (r, shared) polled).1.Consistent := by
  cases ended : r.progress.stopped with
  | true =>
    rw [receive_of_stopped ended]
    exact consistent
  | false =>
    simp only [Replica.receive, ended, Bool.false_eq_true, ite_false]
    cases polled with
    | error error => exact of_finish (r := r) rfl
    | ok batch => exact (consistent.foldl_consume shared batch).endOfBatch batch.isEmpty

theorem close (shut : r.close = .ok s) : s.Consistent := by
  obtain ⟨closed, ended⟩ := closed_of_close shut
  exact ⟨fun _ => .inl closed, fun _ => ended⟩

theorem invariant (f : Following V O E) : Invariant f Consistent where
  begun := begin
  unopened _ _ _ := of_finish rfl
  received _ shared polled consistent := consistent.receive shared polled
  idled _ consistent := consistent.endOfBatch true
  closed _ _ _ := close

end Consistent

end Replica

end RoadRegistry
