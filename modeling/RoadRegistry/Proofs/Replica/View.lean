import RoadRegistry.Proofs.Replica.Consumption

namespace RoadRegistry

variable {V O P E F : Type}

def Notice.map (observer : O → P) (shared : E → F) (notice : Notice O E) : Notice P F :=
  ⟨observer notice.observer, shared notice.shared, notice.panicked⟩

/-- Changing one item and then looking through `view` is looking first, when that shows the same
change. -/
theorem map_modify {α β : Type} (view : α → β) (change : α → α) (other : β → β)
    (same : ∀ item, view (change item) = other (view item)) (items : List α) (index : Nat) :
    (items.modify index change).map view = (items.map view).modify index other := by
  apply List.ext_getElem?
  intro place
  rw [List.getElem?_map, List.getElem?_modify, List.getElem?_modify, List.getElem?_map]
  cases items[place]? with
  | none => rfl
  | some item =>
    simp only [Option.map_eq_map, Option.map_some]
    split
    · rw [same]
    · rfl

/-- Through the view, following by `f` is following by `g`. -/
structure View (f : Following V O E) (g : Following V P F) where
  observer : O → P
  shared : E → F
  time : UInt64 → UInt64
  time_zero : time 0 = 0
  codec : g.codec = f.codec
  now : ∀ state, g.now (shared state) = time (f.now state)
  notify : ∀ get key change o state, g.notify get key change (observer o) (shared state) =
    (f.notify get key change o state).map observer shared

namespace View

variable {f : Following V O E} {g : Following V P F} (v : View f g)

def replica (r : Replica V O) : Replica V P where
  topic := r.topic
  entries := r.entries
  progress := r.progress
  counters := { r.counters with lastAppliedAt := v.time r.counters.lastAppliedAt }
  observers := r.observers.map v.observer
  closed := r.closed

def state (state : Replica V O × E) : Replica V P × F := (v.replica state.1, v.shared state.2)

theorem all (get : String → Option V) (key : String) (change : Change V) (observers : List O)
    (shared : E) :
    g.notify.all get key change (observers.map v.observer) (v.shared shared) =
      (f.notify.all get key change observers shared).map (List.map v.observer) v.shared := by
  induction observers generalizing shared with
  | nil => rfl
  | cons observer rest ih =>
    rw [List.map_cons, Notify.all, Notify.all, v.notify]
    cases gone : (f.notify get key change observer shared).panicked with
    | true => simp only [Notice.map, gone, ite_true, List.map_cons]
    | false =>
      have later := ih (f.notify get key change observer shared).shared
      simp only [Notice.map, gone, Bool.false_eq_true, ite_false, List.map_cons, later]

theorem tell (record : Record) (key : String) (change : Option (Change V)) (r : Replica V O)
    (shared : E) :
    Replica.tell g record key change (v.replica r) (v.shared shared) =
      v.state (Replica.tell f record key change r shared) := by
  cases change with
  | none => rfl
  | some change =>
    have told : g.notify.all (v.replica r).get? key change (v.replica r).observers
        (v.shared shared) =
          (f.notify.all r.get? key change r.observers shared).map (List.map v.observer) v.shared :=
      v.all r.get? key change r.observers shared
    simp only [Replica.tell, told, Notice.map]
    cases (f.notify.all r.get? key change r.observers shared).panicked with
    | true => rfl
    | false => rfl

theorem replica_apply (r : Replica V O) (shared : E) (key : String) (value : Option V) :
    v.replica (r.apply (f.now shared) key value) =
      (v.replica r).apply (g.now (v.shared shared)) key value := by
  rw [v.now]
  rfl

theorem consume (state : Replica V O × E) (record : Record) :
    Replica.consume g (v.state state) record = v.state (Replica.consume f state record) := by
  obtain ⟨r, shared⟩ := state
  change Replica.consume g (v.replica r, v.shared shared) record = _
  cases ended : r.progress.stopped with
  | true =>
    rw [Replica.consume_of_stopped ended, Replica.consume_of_stopped (r := v.replica r) ended]
    rfl
  | false =>
    have running : (v.replica r).progress.stopped = false := ended
    cases said : Decoded.ofRecord f.codec record with
    | legacy =>
      rw [Replica.consume_of_legacy ended said,
        Replica.consume_of_legacy running (v.codec ▸ said)]
      rfl
    | broken key error =>
      rw [Replica.consume_of_broken ended said,
        Replica.consume_of_broken running (v.codec ▸ said)]
      rfl
    | entry key value =>
      rw [Replica.consume_of_entry ended said,
        Replica.consume_of_entry running (v.codec ▸ said), ← v.tell, v.replica_apply]
      rfl

theorem foldl (records : List Record) (state : Replica V O × E) :
    records.foldl (Replica.consume g) (v.state state) =
      v.state (records.foldl (Replica.consume f) state) :=
  List.foldl_hom v.state fun state record => v.consume state record

theorem endOfBatch (r : Replica V O) (isIdle : Bool) :
    (v.replica r).endOfBatch isIdle = v.replica (r.endOfBatch isIdle) := by
  unfold Replica.endOfBatch
  change (if r.progress.stopped then _ else _) = _
  cases r.progress.stopped <;> rfl

theorem replica_close (r : Replica V O) : (v.replica r).close = r.close.map v.replica := by
  unfold Replica.close
  have same_closed : (v.replica r).closed = r.closed := rfl
  have stopped : (v.replica r).progress.stopped = r.progress.stopped := rfl
  simp only [same_closed, stopped]
  cases r.closed with
  | true => rfl
  | false => cases r.progress.stopped <;> rfl

theorem receive (state : Replica V O × E) (polled : Except StoreError (List Record)) :
    Replica.receive g (v.state state) polled = v.state (Replica.receive f state polled) := by
  obtain ⟨r, shared⟩ := state
  change Replica.receive g (v.replica r, v.shared shared) polled = _
  unfold Replica.receive
  cases ended : r.progress.stopped with
  | true =>
    have stopped : (v.replica r).progress.stopped = true := ended
    simp only [ended, stopped, ite_true]
    rfl
  | false =>
    have running : (v.replica r).progress.stopped = false := ended
    simp only [ended, running, Bool.false_eq_true, ite_false]
    cases polled with
    | error error => rfl
    | ok batch =>
      have read : batch.foldl (Replica.consume g) (v.replica r, v.shared shared) =
          v.state (batch.foldl (Replica.consume f) (r, shared)) := v.foldl batch (r, shared)
      simp only [read, View.state, v.endOfBatch]

theorem foldl_receive (polls : List (List Record)) (state : Replica V O × E) :
    polls.foldl (fun state batch => Replica.receive g state (.ok batch)) (v.state state) =
      v.state (polls.foldl (fun state batch => Replica.receive f state (.ok batch)) state) :=
  List.foldl_hom v.state fun state batch => v.receive state (.ok batch)

theorem poll (log : Log) (reader : Reader) (state : Replica V O × E) :
    Replica.poll g log reader (v.state state) =
      (Replica.poll f log reader state).map id v.state := by
  unfold Replica.poll
  cases reader.poll log with
  | error error => exact congrArg (reader, ·) (v.receive state _)
  | ok polled => exact congrArg (polled.2, ·) (v.receive state _)

end View

end RoadRegistry
