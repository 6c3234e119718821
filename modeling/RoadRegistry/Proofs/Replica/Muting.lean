import RoadRegistry.Proofs.Replica.Consumption
import RoadRegistry.Proofs.Replica.Transitions

namespace RoadRegistry

namespace Gated

def suppress (count : Nat) (o : Gated O) : Gated O :=
  { o with gate := { o.gate with suppressed := o.gate.suppressed + count } }

theorem suppress_suppress (first second : Nat) (o : Gated O) :
    (o.suppress first).suppress second = o.suppress (first + second) := by
  simp only [suppress, Nat.add_assoc]

end Gated

/-- Following a log with muted gates and nobody behind them. -/
def Following.muting (codec : Codec V) (now : E → UInt64) : Following V (Gated O) E where
  codec
  now
  notify _ _ _ o shared := ⟨o.suppress 1, shared, false⟩

theorem Following.muting_quiet (codec : Codec V) (now : E → UInt64) :
    (muting codec now : Following V (Gated O) E).notify.Quiet := fun _ _ _ _ _ => rfl

section All

variable {get : String → Option V} {key : String} {change : Change V} {shared : E}

theorem Notify.all_muting (codec : Codec V) (now : E → UInt64) (observers : List (Gated O)) :
    (Following.muting codec now).notify.all get key change observers shared =
      ⟨observers.map (Gated.suppress 1), shared, false⟩ := by
  induction observers with
  | nil => rfl
  | cons observer rest ih =>
    rw [Notify.all]
    have others : (Following.muting codec now).notify.all get key change rest
        ((Following.muting codec now).notify get key change observer shared).shared = _ := ih
    rw [others]
    rfl

theorem Notify.all_gated (inner : Notify V O E) {observers : List (Gated O)}
    (muted : ∀ o ∈ observers, o.gate.muted = true) :
    (Gated.notify inner).all get key change observers shared =
      ⟨observers.map (Gated.suppress 1), shared, false⟩ := by
  induction observers with
  | nil => rfl
  | cons observer rest ih =>
    obtain ⟨first, others⟩ := List.forall_mem_cons.mp muted
    have dropped : Gated.notify inner get key change observer shared =
        ⟨observer.suppress 1, shared, false⟩ := by
      simp only [Gated.notify, Gated.suppress, first, ite_true]
    simp only [Notify.all, dropped, ih others, Bool.false_eq_true, ite_false, List.map_cons]

end All

namespace Replica

variable {f : Following V (Gated O) E} {inner : Notify V O E} {r : Replica V (Gated O)} {shared : E}

def Muted (r : Replica V (Gated O)) : Prop := ∀ o ∈ r.observers, o.gate.muted = true

theorem Muted.suppress {s : Replica V (Gated O)} (muted : r.Muted) {count : Nat}
    (same : s.observers = r.observers.map (Gated.suppress count)) : s.Muted := by
  intro o member
  rw [same] at member
  obtain ⟨before, there, rfl⟩ := List.mem_map.mp member
  exact muted before there

theorem consume_gated (gated : f.notify = Gated.notify inner) (muted : r.Muted)
    (record : Record) :
    consume f (r, shared) record = consume (.muting f.codec f.now) (r, shared) record := by
  cases ended : r.progress.stopped with
  | true => rw [consume_of_stopped ended, consume_of_stopped ended]
  | false =>
    cases said : Decoded.ofRecord f.codec record with
    | legacy =>
      rw [consume_of_legacy ended said]
      exact (consume_of_legacy (f := .muting f.codec f.now) ended said).symm
    | broken key error =>
      rw [consume_of_broken ended said]
      exact (consume_of_broken (f := .muting f.codec f.now) ended said).symm
    | entry key value =>
      rw [consume_of_entry ended said]
      refine Eq.trans ?_ (consume_of_entry (f := .muting f.codec f.now) ended said).symm
      cases Change.between (r.get? key) value with
      | none => rfl
      | some change =>
        have still : (r.apply (f.now shared) key value).Muted := muted
        have now : (Following.muting f.codec f.now : Following V (Gated O) E).now = f.now := rfl
        simp only [tell, gated, Notify.all_gated inner still, Notify.all_muting, now]

theorem consume_muting (codec : Codec V) (now : E → UInt64) (running : r.progress.stopped = false)
    (shared : E) (record : Record) :
    let s := consume (.muting codec now) (r, shared) record
    s.2 = shared ∧ s.1.get? = Live.after codec r.get? record ∧
      s.1.observers = r.observers.map
        (Gated.suppress (Live.transition codec r.get? record).toList.length) := by
  have uncounted : r.observers.map (Gated.suppress 0) = r.observers := List.map_id _
  cases said : Decoded.ofRecord codec record with
  | legacy =>
    rw [consume_of_legacy running said, Live.after_of_no_entry (by simp [said]),
      Live.transition_of_no_entry (by simp [said])]
    exact ⟨rfl, rfl, uncounted.symm⟩
  | broken key error =>
    rw [consume_of_broken running said, Live.after_of_no_entry (by simp [said]),
      Live.transition_of_no_entry (by simp [said])]
    exact ⟨rfl, rfl, uncounted.symm⟩
  | entry key value =>
    have shown := get?_apply r (now shared) key value
    rw [consume_of_entry running said, Live.after_of_entry said, Live.transition_of_entry said]
    cases Change.between (r.get? key) value with
    | none => exact ⟨rfl, shown, uncounted.symm⟩
    | some change =>
      simp only [tell, Notify.all_muting, Bool.false_eq_true, ite_false]
      exact ⟨trivial, shown, rfl⟩

theorem foldl_muting (codec : Codec V) (now : E → UInt64) (running : r.progress.stopped = false)
    {records : List Record} (passable : ∀ record ∈ records, Passable codec record) (shared : E) :
    let s := records.foldl (consume (.muting codec now)) (r, shared)
    s.2 = shared ∧ s.1.observers = r.observers.map
      (Gated.suppress (Live.transitions codec r.get? records).length) := by
  induction records generalizing r with
  | nil => exact ⟨rfl, (List.map_id _).symm⟩
  | cons record rest ih =>
    obtain ⟨first, others⟩ := List.forall_mem_cons.mp passable
    obtain ⟨same, shown, counted⟩ := consume_muting codec now running shared record
    have moved := (consume_passable (f := .muting codec now)
      (Following.muting_quiet codec now) running first shared).1
    have still := (congrArg Progress.stopped moved).trans running
    obtain ⟨same_later, counted_later⟩ := ih still others
    have step : consume (.muting codec now) (r, shared) record =
        ((consume (.muting codec now) (r, shared) record).1, shared) := Prod.ext rfl same
    rw [List.foldl_cons, step]
    refine ⟨same_later, counted_later.trans ?_⟩
    rw [counted, shown, List.map_map, Live.transitions, List.length_append]
    exact List.map_congr_left fun o _ => o.suppress_suppress ..

theorem foldl_muting_fault (codec : Codec V) (now : E → UInt64)
    (running : r.progress.stopped = false) {before : List Record} {record : Record}
    (passable : ∀ earlier ∈ before, Passable codec earlier) {key : String} {error : DecodeError}
    (broken : Decoded.ofRecord codec record = .broken key error) (after : List Record)
    (shared : E) :
    let s := (before ++ record :: after).foldl (consume (.muting codec now)) (r, shared)
    s.2 = shared ∧ s.1.progress.stopped = true ∧
      s.1.progress.failure = r.progress.failure.or (some (.serialization key error)) ∧
      s.1.observers = r.observers.map
        (Gated.suppress (Live.transitions codec r.get? before).length) := by
  intro s
  have quiet := Following.muting_quiet codec now (O := O)
  have ended := foldl_consume_fault quiet running passable broken after shared
  obtain ⟨_, unfailed, _⟩ := foldl_consume_passable quiet running passable shared
  obtain ⟨same, counted⟩ := foldl_muting codec now running passable shared
  have left : s = _ := ended
  rw [left]
  refine ⟨same, rfl, ?_, counted⟩
  simp only [finish, Progress.finish, unfailed]

theorem shared_muting (codec : Codec V) (now : E → UInt64) (running : r.progress.stopped = false)
    (records : List Record) (shared : E) :
    (records.foldl (consume (.muting codec now)) (r, shared)).2 = shared := by
  rcases passable_or_fault codec records with
    all | ⟨before, record, after, key, error, rfl, passable, broken⟩
  · exact (foldl_muting codec now running all shared).1
  · exact (foldl_muting_fault codec now running passable broken after shared).1

theorem Muted.consume (muted : r.Muted) (codec : Codec V) (now : E → UInt64) (shared : E)
    (record : Record) : (consume (.muting codec now) (r, shared) record).1.Muted := by
  cases ended : r.progress.stopped with
  | true =>
    rw [consume_of_stopped ended]
    exact muted
  | false => exact muted.suppress (consume_muting codec now ended shared record).2.2

theorem foldl_gated (gated : f.notify = Gated.notify inner) (muted : r.Muted)
    (records : List Record) (shared : E) :
    records.foldl (consume f) (r, shared) =
      records.foldl (consume (.muting f.codec f.now)) (r, shared) := by
  induction records generalizing r shared with
  | nil => rfl
  | cons record rest ih =>
    rw [List.foldl_cons, List.foldl_cons, consume_gated gated muted]
    exact ih (muted.consume f.codec f.now shared record) _

theorem receive_gated (gated : f.notify = Gated.notify inner) (muted : r.Muted)
    (polled : Except StoreError (List Record)) (shared : E) :
    receive f (r, shared) polled = receive (.muting f.codec f.now) (r, shared) polled := by
  unfold receive
  cases polled with
  | error error => rfl
  | ok batch => simp only [foldl_gated gated muted]

end Replica

end RoadRegistry
