import RoadRegistry.Proofs.Cluster.Events
import RoadRegistry.Proofs.Replica.Dispatch
import RoadRegistry.Reaction.Basic

namespace RoadRegistry

theorem Reaction.notify_quiet (binding : Binding V A) : (Reaction.notify binding).Quiet := by
  intro get key change reaction shared
  cases reaction <;> rfl

theorem Gated.notify_quiet {inner : Notify V O E} (quiet : inner.Quiet) :
    (Gated.notify inner).Quiet := by
  intro get key change o shared
  unfold Gated.notify
  cases o.gate.muted with
  | true => rfl
  | false => exact quiet get key change o.inner shared

inductive Seat (O : Type) where
  | reaction (gated : Gated Reaction)
  | other (observer : O)

namespace Seat

/-- The reaction acts on a part of the state that the other observers have nothing to do with. -/
def notify (binding : S → Binding V A) (other : Notify V O S) : Notify V (Seat O) (S × A) :=
  fun get key change seat shared =>
    match seat with
    | .reaction gated =>
      (Gated.notify (Reaction.notify (binding shared.1)) get key change gated shared.2).map
        .reaction (shared.1, ·)
    | .other observer =>
      (other get key change observer shared.1).map .other (·, shared.2)

def other? : Seat O → Option O
  | .reaction _ => none
  | .other observer => some observer

def switch (muted : Bool) : Seat O → Seat O
  | .reaction gated => .reaction (if muted then gated.mute else gated.unmute)
  | .other observer => .other observer

theorem other?_switch (muted : Bool) (seat : Seat O) :
    (seat.switch muted).other? = seat.other? := by
  cases seat <;> rfl

end Seat

def Notify.optional (notify : Notify V O S) : Notify V (Option O) S :=
  fun get key change observer shared =>
    match observer with
    | none => ⟨none, shared, false⟩
    | some observer => (notify get key change observer shared).map some id

/-- What a run has of its own: the reactions and all that they act on. -/
structure Staging (V S A : Type) where
  binding : S → Binding V A
  reaction : String → Gated Reaction
  around : A
  now : S → A → UInt64

namespace Staging

variable {V O S A : Type}

def following (staging : Staging V S A) (codec : Codec V) (other : Notify V O S) :
    Following V (Seat O) (S × A) where
  codec
  now shared := staging.now shared.1 shared.2
  notify := Seat.notify staging.binding other

def seat (staging : Staging V S A) (store : String) : Option O → Seat O
  | none => .reaction (staging.reaction store)
  | some observer => .other observer

inductive Move (V O S : Type) where
  | event (event : Cluster.Event V (Option O) S)
  | switch (store : String) (observer : Nat) (muted : Bool)

def Move.event? : Move V O S → Option (Cluster.Event V (Option O) S)
  | .event happens => some happens
  | .switch _ _ _ => none

def trace (staging : Staging V S A) (codec : Codec V) (other : Notify V O S) :
    Cluster V (Seat O) (S × A) → List (Move V O S) →
      List (Cluster.Event.Answer V × Cluster V (Seat O) (S × A))
  | _, [] => []
  | c, .event happens :: rest =>
    let after := happens.run (staging.following codec other) staging.seat (Prod.map · id) c
    after :: staging.trace codec other after.2 rest
  | c, .switch store observer muted :: rest =>
    staging.trace codec other (c.changeObserver store observer (Seat.switch muted)) rest

end Staging

namespace Replica

/-- All of a replica but its reactions; times are told as `time` has them. -/
def outward (time : UInt64 → UInt64) (r : Replica V (Seat O)) : Replica V (Option O) where
  topic := r.topic
  entries := r.entries
  progress := r.progress
  counters := { r.counters with lastAppliedAt := time r.counters.lastAppliedAt }
  observers := r.observers.map Seat.other?
  closed := r.closed

end Replica

namespace Cluster

def outward (time : UInt64 → UInt64) (c : Cluster V (Seat O) (S × A)) :
    Cluster V (Option O) S where
  rehearsal := c.rehearsal
  nodes := c.nodes.map fun node =>
    ⟨node.name, node.held, node.reader, node.replica.outward time⟩
  shared := c.shared.1

end Cluster

namespace Staging

variable {V O S A : Type} {staging : Staging V S A} {codec : Codec V} {other : Notify V O S}
variable {time : UInt64 → UInt64} {clock : S → UInt64}

/-- A run with the reaction is, from outside, a run with nobody in its place. -/
def outside (staging : Staging V S A) (codec : Codec V) (other : Notify V O S)
    (time_zero : time 0 = 0)
    (steady : ∀ shared around, time (staging.now shared around) = clock shared) :
    View (staging.following codec other) ⟨codec, clock, other.optional⟩ where
  observer := Seat.other?
  shared := Prod.fst
  time
  time_zero
  codec := rfl
  now shared := (steady shared.1 shared.2).symm
  notify get key change seat shared := by
    cases seat with
    | reaction gated =>
      have calm := Gated.notify_quiet (Reaction.notify_quiet (staging.binding shared.1)) get key
        change gated shared.2
      exact congrArg (Notice.mk none shared.1) calm.symm
    | other observer => rfl

theorem cluster_switch (v : View (staging.following codec other) g)
    (seen : v.observer = Seat.other?) {c : Cluster V (Seat O) (S × A)} (nodup : c.names.Nodup)
    (store : String) (observer : Nat) (muted : Bool) :
    v.cluster (c.changeObserver store observer (Seat.switch muted)) = v.cluster c := by
  unfold Cluster.changeObserver
  cases found : c.node? store with
  | none => rfl
  | some node =>
    have is_named : node.name = store := by simpa using List.find?_some found
    have same_observers : (node.replica.observers.modify observer (Seat.switch muted)).map
        v.observer = node.replica.observers.map v.observer := by
      rw [seen, map_modify Seat.other? (Seat.switch muted) id (Seat.other?_switch muted),
        List.modify_id]
    have same_node : v.node { node with
        replica := { node.replica with
          observers := node.replica.observers.modify observer (Seat.switch muted) } } =
          v.node node := by
      simp only [View.node, View.replica, same_observers]
    simp only
    rw [← v.setNode, same_node]
    apply Cluster.setNode_eq_self
    · rw [v.names]
      exact nodup
    · rw [v.node?]
      exact congrArg (Option.map v.node) (is_named ▸ found)

theorem trace_outward (v : View (staging.following codec other) g)
    (seen : v.observer = Seat.other?) (apart : v.shared = Prod.fst)
    {c : Cluster V (Seat O) (S × A)} (nodup : c.names.Nodup) (moves : List (Move V O S)) :
    (staging.trace codec other c moves).map (Prod.map id v.cluster) =
      Cluster.Event.trace g (v.cluster c) (moves.filterMap Move.event?) := by
  induction moves generalizing c with
  | nil => rfl
  | cons move rest ih =>
    cases move with
    | event happens =>
      have seats (store : String) (observer : Option O) :
          v.observer (staging.seat store observer) = observer := by
        rw [seen]
        cases observer <;> rfl
      have within (change : S → S) (shared : S × A) :
          v.shared (Prod.map change id shared) = change (v.shared shared) := by
        rw [apart]
        rfl
      have answered := v.run seats within c happens
      have later := ih (Cluster.Event.nodup_run (f := staging.following codec other) nodup
        staging.seat (Prod.map · id) happens)
      simp only [trace, List.map_cons, List.filterMap_cons, Move.event?, Cluster.Event.trace]
      rw [answered, later]
      rfl
    | switch store observer muted =>
      have switched := cluster_switch v seen nodup store observer muted
      simp only [trace, List.filterMap_cons, Move.event?]
      rw [← switched]
      exact ih (Cluster.nodup_changeObserver nodup store observer _)

def outwardly (staging : Staging V S A) (codec : Codec V) (other : Notify V O S)
    (time : UInt64 → UInt64) (log : Log) (shared : S) (moves : List (Move V O S)) :
    List (Cluster.Event.Answer V × Cluster V (Option O) S) :=
  (staging.trace codec other { rehearsal := { log }, shared := (shared, staging.around) } moves).map
    (Prod.map id (Cluster.outward time))

theorem outwardly_eq {B : Type} {first : Staging V S A} {second : Staging V S B}
    (time_zero : time 0 = 0)
    (steady : ∀ shared a b, time (first.now shared a) = time (second.now shared b))
    (codec : Codec V) (other : Notify V O S) (log : Log) (shared : S)
    {moves moves' : List (Move V O S)}
    (same : moves.filterMap Move.event? = moves'.filterMap Move.event?) :
    first.outwardly codec other time log shared moves =
      second.outwardly codec other time log shared moves' := by
  -- The time that both runs have in common.
  let clock (shared : S) := time (second.now shared second.around)
  have first_steady (shared : S) (a : A) : time (first.now shared a) = clock shared :=
    steady shared a second.around
  have second_steady (shared : S) (b : B) : time (second.now shared b) = clock shared :=
    (steady shared first.around b).symm.trans (steady shared first.around second.around)
  have left := trace_outward (first.outside codec other time_zero first_steady) rfl rfl
    (c := { rehearsal := { log }, shared := (shared, first.around) }) .nil moves
  have right := trace_outward (second.outside codec other time_zero second_steady) rfl rfl
    (c := { rehearsal := { log }, shared := (shared, second.around) }) .nil moves'
  rw [same] at left
  exact left.trans right.symm

/-- Two runs with the same events, in which different reactions are bound and muted at different
times, give the same answers and show the same stores, and their other observers, whose calls are
written down, are called alike. Only the time of the last applied record may tell them apart, when
reactions take time. -/
theorem reactions_leave_replication_alone {B : Type} (codec : Codec V) (other : Notify V O S)
    (first : Staging V (S × List (Call V)) A) (second : Staging V (S × List (Call V)) B)
    (log : Log) (shared : S × List (Call V))
    {moves moves' : List (Move V (O × Nat) (S × List (Call V)))}
    (same : moves.filterMap Move.event? = moves'.filterMap Move.event?) :
    first.outwardly codec other.traced (fun _ => 0) log shared moves =
        second.outwardly codec other.traced (fun _ => 0) log shared moves' ∧
      ((∀ shared a b, first.now shared a = second.now shared b) →
        first.outwardly codec other.traced id log shared moves =
          second.outwardly codec other.traced id log shared moves') :=
  ⟨outwardly_eq rfl (fun _ _ _ => rfl) codec other.traced log shared same,
    fun steady => outwardly_eq rfl steady codec other.traced log shared same⟩

/-- An agent that panics at new documents, fails at removed ones and asks for patches that the
emitter refuses. Every call takes a millisecond. -/
def stubborn : Staging Bytes (Unit × List (Call Bytes)) UInt64 where
  binding _ := {
    agent := {
      added := fun _ _ calls => (.panicked, calls + 1)
      updated := fun _ _ _ calls => (.returned [.remove "/topic"], calls + 1)
      removed := fun _ _ calls => (.failed (.ofMessage "topic is in use"), calls + 1)
      inspected := fun _ _ calls => (.returned [], calls + 1) }
    emitter := fun _ calls => (.error (.ofMessage "refused"), calls + 1)
    same := fun _ _ => false }
  reaction _ := ⟨{}, .active {}⟩
  around := 0
  now _ calls := calls

def idle : Staging Bytes (Unit × List (Call Bytes)) Unit where
  binding _ := {
    agent := {
      added := fun _ _ calls => (.returned [], calls)
      updated := fun _ _ _ calls => (.returned [], calls)
      removed := fun _ _ calls => (.returned (), calls)
      inspected := fun _ _ calls => (.returned [], calls) }
    emitter := fun _ calls => (.ok (), calls)
    same := fun old new => old == new }
  reaction _ := ⟨{ muted := true }, .passive⟩
  around := ()
  now _ _ := 0

def visit : List (Cluster.Event Bytes (Option (Unit × Nat)) (Unit × List (Call Bytes))) :=
  [.start "roads" [some ((), 0), none, some ((), 1)] {}, .put "roads" "a" [7],
    .log (.append (Key.encode "a") (some [8])), .log .compact, .remove "roads" "a",
    .log (.deleteRecords 0 3), .close "roads", .put "roads" "a" [9]]

theorem stubborn_agent_is_not_noticed :
    let calm : Notify Bytes Unit Unit := fun _ _ _ observer shared => ⟨observer, shared, false⟩
    let switched := (visit.take 1).map .event ++
      .switch "roads" 1 false :: (visit.drop 1).map .event
    (visit.map Move.event).filterMap Move.event? = switched.filterMap Move.event? ∧
      stubborn.outwardly Codec.plain calm.traced (fun _ => 0) (Log.create "_roads" 1) ((), [])
          (visit.map .event) =
        idle.outwardly Codec.plain calm.traced (fun _ => 0) (Log.create "_roads" 1) ((), [])
          switched :=
  ⟨rfl, (reactions_leave_replication_alone Codec.plain _ stubborn idle _ _ rfl).1⟩

end Staging

end RoadRegistry
