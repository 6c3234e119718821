import RoadRegistry.Reaction.Agent
import RoadRegistry.Replica.Observer

namespace RoadRegistry

structure ReactionStats where
  emitted : Nat := 0
  agentFailures : Nat := 0
  emitFailures : Nat := 0
  unchanged : Nat := 0
  deriving DecidableEq, Repr

inductive Reaction where
  | active (stats : ReactionStats)
  | passive
  deriving DecidableEq, Repr

structure Binding (V E : Type) where
  agent : Agent V E
  emitter : Emitter E
  same : V → V → Bool

namespace Binding

variable {V E : Type}

def emit (b : Binding V E) (key : String) (operations : List Patch.Operation)
    (stats : ReactionStats) (shared : E) : ReactionStats × E :=
  if operations.isEmpty then (stats, shared)
  else
    match b.emitter ⟨key, operations⟩ shared with
    | (.ok (), shared) => ({ stats with emitted := stats.emitted + 1 }, shared)
    | (.error _, shared) => ({ stats with emitFailures := stats.emitFailures + 1 }, shared)

/-- Failures of the agent and refusals of the emitter are counted and otherwise ignored, so that one
bad document never stops the replica. -/
def settle (stats : ReactionStats) (call : Outcome α × E)
    (next : α → ReactionStats → E → ReactionStats × E) : ReactionStats × E :=
  match call with
  | (.returned value, shared) => next value stats shared
  | (.failed _, shared) | (.panicked, shared) =>
    ({ stats with agentFailures := stats.agentFailures + 1 }, shared)

def react (b : Binding V E) (key : String) (change : Change V) (stats : ReactionStats)
    (shared : E) : ReactionStats × E :=
  match change with
  | .new value => settle stats (b.agent.added key value shared) (b.emit key)
  | .update old new =>
    if b.same old new then ({ stats with unchanged := stats.unchanged + 1 }, shared)
    else settle stats (b.agent.updated key old new shared) (b.emit key)
  | .remove old =>
    settle stats (b.agent.removed key old shared) fun _ stats shared => (stats, shared)

end Binding

namespace Reaction

def stats : Reaction → ReactionStats
  | .active stats => stats
  | .passive => {}

def isPassive : Reaction → Bool
  | .active _ => false
  | .passive => true

/-- A reaction never panics and never looks at the replica. -/
def notify (b : Binding V E) : Notify V Reaction E := fun _ key change reaction shared =>
  match reaction with
  | .passive => ⟨.passive, shared, false⟩
  | .active stats =>
    let (stats, shared) := b.react key change stats shared
    ⟨.active stats, shared, false⟩

end Reaction

end RoadRegistry
