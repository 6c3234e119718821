import RoadRegistry.Patch.Emitter

namespace RoadRegistry

inductive Outcome (α : Type) where
  | returned (value : α)
  | failed (report : Report)
  | panicked
  deriving Repr

/-- An agent answers with patches for a document, with none when all is well. Once its patches are
merged it must answer with none, or the exchange never settles. -/
structure Agent (V E : Type) where
  added : String → V → E → Outcome (List Patch.Operation) × E
  /-- The document before and after; only asked when they differ. -/
  updated : String → V → V → E → Outcome (List Patch.Operation) × E
  /-- The document as it was. Nothing can be patched any more. -/
  removed : String → V → E → Outcome Unit × E
  inspected : String → V → E → Outcome (List Patch.Operation) × E

def Agent.within (part : Part S E) (agent : Agent V E) : Agent V S where
  added key value state := lift (agent.added key value) state
  updated key old new state := lift (agent.updated key old new) state
  removed key old state := lift (agent.removed key old) state
  inspected key value state := lift (agent.inspected key value) state
where
  lift {α : Type} (call : E → Outcome α × E) (state : S) : Outcome α × S :=
    let (outcome, inner) := call (part.get state)
    (outcome, part.set inner state)

end RoadRegistry
