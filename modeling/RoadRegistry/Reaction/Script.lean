import RoadRegistry.Clock
import RoadRegistry.Reaction.Agent

namespace RoadRegistry

structure Line where
  millis : UInt64 := 0
  outcome : Outcome (List Patch.Operation)

structure Script where
  change : List (String × Line) := []
  inspect : List (String × Line) := []
  delete : List (String × Line) := []

structure Rehearsed where
  clock : Clock
  calls : List String := []

namespace Script

/-- A key that is not in the table gets no patches. -/
def play (table : List (String × Line)) (method key : String) (state : Rehearsed) :
    Outcome (List Patch.Operation) × Rehearsed :=
  let calls := state.calls ++ [method ++ ":" ++ key]
  match table.find? (fun entry => entry.1 = key) with
  | some (_, line) => (line.outcome, ⟨state.clock.advance line.millis, calls⟩)
  | none => (.returned [], ⟨state.clock, calls⟩)

def agent (script : Script) : Agent V Rehearsed where
  added key _ state := play script.change "new" key state
  updated key _ _ state := play script.change "update" key state
  removed key _ state :=
    match play script.delete "delete" key state with
    | (.returned _, state) => (.returned (), state)
    | (.failed report, state) => (.failed report, state)
    | (.panicked, state) => (.panicked, state)
  inspected key _ state := play script.inspect "inspect" key state

end Script

end RoadRegistry
