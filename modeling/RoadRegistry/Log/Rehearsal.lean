import RoadRegistry.Log.Basic

namespace RoadRegistry

/-- A log whose appends follow a plan: only so many are accepted, and the next ones may be
acknowledged with positions that were never written. -/
structure Rehearsal where
  log : Log
  accepted : Option Nat := none
  acknowledgements : List Position := []

namespace Rehearsal

def refusal (log : Log) : StoreError := .io log.topic "append rejected"

/-- A planned acknowledgement comes first, then the bound on accepted appends, then the log. -/
def append (r : Rehearsal) (key : Bytes) (value : Option Bytes) :
    Except StoreError (Position × Rehearsal) :=
  match r.acknowledgements with
  | position :: rest => .ok (position, { r with acknowledgements := rest })
  | [] =>
    match r.accepted with
    | some 0 => .error (refusal r.log)
    | accepted => do
      let (position, log) ← r.log.append key value
      return (position, { r with log, accepted := accepted.map (· - 1) })

end Rehearsal

end RoadRegistry
