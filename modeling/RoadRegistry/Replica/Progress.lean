import RoadRegistry.Log.Basic

namespace RoadRegistry

structure Progress where
  consumed : Dictionary Int Int := .empty
  target : Option (Dictionary Int Int) := none
  caughtUp : Bool := false
  failure : Option StoreError := none
  stopped : Bool := false

inductive SyncOutcome where
  | done
  | failed (error : StoreError)
  | pending (position : Position)

namespace Progress

def reached (progress : Progress) (partition offset : Int) : Bool :=
  offset < (progress.consumed.get? partition).getD 0

/-- Partitions that the initial replay has to consume, with their end offsets. One that retains
nothing is left out. -/
def catchUpTarget (ends earliest : Dictionary Int Int) : Dictionary Int Int :=
  ends.filter fun (partition, stop) =>
    match earliest.get? partition with
    | some first => first < stop
    | none => true

def evaluate (progress : Progress) : Progress :=
  match progress.target with
  | some target =>
    { progress with
      caughtUp := progress.caughtUp ||
        target.entries.all fun (partition, stop) =>
          stop == 0 || progress.reached partition (stop - 1) }
  | none => progress

/-- An empty poll ends the replay when every partition of the target has delivered a record:
compaction may have made the last offsets unreachable. -/
def idle (progress : Progress) : Progress :=
  match progress.target with
  | some target =>
    { progress with
      caughtUp := progress.caughtUp ||
        target.keys.all fun partition => progress.consumed.contains partition }
  | none => progress

def setTarget (progress : Progress) (ends earliest : Dictionary Int Int) : Progress :=
  evaluate { progress with target := some (catchUpTarget ends earliest) }

def advance (progress : Progress) (position : Position) : Progress :=
  { progress with
    consumed := progress.consumed.insert position.partition (position.offset + 1) }

/-- Tailing ends. The first failure is kept. -/
def finish (progress : Progress) (failure : Option StoreError) : Progress :=
  { progress with failure := progress.failure.or failure, stopped := true }

def syncTargets (positions : List Position) : Dictionary Int Int :=
  positions.foldl
    (fun targets position =>
      let offset := match targets.get? position.partition with
        | some other => max other position.offset
        | none => position.offset
      targets.insert position.partition offset)
    .empty

def sync (progress : Progress) (positions : List Position) : SyncOutcome :=
  match progress.failure with
  | some error => .failed error
  | none =>
    if progress.stopped then .failed .closed
    else
      match (syncTargets positions).entries.find?
          (fun (partition, offset) => !progress.reached partition offset) with
      | some (partition, offset) => .pending ⟨partition, offset⟩
      | none => .done

def catchUp (progress : Progress) : Option (Except StoreError Unit) :=
  if progress.caughtUp then some (.ok ())
  else
    match progress.failure with
    | some error => some (.error error)
    | none => if progress.stopped then some (.error .closed) else none

end Progress

end RoadRegistry
