import RoadRegistry.Replica.Basic
import RoadRegistry.Road.Basic
import RoadRegistry.Text.Aligned

namespace RoadRegistry.CommandLine

namespace Listing

def nameField : Text.Field := { width := 32 }

def phaseField : Text.Field := { width := 10 }

def row (name phase topic : String) : String :=
  nameField.write name ++ " " ++ phaseField.write phase ++ " " ++ topic ++ "\n"

def roads (replica : Replica Road O) : List Road :=
  (replica.documents.map (·.2)).mergeSort fun a b => decide (a.name ≤ b.name)

def summary (count : Nat) (stats : Replica.Stats) : String :=
  toString count ++ " roads (" ++ toString stats.applied ++ " records, " ++
    toString stats.tombstones ++ " tombstones, " ++ toString stats.legacySkipped ++
    " legacy skipped)\n"

def table (replica : Replica Road O) : String :=
  let listed := roads replica
  summary listed.length replica.stats ++ row "NAME" "PHASE" "TOPIC" ++
    String.join (listed.map fun road => row road.name road.phase.name road.topicName)

def render (road : Option String) (json : Bool) (replica : Replica Road O) :
    Except Report String :=
  match road with
  | some name =>
    match replica.get? name with
    | some road => .ok road.toJson.wideText
    | none => .error (.ofMessage ("road " ++ name ++ " not found"))
  | none =>
    if json then .ok (Json.array ((roads replica).map Road.toJson)).wideText
    else .ok (table replica)

end Listing

end RoadRegistry.CommandLine
