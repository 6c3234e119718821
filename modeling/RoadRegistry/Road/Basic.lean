import RoadRegistry.Model
import RoadRegistry.Road.Status
import RoadRegistry.Text.Blank

namespace RoadRegistry

/-- A named stream of events. Its owner writes everything but `status`, which agents keep. -/
structure Road where
  name : String
  description : Option String := none
  team : Option String := none
  enabled : Bool := true
  deleted : Bool := false
  partitions : Option UInt32 := none
  schemas : Dictionary String Json := .empty
  /-- Carried through untouched. -/
  authorisation : Option Json := none
  status : Option Road.Status := none

namespace Road

def ofName (name : String) : Road := { name }

def phase (road : Road) : Phase :=
  match road.status with
  | some status => status.phase
  | none => .unknown

def topicName (road : Road) : String :=
  match road.status with
  | some status => status.topicName
  | none => "road." ++ road.name

def optionEq : Option Json → Option Json → Bool
  | some a, some b => a.valueEq b
  | none, none => true
  | _, _ => false

/-- Equal field by field, opaque documents by value. -/
def valueEq (a b : Road) : Bool :=
  a.name == b.name && a.description == b.description && a.team == b.team &&
    a.enabled == b.enabled && a.deleted == b.deleted && a.partitions == b.partitions &&
    Json.fieldsEq a.schemas.entries b.schemas.entries &&
    optionEq a.authorisation b.authorisation && a.status == b.status

def nameField : Json.Field String := { name := "name", read := .string }

def descriptionField : Json.Field (Option String) :=
  { name := "description", read := .optional .string, fallback := some none }

def teamField : Json.Field (Option String) :=
  { name := "team", read := .optional .string, fallback := some none }

def enabledField : Json.Field Bool := { name := "enabled", read := .bool, fallback := some true }

def deletedField : Json.Field Bool := { name := "deleted", read := .bool, fallback := some false }

def partitionsField : Json.Field (Option UInt32) :=
  { name := "partitions", read := .optional .uint32, fallback := some none }

def schemasField : Json.Field (Dictionary String Json) :=
  { name := "schemas", read := .map, fallback := some .empty }

def authorisationField : Json.Field (Option Json) :=
  { name := "authorisation", read := .optional .any, fallback := some none }

def statusField : Json.Field (Option Status) :=
  { name := "status", read := .optional Status.read, fallback := some none }

def record : Json.Record Road where
  title := "struct Road"
  fields :=
    [nameField.toCheck, descriptionField.toCheck, teamField.toCheck, enabledField.toCheck,
      deletedField.toCheck, partitionsField.toCheck, schemasField.toCheck,
      authorisationField.toCheck, statusField.toCheck]
  build missing fields := do
    return {
      name := ← nameField.get missing fields
      description := ← descriptionField.get missing fields
      team := ← teamField.get missing fields
      enabled := ← enabledField.get missing fields
      deleted := ← deletedField.get missing fields
      partitions := ← partitionsField.get missing fields
      schemas := ← schemasField.get missing fields
      authorisation := ← authorisationField.get missing fields
      status := ← statusField.get missing fields }

def fields (road : Road) : List (String × Json) :=
  [("name", .string road.name)] ++
    (road.description.map fun text => ("description", Json.string text)).toList ++
    (road.team.map fun text => ("team", Json.string text)).toList ++
    [("enabled", .bool road.enabled), ("deleted", .bool road.deleted)] ++
    (road.partitions.map fun n => ("partitions", Json.number (.ofUInt32 n))).toList ++
    (if road.schemas.entries.isEmpty then [] else [("schemas", .object road.schemas.entries)]) ++
    (road.authorisation.map fun json => ("authorisation", json)).toList ++
    (road.status.map fun status => ("status", status.toJson)).toList

def toJson (road : Road) : Json := .object road.fields

def plainModel : Model Road where
  read json := (record.read json).mapError .shape
  write := toJson

def requireName (road : Road) : Except ValueFault Road :=
  if Text.isBlank road.name then .error (.refused "road name is empty") else .ok road

def model : Model Road where
  read json := do requireName (← plainModel.read json)
  write := toJson

def codec : Codec Road := .ofModel model

end Road

end RoadRegistry
