import RoadRegistry.Model
import RoadRegistry.Json.Shape

namespace RoadRegistry

namespace Patch

inductive Operation where
  | add (path : String) (value : Json)
  | replace (path : String) (value : Json)
  | remove (path : String)
  deriving Repr

namespace Operation

def name : Operation → String
  | .add .. => "add"
  | .replace .. => "replace"
  | .remove .. => "remove"

def path : Operation → String
  | .add path _ | .replace path _ | .remove path => path

def toJson : Operation → Json
  | .add path value =>
    .object [("op", .string "add"), ("path", .string path), ("value", value)]
  | .replace path value =>
    .object [("op", .string "replace"), ("path", .string path), ("value", value)]
  | .remove path => .object [("op", .string "remove"), ("path", .string path)]

def pathField : Json.Field String := { name := "path", read := .string }

def valueField : Json.Field Json := { name := "value", read := .any }

def setterRecord (title : String) (operation : String → Json → Operation) :
    Json.Record Operation where
  title := "struct variant PatchOperation::" ++ title
  fields := [pathField.toCheck, valueField.toCheck]
  build missing fields := do
    return operation (← pathField.get missing fields) (← valueField.get missing fields)
  longest := Json.elements 2 ++ " in sequence"

def removeRecord : Json.Record Operation where
  title := "struct variant PatchOperation::Remove"
  fields := [pathField.toCheck]
  build missing fields := do return .remove (← pathField.get missing fields)
  longest := Json.elements 1 ++ " in sequence"

def variants : List (String × Json.Record Operation) :=
  [("add", setterRecord "Add" .add), ("replace", setterRecord "Replace" .replace),
    ("remove", removeRecord)]

def readTag : Json.Reader (Json.Record Operation)
  | .string name =>
    match variants.find? (fun entry => entry.1 = name) with
    | some entry => .ok entry.2
    | none => .error (.unknownVariant name (variants.map (·.1)))
  | other => .error (.invalidType other "variant identifier")

/-- An object that is tagged with its operation, or an array of the tag and the fields. -/
def read : Json.Reader Operation
  | .object fields =>
    match Json.lookup? "op" fields with
    | none => .error (.missingField "op")
    | some tag => do
      let record ← readTag tag
      record.readObject (fields.filter fun field => field.1 ≠ "op")
  | .array [] => .error (.missingField "op")
  | .array (tag :: rest) => do
    let record ← readTag tag
    record.readArray rest
  | other => .error (.invalidType other "internally tagged enum PatchOperation")

end Operation

end Patch

structure PatchSet where
  documentId : String
  operations : List Patch.Operation
  deriving Repr

namespace PatchSet

def toJson (patch : PatchSet) : Json :=
  .object [("documentId", .string patch.documentId),
    ("operations", .array (patch.operations.map Patch.Operation.toJson))]

def documentIdField : Json.Field String := { name := "documentId", read := .string }

def operationsField : Json.Field (List Patch.Operation) :=
  { name := "operations", read := .list Patch.Operation.read }

def record : Json.Record PatchSet where
  title := "struct PatchSet"
  fields := [documentIdField.toCheck, operationsField.toCheck]
  build missing fields := do
    return ⟨← documentIdField.get missing fields, ← operationsField.get missing fields⟩

def model : Model PatchSet where
  read json := (record.read json).mapError .shape
  write := toJson

end PatchSet

end RoadRegistry
