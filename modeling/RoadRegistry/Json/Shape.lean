import RoadRegistry.Json.Basic
import RoadRegistry.Text.Quoted

namespace RoadRegistry.Json

inductive ShapeError where
  | invalidType (found : Json) (expected : String)
  | invalidValue (found : Json) (expected : String)
  | invalidLength (length : Nat) (expected : String)
  | missingField (name : String)
  | unknownVariant (name : String) (known : List String)
  deriving Repr

def ticked (name : String) : String := "`" ++ name ++ "`"

def describe : Json → String
  | .null => "null"
  | .bool b => "boolean " ++ ticked (if b then "true" else "false")
  | .number (.integer n _ _) => "integer " ++ ticked (String.ofList (Text.signedDecimal n))
  | .number (.float x) => "floating point " ++ ticked (String.ofList (Number.writeFloat x))
  | .string s => "string " ++ Text.Quoted.quote s
  | .array _ => "sequence"
  | .object _ => "map"

def ShapeError.message : ShapeError → String
  | .invalidType found expected =>
    "invalid type: " ++ found.describe ++ ", expected " ++ expected
  | .invalidValue found expected =>
    "invalid value: " ++ found.describe ++ ", expected " ++ expected
  | .invalidLength length expected =>
    "invalid length " ++ toString length ++ ", expected " ++ expected
  | .missingField name => "missing field " ++ ticked name
  | .unknownVariant name known =>
    "unknown variant " ++ ticked name ++ ", expected one of " ++
      ", ".intercalate (known.map ticked)

abbrev Reader (α : Type) := Json → Except ShapeError α

namespace Reader

def string : Reader String
  | .string s => .ok s
  | other => .error (.invalidType other "a string")

def bool : Reader Bool
  | .bool b => .ok b
  | other => .error (.invalidType other "a boolean")

/-- An integer literal that fits 32 bits; a float is of the wrong type even when it is whole. -/
def uint32 : Reader UInt32
  | .number (.integer n lower upper) =>
    if 0 ≤ n ∧ n < 0x100000000 then .ok (UInt32.ofNat n.toNat)
    else .error (.invalidValue (.number (.integer n lower upper)) "u32")
  | other => .error (.invalidType other "u32")

def any : Reader Json := .ok

def map : Reader (Dictionary String Json)
  | .object fields => .ok (Dictionary.ofList fields)
  | other => .error (.invalidType other "a map")

def list (item : Reader α) : Reader (List α)
  | .array items => items.mapM item
  | other => .error (.invalidType other "a sequence")

def unit : Reader Unit
  | .null => .ok ()
  | other => .error (.invalidType other "unit")

def optional (value : Reader α) : Reader (Option α)
  | .null => .ok none
  | other => (value other).map some

end Reader

structure Field (α : Type) where
  name : String
  read : Reader α
  fallback : Option α := none

structure FieldCheck where
  name : String
  check : Reader Unit

def Field.toCheck (field : Field α) : FieldCheck :=
  ⟨field.name, fun json => (field.read json).map fun _ => ()⟩

def Field.get (field : Field α) (missing : String → ShapeError) (fields : List (String × Json)) :
    Except ShapeError α :=
  match lookup? field.name fields with
  | some json => field.read json
  | none => match field.fallback with
    | some value => .ok value
    | none => .error (missing field.name)

def elements (count : Nat) : String :=
  toString count ++ (if count = 1 then " element" else " elements")

/-- A record type: what messages call it, its fields in the order of declaration, how a record is
put together from the fields present, and what was expected of an array that is too long. -/
structure Record (α : Type) where
  title : String
  fields : List FieldCheck
  build : (String → ShapeError) → List (String × Json) → Except ShapeError α
  longest : String := "fewer elements in array"

namespace Record

def checkFields (record : Record α) : List (String × Json) → Except ShapeError Unit
  | [] => .ok ()
  | (name, json) :: rest =>
    match record.fields.find? (fun field => field.name = name) with
    | some field => (field.check json).bind fun _ => checkFields record rest
    | none => checkFields record rest

/-- The first unreadable field, in the order of the object, is reported before any field that is
missing. Fields that the record does not know are passed over. -/
def readObject (record : Record α) (fields : List (String × Json)) : Except ShapeError α := do
  record.checkFields fields
  record.build .missingField fields

def readArray (record : Record α) (items : List Json) : Except ShapeError α := do
  let expected := record.title ++ " with " ++ elements record.fields.length
  let value ← record.build (fun _ => .invalidLength items.length expected)
    ((record.fields.map (·.name)).zip items)
  if record.fields.length < items.length then
    .error (.invalidLength items.length record.longest)
  else return value

def read (record : Record α) : Reader α
  | .object fields => record.readObject fields
  | .array items => record.readArray items
  | other => .error (.invalidType other record.title)

end Record

/-- Reads the name of a constant, given as a string or as the only key of an object whose value
is null. -/
def readVariant (known : List (String × α)) : Reader α
  | .string name => find name
  | .object [(name, json)] => do
    let value ← find name
    Reader.unit json
    return value
  | .object fields => .error (.invalidValue (.object fields) "map with a single key")
  | other => .error (.invalidType other "string or map")
where
  find (name : String) : Except ShapeError α :=
    match known.find? (fun entry => entry.1 = name) with
    | some entry => .ok entry.2
    | none => .error (.unknownVariant name (known.map (·.1)))

end RoadRegistry.Json
