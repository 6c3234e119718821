import RoadRegistry.Frame
import RoadRegistry.Json.Parser
import RoadRegistry.Json.Printer

namespace RoadRegistry

namespace Key

def encode (key : String) : Bytes := (Frame.data (Bytes.ofString key)).encode

def decode (bytes : Bytes) : Except DecodeError String := do
  match ← Frame.decode bytes with
  | .data payload =>
    match Text.Utf8.decode payload with
    | .ok key => return key
    | .error fault => .error (.invalidKey (.encoding fault))
  | .null => .error .nullKey

end Key

/-- How values are kept on a log. `none` is an explicit null. -/
structure Codec (V : Type) where
  encode : V → Except DecodeError Bytes
  decode : Bytes → Except DecodeError (Option V)

structure Model (V : Type) where
  read : Json → Except ValueFault V
  write : V → Json

namespace Model

def parseText (text : String) : Except ValueFault Json :=
  match Json.parse text.toList with
  | some json => .ok json
  | none => .error .malformed

def ofText (model : Model V) (text : String) : Except ValueFault V := do
  model.read (← parseText text)

def toText (model : Model V) (value : V) : String := (model.write value).text

def ofBytes (model : Model V) (bytes : Bytes) : Except ValueFault V :=
  match Text.Utf8.decode bytes with
  | .ok text => model.ofText text
  | .error _ => .error .malformed

def toBytes (model : Model V) (value : V) : Bytes := Bytes.ofString (model.toText value)

def json : Model Json where
  read := .ok
  write := id

end Model

namespace Codec

def ofModel (model : Model V) : Codec V where
  encode value := .ok (Frame.data (model.toBytes value)).encode
  decode bytes := do
    match ← Frame.decode bytes with
    | .data payload =>
      match model.ofBytes payload with
      | .ok value => return some value
      | .error fault => .error (.invalidValue fault)
    | .null => return none

def encodeOption (codec : Codec V) : Option V → Except DecodeError Bytes
  | some value => codec.encode value
  | none => .ok Frame.null.encode

end Codec

end RoadRegistry
