import RoadRegistry.Json.Shape
import RoadRegistry.Json.Printer

namespace RoadRegistry

namespace Road

inductive Phase where
  | unknown
  | pending
  | ready
  | drifted
  | deleted
  deriving DecidableEq, Repr

namespace Phase

def name : Phase → String
  | .unknown => "UNKNOWN"
  | .pending => "PENDING"
  | .ready => "READY"
  | .drifted => "DRIFTED"
  | .deleted => "DELETED"

def all : List Phase := [.unknown, .pending, .ready, .drifted, .deleted]

def read : Json.Reader Phase := Json.readVariant (all.map fun phase => (phase.name, phase))

end Phase

structure Status where
  phase : Phase
  topicName : String
  partitions : Option UInt32 := none
  message : Option String := none
  deriving DecidableEq, Repr

namespace Status

def phaseField : Json.Field Phase := { name := "phase", read := Phase.read }

def topicNameField : Json.Field String := { name := "topicName", read := Json.Reader.string }

def partitionsField : Json.Field (Option UInt32) :=
  { name := "partitions", read := .optional .uint32, fallback := some none }

def messageField : Json.Field (Option String) :=
  { name := "message", read := .optional .string, fallback := some none }

def record : Json.Record Status where
  title := "struct RoadStatus"
  fields :=
    [phaseField.toCheck, topicNameField.toCheck, partitionsField.toCheck, messageField.toCheck]
  build missing fields := do
    return {
      phase := ← phaseField.get missing fields
      topicName := ← topicNameField.get missing fields
      partitions := ← partitionsField.get missing fields
      message := ← messageField.get missing fields }

def read : Json.Reader Status := record.read

def fields (status : Status) : List (String × Json) :=
  [("phase", .string status.phase.name), ("topicName", .string status.topicName)] ++
    (status.partitions.map fun n => ("partitions", Json.number (.ofUInt32 n))).toList ++
    (status.message.map fun text => ("message", Json.string text)).toList

def toJson (status : Status) : Json := .object status.fields

def toValue (status : Status) : Json := Json.ofFields status.fields

end Status

end Road

end RoadRegistry
