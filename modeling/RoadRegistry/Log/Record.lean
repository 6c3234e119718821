import RoadRegistry.Bytes

namespace RoadRegistry

structure Position where
  partition : Int
  offset : Int
  deriving DecidableEq, Repr

def Position.text (position : Position) : String :=
  toString position.partition ++ "@" ++ toString position.offset

/-- A keyed record. One without a value is a tombstone. -/
structure Record where
  partition : Int
  offset : Int
  key : Bytes
  value : Option Bytes
  deriving DecidableEq, Repr

namespace Record

def isTombstone (record : Record) : Bool := record.value.isNone

def position (record : Record) : Position := ⟨record.partition, record.offset⟩

end Record

end RoadRegistry
