import RoadRegistry.Report

namespace RoadRegistry

/-- The byte in front of every key and every value. The tag `noop` marks records from the time
before frames: it is never written, and readers pass such records over. -/
inductive FrameTag where
  | noop
  | data
  | null
  deriving DecidableEq, Repr

namespace FrameTag

def toByte : FrameTag → UInt8
  | .noop => 0
  | .data => 1
  | .null => 2

def ofByte (byte : UInt8) : Except DecodeError FrameTag :=
  if byte = 0 then .ok .noop
  else if byte = 1 then .ok .data
  else if byte = 2 then .ok .null
  else .error (.unknownTag byte)

end FrameTag

inductive Frame where
  | data (payload : Bytes)
  | null
  deriving DecidableEq, Repr

namespace Frame

def encode : Frame → Bytes
  | .data payload => FrameTag.data.toByte :: payload
  | .null => [FrameTag.null.toByte]

/-- What follows the tag of a null is not looked at. -/
def decode : Bytes → Except DecodeError Frame
  | [] => .error .empty
  | byte :: payload => do
    match ← FrameTag.ofByte byte with
    | .data => return .data payload
    | .null => return .null
    | .noop => .error .legacyNoop

theorem decode_encode (frame : Frame) : decode frame.encode = .ok frame := by
  cases frame <;> rfl

end Frame

end RoadRegistry
