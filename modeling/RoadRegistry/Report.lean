import RoadRegistry.Text.Utf8
import RoadRegistry.Json.Shape
import RoadRegistry.Clock

namespace RoadRegistry

inductive KeyFault where
  | encoding (fault : Text.Utf8.Fault)
  | refused (reason : String)
  deriving Repr

inductive ValueFault where
  | malformed
  | shape (fault : Json.ShapeError)
  | refused (reason : String)
  deriving Repr

inductive DecodeError where
  | empty
  | unknownTag (byte : UInt8)
  | legacyNoop
  | nullKey
  | invalidKey (fault : KeyFault)
  | invalidValue (fault : ValueFault)
  deriving Repr

def KeyFault.message : KeyFault → String
  | .encoding fault => fault.message
  | .refused reason => reason

def ValueFault.message : ValueFault → String
  | .malformed => "<json>"
  | .shape fault => fault.message
  | .refused reason => reason

def DecodeError.message : DecodeError → String
  | .empty => "cannot deserialize an empty byte array"
  | .unknownTag byte => "unknown frame prefix 0x" ++ String.ofList (Text.hexByte byte)
  | .legacyNoop => "legacy no-op record"
  | .nullKey => "keys cannot be null"
  | .invalidKey fault => "invalid key: " ++ fault.message
  | .invalidValue fault => "invalid value: " ++ fault.message

/-- Whether a record with this fault is passed over and not taken for a broken log. -/
def DecodeError.isIgnorable : DecodeError → Bool
  | .legacyNoop => true
  | _ => false

inductive StoreError where
  | serialization (key : String) (source : DecodeError)
  | io (topic message : String)
  | syncTimeout (partition offset : Int)
  | failed (message : String)
  | closed
  deriving Repr

namespace StoreError

def panicked : StoreError := .failed "tailing thread panicked"

def notCaughtUp (topic : String) (timeout : Duration) : StoreError :=
  .failed ("topic " ++ topic ++ " not caught up after " ++ timeout.text)

def message : StoreError → String
  | .serialization key source =>
    "serialization failed for key " ++ key ++ ": " ++ source.message
  | .io topic message => "log i/o failure on topic " ++ topic ++ ": " ++ message
  | .syncTimeout partition offset =>
    "timed out waiting for partition " ++ toString partition ++ " to reach offset " ++
      toString offset
  | .failed message => "store failed: " ++ message
  | .closed => "store is closed"

/-- Whether the store cannot be used after this error. A write that was not seen in time may
still land. -/
def isFatal : StoreError → Bool
  | .syncTimeout .. => false
  | _ => true

end StoreError

structure Report where
  chain : List String
  deriving DecidableEq, Repr

namespace Report

def ofMessage (message : String) : Report := ⟨[message]⟩

def context (report : Report) (attempt : String) : Report := ⟨attempt :: report.chain⟩

def ofStoreError (error : StoreError) : Report :=
  match error with
  | .serialization _ source => ⟨[error.message, source.message]⟩
  | _ => .ofMessage error.message

def message (report : Report) : String := ": ".intercalate report.chain

end Report

end RoadRegistry
