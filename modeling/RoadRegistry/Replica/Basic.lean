import RoadRegistry.Log.Reader
import RoadRegistry.Model
import RoadRegistry.Replica.Observer
import RoadRegistry.Replica.Progress

namespace RoadRegistry

structure Counters where
  applied : Nat := 0
  legacySkipped : Nat := 0
  tombstones : Nat := 0
  /-- Clock time of the last applied record, 0 when there is none. -/
  lastAppliedAt : UInt64 := 0
  deriving DecidableEq, Repr

structure Replica (V O : Type) where
  topic : String
  /-- Keys that were removed stay, without a value. -/
  entries : Dictionary String (Option V) := .empty
  progress : Progress := {}
  counters : Counters := {}
  observers : List O := []
  closed : Bool := false

structure Following (V O E : Type) where
  codec : Codec V
  now : E → UInt64
  notify : Notify V O E

inductive Decoded (V : Type) where
  | entry (key : String) (value : Option V)
  | legacy
  | broken (key : String) (error : DecodeError)

namespace Decoded

def ofFault (key : String) (error : DecodeError) : Decoded V :=
  if error.isIgnorable then .legacy else .broken key error

/-- A key that cannot be decoded is reported by its bytes, tag included, read leniently. -/
def ofRecord (codec : Codec V) (record : Record) : Decoded V :=
  match Key.decode record.key with
  | .error error => ofFault (Text.Utf8.decodeLossy record.key) error
  | .ok key =>
    match record.value with
    | none => .entry key none
    | some bytes =>
      match codec.decode bytes with
      | .ok value => .entry key value
      | .error error => ofFault key error

end Decoded

namespace Replica

def get? (r : Replica V O) (key : String) : Option V := (r.entries.get? key).join

def containsKey (r : Replica V O) (key : String) : Bool := (r.get? key).isSome

def isTombstoned (r : Replica V O) (key : String) : Bool :=
  match r.entries.get? key with
  | some none => true
  | _ => false

def documents (r : Replica V O) : List (String × V) :=
  r.entries.entries.filterMap fun (key, value) => value.map fun v => (key, v)

def keys (r : Replica V O) : List String := r.documents.map (·.1)

def size (r : Replica V O) : Nat := r.documents.length

def isEmpty (r : Replica V O) : Bool := r.size == 0

def finish (r : Replica V O) (failure : Option StoreError) : Replica V O :=
  { r with progress := r.progress.finish failure }

def apply (r : Replica V O) (now : UInt64) (key : String) (value : Option V) : Replica V O :=
  { r with
    entries := r.entries.insert key value
    counters := {
      applied := r.counters.applied + 1
      legacySkipped := r.counters.legacySkipped
      tombstones := if value.isNone then r.counters.tombstones + 1 else r.counters.tombstones
      lastAppliedAt := now } }

def skipLegacy (r : Replica V O) : Replica V O :=
  { r with counters := { r.counters with legacySkipped := r.counters.legacySkipped + 1 } }

def advance (r : Replica V O) (record : Record) : Replica V O :=
  { r with progress := r.progress.advance record.position }

def tell (f : Following V O E) (record : Record) (key : String) (change : Option (Change V))
    (r : Replica V O) (shared : E) : Replica V O × E :=
  match change with
  | none => (r.advance record, shared)
  | some change =>
    let notice := f.notify.all r.get? key change r.observers shared
    let r := { r with observers := notice.observer }
    if notice.panicked then (r.finish (some .panicked), notice.shared)
    else (r.advance record, notice.shared)

/-- The map shows a change before the observers are told of it, and only then does the consumed
offset move. What cannot be decoded ends tailing, and so does an observer that panics. -/
def consume (f : Following V O E) (state : Replica V O × E) (record : Record) :
    Replica V O × E :=
  let (r, shared) := state
  if r.progress.stopped then (r, shared)
  else
    match Decoded.ofRecord f.codec record with
    | .legacy => (r.skipLegacy.advance record, shared)
    | .broken key error => (r.finish (some (.serialization key error)), shared)
    | .entry key value =>
      let change := Change.between (r.get? key) value
      tell f record key change (r.apply (f.now shared) key value) shared

def endOfBatch (r : Replica V O) (isIdle : Bool) : Replica V O :=
  if r.progress.stopped then r
  else
    let progress := r.progress.evaluate
    { r with progress := if isIdle then progress.idle else progress }

def receive (f : Following V O E) (state : Replica V O × E)
    (polled : Except StoreError (List Record)) : Replica V O × E :=
  let (r, shared) := state
  if r.progress.stopped then (r, shared)
  else
    match polled with
    | .error error => (r.finish (some error), shared)
    | .ok batch =>
      let (r, shared) := batch.foldl (consume f) (r, shared)
      (r.endOfBatch batch.isEmpty, shared)

def begin (r : Replica V O) (ends earliest : Dictionary Int Int) : Replica V O :=
  { r with progress := r.progress.setTarget ends earliest }

def poll (f : Following V O E) (log : Log) (reader : Reader) (state : Replica V O × E) :
    Reader × Replica V O × E :=
  match reader.poll log with
  | .error error => (reader, receive f state (.error error))
  | .ok (batch, reader) => (reader, receive f state (.ok batch))

def ensureOpen (r : Replica V O) : Except StoreError Unit :=
  if r.closed then .error .closed
  else
    match r.progress.failure with
    | some error => .error error
    | none => .ok ()

def encodeEntry (codec : Codec V) (key : String) (value : V) :
    Except StoreError (Bytes × Option Bytes) :=
  match codec.encode value with
  | .ok bytes => .ok (Key.encode key, some bytes)
  | .error error => .error (.serialization key error)

def encodeTombstone (key : String) : Bytes × Option Bytes := (Key.encode key, none)

def close (r : Replica V O) : Except StoreError (Replica V O) :=
  if r.closed then .error .closed
  else
    let r := { r with closed := true }
    .ok (if r.progress.stopped then r else r.finish none)

structure Stats where
  applied : Nat
  legacySkipped : Nat
  tombstones : Nat
  live : Nat
  lastAppliedAt : Option UInt64
  caughtUp : Bool
  deriving DecidableEq, Repr

def stats (r : Replica V O) : Stats where
  applied := r.counters.applied
  legacySkipped := r.counters.legacySkipped
  tombstones := r.counters.tombstones
  live := r.size
  lastAppliedAt := if 0 < r.counters.lastAppliedAt then some r.counters.lastAppliedAt else none
  caughtUp := r.progress.caughtUp

end Replica

end RoadRegistry
