import RoadRegistry.Config.Validation
import RoadRegistry.Toml.Parser

namespace RoadRegistry

namespace Config

open Toml (Value Fields)

/-- The settings that are given for a section. A date passes for a table without any. -/
def settings? (names : List String) : Value → Option Fields
  | .table _ fields => some fields
  | .dateTime _ => some []
  | .array items => some (names.zip items)
  | .tables items => some (names.zip (items.map (.table .header)))
  | _ => none

def setting (name : String) (read : Value → Option α) (fallback : α) (fields : Fields) :
    Option α :=
  match Toml.lookup? name fields with
  | some value => read value
  | none => some fallback

def readString : Value → Option String
  | .string text => some text
  | _ => none

def readBool : Value → Option Bool
  | .boolean value => some value
  | _ => none

def readNatBelow (limit : Nat) : Value → Option Nat
  | .integer value => if 0 ≤ value ∧ value < limit then some value.toNat else none
  | _ => none

def readUInt64 (value : Value) : Option UInt64 :=
  (readNatBelow 0x10000000000000000 value).map UInt64.ofNat

def readUInt32 (value : Value) : Option UInt32 := (readNatBelow 0x100000000 value).map UInt32.ofNat

def readUInt16 (value : Value) : Option UInt16 := (readNatBelow 0x10000 value).map UInt16.ofNat

def isEmpty : Value → Bool
  | .array items => items.isEmpty
  | .table _ fields => fields.isEmpty
  | .tables items => items.isEmpty
  | _ => false

/-- A mode is given by its name, or as the only key of a table, with nothing in it. -/
def readMode : Value → Option LogMode
  | .string name => LogMode.ofName? name
  | .table _ [(name, value)] => if isEmpty value then LogMode.ofName? name else none
  | _ => none

def readLog (value : Value) : Option LogSection := do
  let defaults : LogSection := {}
  let fields ← settings? ["mode", "bootstrap_servers", "road_topic", "patch_topic"] value
  return {
    mode := ← setting "mode" readMode defaults.mode fields
    bootstrapServers :=
      ← setting "bootstrap_servers" readString defaults.bootstrapServers fields
    roadTopic := ← setting "road_topic" readString defaults.roadTopic fields
    patchTopic := ← setting "patch_topic" readString defaults.patchTopic fields }

def readStore (value : Value) : Option StoreSection := do
  let defaults : StoreSection := {}
  let fields ← settings? ["sync_timeout_ms", "poll_timeout_ms", "catch_up_timeout_ms"] value
  return {
    syncMillis := ← setting "sync_timeout_ms" readUInt64 defaults.syncMillis fields
    pollMillis := ← setting "poll_timeout_ms" readUInt64 defaults.pollMillis fields
    catchUpMillis := ← setting "catch_up_timeout_ms" readUInt64 defaults.catchUpMillis fields }

def readReconciler (value : Value) : Option ReconcilerSection := do
  let defaults : ReconcilerSection := {}
  let fields ← settings? ["enabled", "interval_seconds"] value
  return {
    enabled := ← setting "enabled" readBool defaults.enabled fields
    intervalSeconds :=
      ← setting "interval_seconds" readUInt64 defaults.intervalSeconds fields }

def readAgent (value : Value) : Option AgentSection := do
  let defaults : AgentSection := {}
  let fields ←
    settings? ["enabled", "default_partitions", "default_replication_factor"] value
  return {
    enabled := ← setting "enabled" readBool defaults.enabled fields
    defaultPartitions := ← setting "default_partitions" readUInt32 defaults.defaultPartitions fields
    defaultReplicationFactor :=
      ← setting "default_replication_factor" readUInt16 defaults.defaultReplicationFactor fields }

def readTelemetry (value : Value) : Option TelemetrySection := do
  let defaults : TelemetrySection := {}
  let fields ← settings? ["log_level"] value
  return { logLevel := ← setting "log_level" readString defaults.logLevel fields }

def ofFields (fields : Fields) : Option Config := do
  return {
    log := ← (Toml.lookup? "log" fields).bind readLog
    store := ← setting "store" readStore {} fields
    reconciler := ← setting "reconciler" readReconciler {} fields
    agent := ← setting "agent" readAgent {} fields
    telemetry := ← setting "telemetry" readTelemetry {} fields }

def unreadable (attempt : String) : Report := (Report.ofMessage "<toml>").context attempt

def ofText (attempt : String) (text : String) : Except Report Config :=
  match (Toml.parse text).bind ofFields with
  | none => .error (unreadable attempt)
  | some config => (validate config).map fun _ => config

def ofToml (text : String) : Except Report Config := ofText "failed to parse config" text

end Config

end RoadRegistry
