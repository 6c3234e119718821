import RoadRegistry.Clock

namespace RoadRegistry

inductive LogMode where
  | kafka
  | memory
  deriving DecidableEq, Repr

namespace LogMode

def name : LogMode → String
  | .kafka => "kafka"
  | .memory => "memory"

def ofName? : String → Option LogMode
  | "kafka" => some .kafka
  | "memory" => some .memory
  | _ => none

end LogMode

structure LogSection where
  mode : LogMode := .kafka
  bootstrapServers : String := "localhost:9092"
  roadTopic : String := "_roads"
  patchTopic : String := "_roadmodification"
  deriving DecidableEq, Repr

structure StoreSection where
  syncMillis : UInt64 := 30000
  pollMillis : UInt64 := 100
  catchUpMillis : UInt64 := 120000
  deriving DecidableEq, Repr

namespace StoreSection

def syncTimeout (store : StoreSection) : Duration := ⟨store.syncMillis.toNat⟩

def pollTimeout (store : StoreSection) : Duration := ⟨store.pollMillis.toNat⟩

def catchUpTimeout (store : StoreSection) : Duration := ⟨store.catchUpMillis.toNat⟩

end StoreSection

structure ReconcilerSection where
  enabled : Bool := true
  intervalSeconds : UInt64 := 60
  deriving DecidableEq, Repr

namespace ReconcilerSection

def interval (reconciler : ReconcilerSection) : Duration :=
  .ofSeconds reconciler.intervalSeconds.toNat

end ReconcilerSection

structure AgentSection where
  enabled : Bool := true
  defaultPartitions : UInt32 := 3
  defaultReplicationFactor : UInt16 := 3
  deriving DecidableEq, Repr

structure TelemetrySection where
  logLevel : String := "info"
  deriving DecidableEq, Repr

structure Config where
  log : LogSection
  store : StoreSection := {}
  reconciler : ReconcilerSection := {}
  agent : AgentSection := {}
  telemetry : TelemetrySection := {}
  deriving DecidableEq, Repr

structure Overrides where
  logLevel : Option String := none
  mode : Option LogMode := none
  bootstrapServers : Option String := none
  passive : Bool := false
  deriving DecidableEq, Repr

namespace Config

def ofMode (mode : LogMode) : Config := { log := { mode } }

def override (config : Config) (overrides : Overrides) : Config :=
  { config with
    log := { config.log with
      mode := overrides.mode.getD config.log.mode
      bootstrapServers := overrides.bootstrapServers.getD config.log.bootstrapServers }
    agent := { config.agent with enabled := config.agent.enabled && !overrides.passive }
    telemetry := { logLevel := overrides.logLevel.getD config.telemetry.logLevel } }

end Config

end RoadRegistry
