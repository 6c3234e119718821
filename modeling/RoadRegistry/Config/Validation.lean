import RoadRegistry.Config.Basic
import RoadRegistry.Log.Hosts
import RoadRegistry.Report

namespace RoadRegistry

namespace Config

inductive Fault where
  | blankRoadTopic
  | blankPatchTopic
  /-- Patches on the road topic would get past the merge process. -/
  | sameTopic (topic : String)
  | noHosts
  | noSyncTimeout
  | noPollTimeout
  | pollExceedsSync (poll sync : UInt64)
  | noCatchUpTimeout
  | noInterval
  | noPartitions
  | noReplication
  | unknownLogLevel (level : String)
  deriving DecidableEq, Repr

def logLevels : List String := ["trace", "debug", "info", "warn", "error"]

def Fault.message : Fault → String
  | .blankRoadTopic => "log.road_topic must not be empty"
  | .blankPatchTopic => "log.patch_topic must not be empty"
  | .sameTopic topic => "log.road_topic and log.patch_topic must differ, both are: " ++ topic
  | .noHosts => "log.bootstrap_servers required for kafka mode"
  | .noSyncTimeout => "store.sync_timeout_ms must be > 0"
  | .noPollTimeout => "store.poll_timeout_ms must be > 0"
  | .pollExceedsSync poll sync =>
    "store.poll_timeout_ms (" ++ toString poll ++ ") cannot exceed store.sync_timeout_ms (" ++
      toString sync ++ ")"
  | .noCatchUpTimeout => "store.catch_up_timeout_ms must be > 0"
  | .noInterval => "reconciler.interval_seconds must be > 0"
  | .noPartitions => "agent.default_partitions must be > 0"
  | .noReplication => "agent.default_replication_factor must be > 0"
  | .unknownLogLevel level =>
    "telemetry.log_level must be one of [" ++
      ", ".intercalate (logLevels.map Text.Quoted.quote) ++ "], got: " ++ level

def require (condition : Bool) (fault : Fault) : Except Fault Unit :=
  if condition then .ok () else .error fault

def hostCount (bootstrap : String) : Nat :=
  ((Hosts.parts bootstrap).filter fun part => !(Text.trim part).isEmpty).length

def checkLog (log : LogSection) : Except Fault Unit := do
  require (!Text.isBlank log.roadTopic) .blankRoadTopic
  require (!Text.isBlank log.patchTopic) .blankPatchTopic
  require (log.roadTopic != log.patchTopic) (.sameTopic log.roadTopic)
  require (log.mode != .kafka || hostCount log.bootstrapServers != 0) .noHosts

def checkStore (store : StoreSection) : Except Fault Unit := do
  require (store.syncMillis != 0) .noSyncTimeout
  require (store.pollMillis != 0) .noPollTimeout
  require (store.pollMillis ≤ store.syncMillis)
    (.pollExceedsSync store.pollMillis store.syncMillis)
  require (store.catchUpMillis != 0) .noCatchUpTimeout

def checkReconciler (reconciler : ReconcilerSection) : Except Fault Unit :=
  require (!reconciler.enabled || reconciler.intervalSeconds != 0) .noInterval

def checkAgent (agent : AgentSection) : Except Fault Unit := do
  require (agent.defaultPartitions != 0) .noPartitions
  require (agent.defaultReplicationFactor != 0) .noReplication

def checkTelemetry (telemetry : TelemetrySection) : Except Fault Unit :=
  require (logLevels.contains telemetry.logLevel) (.unknownLogLevel telemetry.logLevel)

def check (config : Config) : Except Fault Unit := do
  checkLog config.log
  checkStore config.store
  checkReconciler config.reconciler
  checkAgent config.agent
  checkTelemetry config.telemetry

def validate (config : Config) : Except Report Unit :=
  (check config).mapError fun fault => .ofMessage fault.message

end Config

end RoadRegistry
