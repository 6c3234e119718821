import RoadRegistry.Config.Basic
import RoadRegistry.Json.Printer
import RoadRegistry.Toml.Writer

namespace RoadRegistry

namespace Config

def toJson (config : Config) : Json :=
  .object [
    ("log", .object [
      ("mode", .string config.log.mode.name),
      ("bootstrap_servers", .string config.log.bootstrapServers),
      ("road_topic", .string config.log.roadTopic),
      ("patch_topic", .string config.log.patchTopic)]),
    ("store", .object [
      ("sync_timeout_ms", .number (.ofUInt64 config.store.syncMillis)),
      ("poll_timeout_ms", .number (.ofUInt64 config.store.pollMillis)),
      ("catch_up_timeout_ms", .number (.ofUInt64 config.store.catchUpMillis))]),
    ("reconciler", .object [
      ("enabled", .bool config.reconciler.enabled),
      ("interval_seconds", .number (.ofUInt64 config.reconciler.intervalSeconds))]),
    ("agent", .object [
      ("enabled", .bool config.agent.enabled),
      ("default_partitions", .number (.ofUInt32 config.agent.defaultPartitions)),
      ("default_replication_factor",
        .number (.ofUInt16 config.agent.defaultReplicationFactor))]),
    ("telemetry", .object [("log_level", .string config.telemetry.logLevel)])]

open Toml.Writer in
def toSections (config : Config) : List Section := [
  ⟨"log", [
    .string "mode" config.log.mode.name,
    .string "bootstrap_servers" config.log.bootstrapServers,
    .string "road_topic" config.log.roadTopic,
    .string "patch_topic" config.log.patchTopic]⟩,
  ⟨"store", [
    .nat "sync_timeout_ms" config.store.syncMillis.toNat,
    .nat "poll_timeout_ms" config.store.pollMillis.toNat,
    .nat "catch_up_timeout_ms" config.store.catchUpMillis.toNat]⟩,
  ⟨"reconciler", [
    .bool "enabled" config.reconciler.enabled,
    .nat "interval_seconds" config.reconciler.intervalSeconds.toNat]⟩,
  ⟨"agent", [
    .bool "enabled" config.agent.enabled,
    .nat "default_partitions" config.agent.defaultPartitions.toNat,
    .nat "default_replication_factor" config.agent.defaultReplicationFactor.toNat]⟩,
  ⟨"telemetry", [.string "log_level" config.telemetry.logLevel]⟩]

def toToml (config : Config) : String :=
  String.ofList (Toml.Writer.writeSections config.toSections)

inductive Environment where
  | development
  | production
  deriving DecidableEq, Repr

namespace Environment

def ofName (name : String) : Environment :=
  if name = "prod" || name = "production" then .production else .development

def heading : Environment → String
  | .development => "# Roadworks development configuration (in-process changelog)\n"
  | .production => "# Roadworks production configuration\n"

def config : Environment → Config
  | .development =>
    { ofMode .memory with agent := { defaultReplicationFactor := 1 } }
  | .production => ofMode .kafka

end Environment

def template (environment : Environment) : String :=
  environment.heading ++ "\n" ++ environment.config.toToml

end Config

end RoadRegistry
