import RoadRegistry.Config.Reader
import RoadRegistry.Service.Basic
import RoadRegistry.Proofs.Text.Trimming

namespace RoadRegistry

namespace Config

def NamesHost (bootstrap : String) : Prop :=
  ∃ host ∈ Hosts.parts bootstrap, ∃ c ∈ host, Text.isBlankChar c = false

theorem hostCount_ne_zero_iff {bootstrap : String} :
    hostCount bootstrap ≠ 0 ↔ NamesHost bootstrap := by
  simp only [hostCount, ne_eq, List.length_eq_zero_iff, List.filter_eq_nil_iff, Bool.not_eq_true',
    List.isEmpty_eq_false_iff, Text.trim_eq_nil_iff, NamesHost]
  simp

/-- What a process needs of its configuration. -/
structure Valid (config : Config) : Prop where
  roadTopic : ∃ c ∈ config.log.roadTopic.toList, Text.isBlankChar c = false
  patchTopic : ∃ c ∈ config.log.patchTopic.toList, Text.isBlankChar c = false
  apart : config.log.roadTopic ≠ config.log.patchTopic
  hosts : config.log.mode = .memory ∨ NamesHost config.log.bootstrapServers
  sync : config.store.syncMillis ≠ 0
  poll : config.store.pollMillis ≠ 0
  poll_le_sync : config.store.pollMillis ≤ config.store.syncMillis
  catchUp : config.store.catchUpMillis ≠ 0
  interval : config.reconciler.enabled = true → config.reconciler.intervalSeconds ≠ 0
  partitions : config.agent.defaultPartitions ≠ 0
  replication : config.agent.defaultReplicationFactor ≠ 0
  logLevel : config.telemetry.logLevel ∈ logLevels

theorem require_eq_ok_iff {condition : Bool} {fault : Fault} :
    require condition fault = .ok () ↔ condition = true := by
  cases condition <;> simp [require]

theorem andThen_eq_ok_iff {first second : Except Fault Unit} :
    (do first; second) = .ok () ↔ first = .ok () ∧ second = .ok () := by
  cases first with
  | error fault => simp [bind, Except.bind]
  | ok _ => simp [bind, Except.bind]

theorem ne_kafka_iff {mode : LogMode} : mode ≠ .kafka ↔ mode = .memory := by
  cases mode <;> simp

theorem check_eq_ok_iff {config : Config} : check config = .ok () ↔ config.Valid := by
  simp only [check, checkLog, checkStore, checkReconciler, checkAgent, checkTelemetry,
    andThen_eq_ok_iff, require_eq_ok_iff, Bool.or_eq_true, Bool.not_eq_true', bne_iff_ne,
    Text.isBlank_eq_false_iff, ne_kafka_iff, hostCount_ne_zero_iff, decide_eq_true_eq,
    List.contains_iff_mem]
  constructor
  · rintro ⟨⟨road, patch, apart, hosts⟩, ⟨sync, poll, bounded, catchUp⟩, interval,
      ⟨partitions, replication⟩, level⟩
    have timed (enabled : config.reconciler.enabled = true) :
        config.reconciler.intervalSeconds ≠ 0 := interval.resolve_left (by simp [enabled])
    exact ⟨road, patch, apart, hosts, sync, poll, bounded, catchUp, timed, partitions, replication,
      level⟩
  · intro valid
    have interval : config.reconciler.enabled = false ∨ config.reconciler.intervalSeconds ≠ 0 :=
      (Bool.eq_false_or_eq_true _).symm.imp_right valid.interval
    exact ⟨⟨valid.roadTopic, valid.patchTopic, valid.apart, valid.hosts⟩,
      ⟨valid.sync, valid.poll, valid.poll_le_sync, valid.catchUp⟩, interval,
      ⟨valid.partitions, valid.replication⟩, valid.logLevel⟩

theorem validate_eq_ok_iff {config : Config} : validate config = .ok () ↔ config.Valid := by
  rw [← check_eq_ok_iff, validate]
  cases check config <;> simp [Except.mapError]

theorem exists_create_iff {config : Config} {brokers : Brokers} :
    (∃ service, Service.create config brokers = .ok service) ↔ config.Valid := by
  rw [← validate_eq_ok_iff, Service.create]
  cases validate config <;> simp

theorem validate_of_ofToml {text : String} {config : Config} (read : ofToml text = .ok config) :
    validate config = .ok () := by
  unfold ofToml ofText at read
  split at read
  · cases read
  · next other _ =>
    cases checked : validate other with
    | error report => simp [checked, Except.map] at read
    | ok _ =>
      simp only [checked, Except.map, Except.ok.injEq] at read
      exact read ▸ checked

theorem Valid.override_iff {config : Config} (valid : config.Valid) (overrides : Overrides) :
    (config.override overrides).Valid ↔
      (∀ level, overrides.logLevel = some level → level ∈ logLevels) ∧
        ((config.override overrides).log.mode = .memory ∨
          NamesHost (config.override overrides).log.bootstrapServers) := by
  constructor
  · intro still
    refine ⟨fun level given => ?_, still.hosts⟩
    have chosen := still.logLevel
    simp only [override, given, Option.getD_some] at chosen
    exact chosen
  · rintro ⟨levels, hosts⟩
    refine { valid with hosts, logLevel := ?_ }
    cases given : overrides.logLevel with
    | none => simpa only [override, given, Option.getD_none] using valid.logLevel
    | some level => simpa only [override, given, Option.getD_some] using levels level given

theorem getD_getD (given : Option α) (value : α) :
    given.getD (given.getD value) = given.getD value := by
  cases given <;> rfl

/-- Overrides break a valid configuration only by an unknown log level or, on brokers, by a list
that names no host. Beyond the mode, the hosts and the log level that they give they can only
disable the agent, and given twice they do what they did. A configuration that was read is one that
a process can be created from. -/
theorem override_breaks_in_two_ways (config : Config) (overrides : Overrides) (brokers : Brokers)
    (valid : validate config = .ok ()) :
    let changed := config.override overrides
    (validate changed = .ok () ↔
        (∀ level, overrides.logLevel = some level →
            level ∈ ["trace", "debug", "info", "warn", "error"]) ∧
          (changed.log.mode = .memory ∨
            ∃ host ∈ Hosts.parts changed.log.bootstrapServers,
              ∃ c ∈ host, Text.isBlankChar c = false)) ∧
      ((∃ service, Service.create changed brokers = .ok service) ↔ validate changed = .ok ()) ∧
      changed = { config with
        log := { config.log with
          mode := overrides.mode.getD config.log.mode
          bootstrapServers := overrides.bootstrapServers.getD config.log.bootstrapServers }
        telemetry := { logLevel := overrides.logLevel.getD config.telemetry.logLevel }
        agent := { config.agent with
          enabled := if overrides.passive then false else config.agent.enabled } } ∧
      changed.override overrides = changed ∧
      ∀ text read, ofToml text = .ok read →
        ∃ service, Service.create read brokers = .ok service := by
  intro changed
  refine ⟨validate_eq_ok_iff.trans ((validate_eq_ok_iff.mp valid).override_iff overrides),
    exists_create_iff.trans validate_eq_ok_iff.symm, ?_, ?_, fun text read came => ?_⟩
  · cases passive : overrides.passive <;> simp [changed, override, passive]
  · simp only [changed, override, getD_getD, Bool.and_assoc, Bool.and_self]
  · exact exists_create_iff.mpr (validate_eq_ok_iff.mp (validate_of_ofToml came))

def hostless : Config := { log := { mode := .memory, bootstrapServers := " ,\t, " } }

/-- The list that nobody looked at is missed as soon as the mode changes, and so is the log level
that is none; with a host, and the agent disabled, the configuration stays valid. -/
theorem hostless_breaks_on_brokers :
    let kafka : Overrides := { mode := some .kafka }
    let loud : Overrides := { logLevel := some "LOUD" }
    let passive : Overrides :=
      { mode := some .kafka, bootstrapServers := some ", b1:9092", passive := true }
    validate hostless = .ok () ∧
      validate (hostless.override kafka) ≠ .ok () ∧
      validate (hostless.override loud) ≠ .ok () ∧
      validate (hostless.override passive) = .ok () ∧
      (hostless.override passive).agent.enabled = false := by
  intro kafka loud passive
  have valid : validate hostless = .ok () := rfl
  have on_brokers := (override_breaks_in_two_ways hostless kafka .unreachable valid).1
  have too_loud := (override_breaks_in_two_ways hostless loud .unreachable valid).1
  have passively := (override_breaks_in_two_ways hostless passive .unreachable valid).1
  refine ⟨valid, fun accepted => ?_, fun accepted => ?_, passively.mpr ⟨?_, .inr ?_⟩, rfl⟩
  · rcases (on_brokers.mp accepted).2 with memory | host
    · cases memory
    · exact absurd (hostCount_ne_zero_iff.mpr host) (by decide)
  · exact absurd ((too_loud.mp accepted).1 "LOUD" rfl) (by decide)
  · nofun
  · exact hostCount_ne_zero_iff.mp (by decide)

end Config

end RoadRegistry
