import RoadRegistry.Proofs.Log.Hosts
import RoadRegistry.Proofs.Config.Validity

namespace RoadRegistry

namespace Config

theorem hostCount_eq_length (bootstrap : String) :
    hostCount bootstrap = (Hosts.parse bootstrap).length := by
  rw [hostCount, Hosts.parse, List.length_map, List.filter_map, List.length_map]
  rfl

def withHosts (config : Config) (bootstrap : String) : Config :=
  { config with log := { config.log with bootstrapServers := bootstrap } }

def OtherwiseValid (config : Config) : Prop :=
  ∃ bootstrap, validate (config.withHosts bootstrap) = .ok ()

theorem namesHost_iff {bootstrap : String} : NamesHost bootstrap ↔ Hosts.parse bootstrap ≠ [] := by
  rw [← hostCount_ne_zero_iff, hostCount_eq_length, ne_eq, List.length_eq_zero_iff]

theorem OtherwiseValid.validate_of_hosts {config : Config} (valid : config.OtherwiseValid)
    (hosts : Hosts.parse config.log.bootstrapServers ≠ []) : validate config = .ok () := by
  obtain ⟨bootstrap, accepted⟩ := valid
  have replaced := validate_eq_ok_iff.mp accepted
  rw [validate_eq_ok_iff]
  exact { replaced with hosts := .inr (namesHost_iff.mpr hosts) }

-- The hosts are looked at last in the log section, and the log section before the others.
theorem OtherwiseValid.check_of_no_hosts {config : Config} (valid : config.OtherwiseValid)
    (kafka : config.log.mode = .kafka) (no_hosts : Hosts.parse config.log.bootstrapServers = []) :
    check config = .error .noHosts := by
  obtain ⟨bootstrap, accepted⟩ := valid
  have replaced := validate_eq_ok_iff.mp accepted
  have roadTopic : Text.isBlank config.log.roadTopic = false :=
    Text.isBlank_eq_false_iff.mpr replaced.roadTopic
  have patchTopic : Text.isBlank config.log.patchTopic = false :=
    Text.isBlank_eq_false_iff.mpr replaced.patchTopic
  have apart : config.log.roadTopic ≠ config.log.patchTopic := replaced.apart
  have uncounted : hostCount config.log.bootstrapServers = 0 := by
    rw [hostCount_eq_length, no_hosts, List.length_nil]
  have log : checkLog config.log = .error .noHosts := by
    simp [checkLog, require, roadTopic, patchTopic, apart, kafka, uncounted, bind, Except.bind]
  rw [check, log]
  rfl

/-- A configuration on brokers in which all else is in order is valid exactly if some host is read
from its list, and is refused for want of hosts if none is. Each host that is read is clean. A list
can be cut at its commas in one way, and what is read are the parts that are not blank, in order and
each once, without the white space around them. Joined by commas the hosts are read back. -/
theorem validation_agrees_on_hosts (bootstrap : String) :
    (∀ config : Config, config.log.mode = .kafka → config.log.bootstrapServers = bootstrap →
        config.OtherwiseValid →
          (validate config = .ok () ↔ Hosts.parse bootstrap ≠ []) ∧
            (Hosts.parse bootstrap = [] → validate config =
              .error (.ofMessage "log.bootstrap_servers required for kafka mode"))) ∧
      (∀ host ∈ Hosts.parse bootstrap, Hosts.Clean host) ∧
      (∃! texts, Hosts.Between bootstrap texts) ∧
      (∀ texts, Hosts.Between bootstrap texts →
        List.Forall₂ Hosts.Surrounds (texts.filter Hosts.visible) (Hosts.parse bootstrap)) ∧
      Hosts.parse (",".intercalate (Hosts.parse bootstrap)) = Hosts.parse bootstrap := by
  have clean (host : String) (member : host ∈ Hosts.parse bootstrap) : Hosts.Clean host :=
    Hosts.clean_of_mem_parse member
  have one_reading : ∃! texts, Hosts.Between bootstrap texts :=
    ⟨_, Hosts.between_parts bootstrap, fun _ other => Hosts.between_iff.mp other⟩
  refine ⟨?_, clean, one_reading, fun _ between => between.surrounds, Hosts.parse_intercalate clean⟩
  rintro config kafka rfl valid
  have refused (no_hosts : Hosts.parse config.log.bootstrapServers = []) : validate config =
      .error (.ofMessage "log.bootstrap_servers required for kafka mode") := by
    rw [validate, valid.check_of_no_hosts kafka no_hosts]
    rfl
  refine ⟨⟨fun accepted no_hosts => ?_, valid.validate_of_hosts⟩, refused⟩
  rw [refused no_hosts] at accepted
  cases accepted

def onBrokers (bootstrap : String) : Config :=
  { log := { mode := .kafka, bootstrapServers := bootstrap } }

/-- Two hosts between blanks, with white space around one of them that is not only spaces; and a
list of blanks alone. -/
theorem padded_hosts_are_found :
    let padded := "b1:9092,, \tb2:9092\u3000,\u00a0"
    let texts := ["b1:9092", "", " \tb2:9092\u3000", "\u00a0"]
    let blanks := " ,\u2003"
    (onBrokers padded).OtherwiseValid ∧ Hosts.Between padded texts ∧
      Hosts.parse padded = ["b1:9092", "b2:9092"] ∧
      validate (onBrokers padded) = .ok () ∧
      List.Forall₂ Hosts.Surrounds ["b1:9092", " \tb2:9092\u3000"] ["b1:9092", "b2:9092"] ∧
      Hosts.parse "b1:9092,b2:9092" = ["b1:9092", "b2:9092"] ∧
      validate (onBrokers blanks) =
        .error (.ofMessage "log.bootstrap_servers required for kafka mode") := by
  intro padded texts blanks
  have otherwise_valid (bootstrap : String) : (onBrokers bootstrap).OtherwiseValid :=
    ⟨"b1:9092", by cbv⟩
  have found : Hosts.parse padded = ["b1:9092", "b2:9092"] := by decide
  have between : Hosts.Between padded texts := ⟨by decide, by decide, by decide⟩
  obtain ⟨validated, -, -, surrounded, joined⟩ := validation_agrees_on_hosts padded
  have accepted := (validated (onBrokers padded) rfl rfl (otherwise_valid padded)).1
  have refused :=
    ((validation_agrees_on_hosts blanks).1 (onBrokers blanks) rfl rfl (otherwise_valid blanks)).2
  refine ⟨otherwise_valid padded, between, found, accepted.mpr (by rw [found]; decide), ?_, ?_,
    refused (by decide)⟩
  · have aligned := surrounded texts between
    rw [found] at aligned
    exact aligned
  · rw [found] at joined
    exact joined

end Config

end RoadRegistry
