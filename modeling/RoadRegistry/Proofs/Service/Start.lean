import RoadRegistry.Proofs.Cluster.Errors
import RoadRegistry.Proofs.Cluster.FirstRead
import RoadRegistry.Proofs.Replica.Snapshot
import RoadRegistry.Service.Basic

namespace RoadRegistry

namespace Site

def single (log : Log) (reader : Reader) (replica : Replica Road (Gated Reaction))
    (around : Infrastructure) : Cluster Road (Gated Reaction) Infrastructure where
  rehearsal := { log }
  nodes := [⟨storeName, false, reader, replica⟩]
  shared := around

/-- The reaction behind its gate, which has dropped the changes that these records make. -/
def gated (muted : Bool) (passed : List Record) (reaction : Reaction) : Gated Reaction :=
  ⟨⟨muted, (Live.empty.transitions Road.codec passed).length⟩, reaction⟩

variable {site : Site} {log : Log} {reader : Reader} {replica : Replica Road (Gated Reaction)}
variable {around : Infrastructure}

theorem node?_single : (single log reader replica around).node? storeName =
    some ⟨storeName, false, reader, replica⟩ := by
  simp [single, Cluster.node?]

theorem node?_stores (alone : site.stores = single log reader replica around) :
    site.stores.node? storeName = some ⟨storeName, false, reader, replica⟩ := by
  rw [alone, node?_single]

theorem replica?_single (alone : site.stores = single log reader replica around) :
    site.replica? = some replica := by
  rw [replica?, node?_stores alone]
  rfl

theorem stores_onReactions (alone : site.stores = single log reader replica around)
    (change : Gated Reaction → Gated Reaction) : (site.onReactions change).stores =
      single log reader { replica with observers := replica.observers.map change } around := by
  rw [onReactions, alone, node?_single]
  simp [single, Cluster.setNode]

theorem stores_startStore (site : Site) (alone : site.stores = (create log around).stores)
    (unheld : site.held = false) (defaults : TopicDefaults) (reaction : Reaction) :
    (site.startStore defaults reaction).stores =
      (create log around).stores.start (.muting Road.codec Infrastructure.now) storeName
        [⟨{ muted := true }, reaction⟩] {} := by
  have same := Cluster.start_gated (f := Infrastructure.following defaults) rfl
    (c := (create log around).stores) (List.forall_mem_nil _) storeName
    [⟨{ muted := true }, reaction⟩] (List.forall_mem_singleton.mpr rfl) {}
  simp only [startStore, alone, unheld]
  exact same

/-- The store as it starts, with a muted reaction: all changes were dropped, be it that every record
was gone through or that one could not be decoded. -/
theorem startStore_muted (site : Site) (tidy : log.Tidy) (available : log.unavailable = none)
    (alone : site.stores = (create log around).stores) (unheld : site.held = false)
    (defaults : TopicDefaults) (reaction : Reaction) :
    let records := log.partitions.flatMap (·.records)
    let started := (site.startStore defaults reaction).stores
    started = (create log around).stores.start (.muting Road.codec Infrastructure.now) storeName
        [⟨{ muted := true }, reaction⟩] {} ∧
      ∃ reader replica, started = single log reader replica around ∧
        ((∀ record ∈ records, Replica.Passable Road.codec record) →
          replica.progress.caughtUp = true ∧ replica.observers = [gated true records reaction] ∧
            ∀ key, replica.entries.get? key = outcome Road.codec records key) ∧
        ∀ before record after key error, records = before ++ record :: after →
          (∀ earlier ∈ before, Replica.Passable Road.codec earlier) →
          Decoded.ofRecord Road.codec record = .broken key error →
          replica.progress.caughtUp = false ∧
            replica.progress.failure = some (.serialization key error) ∧
            replica.observers = [gated true before reaction] := by
  intro records started
  let f : Following Road (Gated Reaction) Infrastructure := .muting Road.codec Infrastructure.now
  have quiet : f.notify.Quiet := Following.muting_quiet Road.codec Infrastructure.now
  have silent := stores_startStore site alone unheld defaults reaction
  obtain ⟨target, caughtUp, reader, first⟩ := Cluster.start_first f tidy available storeName
    [⟨{ muted := true }, reaction⟩] around
  -- From here on, the observers do not listen, and the fold counts what they do not hear.
  let begun : Replica Road (Gated Reaction) :=
    { topic := log.topic, observers := [gated true [] reaction], progress := { target, caughtUp } }
  have nothing_yet : begun.get? = Live.empty := rfl
  have dropped (passed : List Record) : begun.observers.map
      (Gated.suppress (Live.transitions Road.codec begun.get? passed).length) =
        [gated true passed reaction] := by
    rw [nothing_yet]
    simp [begun, gated, Gated.suppress, Live.transitions]
  let state := records.foldl (Replica.consume f) (begun, around)
  let replica : Replica Road (Gated Reaction) := { state.1 with
    progress := { state.1.progress with caughtUp := !state.1.progress.stopped } }
  have shared : state.2 = around :=
    Replica.shared_muting Road.codec Infrastructure.now rfl records around
  have left : started = single log reader replica around := by
    rw [← shared]
    exact silent.trans first
  refine ⟨silent, reader, replica, left, fun all => ?_, ?_⟩
  · obtain ⟨running, _, shown⟩ := Replica.foldl_consume_passable quiet (r := begun) rfl all around
    have counted :=
      (Replica.foldl_muting Road.codec Infrastructure.now (r := begun) rfl all around).2
    refine ⟨congrArg Bool.not running, counted.trans (dropped records), fun key => ?_⟩
    exact (shown key).trans (Option.or_none ..)
  · rintro before record after key error split passable broken
    obtain ⟨_, stopped, failure, counted⟩ := Replica.foldl_muting_fault Road.codec
      Infrastructure.now (r := begun) rfl passable broken after around
    rw [← split] at stopped failure counted
    exact ⟨congrArg Bool.not stopped, failure, counted.trans (dropped before)⟩

theorem stores_mute {observers : List (Gated Reaction)}
    (alone : site.stores = single log reader { replica with observers } around)
    (muted : observers.map Gated.mute = replica.observers) :
    site.mute.stores = single log reader replica around := by
  rw [mute, stores_onReactions alone, muted]

theorem reactionStats_single (alone : site.stores = single log reader replica around)
    {gate : Gate} {reaction : Reaction} (listens : replica.observers = [⟨gate, reaction⟩]) :
    site.reactionStats = reaction.stats := by
  rw [reactionStats, replica?_single alone, Option.bind_some, listens]
  rfl

end Site

namespace Service

theorem eq_of_createOn {config : Config} {site : Site} {brokers : Brokers} {service : Service}
    (created : createOn config site brokers = .ok service) :
    service = { config, brokers, offered := some { site with supplied := true } } := by
  unfold createOn create at created
  cases valid : config.validate with
  | error report =>
    rw [valid] at created
    cases created
  | ok _ =>
    rw [valid] at created
    exact (Except.ok.inj created).symm

theorem isReady_enterService {service : Service} (site : Site)
    (connected : service.health.changelog = .healthy)
    (passive : service.isPassive = true → service.health.reaction = .disabled) :
    (service.enterService site).isReady = true := by
  have reaction : (service.enterService site).health.reaction.isServing = true := by
    simp only [enterService]
    split
    · next is_passive =>
      rw [passive is_passive]
      rfl
    · rfl
  have reconciler : (service.enterService site).health.reconciler.isServing = true := by
    simp only [enterService]
    split <;> rfl
  have changelog : (service.enterService site).health.changelog = .healthy := connected
  have store : (service.enterService site).health.store = .healthy := rfl
  simp only [isReady, HealthReport.isReady, changelog, store, reaction, reconciler, decide_true,
    Bool.and_self]

def untold (config : Config) : Reaction := if config.agent.enabled then .active {} else .passive

theorem stats_untold (config : Config) : (untold config).stats = {} := by
  unfold untold
  split <;> rfl

def replaying (config : Config) (brokers : Brokers) (site : Site) : Service where
  config
  brokers
  site := some site
  health := {
    changelog := .healthy
    reaction := if config.agent.enabled then .starting else .disabled }

theorem start_offered (config : Config) (brokers : Brokers) (offered : Site) :
    ({ config, brokers, offered := some offered } : Service).start =
      let site := offered.startStore
        ⟨config.agent.defaultPartitions, config.agent.defaultReplicationFactor⟩ (untold config)
      match site.waitUntilCaughtUp config.store.catchUpTimeout with
      | .error error =>
        (.error ((Report.ofStoreError error).context "road store failed to catch up"),
          { replaying config brokers site with
            health := { (replaying config brokers site).health with store := .failed } })
      | .ok () => (.ok (), (replaying config brokers site).enterService site) := by
  cases enabled : config.agent.enabled <;>
    simp only [start, nextSite, connect, release, isPassive, defaults, replaying, untold, enabled,
      Bool.not_true, Bool.not_false, Bool.false_eq_true, ite_true, ite_false]
  all_goals rfl

theorem site_enterService (service : Service) {site : Site} {log : Log} {reader : Reader}
    {replica : Replica Road (Gated Reaction)} {around : Infrastructure}
    (alone : site.stores = Site.single log reader replica around) :
    ∃ entered, (service.enterService site).site = some entered ∧ entered.stores = Site.single log
      reader { replica with observers := replica.observers.map Gated.unmute } around := by
  refine ⟨_, rfl, ?_⟩
  split <;> exact Site.stores_onReactions alone Gated.unmute

/-- What the agent could have acted on is as it was, and nothing was counted. Muted again, the store
is as it would be with nobody behind the gate. -/
structure Unmoved (log : Log) (around : Infrastructure) (reaction : Reaction) (service : Service)
    (site : Site) : Prop where
  shared : site.around = around
  roadLog : site.roadLog = log
  stats : service.reactionStats = {}
  stores : site.mute.stores = (Site.create log around).stores.start
    (.muting Road.codec Infrastructure.now) Site.storeName
    [⟨{ muted := true }, reaction⟩] {}

section Offered

variable {log : Log} {around : Infrastructure}

theorem start_of_passable (config : Config) (brokers : Brokers) (offered : Site)
    (tidy : log.Tidy) (available : log.unavailable = none)
    (alone : offered.stores = (Site.create log around).stores) (unheld : offered.held = false)
    (all : ∀ record ∈ log.partitions.flatMap (·.records), Replica.Passable Road.codec record) :
    let records := log.partitions.flatMap (·.records)
    let attempt := ({ config, brokers, offered := some offered } : Service).start
    attempt.1 = .ok () ∧ attempt.2.isReady = true ∧ attempt.2.running = true ∧
      ∃ site replica, attempt.2.site = some site ∧ site.replica? = some replica ∧
        Unmoved log around (untold config) attempt.2 site ∧
        replica.observers = [Site.gated false records (untold config)] ∧
        ∀ key road, (key, road) ∈ replica.documents ↔
          outcome Road.codec records key = some (some road) := by
  intro records attempt
  let site := offered.startStore
    ⟨config.agent.defaultPartitions, config.agent.defaultReplicationFactor⟩ (untold config)
  obtain ⟨silent, reader, replica, single, passed, _⟩ :=
    Site.startStore_muted offered tidy available alone unheld
      ⟨config.agent.defaultPartitions, config.agent.defaultReplicationFactor⟩ (untold config)
  obtain ⟨completed, dropped, shown⟩ := passed all
  have there : site.stores.node? Site.storeName = _ := Site.node?_stores single
  have waited : site.waitUntilCaughtUp config.store.catchUpTimeout = .ok () := by
    simp only [Site.waitUntilCaughtUp, Cluster.waitUntilCaughtUp, there, Progress.catchUp,
      completed, ite_true]
  have succeeded : attempt = (.ok (), (replaying config brokers site).enterService site) := by
    simp only [attempt, start_offered, waited, site]
  obtain ⟨entered, now_there, unmuted⟩ := site_enterService (replaying config brokers site) single
  rw [dropped] at unmuted
  have muted_again : entered.mute.stores = Site.single log reader replica around :=
    Site.stores_mute unmuted dropped.symm
  have stats : ((replaying config brokers site).enterService site).reactionStats = {} := by
    rw [reactionStats, now_there]
    exact (Site.reactionStats_single unmuted rfl).trans (stats_untold config)
  rw [succeeded]
  refine ⟨rfl, ?_, rfl, entered, _, now_there, Site.replica?_single unmuted,
    ⟨congrArg Cluster.shared unmuted, congrArg Cluster.log unmuted, stats,
      muted_again.trans (single.symm.trans silent)⟩, rfl, fun key road => ?_⟩
  · refine isReady_enterService site rfl fun is_passive => ?_
    have disabled : config.agent.enabled = false := by
      simpa [isPassive, replaying] using is_passive
    simp only [replaying, disabled, Bool.false_eq_true, ite_false]
  · rw [Replica.mem_documents]
    exact Eq.congr_left (shown key)

theorem start_of_fault (config : Config) (brokers : Brokers) (offered : Site)
    (tidy : log.Tidy) (available : log.unavailable = none)
    (alone : offered.stores = (Site.create log around).stores) (unheld : offered.held = false)
    {before after : List Record} {record : Record} {key : String} {error : DecodeError}
    (split : log.partitions.flatMap (·.records) = before ++ record :: after)
    (passable : ∀ earlier ∈ before, Replica.Passable Road.codec earlier)
    (broken : Decoded.ofRecord Road.codec record = .broken key error) :
    let attempt := ({ config, brokers, offered := some offered } : Service).start
    attempt.1 = .error ⟨"road store failed to catch up" ::
        (Report.ofStoreError (.serialization key error)).chain⟩ ∧
      attempt.2.health.store = .failed ∧ attempt.2.isAlive = false ∧
      ∃ site replica, attempt.2.site = some site ∧ site.replica? = some replica ∧
        Unmoved log around (untold config) attempt.2 site ∧
        replica.observers = [Site.gated true before (untold config)] := by
  intro attempt
  let site := offered.startStore
    ⟨config.agent.defaultPartitions, config.agent.defaultReplicationFactor⟩ (untold config)
  obtain ⟨silent, reader, replica, single, _, failed⟩ :=
    Site.startStore_muted offered tidy available alone unheld
      ⟨config.agent.defaultPartitions, config.agent.defaultReplicationFactor⟩ (untold config)
  obtain ⟨behind, failure, dropped⟩ := failed before record after key error split passable broken
  have there : site.stores.node? Site.storeName = _ := Site.node?_stores single
  have waited : site.waitUntilCaughtUp config.store.catchUpTimeout =
      .error (.serialization key error) := by
    refine (Cluster.waitUntilCaughtUp_of_failed there failure _).trans ?_
    rw [behind]
    rfl
  have refused : attempt =
      (.error ((Report.ofStoreError (.serialization key error)).context
        "road store failed to catch up"),
        { replaying config brokers site with
          health := { (replaying config brokers site).health with store := .failed } }) := by
    simp only [attempt, start_offered, waited, site]
  have muted_still : site.mute.stores = Site.single log reader replica around := by
    refine Site.stores_mute single ?_
    rw [dropped]
    rfl
  rw [refused]
  exact ⟨rfl, rfl, rfl, site, replica, rfl, Site.replica?_single single,
    ⟨congrArg Cluster.shared single, congrArg Cluster.log single, rfl,
      muted_still.trans (single.symm.trans silent)⟩, dropped⟩

end Offered

/-- Starting a process never reacts to what its road log retains. Whatever happened to the log
before, the start succeeds exactly if every retained record decodes or is passed over. Then the
process is ready, the store shows each key as the last record that speaks of it has it, and the
reaction listens. Otherwise the first record, in the order of reading, that cannot be decoded is
what the start fails with, and the process is not alive. In both cases the patch log, the topics
and the road log are as they were, the reaction has counted nothing, and its gate has dropped each
change that was gone through: muted again, the store is as it would be with nobody behind the
gate. -/
theorem start_never_reacts_to_history (config : Config) (topic : String) (partitions : Nat)
    (history : List Log.Event) (around : Infrastructure) (brokers : Brokers) {service : Service}
    (available : ((Log.create topic partitions).after history).unavailable = none)
    (created : createOn config
      (Site.create ((Log.create topic partitions).after history) around) brokers = .ok service) :
    let log := (Log.create topic partitions).after history
    let records := log.partitions.flatMap (·.records)
    let reaction := untold config
    let attempt := service.start
    (attempt.1 = .ok () ↔ ∀ record ∈ records, Replica.Passable Road.codec record) ∧
      ∃ site replica, attempt.2.site = some site ∧ site.replica? = some replica ∧
        (site.around = around ∧ site.roadLog = log ∧ attempt.2.reactionStats = {} ∧
          site.mute.stores = (Site.create log around).stores.start
            (.muting Road.codec Infrastructure.now) Site.storeName
            [⟨{ muted := true }, reaction⟩] {}) ∧
        (attempt.1 = .ok () → attempt.2.isReady = true ∧ attempt.2.running = true ∧
          replica.observers = [Site.gated false records reaction] ∧
          ∀ key road, (key, road) ∈ replica.documents ↔
            outcome Road.codec records key = some (some road)) ∧
        ∀ before record after key error, records = before ++ record :: after →
          (∀ earlier ∈ before, Replica.Passable Road.codec earlier) →
          Decoded.ofRecord Road.codec record = .broken key error →
          attempt.1 = .error ⟨"road store failed to catch up" ::
              (Report.ofStoreError (.serialization key error)).chain⟩ ∧
            attempt.2.health.store = .failed ∧ attempt.2.isAlive = false ∧
            replica.observers = [Site.gated true before reaction] := by
  intro log records reaction attempt
  have tidy : log.Tidy := (Log.Tidy.create topic partitions).after history
  let offered : Site := { Site.create log around with supplied := true }
  obtain rfl : service = { config, brokers, offered := some offered } := eq_of_createOn created
  rcases Replica.passable_or_fault Road.codec records with
    all | ⟨before, record, after, key, error, split, passable, broken⟩
  · obtain ⟨succeeded, ready, running, site, replica, there, held, unmoved, dropped, shown⟩ :=
      start_of_passable config brokers offered tidy available rfl rfl all
    refine ⟨⟨fun _ => all, fun _ => succeeded⟩, site, replica, there, held,
      ⟨unmoved.shared, unmoved.roadLog, unmoved.stats, unmoved.stores⟩,
      fun _ => ⟨ready, running, dropped, shown⟩, ?_⟩
    intro before record after key error split _ broken
    have member : record ∈ records := by rw [split]; simp
    exact absurd broken (all record member key error)
  · obtain ⟨failed, _, _, site, replica, there, held, unmoved, _⟩ :=
      start_of_fault config brokers offered tidy available rfl rfl split passable broken
    refine ⟨⟨fun succeeded => ?_, fun all => ?_⟩, site, replica, there, held,
      ⟨unmoved.shared, unmoved.roadLog, unmoved.stats, unmoved.stores⟩, fun succeeded => ?_, ?_⟩
    · cases failed.symm.trans succeeded
    · have member : record ∈ records := by rw [split]; simp
      exact absurd broken (all record member key error)
    · cases failed.symm.trans succeeded
    · -- Whichever way the first fault is pointed out, the site and its store are the same.
      intro before record after key error split passable broken
      obtain ⟨failed, marked, dead, site', replica', there', held', _, dropped⟩ :=
        start_of_fault config brokers offered tidy available rfl rfl split passable broken
      obtain rfl : site = site' := Option.some.inj (there.symm.trans there')
      obtain rfl : replica = replica' := Option.some.inj (held.symm.trans held')
      exact ⟨failed, marked, dead, dropped⟩

/-- A removed road, a record that is not one of the registry and another removed road; what came
before was deleted. -/
def spoiled : List Log.Event :=
  [.append (Key.encode "a") none, .append (Key.encode "b") none, .append [120] none,
    .append (Key.encode "c") none, .deleteRecords 0 1]

theorem spoiled_log_fails_start :
    let log := (Log.create "_roads" 1).after spoiled
    let around : Infrastructure := ⟨⟨1⟩, Log.create "_roadmodification" 1, {}⟩
    log.unavailable = none ∧
      ∃ service, createOn (.ofMode .memory) (Site.create log around) = .ok service ∧
        service.start.1 = .error ⟨["road store failed to catch up",
          "serialization failed for key x: unknown frame prefix 0x78",
          "unknown frame prefix 0x78"]⟩ ∧
        service.start.2.isAlive = false := by
  intro log around
  have available : log.unavailable = none := rfl
  have created : createOn (.ofMode .memory) (Site.create log around) = .ok {
      config := .ofMode .memory
      offered := some { Site.create log around with supplied := true } } := by rfl
  have retained : log.partitions.flatMap (·.records) =
      [⟨0, 1, Key.encode "b", none⟩] ++ ⟨0, 2, [120], none⟩ :: [⟨0, 3, Key.encode "c", none⟩] := by
    rfl
  have passable : ∀ earlier ∈ ([⟨0, 1, Key.encode "b", none⟩] : List Record),
      Replica.Passable Road.codec earlier := by
    rw [List.forall_mem_singleton]
    intro key error
    rw [Decoded.ofRecord_tombstone rfl rfl]
    nofun
  have broken : Decoded.ofRecord Road.codec ⟨0, 2, [120], none⟩ =
      .broken "x" (.unknownTag 120) := by rfl
  obtain ⟨_, _, _, _, _, _, _, failed⟩ := start_never_reacts_to_history (.ofMode .memory) "_roads" 1
    spoiled around .unreachable available created
  obtain ⟨error, _, dead, _⟩ := failed _ _ _ _ _ retained passable broken
  exact ⟨available, _, created, error, dead⟩

end Service

end RoadRegistry
