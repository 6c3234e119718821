import RoadRegistry.Config.Validation
import RoadRegistry.Service.Health
import RoadRegistry.Service.Transport

namespace RoadRegistry

structure Service where
  config : Config
  clock : Clock := ⟨0⟩
  brokers : Brokers := .unreachable
  health : HealthReport := {}
  running : Bool := false
  /-- Shutdown was asked for. It stays in force. -/
  stopping : Bool := false
  /-- Supplied by the caller, for the first start. -/
  offered : Option Site := none
  site : Option Site := none
  reacting : Bool := false
  released : List Site := []

namespace Service

def create (config : Config) (brokers : Brokers := .unreachable) : Except Report Service :=
  match Config.validate config with
  | .ok () => .ok { config, brokers }
  | .error report => .error (report.context "invalid configuration")

def createOn (config : Config) (site : Site) (brokers : Brokers := .unreachable) :
    Except Report Service :=
  (create config brokers).map fun service =>
    { service with offered := some { site with supplied := true } }

def isReady (service : Service) : Bool := service.health.isReady

def isAlive (service : Service) : Bool := service.health.isAlive

def defaults (service : Service) : TopicDefaults :=
  ⟨service.config.agent.defaultPartitions, service.config.agent.defaultReplicationFactor⟩

def isPassive (service : Service) : Bool := !service.config.agent.enabled

def inspects (service : Service) : Bool :=
  service.config.agent.enabled && service.config.reconciler.enabled

def reactionStats (service : Service) : ReactionStats :=
  match service.site with
  | some site => if service.reacting then site.reactionStats else {}
  | none => {}

def failure (service : Service) : Option StoreError := service.site.bind Site.failure

def nextSite (service : Service) : Except Report Site :=
  match service.offered with
  | some site => .ok site
  | none => Transport.openSite service.config service.clock service.brokers

def release (service : Service) : Service :=
  { service with
    site := none
    released := (service.released ++ service.site.toList).map fun site =>
      (site.look service.defaults).expire service.defaults }

def connect (site : Site) (service : Service) : Site × Service :=
  let reaction : Reaction := if service.isPassive then .passive else .active {}
  let site := site.startStore service.defaults reaction
  let service := service.release
  (site, { service with
    offered := none
    site := some site
    health := { service.health with
      changelog := .healthy
      reaction := if service.isPassive then .disabled else .starting } })

def enterService (site : Site) (service : Service) : Service :=
  let site := site.unmute
  let interval := service.config.reconciler.interval
  { service with
    site := some <|
      if service.inspects then site.scheduleInspections interval service.stopping else site
    reacting := true
    running := true
    health := { service.health with
      store := .healthy
      reaction := if service.isPassive then service.health.reaction else .healthy
      reconciler := if service.inspects then .healthy else .disabled } }

/-- The reaction stays muted until the replay is over, so that the agent only hears of what changes
while the process runs; what changed before is left to the first inspection. -/
def start (service : Service) : Except Report Unit × Service :=
  match service.nextSite with
  | .error report => (.error report, service)
  | .ok site =>
    let (site, service) := service.connect site
    match site.waitUntilCaughtUp service.config.store.catchUpTimeout with
    | .error error =>
      (.error ((Report.ofStoreError error).context "road store failed to catch up"),
        { service with health := { service.health with store := .failed } })
    | .ok () => (.ok (), service.enterService site)

def shutdown (service : Service) : Service :=
  let send (site : Site) : Site := { site with inspections := site.inspections.send true }
  { service with
    stopping := true
    site := service.site.map send
    released := service.released.map send }

/-- The store counts as failed when it was reported so or has a failure that nobody looked at. -/
def hasFailed (service : Service) : Bool :=
  service.health.store = .failed || service.failure.isSome

/-- The health after a stop. Components that were never started keep theirs. -/
def stoppedHealth (service : Service) : HealthReport where
  changelog := .stopped
  store := if service.hasFailed then .failed else .stopped
  reaction := if service.health.reaction = .disabled then .disabled else .stopped
  reconciler :=
    match service.site with
    | some site => if site.inspections.tasks.isEmpty then service.health.reconciler else .stopped
    | none => service.health.reconciler

def stop (service : Service) : Service :=
  let health := service.stoppedHealth
  let service := service.shutdown
  let service := { service with
    site := service.site.map fun (site : Site) => site.mute.close service.defaults }
  { service.release with running := false, reacting := false, health }

def refreshHealth (service : Service) : Except Report Unit × Service :=
  match service.failure with
  | some error =>
    (.error ((Report.ofStoreError error).context "road store failed"),
      { service with health := { service.health with store := .failed } })
  | none => (.ok (), service)

def onSite (step : Site → α × Site) (service : Service) : Option α × Service :=
  match service.site with
  | some site =>
    let (answer, site) := step site
    (some answer, { service with site := some site })
  | none => (none, service)

def put (key : String) (road : Road) (service : Service) :
    Option (Except StoreError Road) × Service :=
  service.onSite (Site.put service.defaults key road)

def remove (key : String) (service : Service) :
    Option (Except StoreError (Option Road)) × Service :=
  service.onSite (Site.remove service.defaults key)

def mapSites (change : Site → Site) (service : Service) : Service :=
  { service with
    offered := service.offered.map change
    site := service.site.map change
    released := service.released.map change }

def passTime (atOnce : Bool) (millis : Nat) (service : Service) : Service :=
  let move (site : Site) : Site :=
    if atOnce then site.leap service.defaults millis else site.pass service.defaults millis
  { service with
    site := service.site.map move
    released := service.released.map fun site => (move site).expire service.defaults }

def supplied? (service : Service) : Option Site :=
  (service.offered.toList ++ service.site.toList ++ service.released).find? Site.supplied

def changeSupplied (change : Site → Site) (service : Service) : Service :=
  service.mapSites fun site => if site.supplied then change site else site

def record (key : Bytes) (value : Option Bytes) (service : Service) : Service :=
  { service with site := service.site.map fun site => (site.append service.defaults key value).2 }

def loseRoadLog (message : String) (service : Service) : Service :=
  { service with
    site := service.site.map fun site =>
      site.changeRoadLog service.defaults fun log => log.setUnavailable message }

end Service

end RoadRegistry
