import RoadRegistry.Cluster.Basic
import RoadRegistry.Inspection.Scan
import RoadRegistry.Inspection.Schedule
import RoadRegistry.Reaction.Basic
import RoadRegistry.Road.TopicAgent

namespace RoadRegistry

structure Infrastructure where
  clock : Clock
  patchLog : Log
  topics : TopicAdmin := {}

namespace Infrastructure

def patchLogPart : Part Infrastructure Log :=
  ⟨Infrastructure.patchLog, fun patchLog around => { around with patchLog }⟩

def topicsPart : Part Infrastructure TopicAdmin :=
  ⟨Infrastructure.topics, fun topics around => { around with topics }⟩

def now (around : Infrastructure) : UInt64 := around.clock.now

def binding (defaults : TopicDefaults) : Binding Road Infrastructure where
  agent := (TopicAgent.agent defaults).within topicsPart
  emitter := Emitter.within patchLogPart Emitter.toLog
  same := Road.valueEq

def following (defaults : TopicDefaults) : Following Road (Gated Reaction) Infrastructure where
  codec := Road.codec
  now := now
  notify := Gated.notify (Reaction.notify (binding defaults))

def inspector (defaults : TopicDefaults) : Inspector Road Infrastructure :=
  ⟨(binding defaults).agent, (binding defaults).emitter, now⟩

end Infrastructure

structure Site where
  stores : Cluster Road (Gated Reaction) Infrastructure
  inspections : Schedule := {}
  /-- The store never gets to read the road log. -/
  held : Bool := false
  /-- Belongs to the caller, who goes on using it. -/
  supplied : Bool := false

namespace Site

def storeName : String := "roads"

def create (roadLog : Log) (around : Infrastructure) : Site :=
  { stores := { rehearsal := { log := roadLog }, shared := around } }

def roadLog (site : Site) : Log := site.stores.log

def around (site : Site) : Infrastructure := site.stores.shared

def withAround (site : Site) (change : Infrastructure → Infrastructure) : Site :=
  { site with stores := { site.stores with shared := change site.around } }

def replica? (site : Site) : Option (Replica Road (Gated Reaction)) :=
  (site.stores.node? storeName).map Node.replica

def failure (site : Site) : Option StoreError :=
  site.replica?.bind fun replica => replica.progress.failure

def documents (site : Site) : List (String × Road) :=
  match site.replica? with
  | some replica => replica.documents
  | none => []

def reactionStats (site : Site) : ReactionStats :=
  match site.replica?.bind fun replica => replica.observers.head? with
  | some reaction => reaction.inner.stats
  | none => {}

def startStore (defaults : TopicDefaults) (reaction : Reaction) (site : Site) : Site :=
  { site with
    stores := site.stores.start (Infrastructure.following defaults) storeName
      [⟨{ muted := true }, reaction⟩] { held := site.held } }

def waitUntilCaughtUp (timeout : Duration) (site : Site) : Except StoreError Unit :=
  site.stores.waitUntilCaughtUp storeName timeout

def onReactions (site : Site) (change : Gated Reaction → Gated Reaction) : Site :=
  match site.stores.node? storeName with
  | none => site
  | some node =>
    let replica := { node.replica with observers := node.replica.observers.map change }
    { site with stores := site.stores.setNode { node with replica } }

def mute (site : Site) : Site := site.onReactions Gated.mute

def unmute (site : Site) : Site := site.onReactions Gated.unmute

def close (defaults : TopicDefaults) (site : Site) : Site :=
  { site with stores := (site.stores.close (Infrastructure.following defaults) storeName).2 }

def changeRoadLog (defaults : TopicDefaults) (change : Log → Log) (site : Site) : Site :=
  { site with
    stores := (site.stores.withLog (change site.roadLog)).settle
      (Infrastructure.following defaults) }

def append (defaults : TopicDefaults) (key : Bytes) (value : Option Bytes) (site : Site) :
    Except StoreError Position × Site :=
  match site.roadLog.append key value with
  | .ok (position, log) => (.ok position, site.changeRoadLog defaults fun _ => log)
  | .error error => (.error error, site)

def put (defaults : TopicDefaults) (key : String) (road : Road) (site : Site) :
    Except StoreError Road × Site :=
  let (outcome, stores) :=
    site.stores.put (Infrastructure.following defaults) storeName key road
  (outcome, { site with stores })

def remove (defaults : TopicDefaults) (key : String) (site : Site) :
    Except StoreError (Option Road) × Site :=
  let (outcome, stores) :=
    site.stores.remove (Infrastructure.following defaults) storeName key
  (outcome, { site with stores })

def isInspected (site : Site) : Bool := site.inspections.tasks.any fun task => !task.ended

def scheduleInspections (interval : Duration) (stopping : Bool) (site : Site) : Site :=
  { site with inspections := ({ site.inspections with stopping }).add interval.millis }

def scan (defaults : TopicDefaults) (site : Site) : Site :=
  site.withAround fun around =>
    ((Infrastructure.inspector defaults).scan site.documents around).2

def scanTimes (defaults : TopicDefaults) : Nat → Site → Site
  | 0, site => site
  | count + 1, site => scanTimes defaults count (site.scan defaults)

def run (defaults : TopicDefaults) (step : Schedule → Nat × Schedule) (site : Site) : Site :=
  let (count, inspections) := step site.inspections
  scanTimes defaults count { site with inspections }

def pass (defaults : TopicDefaults) (millis : Nat) (site : Site) : Site :=
  site.run defaults fun schedule => schedule.elapse (millis + 1)

def leap (defaults : TopicDefaults) (millis : Nat) (site : Site) : Site :=
  (site.run defaults fun schedule => schedule.leap millis).pass defaults 0

def look (defaults : TopicDefaults) (site : Site) : Site :=
  site.run defaults fun schedule => schedule.elapse 0

/-- Once nobody but its inspectors holds on to a site, its store lives as long as they do. -/
def expire (defaults : TopicDefaults) (site : Site) : Site :=
  if site.isInspected then site else site.close defaults

end Site

end RoadRegistry
