import RoadRegistry.Config.Basic
import RoadRegistry.Log.Hosts
import RoadRegistry.Service.Site

namespace RoadRegistry

/-- A client of brokers. It is given the hosts in the order of the configuration. -/
structure Brokers where
  /-- The log of a topic, or the message that the connection fails with. -/
  connect : List String → String → Except String Log
  topics : List String → TopicAdmin := fun _ => {}

def Brokers.unreachable : Brokers where
  connect _ _ := .error "No host reachable"

namespace Transport

/-- A log in memory is a new one, empty and with one partition. -/
def openLog (config : Config) (topic : String) (brokers : Brokers := .unreachable) :
    Except Report Log :=
  match config.log.mode with
  | .memory => .ok (Log.create topic 1)
  | .kafka =>
    match brokers.connect (Hosts.parse config.log.bootstrapServers) topic with
    | .ok log => .ok { log with topic }
    | .error message =>
      .error ((Report.ofStoreError (.io topic message)).context
        ("failed to connect producer for " ++ topic))

def openTopics (config : Config) (brokers : Brokers) : TopicAdmin :=
  match config.log.mode with
  | .memory => {}
  | .kafka => brokers.topics (Hosts.parse config.log.bootstrapServers)

def openSite (config : Config) (clock : Clock) (brokers : Brokers) : Except Report Site := do
  let roadLog ← openLog config config.log.roadTopic brokers
  let patchLog ← openLog config config.log.patchTopic brokers
  return Site.create roadLog { clock, patchLog, topics := openTopics config brokers }

end Transport

end RoadRegistry
