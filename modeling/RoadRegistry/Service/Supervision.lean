import RoadRegistry.Service.Basic

namespace RoadRegistry

inductive Event where
  | interrupt
  | shutdown
  | tick
  | record (key : Bytes) (value : Option Bytes)
  | outage (message : String)
  deriving Repr

namespace Service

/-- Supervises through the events. There is no outcome when all of them have gone by and the
service is still to be supervised. -/
def supervise : List Event → Service → Option (Except Report Unit × Service)
  | events, service =>
    if service.stopping then some (.ok (), service.stop)
    else
      match events with
      | [] => none
      | .interrupt :: _ => some (.ok (), service.stop)
      | .shutdown :: rest => supervise rest service.shutdown
      | .tick :: rest =>
        match service.refreshHealth with
        | (.error report, service) => some (.error report, service.stop)
        | (.ok (), service) => supervise rest service
      | .record key value :: rest => supervise rest (service.record key value)
      | .outage message :: rest => supervise rest (service.loseRoadLog message)

def run (events : List Event) (service : Service) : Option (Except Report Unit × Service) :=
  match service.start with
  | (.error report, service) => some (.error report, service)
  | (.ok (), service) => service.supervise events

end Service

end RoadRegistry
