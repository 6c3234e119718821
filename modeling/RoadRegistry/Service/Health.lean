namespace RoadRegistry

inductive Health where
  | starting
  | healthy
  | failed
  | stopping
  | stopped
  | disabled
  deriving DecidableEq, Repr

namespace Health

def name : Health → String
  | .starting => "Starting"
  | .healthy => "Healthy"
  | .failed => "Failed"
  | .stopping => "Stopping"
  | .stopped => "Stopped"
  | .disabled => "Disabled"

def isServing (health : Health) : Bool := health = .healthy || health = .disabled

end Health

structure HealthReport where
  changelog : Health := .starting
  store : Health := .starting
  reaction : Health := .starting
  reconciler : Health := .starting
  deriving DecidableEq, Repr

namespace HealthReport

def isReady (report : HealthReport) : Bool :=
  report.changelog = .healthy && report.store = .healthy && report.reaction.isServing &&
    report.reconciler.isServing

def isAlive (report : HealthReport) : Bool := report.changelog != .failed && report.store != .failed

end HealthReport

end RoadRegistry
