import RoadRegistry.Reaction.Agent
import RoadRegistry.Road.Basic
import RoadRegistry.Topic.Admin

namespace RoadRegistry

structure TopicDefaults where
  partitions : UInt32 := 3
  replicationFactor : UInt16 := 3
  deriving DecidableEq, Repr

namespace TopicAgent

def wantedPartitions (defaults : TopicDefaults) (road : Road) : UInt32 :=
  road.partitions.getD defaults.partitions

def assess (defaults : TopicDefaults) (road : Road) (actual : UInt32) : Road.Status :=
  let wanted := wantedPartitions defaults road
  if actual < wanted then
    { phase := .drifted
      topicName := road.topicName
      partitions := some actual
      message := some ("topic has " ++ toString actual.toNat ++ " partitions, road requests " ++
        toString wanted.toNat) }
  else { phase := .ready, topicName := road.topicName, partitions := some actual }

/-- What a creation is for, which decides the status of the road and the words of a failure. -/
inductive Purpose where
  | provision
  | repair
  deriving DecidableEq, Repr

def Purpose.attempt : Purpose → String
  | .provision => "failed to create topic "
  | .repair => "failed to recreate topic "

def Purpose.status (purpose : Purpose) (topic : String) (partitions : UInt32) : Road.Status :=
  match purpose with
  | .provision => { phase := .pending, topicName := topic, partitions := some partitions }
  | .repair =>
    { phase := .drifted, topicName := topic, message := some "topic was missing" }

def ensure (defaults : TopicDefaults) (purpose : Purpose) (road : Road) (admin : TopicAdmin) :
    Except Report (Road.Status × TopicAdmin) := do
  let topic := road.topicName
  match ← admin.describe topic with
  | some found => return (assess defaults road found.partitions, admin)
  | none =>
    let partitions := wantedPartitions defaults road
    match admin.create topic partitions defaults.replicationFactor with
    | .ok admin => return (purpose.status topic partitions, admin)
    | .error report => .error (report.context (purpose.attempt ++ topic))

/-- Topics are named after roads, so a road must stand under its own name. -/
def checkKey (key : String) (road : Road) : Except Report Unit :=
  if road.name = key then .ok ()
  else .error (.ofMessage ("road " ++ Text.Quoted.quote road.name ++
    " is registered under key " ++ Text.Quoted.quote key))

def statusPatch (road : Road) (desired : Road.Status) : List Patch.Operation :=
  if road.status = some desired then [] else [.add "/status" desired.toValue]

def retired (road : Road) : Road.Status := { phase := .deleted, topicName := road.topicName }

def converge (defaults : TopicDefaults) (purpose : Purpose) (key : String) (road : Road)
    (admin : TopicAdmin) : Except Report (List Patch.Operation × TopicAdmin) := do
  checkKey key road
  if road.deleted then return (statusPatch road (retired road), admin)
  else if road.phase = .deleted then return ([], admin)
  else
    let (desired, admin) ← ensure defaults purpose road admin
    return (statusPatch road desired, admin)

/-- A call that fails leaves the topics as they were. Statuses carry no time, so that an answer that
was merged compares equal. -/
def call (defaults : TopicDefaults) (purpose : Purpose) (key : String) (road : Road)
    (admin : TopicAdmin) : Outcome (List Patch.Operation) × TopicAdmin :=
  match converge defaults purpose key road admin with
  | .ok (operations, admin) => (.returned operations, admin)
  | .error report => (.failed report, admin)

def agent (defaults : TopicDefaults) : Agent Road TopicAdmin where
  added key road admin := call defaults .provision key road admin
  updated key _ new admin := call defaults .provision key new admin
  removed _ _ admin := (.returned (), admin)
  inspected key road admin := call defaults .repair key road admin

end TopicAgent

end RoadRegistry
