import RoadRegistry.Report

namespace RoadRegistry

structure Topic where
  name : String
  partitions : UInt32
  replicationFactor : UInt16
  deriving DecidableEq, Repr

structure TopicAdmin where
  topics : Dictionary String Topic := .empty
  failure : Option String := none
  /-- Message every creation fails with, before anything else is looked at. -/
  createFailure : Option String := none

namespace TopicAdmin

def check (admin : TopicAdmin) : Except Report Unit :=
  match admin.failure with
  | some message => .error (.ofMessage ("topic admin unavailable: " ++ message))
  | none => .ok ()

def describe (admin : TopicAdmin) (topic : String) : Except Report (Option Topic) := do
  admin.check
  return admin.topics.get? topic

def create (admin : TopicAdmin) (topic : String) (partitions : UInt32)
    (replicationFactor : UInt16) : Except Report TopicAdmin := do
  match admin.createFailure with
  | some message => .error (.ofMessage message)
  | none =>
    admin.check
    if admin.topics.contains topic then return admin
    else
      let created : Topic := ⟨topic, partitions, replicationFactor⟩
      return { admin with topics := admin.topics.insert topic created }

def register (admin : TopicAdmin) (topic : String) (partitions : UInt32) : TopicAdmin :=
  { admin with topics := admin.topics.insert topic ⟨topic, partitions, 1⟩ }

def drop (admin : TopicAdmin) (topic : String) : Bool × TopicAdmin :=
  (admin.topics.contains topic, { admin with topics := admin.topics.erase topic })

def fail (admin : TopicAdmin) (message : String) : TopicAdmin :=
  { admin with failure := some message }

def failCreate (admin : TopicAdmin) (message : String) : TopicAdmin :=
  { admin with createFailure := some message }

def recover (admin : TopicAdmin) : TopicAdmin :=
  { admin with failure := none, createFailure := none }

end TopicAdmin

end RoadRegistry
