import RoadRegistry.Road.TopicAgent

namespace RoadRegistry

namespace TopicAdmin

variable {admin : TopicAdmin} {topic : String}

def Working (admin : TopicAdmin) : Prop := admin.failure = none ∧ admin.createFailure = none

theorem describe_of_reachable (reachable : admin.failure = none) (topic : String) :
    admin.describe topic = .ok (admin.topics.get? topic) := by
  unfold describe check
  rw [reachable]
  rfl

theorem create_of_missing (working : admin.Working) (missing : admin.topics.get? topic = none)
    (partitions : UInt32) (replicationFactor : UInt16) :
    admin.create topic partitions replicationFactor = .ok { admin with
      topics := admin.topics.insert topic ⟨topic, partitions, replicationFactor⟩ } := by
  unfold create check Dictionary.contains
  rw [working.1, working.2, missing]
  rfl

end TopicAdmin

namespace TopicAgent

def Active (road : Road) : Prop := road.deleted = false ∧ road.phase ≠ .deleted

instance (road : Road) : Decidable (Active road) :=
  inferInstanceAs (Decidable (road.deleted = false ∧ road.phase ≠ .deleted))

def wantedTopic (defaults : TopicDefaults) (road : Road) : Topic :=
  ⟨road.topicName, wantedPartitions defaults road, defaults.replicationFactor⟩

variable {road : Road} {admin : TopicAdmin} {key : String}

theorem call_of_deleted (defaults : TopicDefaults) (purpose : Purpose)
    (deleted : road.deleted = true) (admin : TopicAdmin) :
    call defaults purpose road.name road admin =
      (.returned (statusPatch road (retired road)), admin) := by
  have own : checkKey road.name road = .ok () := if_pos rfl
  simp only [call, converge, own, deleted]
  rfl

theorem call_of_retired (defaults : TopicDefaults) (purpose : Purpose)
    (flagless : road.deleted = false) (retired : road.phase = .deleted) (admin : TopicAdmin) :
    call defaults purpose road.name road admin = (.returned [], admin) := by
  have own : checkKey road.name road = .ok () := if_pos rfl
  simp only [call, converge, own, flagless, retired]
  rfl

theorem call_of_topic (defaults : TopicDefaults) (purpose : Purpose) (active : Active road)
    (reachable : admin.failure = none) {topic : Topic}
    (found : admin.topics.get? road.topicName = some topic) :
    call defaults purpose road.name road admin =
      (.returned (statusPatch road (assess defaults road topic.partitions)), admin) := by
  have own : checkKey road.name road = .ok () := if_pos rfl
  have described := TopicAdmin.describe_of_reachable reachable road.topicName
  rw [found] at described
  simp only [call, converge, ensure, own, active.1, active.2, described]
  rfl

theorem call_of_missing (defaults : TopicDefaults) (purpose : Purpose) (active : Active road)
    (working : admin.Working) (missing : admin.topics.get? road.topicName = none) :
    call defaults purpose road.name road admin =
      (.returned (statusPatch road
          (purpose.status road.topicName (wantedPartitions defaults road))),
        { admin with
          topics := admin.topics.insert road.topicName (wantedTopic defaults road) }) := by
  have own : checkKey road.name road = .ok () := if_pos rfl
  have described := TopicAdmin.describe_of_reachable working.1 road.topicName
  have created := TopicAdmin.create_of_missing working missing (wantedPartitions defaults road)
    defaults.replicationFactor
  rw [missing] at described
  simp only [call, converge, ensure, own, active.1, active.2, described, Bind.bind, Except.bind,
    created]
  rfl

end TopicAgent

end RoadRegistry
