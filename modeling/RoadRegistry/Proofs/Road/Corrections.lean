import RoadRegistry.Proofs.Road.Answers
import RoadRegistry.Proofs.Road.Status

namespace RoadRegistry

namespace Road

def withStatus (road : Road) (status : Status) : Road := { road with status := some status }

variable {road : Road} {status : Status}

@[simp] theorem deleted_withStatus : (road.withStatus status).deleted = road.deleted := rfl
@[simp] theorem topicName_withStatus : (road.withStatus status).topicName = status.topicName := rfl

theorem withStatus_of_eq (same : road.status = some status) : road.withStatus status = road := by
  rw [withStatus, ← same]

/-- Merges operations into a road as the process that keeps the registry does. Agents set the
status and nothing else; anything else is not merged. -/
def merge (road : Road) : List Patch.Operation → Option Road
  | [] => some road
  | .add path value :: rest | .replace path value :: rest =>
    if path = "/status" then
      match Status.read value with
      | .ok status => merge (road.withStatus status) rest
      | .error _ => none
    else none
  | .remove _ :: _ => none

end Road

namespace TopicAdmin

def Kept (before after : TopicAdmin) : Prop :=
  ∀ name topic, before.topics.get? name = some topic → after.topics.get? name = some topic

variable {admin : TopicAdmin} {topic : String}

theorem Kept.refl (admin : TopicAdmin) : Kept admin admin := fun _ _ found => found

theorem kept_insert (missing : admin.topics.get? topic = none) (created : Topic) :
    admin.Kept { admin with topics := admin.topics.insert topic created } := by
  intro name other found
  have apart : name ≠ topic := by
    rintro rfl
    rw [missing] at found
    cases found
  exact (Dictionary.get?_insert_of_ne _ apart _).trans found

end TopicAdmin

namespace TopicAgent

variable {defaults : TopicDefaults} {admin : TopicAdmin} {road : Road}

theorem merge_statusPatch (road : Road) (desired : Road.Status) :
    road.merge (statusPatch road desired) = some (road.withStatus desired) := by
  unfold statusPatch
  split
  · next same => rw [Road.withStatus_of_eq same]; rfl
  · simp only [Road.merge, ite_true, Road.Status.read_toValue]

/-- How many corrections of a road are still to come: its topic may be missing, its status may not
say yet what there is. -/
def outstanding (defaults : TopicDefaults) (admin : TopicAdmin) (road : Road) : Nat :=
  if road.deleted then if road.status = some (retired road) then 0 else 1
  else if road.phase = .deleted then 0
  else
    match admin.topics.get? road.topicName with
    | none => 2
    | some topic => if road.status = some (assess defaults road topic.partitions) then 0 else 1

theorem outstanding_of_deleted (deleted : road.deleted = true) :
    outstanding defaults admin road = if road.status = some (retired road) then 0 else 1 :=
  if_pos deleted

theorem outstanding_of_retired (flagless : road.deleted = false) (retired : road.phase = .deleted) :
    outstanding defaults admin road = 0 := by
  simp only [outstanding, flagless, retired, Bool.false_eq_true, ite_false, ite_true]

theorem outstanding_of_missing (flagless : road.deleted = false) (active : road.phase ≠ .deleted)
    (missing : admin.topics.get? road.topicName = none) :
    outstanding defaults admin road = 2 := by
  simp only [outstanding, flagless, active, missing, Bool.false_eq_true, ite_false]

theorem outstanding_of_topic {topic : Topic} (flagless : road.deleted = false)
    (active : road.phase ≠ .deleted) (found : admin.topics.get? road.topicName = some topic) :
    outstanding defaults admin road =
      if road.status = some (assess defaults road topic.partitions) then 0 else 1 := by
  simp only [outstanding, flagless, active, found, Bool.false_eq_true, ite_false]

theorem outstanding_le_two (defaults : TopicDefaults) (admin : TopicAdmin) (road : Road) :
    outstanding defaults admin road ≤ 2 := by
  cases flag : road.deleted with
  | true =>
    rw [outstanding_of_deleted flag]
    split <;> omega
  | false =>
    by_cases retired : road.phase = .deleted
    · rw [outstanding_of_retired flag retired]
      omega
    · cases found : admin.topics.get? road.topicName with
      | none => exact Nat.le_of_eq (outstanding_of_missing flag retired found)
      | some topic =>
        rw [outstanding_of_topic flag retired found]
        split <;> omega

/-- Topics that are created for other roads only bring a road nearer to its last correction. -/
theorem outstanding_of_kept {after : TopicAdmin} (kept : admin.Kept after) :
    outstanding defaults after road ≤ outstanding defaults admin road := by
  cases flag : road.deleted with
  | true =>
    exact Nat.le_of_eq ((outstanding_of_deleted flag).trans (outstanding_of_deleted flag).symm)
  | false =>
    by_cases retired : road.phase = .deleted
    · rw [outstanding_of_retired flag retired]
      exact Nat.zero_le _
    · cases found : admin.topics.get? road.topicName with
      | some topic =>
        exact Nat.le_of_eq ((outstanding_of_topic flag retired (kept _ _ found)).trans
          (outstanding_of_topic flag retired found).symm)
      | none =>
        rw [outstanding_of_missing flag retired found]
        exact outstanding_le_two defaults after road

def Provided (admin : TopicAdmin) (road : Road) : Prop :=
  (admin.topics.get? road.topicName).isSome ∨ road.deleted ∨ road.phase = .deleted

def weight (operations : List Patch.Operation) : Nat := if operations.isEmpty then 0 else 1

theorem weight_statusPatch (road : Road) (desired : Road.Status) :
    weight (statusPatch road desired) = if road.status = some desired then 0 else 1 := by
  unfold statusPatch
  split <;> rfl

/-- A call about a road comes back with operations that merge, and each that is not empty is one
correction less to come. -/
structure Advances (defaults : TopicDefaults) (admin : TopicAdmin) (road : Road)
    (operations : List Patch.Operation) (after : TopicAdmin) (merged : Road) : Prop where
  merges : road.merge operations = some merged
  named : merged.name = road.name
  working : after.Working
  kept : admin.Kept after
  counted : outstanding defaults after merged + weight operations ≤ outstanding defaults admin road
  provided : Provided admin road → outstanding defaults after merged = 0

theorem topicName_assess (defaults : TopicDefaults) (road : Road) (actual : UInt32) :
    (assess defaults road actual).topicName = road.topicName := by
  simp only [assess]
  split <;> rfl

theorem phase_assess (defaults : TopicDefaults) (road : Road) (actual : UInt32) :
    (assess defaults road actual).phase ≠ .deleted := by
  simp only [assess]
  split <;> simp only [ne_eq, reduceCtorEq, not_false_eq_true]

theorem assess_withStatus (defaults : TopicDefaults) (road : Road) (actual : UInt32)
    {status : Road.Status} (same : status.topicName = road.topicName) :
    assess defaults (road.withStatus status) actual = assess defaults road actual := by
  have wanted : wantedPartitions defaults (road.withStatus status) =
      wantedPartitions defaults road := rfl
  simp only [assess, wanted, Road.topicName_withStatus, same]

theorem advances_of_deleted (working : admin.Working) (deleted : road.deleted = true) :
    Advances defaults admin road (statusPatch road (retired road)) admin
      (road.withStatus (retired road)) := by
  have settled : outstanding defaults admin (road.withStatus (retired road)) = 0 :=
    (outstanding_of_deleted (Road.deleted_withStatus.trans deleted)).trans (if_pos rfl)
  refine ⟨merge_statusPatch _ _, rfl, working, .refl admin, ?_, fun _ => settled⟩
  exact Nat.le_of_eq (by
    rw [settled, weight_statusPatch, outstanding_of_deleted deleted, Nat.zero_add])

theorem advances_of_retired (working : admin.Working) (flagless : road.deleted = false)
    (retired : road.phase = .deleted) : Advances defaults admin road [] admin road :=
  ⟨rfl, rfl, working, .refl admin, Nat.le_refl _, fun _ => outstanding_of_retired flagless retired⟩

theorem advances_of_topic {topic : Topic} (working : admin.Working)
    (flagless : road.deleted = false) (active : road.phase ≠ .deleted)
    (found : admin.topics.get? road.topicName = some topic) :
    Advances defaults admin road (statusPatch road (assess defaults road topic.partitions)) admin
      (road.withStatus (assess defaults road topic.partitions)) := by
  have same := topicName_assess defaults road topic.partitions
  have settled : outstanding defaults admin
      (road.withStatus (assess defaults road topic.partitions)) = 0 := by
    have found' : admin.topics.get?
        (road.withStatus (assess defaults road topic.partitions)).topicName = some topic := by
      rw [Road.topicName_withStatus, same, found]
    have flagless' : (road.withStatus
        (assess defaults road topic.partitions)).deleted = false := flagless
    have active' := phase_assess defaults road topic.partitions
    rw [outstanding_of_topic flagless' active' found',
      assess_withStatus defaults road topic.partitions same]
    exact if_pos rfl
  refine ⟨merge_statusPatch _ _, rfl, working, .refl admin, ?_, fun _ => settled⟩
  exact Nat.le_of_eq (by
    rw [settled, weight_statusPatch, outstanding_of_topic flagless active found, Nat.zero_add])

theorem advances_of_missing (working : admin.Working) (flagless : road.deleted = false)
    (active : road.phase ≠ .deleted) (missing : admin.topics.get? road.topicName = none)
    (purpose : Purpose) (created : Topic) (partitions : UInt32) :
    Advances defaults admin road (statusPatch road (purpose.status road.topicName partitions))
      { admin with topics := admin.topics.insert road.topicName created }
      (road.withStatus (purpose.status road.topicName partitions)) := by
  have same : (purpose.status road.topicName partitions).topicName = road.topicName := by
    cases purpose <;> rfl
  have requested : (purpose.status road.topicName partitions).phase ≠ .deleted := by
    cases purpose <;> simp only [Purpose.status, ne_eq, reduceCtorEq, not_false_eq_true]
  refine ⟨merge_statusPatch _ _, rfl, working, TopicAdmin.kept_insert missing created, ?_, ?_⟩
  · have found : (admin.topics.insert road.topicName created).get?
        (road.withStatus (purpose.status road.topicName partitions)).topicName = some created := by
      rw [Road.topicName_withStatus, same, Dictionary.get?_insert_self]
    have flagless' : (road.withStatus
        (purpose.status road.topicName partitions)).deleted = false := flagless
    have after : outstanding defaults
        { admin with topics := admin.topics.insert road.topicName created }
        (road.withStatus (purpose.status road.topicName partitions)) ≤ 1 := by
      rw [outstanding_of_topic flagless' requested found]
      split <;> omega
    rw [outstanding_of_missing flagless active missing, weight_statusPatch]
    split <;> omega
  · rintro (found | deleted | retired)
    · rw [missing] at found
      cases found
    · rw [flagless] at deleted
      cases deleted
    · exact absurd retired active

theorem call_advances (defaults : TopicDefaults) (working : admin.Working) (purpose : Purpose)
    (road : Road) : ∃ operations after merged,
      call defaults purpose road.name road admin = (.returned operations, after) ∧
        Advances defaults admin road operations after merged := by
  cases deleted : road.deleted with
  | true =>
    exact ⟨_, _, _, call_of_deleted defaults purpose deleted admin,
      advances_of_deleted working deleted⟩
  | false =>
    by_cases retired : road.phase = .deleted
    · exact ⟨_, _, _, call_of_retired defaults purpose deleted retired admin,
        advances_of_retired working deleted retired⟩
    · have active : Active road := ⟨deleted, retired⟩
      cases found : admin.topics.get? road.topicName with
      | some topic =>
        exact ⟨_, _, _, call_of_topic defaults purpose active working.1 found,
          advances_of_topic working deleted retired found⟩
      | none =>
        exact ⟨_, _, _, call_of_missing defaults purpose active working found,
          advances_of_missing working deleted retired found purpose _ _⟩

end TopicAgent

end RoadRegistry
