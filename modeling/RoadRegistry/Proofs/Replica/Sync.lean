import Mathlib.Data.List.Induction
import RoadRegistry.Proofs.Dictionary
import RoadRegistry.Replica.Progress

namespace RoadRegistry.Progress

theorem syncTargets_concat (positions : List Position) (position : Position) :
    syncTargets (positions ++ [position]) =
      (syncTargets positions).insert position.partition
        (match (syncTargets positions).get? position.partition with
        | some other => max other position.offset
        | none => position.offset) := by
  rw [syncTargets, List.foldl_append]
  rfl

theorem mem_of_syncTargets {positions : List Position} {partition offset : Int}
    (target : (syncTargets positions).get? partition = some offset) :
    ⟨partition, offset⟩ ∈ positions := by
  induction positions using List.reverseRecOn generalizing offset with
  | nil => cases target
  | append_singleton positions position ih =>
    rw [syncTargets_concat, Dictionary.get?_insert] at target
    split at target
    · next here =>
      cases known : (syncTargets positions).get? position.partition with
      | none =>
        rw [known] at target
        cases target
        rw [here]
        exact List.mem_append_right _ (List.mem_singleton_self position)
      | some other =>
        rw [known] at target
        cases target
        rcases Int.le_total other position.offset with below | above
        · simp only [Int.max_eq_right below]
          rw [here]
          exact List.mem_append_right _ (List.mem_singleton_self position)
        · simp only [Int.max_eq_left above]
          exact List.mem_append_left _ (ih (here ▸ known))
    · exact List.mem_append_left _ (ih target)

theorem le_syncTargets {positions : List Position} {position : Position}
    (member : position ∈ positions) : ∃ offset,
      (syncTargets positions).get? position.partition = some offset ∧
        position.offset ≤ offset := by
  induction positions using List.reverseRecOn with
  | nil => cases member
  | append_singleton positions last ih =>
    rw [syncTargets_concat, Dictionary.get?_insert]
    rcases List.mem_append.mp member with earlier | same
    · obtain ⟨offset, known, bound⟩ := ih earlier
      split
      · next here =>
        rw [here] at known
        rw [known]
        exact ⟨_, rfl, Int.le_trans bound (Int.le_max_left ..)⟩
      · exact ⟨offset, known, bound⟩
    · rw [List.mem_singleton.mp same, if_pos rfl]
      refine ⟨_, rfl, ?_⟩
      split
      · exact Int.le_max_right ..
      · exact Int.le_refl _

theorem reached_mono {progress : Progress} {partition offset below : Int}
    (reached : progress.reached partition offset = true) (le : below ≤ offset) :
    progress.reached partition below = true := by
  have bound : offset < _ := of_decide_eq_true reached
  exact decide_eq_true (Int.lt_of_le_of_lt le bound)

theorem sync_eq_done_iff {progress : Progress} {positions : List Position} :
    progress.sync positions = .done ↔ progress.failure = none ∧ progress.stopped = false ∧
      ∀ position ∈ positions, progress.reached position.partition position.offset = true := by
  unfold sync
  cases failed : progress.failure with
  | some error => simp
  | none =>
    cases ended : progress.stopped with
    | true => simp
    | false =>
      simp only [Bool.false_eq_true, ite_false, true_and]
      split
      · next partition offset waiting =>
        have behind := List.find?_some waiting
        have member := mem_of_syncTargets
          (Dictionary.mem_entries_iff.mp (List.mem_of_find?_eq_some waiting))
        simp only [reduceCtorEq, false_iff, not_forall]
        refine ⟨_, member, ?_⟩
        simpa using behind
      · next all_reached =>
        simp only [true_iff]
        intro position member
        obtain ⟨offset, target, bound⟩ := le_syncTargets member
        have passed := List.find?_eq_none.mp all_reached _ (Dictionary.mem_entries_iff.mpr target)
        exact reached_mono (by simpa using passed) bound

end RoadRegistry.Progress
