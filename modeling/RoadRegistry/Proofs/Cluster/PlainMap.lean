import Mathlib.Data.Set.Card
import RoadRegistry.Proofs.Replica.Snapshot

namespace RoadRegistry

/-- Keys that were never seen have nothing, removed ones a tombstone. -/
abbrev PlainMap (V : Type) := String → Option (Option V)

namespace PlainMap

def empty : PlainMap V := fun _ => none

def set (m : PlainMap V) (key : String) (value : Option V) : PlainMap V :=
  fun other => if other = key then some value else m other

def setAll (m : PlainMap V) (writes : List (String × Option V)) : PlainMap V :=
  writes.foldl (fun m write => m.set write.1 write.2) m

def clear (m : PlainMap V) : PlainMap V := fun key => (m key).map fun _ => none

theorem setAll_tombstones (m : PlainMap V) (keys : List String) (key : String) :
    m.setAll (keys.map fun removed => (removed, none)) key =
      if key ∈ keys then some none else m key := by
  induction keys generalizing m with
  | nil => rfl
  | cons first rest ih =>
    have next := ih (m.set first none)
    simp only [setAll, List.map_cons, List.foldl_cons] at next ⊢
    rw [next, set]
    by_cases later : key ∈ rest
    · simp only [later, List.mem_cons, or_true, ite_true]
    · simp only [later, List.mem_cons, or_false, ite_false]

end PlainMap

namespace Replica

structure Shows (r : Replica V O) (m : PlainMap V) : Prop where
  get? : ∀ key, r.get? key = (m key).join
  containsKey : ∀ key, r.containsKey key = true ↔ ∃ value, m key = some (some value)
  isTombstoned : ∀ key, r.isTombstoned key = true ↔ m key = some none
  documents : ∀ key value, (key, value) ∈ r.documents ↔ m key = some (some value)
  keys : ∀ key, key ∈ r.keys ↔ ∃ value, m key = some (some value)
  increasing : r.keys.Pairwise (· < ·)
  size : r.size = {key | ∃ value, m key = some (some value)}.ncard
  isEmpty : r.isEmpty = true ↔ ∀ key value, m key ≠ some (some value)

variable {r : Replica V O} {m : PlainMap V}

theorem shows_of_entries (same : ∀ key, r.entries.get? key = m key) : r.Shows m where
  get? key := by rw [Replica.get?, same]
  containsKey key := by
    rw [Replica.containsKey, Replica.get?, same, Option.isSome_iff_exists]
    exact exists_congr fun value => Option.join_eq_some_iff
  isTombstoned key := by
    rw [Replica.isTombstoned, same]
    split
    · next found => simp [found]
    · next other => simpa using other
  documents key value := by rw [mem_documents, same]
  keys key := by rw [mem_keys, same]
  increasing := r.keys_increasing
  size := by
    have live : {key | ∃ value, m key = some (some value)} = ↑r.keys.toFinset := by
      ext key
      simp only [Set.mem_ofPred_eq, List.coe_toFinset, mem_keys, same]
    rw [live, Set.ncard_coe_finset, List.toFinset_card_of_nodup r.keys_nodup, Replica.keys,
      List.length_map]
    rfl
  isEmpty := by
    have empty : r.isEmpty = true ↔ r.documents = [] := by
      rw [Replica.isEmpty, Replica.size, beq_iff_eq, List.length_eq_zero_iff]
    rw [empty, List.eq_nil_iff_forall_not_mem]
    simp only [Prod.forall, mem_documents, same, ne_eq]

end Replica

end RoadRegistry
