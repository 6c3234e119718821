import RoadRegistry.Proofs.Dictionary
import RoadRegistry.Replica.Basic

namespace RoadRegistry

namespace Replica

variable {r : Replica V O}

theorem mem_documents {key : String} {value : V} :
    (key, value) ∈ r.documents ↔ r.entries.get? key = some (some value) := by
  rw [← Dictionary.mem_entries_iff]
  simp only [documents, List.mem_filterMap, Option.map_eq_some_iff, Prod.mk.injEq]
  constructor
  · rintro ⟨⟨name, held⟩, member, found, rfl, rfl, rfl⟩
    exact member
  · intro member
    exact ⟨_, member, value, rfl, rfl, rfl⟩

theorem mem_keys {key : String} :
    key ∈ r.keys ↔ ∃ value, r.entries.get? key = some (some value) := by
  simp only [keys, List.mem_map, Prod.exists, exists_and_right, exists_eq_right, mem_documents]

theorem mem_keys_iff {key : String} : key ∈ r.keys ↔ r.containsKey key = true := by
  rw [mem_keys, containsKey, Option.isSome_iff_exists]
  exact exists_congr fun value => Option.join_eq_some_iff.symm

theorem documents_sorted (r : Replica V O) : r.documents.Pairwise fun a b => a.1 < b.1 := by
  rw [documents, List.pairwise_filterMap]
  refine r.entries.sorted.imp fun {a b} less first one second two => ?_
  obtain ⟨_, _, rfl⟩ := Option.map_eq_some_iff.mp one
  obtain ⟨_, _, rfl⟩ := Option.map_eq_some_iff.mp two
  exact less

theorem keys_increasing (r : Replica V O) : r.keys.Pairwise (· < ·) := by
  rw [keys, List.pairwise_map]
  exact r.documents_sorted

theorem keys_nodup (r : Replica V O) : r.keys.Nodup := by
  refine r.keys_increasing.imp fun {a b} less => ?_
  rintro rfl
  exact Std.lt_irrefl less

theorem entries_eq_documents {d : Dictionary String V} (same : ∀ key, d.get? key = r.get? key) :
    d.entries = r.documents := by
  have equal : d = ⟨r.documents, r.documents_sorted⟩ := by
    apply Dictionary.ext_get?
    intro key
    apply Option.ext
    intro value
    rw [← Dictionary.mem_entries_iff (d := ⟨r.documents, r.documents_sorted⟩), mem_documents, same,
      get?, Option.join_eq_some_iff]
  rw [equal]

end Replica

end RoadRegistry
