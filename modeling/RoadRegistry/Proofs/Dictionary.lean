import RoadRegistry.Dictionary

namespace RoadRegistry.Dictionary

variable {κ α : Type} [LT κ] [DecidableEq κ] [LE κ] [Std.LawfulOrderLT κ]

theorem find?_eq_some_of_mem {entries : List (κ × α)} {key : κ} {value : α}
    (sorted : entries.Pairwise fun a b => a.1 < b.1) (member : (key, value) ∈ entries) :
    entries.find? (fun pair => pair.1 = key) = some (key, value) := by
  induction entries with
  | nil => cases member
  | cons head rest ih =>
    rw [List.pairwise_cons] at sorted
    rcases List.mem_cons.mp member with here | later
    · rw [← here]
      exact List.find?_cons_of_pos (by simp)
    · have less := sorted.1 (key, value) later
      have apart : head.1 ≠ key := by
        intro same
        rw [same] at less
        exact Std.lt_irrefl less
      rw [List.find?_cons_of_neg (by simpa using apart)]
      exact ih sorted.2 later

theorem mem_entries_iff {d : Dictionary κ α} {key : κ} {value : α} :
    (key, value) ∈ d.entries ↔ d.get? key = some value := by
  constructor
  · intro member
    rw [get?, find?_eq_some_of_mem d.sorted member]
    rfl
  · intro found
    obtain ⟨pair, first, same⟩ := Option.map_eq_some_iff.mp found
    have is_key : pair.1 = key := by simpa using List.find?_some first
    rw [← is_key, ← same]
    exact List.mem_of_find?_eq_some first

theorem mem_keys_iff {d : Dictionary κ α} {key : κ} :
    key ∈ d.keys ↔ d.contains key = true := by
  rw [contains, Option.isSome_iff_exists, keys, List.mem_map]
  constructor
  · rintro ⟨⟨_, value⟩, member, rfl⟩
    exact ⟨value, mem_entries_iff.mp member⟩
  · rintro ⟨value, found⟩
    exact ⟨(key, value), mem_entries_iff.mpr found, rfl⟩

omit [LE κ] [Std.LawfulOrderLT κ] in
theorem get?_erase (d : Dictionary κ α) (key other : κ) :
    (d.erase key).get? other = if other = key then none else d.get? other := by
  simp only [get?, erase, filter, List.find?_filter]
  split
  · next same =>
    rw [List.find?_eq_none.mpr, Option.map_none]
    intro pair _
    simp [same]
  · next apart =>
    congr 2
    funext pair
    by_cases found : pair.1 = other
    · simp [found, apart]
    · simp [found]

section Order

variable {κ α : Type} [LT κ] [DecidableLT κ] [DecidableEq κ] [LE κ] [Std.IsLinearOrder κ]
  [Std.LawfulOrderLT κ]

theorem insertEntry_eq_concat {key : κ} (value : α) {entries : List (κ × α)}
    (last : ∀ pair ∈ entries, pair.1 < key) :
    insertEntry key value entries = entries ++ [(key, value)] := by
  induction entries with
  | nil => rfl
  | cons first rest ih =>
    have less := last first List.mem_cons_self
    have apart : key ≠ first.1 := by
      intro same
      rw [same] at less
      exact Std.lt_irrefl less
    rw [insertEntry, if_neg apart, if_neg fun greater => Std.lt_irrefl (Std.lt_trans less greater),
      ih fun pair member => last pair (List.mem_cons_of_mem _ member), List.cons_append]

theorem countP_insertEntry (p : α → Bool) (key : κ) (value : α) {entries : List (κ × α)}
    (sorted : entries.Pairwise fun a b => a.1 < b.1) :
    (insertEntry key value entries).countP (p ·.2) +
        ((entries.find? fun pair => pair.1 = key).map (·.2)).toList.countP p =
      entries.countP (p ·.2) + [value].countP p := by
  induction entries with
  | nil =>
    simp only [insertEntry, List.countP_singleton, List.countP_nil, List.find?_nil,
      Option.map_none, Option.toList_none, Nat.add_zero, Nat.zero_add]
  | cons first rest ih =>
    obtain ⟨least, held⟩ := first
    rw [List.pairwise_cons] at sorted
    rcases Std.lt_trichotomy key least with less | same | greater
    · have apart : key ≠ least := fun same => Std.lt_irrefl (same ▸ less)
      have absent : ((least, held) :: rest).find? (fun pair => pair.1 = key) = none :=
        find?_eq_none_of_lt fun pair member => by
          rcases List.mem_cons.mp member with rfl | later
          · exact less
          · exact Std.lt_trans less (sorted.1 pair later)
      rw [insertEntry, if_neg apart, if_pos less, absent, List.countP_cons, List.countP_singleton]
      rfl
    · rw [insertEntry, if_pos same, List.find?_cons_of_pos (by simp [same]), List.countP_cons,
        List.countP_cons, Option.map_some, Option.toList_some, List.countP_singleton,
        List.countP_singleton]
      exact Nat.add_right_comm _ _ _
    · have apart : key ≠ least := fun same => Std.lt_irrefl (same ▸ greater)
      have above : ¬ key < least := fun less => Std.lt_irrefl (Std.lt_trans less greater)
      have rest_counted := ih sorted.2
      rw [insertEntry, if_neg apart, if_neg above,
        List.find?_cons_of_neg (by simpa using Ne.symm apart), List.countP_cons, List.countP_cons]
      omega

theorem countP_insert (p : α → Bool) (d : Dictionary κ α) (key : κ) (value : α) :
    (d.insert key value).entries.countP (p ·.2) + (d.get? key).toList.countP p =
      d.entries.countP (p ·.2) + [value].countP p :=
  countP_insertEntry p key value d.sorted

theorem entries_foldl_insert {pairs : List (κ × α)} (d : Dictionary κ α)
    (sorted : (d.entries ++ pairs).Pairwise fun a b => a.1 < b.1) :
    (pairs.foldl (fun d pair => d.insert pair.1 pair.2) d).entries = d.entries ++ pairs := by
  induction pairs generalizing d with
  | nil => exact (List.append_nil _).symm
  | cons pair rest ih =>
    have last : ∀ earlier ∈ d.entries, earlier.1 < pair.1 := fun earlier member =>
      (List.pairwise_append.mp sorted).2.2 earlier member pair List.mem_cons_self
    have inserted : (d.insert pair.1 pair.2).entries = d.entries ++ [pair] :=
      insertEntry_eq_concat pair.2 last
    rw [List.append_cons, ← inserted] at sorted
    rw [List.foldl_cons, ih _ sorted, inserted, ← List.append_cons]

theorem entries_ofList {pairs : List (κ × α)} (sorted : pairs.Pairwise fun a b => a.1 < b.1) :
    (ofList pairs).entries = pairs :=
  entries_foldl_insert .empty sorted

theorem ofList_entries (d : Dictionary κ α) : ofList d.entries = d := by
  cases d with
  | mk entries sorted =>
    have same := entries_ofList sorted
    cases made : ofList entries
    rw [made] at same
    cases same
    rfl

end Order

end RoadRegistry.Dictionary
