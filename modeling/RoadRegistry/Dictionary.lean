namespace RoadRegistry

/-- The order of the keys is part of the type, so two dictionaries that answer every look-up alike
are equal, whatever the history of insertions behind them. -/
structure Dictionary (κ : Type) (α : Type) [LT κ] where
  entries : List (κ × α)
  sorted : entries.Pairwise (fun a b => a.1 < b.1)

namespace Dictionary

section Views

variable {κ α : Type} [LT κ]

def empty : Dictionary κ α := ⟨[], .nil⟩

instance : Inhabited (Dictionary κ α) := ⟨empty⟩

def keys (d : Dictionary κ α) : List κ := d.entries.map (·.1)

def size (d : Dictionary κ α) : Nat := d.entries.length

def filter (p : κ × α → Bool) (d : Dictionary κ α) : Dictionary κ α :=
  ⟨d.entries.filter p, d.sorted.sublist List.filter_sublist⟩

variable [DecidableEq κ]

def get? (d : Dictionary κ α) (key : κ) : Option α :=
  (d.entries.find? (fun pair => pair.1 = key)).map (·.2)

def contains (d : Dictionary κ α) (key : κ) : Bool := (d.get? key).isSome

def erase (d : Dictionary κ α) (key : κ) : Dictionary κ α :=
  d.filter (fun pair => pair.1 ≠ key)

theorem get?_empty (key : κ) : (empty : Dictionary κ α).get? key = none := rfl

end Views

section Insert

variable {κ α : Type} [LT κ] [DecidableLT κ] [DecidableEq κ]

def insertEntry (key : κ) (value : α) : List (κ × α) → List (κ × α)
  | [] => [(key, value)]
  | (k, v) :: rest =>
    if key = k then (key, value) :: rest
    else if key < k then (key, value) :: (k, v) :: rest
    else (k, v) :: insertEntry key value rest

theorem fst_eq_or_mem_of_insertEntry {key : κ} {value : α} {entries : List (κ × α)}
    {pair : κ × α} (h : pair ∈ insertEntry key value entries) :
    pair.1 = key ∨ pair ∈ entries := by
  induction entries with
  | nil => simp_all [insertEntry]
  | cons head rest ih =>
    simp only [insertEntry] at h
    split at h
    · rcases List.mem_cons.mp h with rfl | h
      · exact .inl rfl
      · exact .inr (List.mem_cons_of_mem _ h)
    · split at h
      · rcases List.mem_cons.mp h with rfl | h
        · exact .inl rfl
        · exact .inr h
      · rcases List.mem_cons.mp h with rfl | h
        · exact .inr (List.mem_cons_self ..)
        · exact (ih h).imp_right (List.mem_cons_of_mem _)

theorem find?_insertEntry_self (key : κ) (value : α) (entries : List (κ × α)) :
    (insertEntry key value entries).find? (fun pair => pair.1 = key) = some (key, value) := by
  induction entries with
  | nil => simp [insertEntry]
  | cons head rest ih =>
    simp only [insertEntry]
    split
    · simp
    · next other =>
      split
      · simp
      · rw [List.find?_cons_of_neg (by simpa using Ne.symm other)]
        exact ih

theorem find?_insertEntry_of_ne {key other : κ} (h : other ≠ key) (value : α)
    (entries : List (κ × α)) :
    (insertEntry key value entries).find? (fun pair => pair.1 = other) =
      entries.find? (fun pair => pair.1 = other) := by
  induction entries with
  | nil => simp [insertEntry, Ne.symm h]
  | cons head rest ih =>
    simp only [insertEntry]
    split
    · next same => subst same; simp [Ne.symm h]
    · split
      · rw [List.find?_cons_of_neg (by simpa using Ne.symm h)]
      · simp only [List.find?_cons, ih]

variable [LE κ] [Std.IsLinearOrder κ] [Std.LawfulOrderLT κ]

theorem sorted_insertEntry (key : κ) (value : α) {entries : List (κ × α)}
    (h : entries.Pairwise (fun a b => a.1 < b.1)) :
    (insertEntry key value entries).Pairwise (fun a b => a.1 < b.1) := by
  induction entries with
  | nil => simp [insertEntry]
  | cons head rest ih =>
    obtain ⟨k, v⟩ := head
    rw [List.pairwise_cons] at h
    simp only [insertEntry]
    split
    · next same => exact List.pairwise_cons.mpr ⟨fun b hb => same ▸ h.1 b hb, h.2⟩
    · next other =>
      split
      · next less =>
        refine List.pairwise_cons.mpr ⟨fun b hb => ?_, List.pairwise_cons.mpr h⟩
        rcases List.mem_cons.mp hb with rfl | hb
        · exact less
        · exact Std.lt_trans less (h.1 b hb)
      · next notLess =>
        refine List.pairwise_cons.mpr ⟨fun b hb => ?_, ih h.2⟩
        rcases fst_eq_or_mem_of_insertEntry hb with same | hb
        · rcases Std.lt_trichotomy key k with less | equal | less
          · exact absurd less notLess
          · exact absurd equal other
          · exact same ▸ less
        · exact h.1 b hb

def insert (d : Dictionary κ α) (key : κ) (value : α) : Dictionary κ α :=
  ⟨insertEntry key value d.entries, sorted_insertEntry key value d.sorted⟩

/-- Later pairs win over earlier ones with the same key. -/
def ofList (pairs : List (κ × α)) : Dictionary κ α :=
  pairs.foldl (fun d pair => d.insert pair.1 pair.2) empty

theorem get?_insert_self (d : Dictionary κ α) (key : κ) (value : α) :
    (d.insert key value).get? key = some value := by
  simp [get?, insert, find?_insertEntry_self]

theorem get?_insert_of_ne (d : Dictionary κ α) {key other : κ} (h : other ≠ key) (value : α) :
    (d.insert key value).get? other = d.get? other := by
  simp [get?, insert, find?_insertEntry_of_ne h]

theorem get?_insert (d : Dictionary κ α) (key other : κ) (value : α) :
    (d.insert key value).get? other = if other = key then some value else d.get? other := by
  by_cases h : other = key
  · simp [h, get?_insert_self]
  · simp [h, get?_insert_of_ne]

end Insert

section Ext

variable {κ α : Type} [LT κ] [DecidableEq κ] [LE κ] [Std.IsLinearOrder κ] [Std.LawfulOrderLT κ]

omit [Std.IsLinearOrder κ] in
theorem find?_eq_none_of_lt {key : κ} {entries : List (κ × α)}
    (h : ∀ pair ∈ entries, key < pair.1) :
    entries.find? (fun pair => pair.1 = key) = none := by
  refine List.find?_eq_none.mpr fun pair member => ?_
  have less := h pair member
  simp only [decide_eq_true_eq]
  intro same
  exact Std.lt_irrefl (same ▸ less)

theorem eq_of_find?_eq {d e : List (κ × α)} (hd : d.Pairwise (fun a b => a.1 < b.1))
    (he : e.Pairwise (fun a b => a.1 < b.1))
    (h : ∀ key, (d.find? (fun pair => pair.1 = key)).map (·.2) =
      (e.find? (fun pair => pair.1 = key)).map (·.2)) : d = e := by
  induction d generalizing e with
  | nil =>
    cases e with
    | nil => rfl
    | cons head rest => simpa using h head.1
  | cons head rest ih =>
    cases e with
    | nil => simpa using h head.1
    | cons head' rest' =>
      obtain ⟨k, v⟩ := head
      obtain ⟨k', v'⟩ := head'
      rw [List.pairwise_cons] at hd he
      have same : k = k' := by
        rcases Std.lt_trichotomy k k' with less | same | less
        · have absent : ((k', v') :: rest').find? (fun pair => pair.1 = k) = none :=
            find?_eq_none_of_lt (fun pair member => by
              rcases List.mem_cons.mp member with rfl | member
              · exact less
              · exact Std.lt_trans less (he.1 pair member))
          have found := h k
          rw [absent] at found
          simp at found
        · exact same
        · have absent : ((k, v) :: rest).find? (fun pair => pair.1 = k') = none :=
            find?_eq_none_of_lt (fun pair member => by
              rcases List.mem_cons.mp member with rfl | member
              · exact less
              · exact Std.lt_trans less (hd.1 pair member))
          have found := h k'
          rw [absent] at found
          simp at found
      subst same
      have value : v = v' := by simpa using h k
      subst value
      refine congrArg _ (ih hd.2 he.2 fun key => ?_)
      by_cases equal : k = key
      · subst equal
        rw [find?_eq_none_of_lt hd.1, find?_eq_none_of_lt he.1]
      · simpa [equal] using h key

theorem ext_get? {d e : Dictionary κ α} (h : ∀ key, d.get? key = e.get? key) : d = e := by
  obtain ⟨_, hd⟩ := d
  obtain ⟨_, he⟩ := e
  simp only [Dictionary.mk.injEq]
  exact eq_of_find?_eq hd he h

end Ext

end Dictionary

end RoadRegistry
