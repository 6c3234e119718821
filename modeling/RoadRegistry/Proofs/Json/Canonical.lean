import RoadRegistry.Proofs.Json.Fields
import RoadRegistry.Proofs.Json.Rereading

namespace RoadRegistry.Json

def children : Json → List Json
  | .array items => items
  | .object fields => fields.map (·.2)
  | _ => []

theorem sizeOf_child {json child : Json} (member : child ∈ json.children) :
    sizeOf child < sizeOf json := by
  cases json with
  | array items =>
    have smaller : sizeOf child < sizeOf items := List.sizeOf_lt_of_mem member
    rw [array.sizeOf_spec]
    omega
  | object fields =>
    obtain ⟨⟨key, value⟩, held, rfl⟩ := List.mem_map.mp member
    have smaller : sizeOf (key, value) < sizeOf fields := List.sizeOf_lt_of_mem held
    rw [Prod.mk.sizeOf_spec] at smaller
    rw [object.sizeOf_spec]
    change sizeOf value < _
    omega
  | _ => cases member

/-- What holds of a document as soon as it holds one level down, holds of every document. -/
theorem rec_children {motive : Json → Prop}
    (step : ∀ json, (∀ child ∈ json.children, motive child) → motive json) (json : Json) :
    motive json :=
  step json fun child _ => rec_children step child
termination_by sizeOf json
decreasing_by exact sizeOf_child ‹_›

mutual

def everywhere (test : Json → Bool) : Json → Bool
  | .array items => test (.array items) && everyItem test items
  | .object fields => test (.object fields) && everyField test fields
  | json => test json

def everyItem (test : Json → Bool) : List Json → Bool
  | [] => true
  | item :: rest => item.everywhere test && everyItem test rest

def everyField (test : Json → Bool) : List (String × Json) → Bool
  | [] => true
  | (_, value) :: rest => value.everywhere test && everyField test rest

end

section everywhere

variable {test : Json → Bool} {json child : Json}

theorem everyItem_iff {items : List Json} :
    everyItem test items = true ↔ ∀ item ∈ items, item.everywhere test = true := by
  induction items with
  | nil => simp only [everyItem, List.not_mem_nil, false_implies, implies_true]
  | cons item rest ih => rw [everyItem, Bool.and_eq_true, ih, List.forall_mem_cons]

theorem everyField_iff {fields : List (String × Json)} :
    everyField test fields = true ↔ ∀ field ∈ fields, field.2.everywhere test = true := by
  induction fields with
  | nil => simp only [everyField, List.not_mem_nil, false_implies, implies_true]
  | cons field rest ih => rw [everyField, Bool.and_eq_true, ih, List.forall_mem_cons]

theorem everywhere_iff :
    json.everywhere test = true ↔
      test json = true ∧ ∀ child ∈ json.children, child.everywhere test = true := by
  cases json with
  | array items => rw [everywhere, Bool.and_eq_true, everyItem_iff, children]
  | object fields =>
    rw [everywhere, Bool.and_eq_true, everyField_iff, children, List.forall_mem_map]
  | _ => simp only [everywhere, children, List.not_mem_nil, false_implies, implies_true, and_true]

theorem everywhere_child (holds : json.everywhere test = true) (member : child ∈ json.children) :
    child.everywhere test = true :=
  (everywhere_iff.mp holds).2 child member

end everywhere

def isOrdered (json : Json) : Bool :=
  json.everywhere fun
    | .object fields => decide (fields.Pairwise fun a b => a.1 < b.1)
    | _ => true

/-- Every number is an integer of 64 bits: it was written without a fraction and an exponent, it
fits, and it is not `-0`. -/
def isIntegral (json : Json) : Bool :=
  json.everywhere fun
    | .number (.float _) => false
    | _ => true

theorem depthItems_le_iff {items : List Json} {nesting : Nat} :
    depthItems items ≤ nesting ↔ ∀ item ∈ items, item.depth ≤ nesting := by
  induction items with
  | nil => simp only [depthItems, Nat.zero_le, List.not_mem_nil, false_implies, implies_true]
  | cons item rest ih => rw [depthItems, Nat.max_le, ih, List.forall_mem_cons]

theorem depthFields_le_iff {fields : List (String × Json)} {nesting : Nat} :
    depthFields fields ≤ nesting ↔ ∀ field ∈ fields, field.2.depth ≤ nesting := by
  induction fields with
  | nil => simp only [depthFields, Nat.zero_le, List.not_mem_nil, false_implies, implies_true]
  | cons field rest ih => rw [depthFields, Nat.max_le, ih, List.forall_mem_cons]

theorem depth_le_succ_iff {json : Json} {nesting : Nat} :
    json.depth ≤ nesting + 1 ↔ ∀ child ∈ json.children, child.depth ≤ nesting := by
  cases json with
  | array items => rw [depth, Nat.add_le_add_iff_right, depthItems_le_iff, children]
  | object fields =>
    rw [depth, Nat.add_le_add_iff_right, depthFields_le_iff, children, List.forall_mem_map]
  | _ => simp only [depth, Nat.zero_le, children, List.not_mem_nil, false_implies, implies_true]

theorem reread_eq_self {json : Json} (ordered : json.isOrdered = true)
    (integral : json.isIntegral = true) : json.reread = json := by
  induction json using rec_children with
  | step json ih =>
    have below : ∀ child ∈ json.children, child.reread = child := fun child member =>
      ih child member (everywhere_child ordered member) (everywhere_child integral member)
    cases json with
    | number n =>
      cases n with
      | integer value lower upper => rfl
      | float x => exact absurd integral Bool.false_ne_true
    | array items =>
      have kept : ∀ item ∈ items, item.reread = item := below
      rw [reread, rereadItems_eq_map, List.map_congr_left kept, List.map_id']
    | object fields =>
      have sorted : fields.Pairwise fun a b => a.1 < b.1 :=
        of_decide_eq_true (everywhere_iff.mp ordered).1
      have kept : ∀ field ∈ fields, (field.1, field.2.reread) = field := fun field member => by
        rw [below field.2 (List.mem_map_of_mem member)]
      rw [reread, rereadFields_eq_map, List.map_congr_left kept, List.map_id', ofFields,
        Dictionary.entries_ofList sorted]
    | _ => rfl

/-- What the reader makes of a text when so much nesting is allowed. -/
structure Tidy (nesting : Nat) (json : Json) : Prop where
  ordered : json.isOrdered = true
  shallow : json.depth ≤ nesting

namespace Tidy

variable {nesting fuel : Nat} {json : Json} {text rest : List Char}

theorem child {part : Json} (tidy : Tidy (nesting + 1) json) (member : part ∈ json.children) :
    Tidy nesting part :=
  ⟨everywhere_child tidy.ordered member, depth_le_succ_iff.mp tidy.shallow part member⟩

theorem array {items : List Json} (tidy : ∀ item ∈ items, Tidy nesting item) :
    Tidy (nesting + 1) (.array items) where
  ordered := everywhere_iff.mpr ⟨rfl, fun item member => (tidy item member).ordered⟩
  shallow := depth_le_succ_iff.mpr fun item member => (tidy item member).shallow

theorem object {fields : List (String × Json)} (sorted : fields.Pairwise fun a b => a.1 < b.1)
    (tidy : ∀ field ∈ fields, Tidy nesting field.2) : Tidy (nesting + 1) (.object fields) where
  ordered := everywhere_iff.mpr
    ⟨decide_eq_true sorted, List.forall_mem_map.mpr fun field member => (tidy field member).ordered⟩
  shallow := depth_le_succ_iff.mpr
    (List.forall_mem_map.mpr fun field member => (tidy field member).shallow)

theorem ofFields {fields : List (String × Json)} (tidy : ∀ field ∈ fields, Tidy nesting field.2) :
    Tidy (nesting + 1) (ofFields fields) :=
  object (Dictionary.ofList fields).sorted fun field member =>
    tidy field (mem_of_mem_entries_ofList member)

structure Readers (fuel : Nat) : Prop where
  value : ∀ {nesting text json rest}, readValue fuel nesting text = some (json, rest) →
    Tidy nesting json
  items : ∀ {nesting text items rest}, readItems fuel nesting text = some (items, rest) →
    ∀ item ∈ items, Tidy nesting item
  fields : ∀ {nesting text fields rest}, readFields fuel nesting text = some (fields, rest) →
    ∀ field ∈ fields, Tidy nesting field.2

theorem readValue_succ (readers : Readers fuel)
    (read : readValue (fuel + 1) nesting text = some (json, rest)) : Tidy nesting json := by
  rw [readValue] at read
  split at read
  · cases read
    exact ⟨rfl, Nat.zero_le _⟩
  · cases read
    exact ⟨rfl, Nat.zero_le _⟩
  · cases read
    exact ⟨rfl, Nat.zero_le _⟩
  · obtain ⟨_, _, same⟩ := Option.map_eq_some_iff.mp read
    cases same
    exact ⟨rfl, Nat.zero_le _⟩
  · split at read
    · cases read
    · split at read
      · cases read
        exact array (List.forall_mem_nil _)
      · obtain ⟨⟨items, after⟩, inner, same⟩ := Option.map_eq_some_iff.mp read
        cases same
        exact array (readers.items inner)
  · split at read
    · cases read
    · split at read
      · cases read
        exact object .nil (List.forall_mem_nil _)
      · obtain ⟨⟨fields, after⟩, inner, same⟩ := Option.map_eq_some_iff.mp read
        cases same
        exact ofFields (readers.fields inner)
  · obtain ⟨_, _, same⟩ := Option.map_eq_some_iff.mp read
    cases same
    exact ⟨rfl, Nat.zero_le _⟩

theorem readItems_succ (readers : Readers fuel) {items : List Json}
    (read : readItems (fuel + 1) nesting text = some (items, rest)) :
    ∀ item ∈ items, Tidy nesting item := by
  rw [readItems] at read
  split at read
  · cases read
  · next item after first =>
    split at read
    · obtain ⟨⟨more, last⟩, inner, same⟩ := Option.map_eq_some_iff.mp read
      cases same
      exact List.forall_mem_cons.mpr ⟨readers.value first, readers.items inner⟩
    · cases read
      exact List.forall_mem_singleton.mpr (readers.value first)
    · cases read

theorem readFields_succ (readers : Readers fuel) {fields : List (String × Json)}
    (read : readFields (fuel + 1) nesting text = some (fields, rest)) :
    ∀ field ∈ fields, Tidy nesting field.2 := by
  rw [readFields] at read
  split at read
  · split at read
    · cases read
    · split at read
      · split at read
        · cases read
        · next value after first =>
          split at read
          · obtain ⟨⟨more, last⟩, inner, same⟩ := Option.map_eq_some_iff.mp read
            cases same
            exact List.forall_mem_cons.mpr ⟨readers.value first, readers.fields inner⟩
          · cases read
            exact List.forall_mem_singleton.mpr (readers.value first)
          · cases read
      · cases read
  · cases read

theorem readers (fuel : Nat) : Readers fuel := by
  induction fuel with
  | zero => exact ⟨nofun, nofun, nofun⟩
  | succ fuel ih => exact ⟨readValue_succ ih, readItems_succ ih, readFields_succ ih⟩

end Tidy

theorem tidy_of_parse {text : List Char} {json : Json} (parsed : parse text = some json) :
    Tidy nestingLimit json := by
  rw [parse] at parsed
  split at parsed
  · next read =>
    split at parsed
    · cases parsed
      exact (Tidy.readers _).value read
    · cases parsed
  · cases parsed

structure Canonical (nesting : Nat) (json : Json) : Prop extends Tidy nesting json where
  integral : json.isIntegral = true

namespace Canonical

variable {nesting : Nat} {json : Json}

instance : Decidable (Canonical nesting json) :=
  decidable_of_iff ((json.isOrdered = true ∧ json.depth ≤ nesting) ∧ json.isIntegral = true)
    ⟨fun ⟨tidy, integral⟩ => ⟨⟨tidy.1, tidy.2⟩, integral⟩,
      fun canonical => ⟨⟨canonical.ordered, canonical.shallow⟩, canonical.integral⟩⟩

theorem child {part : Json} (canonical : Canonical (nesting + 1) json)
    (member : part ∈ json.children) : Canonical nesting part :=
  ⟨canonical.toTidy.child member, everywhere_child canonical.integral member⟩

theorem array {items : List Json} (canonical : ∀ item ∈ items, Canonical nesting item) :
    Canonical (nesting + 1) (.array items) :=
  ⟨.array fun item member => (canonical item member).toTidy,
    everywhere_iff.mpr ⟨rfl, fun item member => (canonical item member).integral⟩⟩

theorem object {fields : List (String × Json)} (sorted : fields.Pairwise fun a b => a.1 < b.1)
    (canonical : ∀ field ∈ fields, Canonical nesting field.2) :
    Canonical (nesting + 1) (.object fields) :=
  ⟨.object sorted fun field member => (canonical field member).toTidy,
    everywhere_iff.mpr
      ⟨rfl, List.forall_mem_map.mpr fun field member => (canonical field member).integral⟩⟩

theorem string (text : String) : Canonical nesting (.string text) :=
  ⟨⟨rfl, Nat.zero_le _⟩, rfl⟩

theorem reread_eq_self (canonical : Canonical nesting json) : json.reread = json :=
  Json.reread_eq_self canonical.ordered canonical.integral

end Canonical

end RoadRegistry.Json
