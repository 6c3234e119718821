import RoadRegistry.Json.Shape
import RoadRegistry.Proofs.Dictionary

namespace RoadRegistry

namespace Json

variable {key name : String} {α : Type}

theorem lookup?_nil : lookup? key [] = none := rfl

theorem lookup?_cons (name : String) (value : Json) (rest : List (String × Json)) :
    lookup? key ((name, value) :: rest) = if name = key then some value else lookup? key rest := by
  by_cases same : name = key <;> simp [lookup?, same]

theorem lookup?_append (fields more : List (String × Json)) :
    lookup? key (fields ++ more) = (lookup? key fields).or (lookup? key more) := by
  simp only [lookup?, List.find?_append]
  cases fields.find? (fun field => field.1 = key) <;> rfl

theorem lookup?_optional (value : Option α) (write : α → Json) :
    lookup? key (value.map fun a => (name, write a)).toList =
      if name = key then value.map write else none := by
  cases value with
  | none => simp [lookup?_nil]
  | some a => simp [lookup?_cons, lookup?_nil]

theorem forall_mem_optional {value : Option α} {write : α → Json} {p : String × Json → Prop} :
    (∀ field ∈ (value.map fun a => (name, write a)).toList, p field) ↔
      ∀ a ∈ value, p (name, write a) := by
  cases value <;> simp

theorem reverse_toList (value : Option α) : value.toList.reverse = value.toList := by
  cases value <;> rfl

theorem lookup?_entries_ofList (pairs : List (String × Json)) :
    lookup? key (Dictionary.ofList pairs).entries = lookup? key pairs.reverse := by
  have inserted (d : Dictionary String Json) : (pairs.foldl (fun d pair => d.insert pair.1 pair.2)
      d).get? key = (lookup? key pairs.reverse).or (d.get? key) := by
    induction pairs generalizing d with
    | nil => rfl
    | cons pair rest ih =>
      rw [List.foldl_cons, ih, List.reverse_cons, lookup?_append, Dictionary.get?_insert,
        lookup?_cons, lookup?_nil]
      cases lookup? key rest.reverse with
      | some value => rfl
      | none => simp only [Option.none_or, eq_comm (a := key)]; split <;> rfl
  exact (inserted .empty).trans (Option.or_none)

theorem mem_of_lookup? {fields : List (String × Json)} {json : Json}
    (found : lookup? key fields = some json) : (key, json) ∈ fields := by
  obtain ⟨field, first, rfl⟩ := Option.map_eq_some_iff.mp found
  have named : field.1 = key := by simpa using List.find?_some first
  rw [← named]
  exact List.mem_of_find?_eq_some first

theorem mem_of_mem_entries_ofList {pairs : List (String × Json)} {field : String × Json}
    (member : field ∈ (Dictionary.ofList pairs).entries) : field ∈ pairs := by
  have found : lookup? field.1 (Dictionary.ofList pairs).entries = some field.2 :=
    Dictionary.mem_entries_iff.mp member
  rw [lookup?_entries_ofList] at found
  exact List.mem_reverse.mp (mem_of_lookup? found)

variable {d : Dictionary String Json} {field : Field α} {value : α}

/-- What the object holds under the field's name reads as the value, or what stands for a missing
field is the value. -/
def Field.Yields (field : Field α) (d : Dictionary String Json) (value : α) : Prop :=
  match lookup? field.name d.entries with
  | some json => field.read json = .ok value
  | none => field.fallback = some value

def FieldCheck.Passes (known : FieldCheck) (d : Dictionary String Json) : Prop :=
  ∀ json, lookup? known.name d.entries = some json → known.check json = .ok ()

theorem Field.Yields.get (yields : field.Yields d value) (missing : String → ShapeError) :
    field.get missing d.entries = .ok value := by
  unfold Field.Yields at yields
  rw [Field.get]
  generalize lookup? field.name d.entries = found at yields ⊢
  cases found with
  | some json => exact yields
  | none => simp only [show field.fallback = some value from yields]

theorem Field.Yields.passes (yields : field.Yields d value) : field.toCheck.Passes d := by
  intro json found
  unfold Field.Yields at yields
  rw [show lookup? field.name d.entries = some json from found] at yields
  simp only [Field.toCheck, show field.read json = .ok value from yields]
  rfl

theorem Field.exists_of_get {missing : String → ShapeError} {fields : List (String × Json)}
    (given : field.get missing fields = .ok value) :
    field.fallback = some value ∨
      ∃ json, (field.name, json) ∈ fields ∧ field.read json = .ok value := by
  rw [Field.get] at given
  split at given
  · next json found => exact .inr ⟨json, mem_of_lookup? found, given⟩
  · split at given
    · next fallback =>
      cases given
      exact .inl fallback
    · cases given

theorem Reader.uint32_ofUInt32 (n : UInt32) : Reader.uint32 (.number (.ofUInt32 n)) = .ok n := by
  have bound := n.toNat_lt
  have inside : (0 : Int) ≤ n.toNat ∧ (n.toNat : Int) < 0x100000000 := by omega
  simp only [Number.ofUInt32, Reader.uint32, inside, and_self, ite_true, Int.toNat_natCast,
    UInt32.ofNat_toNat]

theorem Reader.optional_uint32 (n : UInt32) :
    Reader.optional Reader.uint32 (.number (.ofUInt32 n)) = .ok (some n) := by
  have read : Reader.optional Reader.uint32 (.number (.ofUInt32 n)) =
      (Reader.uint32 (.number (.ofUInt32 n))).map some := by rw [Reader.optional]; nofun
  rw [read, uint32_ofUInt32]
  rfl

theorem Reader.list_map {read : Reader α} {write : α → Json} {values : List α}
    (back : ∀ value ∈ values, read (write value) = .ok value) :
    list read (.array (values.map write)) = .ok values := by
  rw [list]
  induction values with
  | nil => rfl
  | cons value rest ih =>
    have here := back value List.mem_cons_self
    have later := ih fun other member => back other (List.mem_cons_of_mem _ member)
    rw [List.map_cons, List.mapM_cons, here, later]
    rfl

namespace Record

variable {record : Record α}

theorem checkFields_eq_ok {fields : List (String × Json)}
    (pass : ∀ field ∈ fields, ∀ known ∈ record.fields, known.name = field.1 →
      known.check field.2 = .ok ()) :
    record.checkFields fields = .ok () := by
  induction fields with
  | nil => rfl
  | cons field rest ih =>
    have later := ih fun other member => pass other (List.mem_cons_of_mem _ member)
    rw [checkFields]
    split
    · next known found =>
      have named : known.name = field.1 := by simpa using List.find?_some found
      rw [pass field List.mem_cons_self known (List.mem_of_find?_eq_some found) named]
      exact later
    · exact later

theorem read_object (pass : ∀ known ∈ record.fields, known.Passes d) :
    record.read (.object d.entries) = record.build .missingField d.entries := by
  have checked : record.checkFields d.entries = .ok () := by
    apply checkFields_eq_ok
    intro field member known declared named
    apply pass known declared
    rw [named]
    exact Dictionary.mem_entries_iff.mp member
  rw [read, readObject, checked]
  rfl

end Record

end Json

end RoadRegistry
