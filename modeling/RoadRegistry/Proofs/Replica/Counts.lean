import Mathlib.Data.List.Induction
import RoadRegistry.Proofs.Replica.FailStop

namespace RoadRegistry

section Records

variable {codec : Codec V} {record : Record} {key : String} {value : Option V}

/-- The key decodes, and the value does if there is one. It may decode to none. -/
def Says (codec : Codec V) (record : Record) (key : String) (value : Option V) : Prop :=
  Key.decode record.key = .ok key ∧
    (record.value = none ∧ value = none ∨
      ∃ bytes, record.value = some bytes ∧ codec.decode bytes = .ok value)

def Applies (codec : Codec V) (record : Record) : Prop := ∃ key value, Says codec record key value

def Removes (codec : Codec V) (record : Record) : Prop := ∃ key, Says codec record key none

namespace Decoded

theorem eq_entry_iff : ofRecord codec record = .entry key value ↔ Says codec record key value := by
  unfold ofRecord Says
  cases Key.decode record.key with
  | error fault => simp [ofFault_ne_entry]
  | ok name =>
    cases record.value with
    | none => simp [eq_comm]
    | some bytes =>
      cases read : codec.decode bytes with
      | ok found => simp [read]
      | error fault => simp [ofFault_ne_entry, read]

theorem isSome_pair?_iff : (ofRecord codec record).pair?.isSome = true ↔ Applies codec record := by
  simp only [Applies, ← eq_entry_iff]
  cases ofRecord codec record <;> simp [pair?]

theorem isNone_pair?_iff :
    ((ofRecord codec record).pair?.map (·.2.isNone)).getD false = true ↔
      Removes codec record := by
  simp only [Removes, ← eq_entry_iff]
  cases ofRecord codec record <;> simp [pair?]

theorem about_eq_some_iff :
    (ofRecord codec record).about key = some value ↔ Says codec record key value := by
  rw [← eq_entry_iff]
  refine ⟨eq_entry_of_about, fun entry => ?_⟩
  rw [entry]
  exact about_entry_self key value

end Decoded

instance (codec : Codec V) (record : Record) : Decidable (Applies codec record) :=
  decidable_of_iff _ Decoded.isSome_pair?_iff

instance (codec : Codec V) (record : Record) : Decidable (Removes codec record) :=
  decidable_of_iff _ Decoded.isNone_pair?_iff

theorem legacy_iff_not_applies (passable : Replica.Passable codec record) :
    Legacy codec record ↔ ¬ Applies codec record := by
  rw [← Decoded.isLegacy_iff, ← Decoded.isSome_pair?_iff]
  cases said : Decoded.ofRecord codec record with
  | entry key value => simp [Decoded.isLegacy, Decoded.pair?]
  | legacy => simp [Decoded.isLegacy, Decoded.pair?]
  | broken key error => exact absurd said (passable key error)

end Records

section Counts

variable (codec : Codec V) (records : List Record)

theorem length_decodedEntries :
    (decodedEntries codec records).length = records.countP (Applies codec ·) := by
  rw [decodedEntries, List.length_filterMap_eq_countP]
  exact List.countP_congr fun record _ => by
    rw [Decoded.isSome_pair?_iff, decide_eq_true_iff]

theorem countP_decodedEntries :
    (decodedEntries codec records).countP (·.2.isNone) = records.countP (Removes codec ·) := by
  rw [decodedEntries, List.countP_filterMap]
  exact List.countP_congr fun record _ => by
    rw [Decoded.isNone_pair?_iff, decide_eq_true_iff]

variable {records}

theorem applies_add_legacy (passable : ∀ record ∈ records, Replica.Passable codec record) :
    records.countP (Applies codec ·) + records.countP (Legacy codec ·) = records.length := by
  rw [List.length_eq_countP_add_countP (fun record => decide (Applies codec record))]
  refine congrArg _ (List.countP_congr fun record member => ?_)
  rw [decide_eq_true_iff, decide_eq_true_iff, decide_eq_true_iff,
    legacy_iff_not_applies (passable record member)]

end Counts

def Change.isNew : Change V → Bool
  | .new _ => true
  | .update _ _ | .remove _ => false

def Change.isRemoval : Change V → Bool
  | .remove _ => true
  | .new _ | .update _ _ => false

section Live

variable (codec : Codec V)

theorem decodedEntries_concat (records : List Record) (record : Record) :
    decodedEntries codec (records ++ [record]) =
      decodedEntries codec records ++ (Decoded.ofRecord codec record).pair?.toList := by
  rw [decodedEntries, List.filterMap_append, List.filterMap_cons, List.filterMap_nil]
  cases (Decoded.ofRecord codec record).pair? <;> rfl

theorem get?_decodedEntries (records : List Record) (key : String) :
    (Dictionary.ofList (decodedEntries codec records)).get? key = outcome codec records key := by
  induction records using List.reverseRecOn with
  | nil => rfl
  | append_singleton records record ih =>
    rw [decodedEntries_concat, outcome_concat, Dictionary.ofList, List.foldl_append,
      ← Dictionary.ofList]
    cases said : Decoded.ofRecord codec record with
    | legacy => exact ih
    | broken name error => exact ih
    | entry name value =>
      rw [Decoded.pair?, Option.toList_some, List.foldl_cons, List.foldl_nil,
        Dictionary.get?_insert, ih, Decoded.about]
      simp only [eq_comm (a := key)]
      split <;> rfl

theorem Change.between_balance (held : Option (Option V)) (value : Option V) :
    let change := Change.between held.join value
    change.toList.countP (·.isNew) + held.toList.countP Option.isSome =
      [value].countP Option.isSome + change.toList.countP (·.isRemoval) := by
  rcases held with _ | _ | old <;> cases value <;> rfl

/-- The keys with a value are those that came into being, less those that were removed. -/
theorem live_balance (records : List Record) :
    (Live.transitions codec .empty records).countP (·.2.isNew) =
      (Dictionary.ofList (decodedEntries codec records)).entries.countP (·.2.isSome) +
        (Live.transitions codec .empty records).countP (·.2.isRemoval) := by
  induction records using List.reverseRecOn with
  | nil => rfl
  | append_singleton records record ih =>
    rw [Live.transitions_append, List.countP_append, List.countP_append, decodedEntries_concat,
      Dictionary.ofList, List.foldl_append, ← Dictionary.ofList, Live.transitions, Live.transitions,
      List.append_nil]
    by_cases entry : ∃ key value, Decoded.ofRecord codec record = .entry key value
    · obtain ⟨key, value, said⟩ := entry
      have live : records.foldl (Live.after codec) .empty key =
          ((Dictionary.ofList (decodedEntries codec records)).get? key).join := by
        rw [Live.foldl_after, get?_decodedEntries]
        cases outcome codec records key <;> rfl
      have inserted := Dictionary.countP_insert Option.isSome
        (Dictionary.ofList (decodedEntries codec records)) key value
      have changed := Change.between_balance
        ((Dictionary.ofList (decodedEntries codec records)).get? key) value
      rw [Live.transition_of_entry said, live, Option.toList_map, List.countP_map,
        List.countP_map, said, Decoded.pair?, Option.toList_some, List.foldl_cons, List.foldl_nil]
      simp only [Function.comp_def]
      omega
    · have nothing : (Decoded.ofRecord codec record).pair? = none := by
        cases said : Decoded.ofRecord codec record with
        | entry key value => exact absurd ⟨key, value, said⟩ entry
        | legacy => rfl
        | broken name error => rfl
      rw [Live.transition_of_no_entry entry, nothing]
      exact ih

end Live

end RoadRegistry
