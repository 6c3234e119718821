import Mathlib.Data.List.Induction
import RoadRegistry.Proofs.Dictionary
import RoadRegistry.Proofs.Replica.Outcome

namespace RoadRegistry

abbrev Live (V : Type) := String → Option V

namespace Live

variable {codec : Codec V} {live : Live V} {key : String}

def empty : Live V := fun _ => none

def after (codec : Codec V) (live : Live V) (record : Record) : Live V :=
  match Decoded.ofRecord codec record with
  | .entry key value => fun other => if other = key then value else live other
  | .legacy | .broken _ _ => live

def transition (codec : Codec V) (live : Live V) (record : Record) : Option (String × Change V) :=
  match Decoded.ofRecord codec record with
  | .entry key value =>
    match live key, value with
    | none, none => none
    | none, some new => some (key, .new new)
    | some old, some new => some (key, .update old new)
    | some old, none => some (key, .remove old)
  | .legacy | .broken _ _ => none

def transitions (codec : Codec V) : Live V → List Record → List (String × Change V)
  | _, [] => []
  | live, record :: rest =>
    (live.transition codec record).toList ++ transitions codec (live.after codec record) rest

end Live

def Change.result : Change V → Option V
  | .new value | .update _ value => some value
  | .remove _ => none

def Change.carryOut (documents : Dictionary String V) (change : String × Change V) :
    Dictionary String V :=
  match change.2.result with
  | some value => documents.insert change.1 value
  | none => documents.erase change.1

/-- A key comes into being, is updated and removed, and then comes into being again; what a change
replaces is what the last one left. -/
def Change.Chained : Option V → List (Change V) → Prop
  | _, [] => True
  | none, .new value :: rest => Chained (some value) rest
  | some held, .update old value :: rest => old = held ∧ Chained (some value) rest
  | some held, .remove old :: rest => old = held ∧ Chained none rest
  | none, .update _ _ :: _ | none, .remove _ :: _ | some _, .new _ :: _ => False

def Change.ofKey (key : String) (changes : List (String × Change V)) : List (Change V) :=
  changes.filterMap fun change => if change.1 = key then some change.2 else none

namespace Live

variable {codec : Codec V} {live : Live V} {key : String} {record : Record}

theorem after_of_entry {value : Option V}
    (entry : Decoded.ofRecord codec record = .entry key value) :
    live.after codec record = fun other => if other = key then value else live other := by
  rw [after, entry]

theorem after_of_no_entry
    (no_entry : ¬ ∃ name value, Decoded.ofRecord codec record = .entry name value) :
    live.after codec record = live := by
  unfold after
  split
  · next name value entry => exact absurd ⟨name, value, entry⟩ no_entry
  · rfl
  · rfl

theorem transition_of_entry {value : Option V}
    (entry : Decoded.ofRecord codec record = .entry key value) :
    live.transition codec record =
      (Change.between (live key) value).map fun change => (key, change) := by
  unfold transition
  simp only [entry]
  cases live key <;> cases value <;> rfl

theorem transition_of_no_entry
    (no_entry : ¬ ∃ name value, Decoded.ofRecord codec record = .entry name value) :
    live.transition codec record = none := by
  unfold transition
  split
  · next name value entry => exact absurd ⟨name, value, entry⟩ no_entry
  · rfl
  · rfl

theorem transitions_append (codec : Codec V) (live : Live V) (records more : List Record) :
    live.transitions codec (records ++ more) =
      live.transitions codec records ++
        transitions codec (records.foldl (after codec) live) more := by
  induction records generalizing live with
  | nil => rfl
  | cons record rest ih =>
    rw [List.cons_append, transitions, ih, transitions, List.append_assoc]
    rfl

theorem foldl_after (codec : Codec V) (live : Live V) (records : List Record) (key : String) :
    records.foldl (after codec) live key = (outcome codec records key).getD (live key) := by
  induction records using List.reverseRecOn with
  | nil => rfl
  | append_singleton records record ih =>
    rw [List.foldl_append, List.foldl_cons, List.foldl_nil, outcome_concat]
    by_cases entry : ∃ name value, Decoded.ofRecord codec record = .entry name value
    · obtain ⟨name, value, said⟩ := entry
      rw [after_of_entry said, said]
      by_cases here : key = name
      · rw [here, Decoded.about_entry_self]
        exact if_pos rfl
      · rw [Decoded.about, if_neg (Ne.symm here), Option.none_or, ← ih]
        exact if_neg here
    · have silent : (Decoded.ofRecord codec record).about key = none := by
        cases said : (Decoded.ofRecord codec record).about key with
        | none => rfl
        | some value => exact absurd ⟨key, value, Decoded.eq_entry_of_about said⟩ entry
      rw [after_of_no_entry entry, ih, silent, Option.none_or]

theorem result_between {before after : Option V} {change : Change V}
    (changed : Change.between before after = some change) : change.result = after := by
  cases before <;> cases after <;>
    simp only [Change.between, Option.some.injEq, reduceCtorEq] at changed
  all_goals
    rw [← changed]
    rfl

theorem get?_carryOut {documents : Dictionary String V}
    (same : ∀ key, documents.get? key = live key)
    (records : List Record) (key : String) :
    ((transitions codec live records).foldl Change.carryOut documents).get? key =
      records.foldl (after codec) live key := by
  induction records generalizing live documents with
  | nil => exact same key
  | cons record rest ih =>
    simp only [transitions, List.foldl_append, List.foldl_cons]
    apply ih
    intro other
    by_cases entry : ∃ name value, Decoded.ofRecord codec record = .entry name value
    · obtain ⟨name, value, said⟩ := entry
      rw [transition_of_entry said, after_of_entry said]
      cases changed : Change.between (live name) value with
      | none =>
        simp only [Option.map_none, Option.toList_none, List.foldl_nil, same]
        split
        · next here =>
          rw [here]
          cases held : live name <;> cases value <;> simp [held, Change.between] at changed ⊢
        · rfl
      | some change =>
        have left := result_between changed
        simp only [Option.map_some, Option.toList_some, List.foldl_cons, List.foldl_nil,
          Change.carryOut, left]
        cases value with
        | none => simp only [Dictionary.get?_erase, same]
        | some new => simp only [Dictionary.get?_insert, same]
    · rw [transition_of_no_entry entry, after_of_no_entry entry]
      exact same other

theorem chained_transitions (live : Live V) (records : List Record) (key : String) :
    Change.Chained (live key) (Change.ofKey key (transitions codec live records)) := by
  induction records generalizing live with
  | nil => cases live key <;> exact trivial
  | cons record rest ih =>
    have later := ih (live.after codec record)
    simp only [transitions, Change.ofKey, List.filterMap_append] at later ⊢
    by_cases entry : ∃ name value, Decoded.ofRecord codec record = .entry name value
    · obtain ⟨name, value, said⟩ := entry
      rw [after_of_entry said] at later ⊢
      rw [transition_of_entry said]
      by_cases here : key = name
      · subst here
        simp only [ite_true] at later
        cases held : live key <;> cases value <;>
          simp_all [Change.between, Change.Chained]
      · simp only [here, ite_false] at later
        cases Change.between (live name) value <;> simp_all [Ne.symm here]
    · rw [after_of_no_entry entry] at later
      rw [transition_of_no_entry entry, after_of_no_entry entry]
      exact later

end Live

end RoadRegistry
