import RoadRegistry.Proofs.Keys
import RoadRegistry.Proofs.Log.Chronicle

namespace RoadRegistry

def Decoded.about (key : String) : Decoded V → Option (Option V)
  | .entry name value => if name = key then some value else none
  | .legacy | .broken _ _ => none

/-- What the last record that says anything of a key says of it. -/
def outcome (codec : Codec V) (records : List Record) (key : String) : Option (Option V) :=
  records.reverse.findSome? fun record => (Decoded.ofRecord codec record).about key

def Legible (codec : Codec V) (records : List Record) : Prop :=
  ∀ record ∈ records, ∃ name value, Decoded.ofRecord codec record = .entry name value

namespace Decoded

theorem eq_entry_of_about {decoded : Decoded V} {key : String} {value : Option V}
    (h : decoded.about key = some value) : decoded = .entry key value := by
  cases decoded with
  | entry name found =>
    simp only [about] at h
    split at h
    · next same => cases h; rw [same]
    · cases h
  | legacy => cases h
  | broken name error => cases h

theorem key_of_about {codec : Codec V} {record : Record} {key : String} {value : Option V}
    (h : (ofRecord codec record).about key = some value) : record.key = Key.encode key :=
  key_of_entry (eq_entry_of_about h)

theorem about_entry_self (key : String) (value : Option V) :
    (Decoded.entry key value).about key = some value := if_pos rfl

theorem about_of_key {codec : Codec V} {record : Record} {name key : String} {value : Option V}
    (entry : ofRecord codec record = .entry name value) (same : record.key = Key.encode key) :
    (ofRecord codec record).about key = some value := by
  have names : name = key := Key.encode_inj.mp ((key_of_entry entry).symm.trans same)
  rw [entry, names]
  exact about_entry_self key value

end Decoded

section Outcome

variable {codec : Codec V} {key : String}

theorem outcome_concat (records : List Record) (record : Record) :
    outcome codec (records ++ [record]) key =
      ((Decoded.ofRecord codec record).about key).or (outcome codec records key) := by
  simp only [outcome, List.reverse_append, List.reverse_singleton, List.singleton_append,
    List.findSome?_cons]
  cases (Decoded.ofRecord codec record).about key <;> rfl

theorem outcome_eq_none_iff {records : List Record} : outcome codec records key = none ↔
    ∀ record ∈ records, (Decoded.ofRecord codec record).about key = none := by
  simp only [outcome, List.findSome?_eq_none_iff, List.mem_reverse]

theorem outcome_eq_some_iff {records : List Record} {value : Option V} :
    outcome codec records key = some value ↔
      ∃ before last after, records = before ++ last :: after ∧
        (Decoded.ofRecord codec last).about key = some value ∧
        ∀ record ∈ after, (Decoded.ofRecord codec record).about key = none := by
  simp only [outcome, List.findSome?_eq_some_iff]
  constructor
  · rintro ⟨after, last, before, split, speaks, silent⟩
    refine ⟨before.reverse, last, after.reverse, ?_, speaks, fun record member => ?_⟩
    · rw [List.reverse_eq_iff] at split
      simpa using split
    · exact silent record (List.mem_reverse.mp member)
  · rintro ⟨before, last, after, rfl, speaks, silent⟩
    exact ⟨after.reverse, last, before.reverse, by simp, speaks,
      fun record member => silent record (List.mem_reverse.mp member)⟩

/-- Records as they come from one log: those with one key are in one partition, where offsets
increase. -/
structure Sequenced (records : List Record) : Prop where
  together : ∀ a ∈ records, ∀ b ∈ records, a.key = b.key → a.partition = b.partition
  increasing : records.Pairwise fun a b => a.partition = b.partition → a.offset < b.offset

namespace Sequenced

variable {records before after : List Record} {last : Record}

theorem le_of_split (sequenced : Sequenced (before ++ last :: after)) {record : Record}
    (member : record ∈ before ++ last :: after) (same : record.key = last.key) :
    record ∈ after ∨ record.offset ≤ last.offset := by
  have mine : last ∈ before ++ last :: after := by simp
  have together := sequenced.together record member last mine same
  rcases List.mem_append.mp member with earlier | rest
  · have less := (List.pairwise_append.mp sequenced.increasing).2.2 record earlier last
      List.mem_cons_self together
    exact .inr (by omega)
  · rcases List.mem_cons.mp rest with rfl | later
    · exact .inr (Int.le_refl _)
    · exact .inl later

theorem lt_of_split (sequenced : Sequenced (before ++ last :: after)) {record : Record}
    (later : record ∈ after) (same : record.key = last.key) : last.offset < record.offset := by
  have together := sequenced.together record (by simp [later]) last (by simp) same
  have tail := (List.pairwise_append.mp sequenced.increasing).2.1
  exact List.rel_of_pairwise_cons tail later together.symm

theorem outcome_of_greatest (sequenced : Sequenced records) {value : Option V}
    (member : last ∈ records) (speaks : (Decoded.ofRecord codec last).about key = some value)
    (greatest : ∀ record ∈ records, ∀ other,
      (Decoded.ofRecord codec record).about key = some other → record.offset ≤ last.offset) :
    outcome codec records key = some value := by
  obtain ⟨before, after, rfl⟩ := List.append_of_mem member
  refine outcome_eq_some_iff.mpr ⟨before, last, after, rfl, speaks, fun record later => ?_⟩
  cases said : (Decoded.ofRecord codec record).about key with
  | none => rfl
  | some other =>
    have same : record.key = last.key :=
      (Decoded.key_of_about said).trans (Decoded.key_of_about speaks).symm
    have less := sequenced.lt_of_split later same
    have bound := greatest record (by simp [later]) other said
    omega

theorem greatest_of_outcome (sequenced : Sequenced records) {value : Option V}
    (h : outcome codec records key = some value) : ∃ last ∈ records,
      (Decoded.ofRecord codec last).about key = some value ∧ ∀ record ∈ records, ∀ other,
        (Decoded.ofRecord codec record).about key = some other → record.offset ≤ last.offset := by
  obtain ⟨before, last, after, rfl, speaks, silent⟩ := outcome_eq_some_iff.mp h
  refine ⟨last, by simp, speaks, fun record member other said => ?_⟩
  have same : record.key = last.key :=
    (Decoded.key_of_about said).trans (Decoded.key_of_about speaks).symm
  rcases sequenced.le_of_split member same with later | bound
  · rw [silent record later] at said
    cases said
  · exact bound

theorem eq_of_offset (sequenced : Sequenced records) {a b : Record} (first : a ∈ records)
    (second : b ∈ records) (same : a.key = b.key) (level : a.offset = b.offset) : a = b := by
  obtain ⟨before, after, rfl⟩ := List.append_of_mem second
  rcases List.mem_append.mp first with earlier | rest
  · have less := (List.pairwise_append.mp sequenced.increasing).2.2 a earlier b
      List.mem_cons_self (sequenced.together a first b second same)
    omega
  · rcases List.mem_cons.mp rest with rfl | later
    · rfl
    · have less := sequenced.lt_of_split later same
      omega

end Sequenced

theorem Log.Chronicle.sequenced {log : Log} {appended consumed : List Record}
    (chronicle : log.Chronicle appended) (known : ∀ record ∈ consumed, record ∈ appended)
    (increasing : consumed.Pairwise fun a b => a.partition = b.partition → a.offset < b.offset) :
    Sequenced consumed where
  together a first b second same := by
    rw [chronicle.placed a (known a first), chronicle.placed b (known b second), same]
  increasing := increasing

theorem Log.Chronicle.sequenced_appended {log : Log} {appended : List Record}
    (chronicle : log.Chronicle appended) : Sequenced appended :=
  chronicle.sequenced (fun _ => id) chronicle.ordered

/-- Records that leave out only what a later one with the same key supersedes add up to what all of
them add up to. -/
theorem outcome_eq_of_covered {appended consumed : List Record} (all : Sequenced appended)
    (some_of_them : Sequenced consumed) (known : ∀ record ∈ consumed, record ∈ appended)
    (covered : ∀ record ∈ appended, ∃ later ∈ consumed,
      later.key = record.key ∧ record.offset ≤ later.offset)
    (legible : Legible codec appended) (key : String) :
    outcome codec consumed key = outcome codec appended key := by
  cases total : outcome codec appended key with
  | none =>
    rw [outcome_eq_none_iff] at total ⊢
    exact fun record member => total record (known record member)
  | some value =>
    obtain ⟨last, member, speaks, greatest⟩ := all.greatest_of_outcome total
    obtain ⟨later, held, same, bound⟩ := covered last member
    -- What covers the greatest record speaks of the key too, so it is at no greater offset.
    have is_last : later = last := by
      have bytes : later.key = Key.encode key :=
        same.trans (Decoded.key_of_about speaks)
      obtain ⟨name, other, entry⟩ := legible later (known later held)
      have above := greatest later (known later held) other (Decoded.about_of_key entry bytes)
      exact all.eq_of_offset (known later held) member same (Int.le_antisymm above bound)
    rw [is_last] at held
    exact some_of_them.outcome_of_greatest held speaks
      fun record there => greatest record (known record there)

end Outcome

end RoadRegistry
