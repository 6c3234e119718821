import RoadRegistry.Proofs.Cluster.CompactedReplay
import RoadRegistry.Proofs.Cluster.Stopping
import RoadRegistry.Proofs.Log.Appending
import RoadRegistry.Proofs.Replica.CatchUp
import RoadRegistry.Proofs.Replica.Snapshot
import RoadRegistry.Proofs.Replica.Transitions

namespace RoadRegistry

namespace Live

variable {codec : Codec V} {live other : Live V}

theorem filter_transitions {keep : String → Bool} {here : Record → Bool} {records : List Record}
    (tells : ∀ record ∈ records, ∀ name value,
      Decoded.ofRecord codec record = .entry name value → here record = keep name)
    (agree : ∀ key, keep key = true → live key = other key) :
    (live.transitions codec records).filter (fun change => keep change.1) =
      other.transitions codec (records.filter here) := by
  induction records generalizing live other with
  | nil => rfl
  | cons record rest ih =>
    obtain ⟨first, later⟩ := List.forall_mem_cons.mp tells
    rw [transitions, List.filter_append]
    by_cases entry : ∃ name value, Decoded.ofRecord codec record = .entry name value
    · obtain ⟨name, value, said⟩ := entry
      rw [after_of_entry said, transition_of_entry said]
      cases kept : keep name with
      | true =>
        have wanted : here record = true := (first name value said).trans kept
        rw [List.filter_cons_of_pos wanted, transitions, transition_of_entry said,
          after_of_entry said, agree name kept]
        refine congr (congrArg HAppend.hAppend ?_) (ih later fun key asked => ?_)
        · cases Change.between (other name) value with
          | none => rfl
          | some change => exact List.filter_cons_of_pos kept
        · simp only [agree key asked]
      | false =>
        have unwanted : ¬ here record = true :=
          Bool.eq_false_iff.mp ((first name value said).trans kept)
        rw [List.filter_cons_of_neg unwanted, ← ih later fun key asked => ?_]
        · cases Change.between (live name) value with
          | none => rfl
          | some change => simp [kept]
        · have apart : key ≠ name := by
            rintro rfl
            rw [kept] at asked
            cases asked
          rw [if_neg apart, agree key asked]
    · rw [after_of_no_entry entry, transition_of_no_entry entry, ih later agree]
      cases wanted : here record with
      | true =>
        rw [List.filter_cons_of_pos wanted, transitions, transition_of_no_entry entry,
          after_of_no_entry entry]
        rfl
      | false =>
        rw [List.filter_cons_of_neg (Bool.eq_false_iff.mp wanted)]
        rfl

end Live

theorem outcome_append (codec : Codec V) (records more : List Record) (key : String) :
    outcome codec (records ++ more) key =
      (outcome codec more key).or (outcome codec records key) := by
  rw [outcome, List.reverse_append, List.findSome?_append]
  rfl

/-- Changes that are the same for the keys of each partition. -/
def SameCalls (route : Bytes → Nat) (calls others : List (String × Change V)) : Prop :=
  ∀ index : Nat, calls.filter (fun change => route (Key.encode change.1) = index) =
    others.filter fun change => route (Key.encode change.1) = index

theorem SameCalls.ofKey {route : Bytes → Nat} {calls others : List (String × Change V)}
    (same : SameCalls route calls others) (key : String) :
    Change.ofKey key calls = Change.ofKey key others := by
  have part (calls : List (String × Change V)) : Change.ofKey key calls =
      Change.ofKey key (calls.filter fun change =>
        route (Key.encode change.1) = route (Key.encode key)) := by
    rw [Change.ofKey, Change.ofKey, List.filterMap_filter]
    refine List.filterMap_congr fun change _ => ?_
    by_cases here : change.1 = key
    · simp [here]
    · simp [here]
  rw [part calls, part others, same]

namespace Log

namespace Rearranged

variable {route : Bytes → Nat} {records others : List Record}

theorem withKey (rearranged : Rearranged route records others) (key : Bytes) :
    withKey key records = withKey key others := by
  have part (list : List Record)
      (placed : ∀ record ∈ list, record.partition = route record.key) :
      Log.withKey key list = Log.withKey key (onPartition (route key) list) := by
    rw [Log.withKey, Log.withKey, onPartition, List.filter_filter]
    refine List.filter_congr fun record member => ?_
    by_cases same : record.key = key
    · simp [placed record member, same]
    · simp [same]
  rw [part records fun record member => rearranged.placed record (.inl member),
    part others fun record member => rearranged.placed record (.inr member), rearranged.parts]

theorem outcome_eq (rearranged : Rearranged route records others) (codec : Codec V)
    (key : String) : outcome codec records key = outcome codec others key := by
  rw [← outcome_withKey, rearranged.withKey, outcome_withKey]

theorem calls (rearranged : Rearranged route records others) (codec : Codec V) (live : Live V) :
    SameCalls route (live.transitions codec records) (live.transitions codec others) := by
  intro index
  have part (list : List Record)
      (placed : ∀ record ∈ list, record.partition = route record.key) :
      (live.transitions codec list).filter (fun change => route (Key.encode change.1) = index) =
        live.transitions codec (onPartition index list) := by
    let keep (name : String) : Bool := route (Key.encode name) = index
    have filtered : (live.transitions codec list).filter (fun change => keep change.1) =
        live.transitions codec (onPartition index list) := by
      refine Live.filter_transitions (fun record member name value said => ?_) fun _ _ => rfl
      refine decide_eq_decide.mpr ?_
      rw [placed record member, Decoded.key_of_entry said, Int.ofNat_inj]
    exact filtered
  rw [part records fun record member => rearranged.placed record (.inl member),
    part others fun record member => rearranged.placed record (.inr member), rearranged.parts]

theorem legible (rearranged : Rearranged route records others) (legible : Legible codec others) :
    Legible codec records :=
  fun record member => legible record (rearranged.mem_of_mem member)

end Rearranged

end Log

theorem Notify.Quiet.noting {notify : Notify V O E} (quiet : notify.Quiet) :
    notify.noting.Quiet :=
  fun get key change observer shared => quiet get key change observer.1 shared

namespace Replica

variable {f : Following V O E} {r s t : Replica V (O × List (String × Change V))} {shared : E}
variable {records more : List Record} {codec : Codec V}

theorem notes_all {notify : Notify V O E} {get : String → Option V} {key : String}
    {change : Change V} {observers : List (O × List (String × Change V))}
    (calm : (notify.noting.all get key change observers shared).panicked = false) :
    (notify.noting.all get key change observers shared).observer.map Prod.snd =
      observers.map fun observer => observer.2 ++ [(key, change)] := by
  induction observers generalizing shared with
  | nil => rfl
  | cons observer rest ih =>
    cases gone : (notify get key change observer.1 shared).panicked with
    | true => simp [Notify.all, Notify.noting, gone] at calm
    | false =>
      simp only [Notify.all, Notify.noting, gone, Bool.false_eq_true, ite_false] at calm ⊢
      exact congrArg (_ :: ·) (ih calm)

structure Absorbed (codec : Codec V) (r : Replica V (O × List (String × Change V)))
    (records : List Record) (s : Replica V (O × List (String × Change V))) : Prop where
  running : s.progress.stopped = false
  unfailed : s.progress.failure = none
  closed : s.closed = r.closed
  entries : ∀ key, s.entries.get? key = (outcome codec records key).or (r.entries.get? key)
  noted : s.observers.map Prod.snd =
    r.observers.map fun observer => observer.2 ++ Live.transitions codec r.get? records

namespace Absorbed

theorem refl (running : r.progress.stopped = false) (unfailed : r.progress.failure = none) :
    Absorbed codec r [] r where
  running := running
  unfailed := unfailed
  closed := rfl
  entries _ := rfl
  noted := List.map_congr_left fun observer _ => (List.append_nil observer.2).symm

theorem get?_eq (absorbed : Absorbed codec r records s) :
    s.get? = records.foldl (Live.after codec) r.get? := by
  funext key
  rw [Live.foldl_after, get?, absorbed.entries, get?]
  cases outcome codec records key <;> rfl

theorem trans (first : Absorbed codec r records s) (second : Absorbed codec s more t) :
    Absorbed codec r (records ++ more) t where
  running := second.running
  unfailed := second.unfailed
  closed := second.closed.trans first.closed
  entries key := by rw [second.entries, first.entries, outcome_append, Option.or_assoc]
  noted := by
    have notes (calls : List (String × Change V)) :
        s.observers.map (fun observer => observer.2 ++ calls) =
          (s.observers.map Prod.snd).map (· ++ calls) := by
      rw [List.map_map]
      rfl
    rw [second.noted, notes, first.noted, first.get?_eq, Live.transitions_append, List.map_map]
    exact List.map_congr_left fun observer _ => List.append_assoc ..

theorem endOfBatch (absorbed : Absorbed codec r records s) (idle : Bool) :
    Absorbed codec r records (s.endOfBatch idle) := by
  obtain ⟨caughtUp, same⟩ := s.endOfBatch_eq idle
  rw [same]
  exact { absorbed with }

theorem keys_nil (absorbed : Absorbed codec r records s)
    (removals : ∀ record ∈ records, ∃ key, Decoded.ofRecord codec record = .entry key none)
    (covered : ∀ key ∈ r.keys, ∃ record ∈ records,
      Decoded.ofRecord codec record = .entry key none) : s.keys = [] := by
  refine List.eq_nil_iff_forall_not_mem.mpr fun key member => ?_
  obtain ⟨value, shown⟩ := mem_keys.mp member
  rw [absorbed.entries] at shown
  cases said : outcome codec records key with
  | none =>
    rw [said, Option.none_or] at shown
    obtain ⟨record, there, removal⟩ := covered key (mem_keys.mpr ⟨value, shown⟩)
    have silent := outcome_eq_none_iff.mp said record there
    rw [removal, Decoded.about_entry_self] at silent
    cases silent
  | some last =>
    rw [said, Option.some_or] at shown
    cases shown
    obtain ⟨before, record, after, rfl, speaks, _⟩ := outcome_eq_some_iff.mp said
    obtain ⟨name, removal⟩ := removals record (by simp)
    rw [Decoded.eq_entry_of_about speaks] at removal
    cases removal

end Absorbed

theorem consume_noting {record : Record} (running : r.progress.stopped = false)
    (unfailed : r.progress.failure = none) {key : String} {value : Option V}
    (said : Decoded.ofRecord f.codec record = .entry key value) (shared : E) :
    let next := (consume f.noting (r, shared) record).1
    (next.progress = r.progress.finish (some .panicked) ∧ ¬ f.notify.Quiet) ∨
      Absorbed f.codec r [record] next := by
  intro next
  have told : next = (tell f.noting record key (Change.between (r.get? key) value)
      (r.apply (f.now shared) key value) shared).1 :=
    congrArg Prod.fst (consume_of_entry (f := f.noting) running said)
  have frame := tell_frame f.noting record key (Change.between (r.get? key) value)
    (r.apply (f.now shared) key value) shared
  have shown (name : String) : (r.apply (f.now shared) key value).entries.get? name =
      (outcome f.codec [record] name).or (r.entries.get? name) := by
    have alone : outcome f.codec [record] name = (Decoded.ofRecord f.codec record).about name :=
      (outcome_concat [] record).trans Option.or_none
    rw [alone, said]
    simp only [apply, Dictionary.get?_insert, Decoded.about, eq_comm (a := name)]
    split <;> rfl
  have changes : Live.transitions f.codec r.get? [record] =
      ((Change.between (r.get? key) value).map fun change => (key, change)).toList := by
    rw [Live.transitions, Live.transition_of_entry said]
    exact List.append_nil _
  rw [told]
  cases changed : Change.between (r.get? key) value with
  | none =>
    rw [changed] at frame changes
    refine .inr ⟨running, unfailed, frame.2, fun name => ?_, ?_⟩
    · rw [frame.1, shown]
    · exact List.map_congr_left fun observer _ => by rw [changes]; exact (List.append_nil _).symm
  | some change =>
    rw [changed] at frame changes
    cases panicked : (f.noting.notify.all (r.apply (f.now shared) key value).get? key change
        (r.apply (f.now shared) key value).observers shared).panicked with
    | true =>
      rw [tell_of_panicked panicked]
      refine .inl ⟨rfl, fun quiet => ?_⟩
      have calm : f.noting.notify.Quiet := quiet.noting
      rw [calm.all] at panicked
      cases panicked
    | false =>
      have noted := notes_all panicked
      rw [tell_of_calm panicked] at frame ⊢
      refine .inr ⟨running, unfailed, frame.2, fun name => ?_, ?_⟩
      · rw [frame.1, shown]
      · rw [changes]
        exact noted

theorem foldl_noting (running : r.progress.stopped = false) (unfailed : r.progress.failure = none)
    (legible : Legible f.codec records) (shared : E) :
    let s := (records.foldl (consume f.noting) (r, shared)).1
    (s.progress.failure = some .panicked ∧ ¬ f.notify.Quiet) ∨ Absorbed f.codec r records s := by
  induction records generalizing r shared with
  | nil => exact .inr (.refl running unfailed)
  | cons record rest ih =>
    obtain ⟨⟨key, value, said⟩, later⟩ := List.forall_mem_cons.mp legible
    rw [List.foldl_cons]
    have step := consume_noting running unfailed said shared
    generalize consume f.noting (r, shared) record = next at step ⊢
    rcases step with ⟨ended, loud⟩ | taken
    · obtain ⟨same, _, failed⟩ :=
        foldl_consume_of_finished (f := f.noting) ended unfailed rest next.2
      rw [same]
      exact .inl ⟨failed, loud⟩
    · exact (ih taken.running taken.unfailed later next.2).imp_right taken.trans

end Replica

end RoadRegistry
