import RoadRegistry.Proofs.Cluster.PlainMap
import RoadRegistry.Proofs.Cluster.Writing

namespace RoadRegistry

namespace Cluster

inductive Step (V O : Type) where
  | put (store key : String) (value : V)
  | remove (store key : String)
  | putAll (store : String) (entries : List (String × V))
  | clear (store : String)
  | compact
  | start (store : String) (observers : List O)

inductive Answer (V : Type) where
  | value (outcome : Except StoreError V)
  | previous (outcome : Except StoreError (Option V))
  | done (outcome : Except StoreError Unit)
  | silent

namespace Step

def run (f : Following V O E) (c : Cluster V O E) : Step V O → Answer V × Cluster V O E
  | .put store key value => (c.put f store key value).map .value id
  | .remove store key => (c.remove f store key).map .previous id
  | .putAll store entries => (c.putAll f store entries).map .done id
  | .clear store => (c.clear f store).map .done id
  | .compact => (.silent, c.withLog c.log.compact.2)
  | .start store observers => (.silent, c.start f store observers {})

/-- The step on a plain map, where it never fails and stores do not matter. -/
def plain (m : PlainMap V) : Step V O → Answer V × PlainMap V
  | .put _ key value => (.value (.ok value), m.set key (some value))
  | .remove _ key => (.previous (.ok (m key).join), m.set key none)
  | .putAll _ entries =>
    (.done (.ok ()), m.setAll (entries.map fun (key, value) => (key, some value)))
  | .clear _ => (.done (.ok ()), m.clear)
  | .compact | .start _ _ => (.silent, m)

/-- Calls are made on stores that were started, with values that come back as they were. -/
def Fits (codec : Codec V) (started : List String) : Step V O → Prop
  | .put store _ value => store ∈ started ∧ codec.RoundTrips value
  | .remove store _ | .clear store => store ∈ started
  | .putAll store entries => store ∈ started ∧ ∀ entry ∈ entries, codec.RoundTrips entry.2
  | .compact | .start _ _ => True

def starts (started : List String) : Step V O → List String
  | .start store _ => store :: started
  | _ => started

end Step

def trace (f : Following V O E) : Cluster V O E → List (Step V O) →
    List (Answer V × Cluster V O E)
  | _, [] => []
  | c, step :: rest => step.run f c :: trace f (step.run f c).2 rest

def plainTrace : PlainMap V → List (Step V O) → List (Answer V × PlainMap V)
  | _, [] => []
  | m, step :: rest => step.plain m :: plainTrace (step.plain m).2 rest

def Fitting (codec : Codec V) : List String → List (Step V O) → Prop
  | _, [] => True
  | started, step :: rest => step.Fits codec started ∧ Fitting codec (step.starts started) rest

variable {f : Following V O E} {c : Cluster V O E} {m : PlainMap V} {started : List String}

/-- The map is what all the appended records add up to, and the cluster is settled. -/
def Refines (f : Following V O E) (started : List String) (c : Cluster V O E) (m : PlainMap V) :
    Prop :=
  ∃ appended, Settled f c appended ∧ (∀ key, outcome f.codec appended key = m key) ∧
    ∀ name ∈ started, name ∈ c.names

theorem outcome_append_of_sets {codec : Codec V} {writes : List (String × Option V)}
    {written : List Record} (sets : List.Forall₂ (Sets codec) writes written)
    (appended : List Record) (key : String) :
    outcome codec (appended ++ written) key =
      PlainMap.setAll (outcome codec appended) writes key := by
  induction sets generalizing appended with
  | nil =>
    rw [List.append_nil]
    rfl
  | @cons write record writes written first rest ih =>
    have one : outcome codec (appended ++ [record]) =
        PlainMap.set (outcome codec appended) write.1 write.2 := by
      funext other
      rw [outcome_concat, first, Decoded.about, PlainMap.set]
      simp only [eq_comm (a := other)]
      split <;> rfl
    rw [List.append_cons, ih, one]
    rfl

namespace Refines

theorem shows (refines : Refines f started c m) {node : Node V O} (member : node ∈ c.nodes) :
    node.replica.Shows m := by
  obtain ⟨appended, settled, tracks, _⟩ := refines
  obtain ⟨consumed, follows⟩ := (settled.active node member).follows
  apply Replica.shows_of_entries
  intro key
  rw [← tracks, follows.shows settled.chronicle (settled.up_to_date node member) settled.legible]

theorem exists_node (refines : Refines f started c m) {name : String} (known : name ∈ started) :
    ∃ node, c.node? name = some node ∧ node.replica.Shows m := by
  obtain ⟨node, member, found⟩ := exists_node? (refines.choose_spec.2.2 name known)
  exact ⟨node, found, refines.shows member⟩

theorem write (refines : Refines f started c m) (quiet : f.notify.Quiet) {name : String}
    {node : Node V O} (found : c.node? name = some node) {writes : List (String × Option V)}
    (records : Replica V O → List (Except StoreError (Bytes × Option Bytes)))
    (encoded : List.Forall₂ (Writes f.codec) writes (records node.replica)) :
    (c.write f name records).1 = .ok () ∧
      Refines f started (c.write f name records).2 (m.setAll writes) := by
  obtain ⟨appended, settled, tracks, known⟩ := refines
  obtain ⟨written, accepted, now_settled, same_names, sets⟩ := settled.write quiet found encoded
  refine ⟨accepted, appended ++ written, now_settled, fun key => ?_, fun name start => ?_⟩
  · rw [outcome_append_of_sets sets]
    exact congrArg (fun before => PlainMap.setAll before writes key) (funext tracks)
  · rw [same_names]
    exact known name start

theorem put (refines : Refines f started c m) (quiet : f.notify.Quiet) {name : String}
    (key : String) {value : V} (known : name ∈ started) (round_trips : f.codec.RoundTrips value) :
    (c.put f name key value).1 = .ok value ∧
      Refines f started (c.put f name key value).2 (m.set key (some value)) := by
  obtain ⟨node, found, _⟩ := refines.exists_node known
  have encoded : List.Forall₂ (Writes f.codec) [(key, some value)]
      [Replica.encodeEntry f.codec key value] := .cons (writes_entry round_trips key) .nil
  obtain ⟨accepted, refined⟩ := refines.write quiet found (fun _ => [_]) encoded
  refine ⟨?_, refined⟩
  simp only [Cluster.put, accepted]
  rfl

theorem remove (refines : Refines f started c m) (quiet : f.notify.Quiet) {name key : String}
    (known : name ∈ started) :
    (c.remove f name key).1 = .ok (m key).join ∧
      Refines f started (c.remove f name key).2 (m.set key none) := by
  obtain ⟨node, found, shows⟩ := refines.exists_node known
  have encoded : List.Forall₂ (Writes f.codec) [(key, none)]
      [.ok (Replica.encodeTombstone key)] := .cons (writes_tombstone f.codec key) .nil
  obtain ⟨accepted, refined⟩ := refines.write quiet found (fun _ => [_]) encoded
  refine ⟨?_, refined⟩
  simp only [Cluster.remove, accepted, found, Option.bind_some, shows.get?]
  rfl

theorem putAll (refines : Refines f started c m) (quiet : f.notify.Quiet) {name : String}
    {entries : List (String × V)} (known : name ∈ started)
    (round_trips : ∀ entry ∈ entries, f.codec.RoundTrips entry.2) :
    (c.putAll f name entries).1 = .ok () ∧ Refines f started (c.putAll f name entries).2
      (m.setAll (entries.map fun (key, value) => (key, some value))) := by
  obtain ⟨node, found, _⟩ := refines.exists_node known
  apply refines.write quiet found _
  rw [List.forall₂_map_left_iff, List.forall₂_map_right_iff, List.forall₂_same]
  intro entry member
  exact writes_entry (round_trips entry member) entry.1

theorem clear (refines : Refines f started c m) (quiet : f.notify.Quiet) {name : String}
    (known : name ∈ started) :
    (c.clear f name).1 = .ok () ∧ Refines f started (c.clear f name).2 m.clear := by
  obtain ⟨node, found, shows⟩ := refines.exists_node known
  have cleared : m.clear = m.setAll (node.replica.keys.map fun key => (key, none)) := by
    funext key
    rw [PlainMap.setAll_tombstones, PlainMap.clear]
    by_cases live : key ∈ node.replica.keys
    · obtain ⟨value, held⟩ := (shows.keys key).mp live
      rw [if_pos live, held]
      rfl
    · rw [if_neg live]
      rw [shows.keys] at live
      cases held : m key with
      | none => rfl
      | some state =>
        cases state with
        | none => rfl
        | some value => exact absurd ⟨value, held⟩ live
  rw [cleared]
  apply refines.write quiet found _
  rw [List.forall₂_map_left_iff, List.forall₂_map_right_iff, List.forall₂_same]
  intro key _
  exact writes_tombstone f.codec key

theorem compact (refines : Refines f started c m) :
    Refines f started (c.withLog c.log.compact.2) m := by
  obtain ⟨appended, settled, tracks, known⟩ := refines
  exact ⟨appended, settled.compact, tracks, known⟩

theorem start (refines : Refines f started c m) (quiet : f.notify.Quiet) (name : String)
    (observers : List O) : Refines f (name :: started) (c.start f name observers {}) m := by
  obtain ⟨appended, settled, tracks, known⟩ := refines
  obtain ⟨now_settled, kept⟩ := settled.start quiet name observers
  refine ⟨appended, now_settled, tracks, fun other member => kept other ?_⟩
  rcases List.mem_cons.mp member with same | earlier
  · exact .inr same
  · exact .inl (known other earlier)

theorem step (refines : Refines f started c m) (quiet : f.notify.Quiet) {step : Step V O}
    (fits : step.Fits f.codec started) :
    (step.run f c).1 = (step.plain m).1 ∧
      Refines f (step.starts started) (step.run f c).2 (step.plain m).2 := by
  cases step with
  | put store key value =>
    obtain ⟨answer, refined⟩ := refines.put quiet key fits.1 fits.2
    exact ⟨congrArg Answer.value answer, refined⟩
  | remove store key =>
    obtain ⟨answer, refined⟩ := refines.remove quiet fits
    exact ⟨congrArg Answer.previous answer, refined⟩
  | putAll store entries =>
    obtain ⟨answer, refined⟩ := refines.putAll quiet fits.1 fits.2
    exact ⟨congrArg Answer.done answer, refined⟩
  | clear store =>
    obtain ⟨answer, refined⟩ := refines.clear quiet fits
    exact ⟨congrArg Answer.done answer, refined⟩
  | compact => exact ⟨rfl, refines.compact⟩
  | start store observers => exact ⟨rfl, refines.start quiet store observers⟩

theorem initial (f : Following V O E) (topic : String) (partitions : Nat) (shared : E) :
    Refines f [] { rehearsal := { log := Log.create topic partitions }, shared } .empty := by
  refine ⟨[], ?_, fun _ => rfl, by simp⟩
  constructor
  · constructor
    · rfl
    · rfl
    · rfl
    · exact .create topic partitions
    · intro record member
      cases member
    · intro record member
      cases member
    · intro node member
      cases member
  · intro node member
    cases member

theorem trace (refines : Refines f started c m) (quiet : f.notify.Quiet)
    {steps : List (Step V O)} (fitting : Fitting f.codec started steps) :
    List.Forall₂ (fun concrete plain => concrete.1 = plain.1 ∧
        ∀ node ∈ concrete.2.nodes, node.replica.Shows plain.2)
      (Cluster.trace f c steps) (plainTrace m steps) := by
  induction steps generalizing started c m with
  | nil => exact .nil
  | cons first rest ih =>
    obtain ⟨answer, refined⟩ := refines.step quiet fitting.1
    exact .cons ⟨answer, fun node member => refined.shows member⟩ (ih refined fitting.2)

end Refines

/-- Over any steps on an empty log, every call answers as it would on the plain map, and after
every step each store, whenever it was started, reads like that map. -/
theorem trace_refines_plain_map (f : Following V O E) (quiet : f.notify.Quiet) (topic : String)
    (partitions : Nat) (shared : E) (steps : List (Step V O))
    (fitting : Fitting f.codec [] steps) :
    List.Forall₂ (fun concrete plain => concrete.1 = plain.1 ∧
        ∀ node ∈ concrete.2.nodes, node.replica.Shows plain.2)
      (trace f { rehearsal := { log := Log.create topic partitions }, shared } steps)
      (plainTrace .empty steps) :=
  (Refines.initial f topic partitions shared).trace quiet fitting

theorem plain_roundTrips (payload : Bytes) : Codec.plain.RoundTrips payload := ⟨_, rfl, rfl⟩

/-- Three stores, the last of which starts after a removed key was compacted away. -/
def lateStore : List (Step Bytes Unit) :=
  [.start "first" [], .put "first" "a" [7], .start "second" [], .remove "second" "a",
    .putAll "first" [("b", []), ("c", [8]), ("b", [9])], .compact, .start "third" [],
    .remove "third" "never", .clear "second", .compact, .put "third" "a" [7]]

theorem late_store_refines_plain_map :
    Following.plain.notify.Quiet ∧ Fitting Codec.plain [] lateStore ∧
      List.Forall₂ (fun concrete plain => concrete.1 = plain.1 ∧
          ∀ node ∈ concrete.2.nodes, node.replica.Shows plain.2)
        (trace .plain { rehearsal := { log := Log.create "roads" 3 }, shared := () } lateStore)
        (plainTrace .empty lateStore) := by
  have quiet : Following.plain.notify.Quiet := fun _ _ _ _ _ => rfl
  have fitting : Fitting Codec.plain [] lateStore := by
    simp [Fitting, lateStore, Step.Fits, Step.starts, plain_roundTrips]
  exact ⟨quiet, fitting, trace_refines_plain_map .plain quiet "roads" 3 () lateStore fitting⟩

end Cluster

end RoadRegistry
