import RoadRegistry.Proofs.Cluster.Breaking
import RoadRegistry.Proofs.Cluster.Refinement
import RoadRegistry.Proofs.Road.Document

namespace RoadRegistry

namespace Cluster.Step

def values : Step V O → List V
  | .put _ _ value => [value]
  | .putAll _ entries => entries.map (·.2)
  | .remove _ _ | .clear _ | .compact | .start _ _ => []

def mapValues (g : V → V) : Step V O → Step V O
  | .put store key value => .put store key (g value)
  | .putAll store entries => .putAll store (entries.map fun (key, value) => (key, g value))
  | other => other

def Known (started : List String) : Step V O → Prop
  | .put store _ _ | .putAll store _ | .remove store _ | .clear store => store ∈ started
  | .compact | .start _ _ => True

end Cluster.Step

namespace Cluster

def AllKnown : List String → List (Step V O) → Prop
  | _, [] => True
  | started, step :: rest => step.Known started ∧ AllKnown (step.starts started) rest

end Cluster

namespace Road

theorem writes_payload {road : Road} (readable : road.Readable) (key : String) :
    Cluster.Writes codec (key, some road.reread) (Replica.encodeEntry codec key road) := by
  refine ⟨some road.payload, road.encodeEntry_eq key, fun partition offset => ?_⟩
  rw [ofRecord_payload, if_pos readable]

end Road

namespace Cluster

variable {f : Following Road O E} {c : Cluster Road O E} {m : PlainMap Road}
variable {started : List String}

namespace Refines

theorem step_of_readable (refines : Refines f started c m) (reads : f.codec = Road.codec)
    (quiet : f.notify.Quiet) {step : Step Road O} (known : step.Known started)
    (readable : ∀ road ∈ step.values, road.Readable) :
    Refines f (step.starts started) (step.run f c).2 ((step.mapValues Road.reread).plain m).2 := by
  cases step with
  | put store key road =>
    obtain ⟨node, found, _⟩ := refines.exists_node known
    have encoded : List.Forall₂ (Writes f.codec) [(key, some road.reread)]
        [Replica.encodeEntry f.codec key road] := by
      rw [reads]
      exact .cons (Road.writes_payload (readable road List.mem_cons_self) key) .nil
    exact (refines.write quiet found (fun _ => [_]) encoded).2
  | putAll store entries =>
    obtain ⟨node, found, _⟩ := refines.exists_node known
    have encoded : List.Forall₂ (Writes f.codec)
        (entries.map fun (key, road) => (key, some road.reread))
        (entries.map fun (key, road) => Replica.encodeEntry f.codec key road) := by
      rw [reads, List.forall₂_map_left_iff, List.forall₂_map_right_iff, List.forall₂_same]
      intro entry member
      exact Road.writes_payload (readable entry.2 (List.mem_map_of_mem member)) entry.1
    have written := (refines.write quiet found (fun _ => entries.map fun (key, road) =>
      Replica.encodeEntry f.codec key road) encoded).2
    simp only [Step.run, Step.mapValues, Step.plain, List.map_map]
    exact written
  | remove store key => exact (refines.remove quiet known).2
  | clear store => exact (refines.clear quiet known).2
  | compact => exact refines.compact
  | start store observers => exact refines.start quiet store observers

theorem unfailed (refines : Refines f started c m) :
    ∀ node ∈ c.nodes, node.replica.progress.failure = none :=
  fun node member => (refines.choose_spec.1.active node member).unfailed

theorem step_of_unreadable (refines : Refines f started c m) (reads : f.codec = Road.codec)
    {step : Step Road O} (known : step.Known started) {road : Road} (member : road ∈ step.values)
    (unreadable : ¬ road.Readable) :
    (∃ key, Appended c.log (step.run f c).2.log (Key.encode key, some road.payload)) ∧
      ∃ node ∈ (step.run f c).2.nodes, node.replica.progress.failure ≠ none := by
  have broken (key : String) (partition offset : Int) :
      Decoded.ofRecord f.codec ⟨partition, offset, Key.encode key, some road.payload⟩ =
        .broken key (.invalidValue road.fault) := by
    rw [reads, Road.ofRecord_payload, if_neg unreadable]
  cases step with
  | put store key written =>
    obtain rfl := List.mem_singleton.mp member
    obtain ⟨node, found, _⟩ := refines.exists_node known
    have encoded : [Replica.encodeEntry f.codec key road] =
        [(Key.encode key, some road.payload)].map .ok := by
      rw [reads, Road.encodeEntry_eq, List.map_singleton]
    have written := refines.choose_spec.1.write_of_broken found (fun _ => [_]) encoded
      List.mem_cons_self (broken key)
    exact ⟨⟨key, written.1⟩, written.2⟩
  | putAll store entries =>
    obtain ⟨entry, there, rfl⟩ := List.mem_map.mp member
    obtain ⟨node, found, _⟩ := refines.exists_node known
    have encoded : (entries.map fun (key, road) => Replica.encodeEntry f.codec key road) =
        (entries.map fun (key, road) => (Key.encode key, some road.payload)).map .ok := by
      rw [reads, List.map_map]
      rfl
    have written := refines.choose_spec.1.write_of_broken found
      (fun _ => entries.map fun (key, road) => Replica.encodeEntry f.codec key road) encoded
      (List.mem_map_of_mem there) (broken entry.1)
    exact ⟨⟨entry.1, written.1⟩, written.2⟩
  | remove store key | clear store | compact | start store observers =>
    exact absurd member List.not_mem_nil

/-- No store fails in the course of the steps as long as, and no longer than, the roads that they
write can be read. -/
theorem unfailed_iff (refines : Refines f started c m) (reads : f.codec = Road.codec)
    (quiet : f.notify.Quiet) {steps : List (Step Road O)} (known : AllKnown started steps) :
    (∀ after ∈ Cluster.trace f c steps, ∀ node ∈ after.2.nodes,
        node.replica.progress.failure = none) ↔
      ∀ step ∈ steps, ∀ road ∈ step.values, road.Readable := by
  induction steps generalizing started c m with
  | nil => exact ⟨fun _ _ member => absurd member List.not_mem_nil,
      fun _ _ member => absurd member List.not_mem_nil⟩
  | cons first rest ih =>
    rw [Cluster.trace, List.forall_mem_cons, List.forall_mem_cons]
    by_cases readable : ∀ road ∈ first.values, road.Readable
    · have refined := refines.step_of_readable reads quiet known.1 readable
      rw [ih refined known.2]
      exact ⟨fun both => ⟨readable, both.2⟩, fun both => ⟨refined.unfailed, both.2⟩⟩
    · constructor
      · rintro ⟨survived, _⟩
        simp only [not_forall] at readable
        obtain ⟨road, member, unreadable⟩ := readable
        obtain ⟨_, node, there, failed⟩ :=
          refines.step_of_unreadable reads known.1 member unreadable
        exact absurd (survived node there) failed
      · rintro ⟨all, _⟩
        exact absurd all readable

theorem trace_of_readable (refines : Refines f started c m) (reads : f.codec = Road.codec)
    (quiet : f.notify.Quiet) {steps : List (Step Road O)} (known : AllKnown started steps)
    (readable : ∀ step ∈ steps, ∀ road ∈ step.values, road.Readable) :
    List.Forall₂ (fun concrete plain => ∀ node ∈ concrete.2.nodes, node.replica.Shows plain.2)
      (Cluster.trace f c steps) (plainTrace m (steps.map (Step.mapValues Road.reread))) := by
  induction steps generalizing started c m with
  | nil => exact .nil
  | cons first rest ih =>
    rw [List.forall_mem_cons] at readable
    have refined := refines.step_of_readable reads quiet known.1 readable.1
    exact .cons (fun node member => refined.shows member) (ih refined known.2 readable.2)

end Refines

end Cluster

/-- Any road is appended. A store that consumes it goes on, and shows it as it reads back, if it
can be read, and fails if not: no store of a log ever fails exactly if all the roads written can be
read, and then every store shows them as they read back. -/
theorem Road.stores_survive_iff_readable (f : Following Road O E) (reads : f.codec = Road.codec)
    (quiet : f.notify.Quiet) :
    (∀ (key : String) (road : Road), ∃ payload,
      Replica.encodeEntry f.codec key road = .ok (Key.encode key, some payload) ∧
      ∀ (r : Replica Road O) (shared : E) (partition offset : Int),
        r.progress.stopped = false →
        let record : Record := ⟨partition, offset, Key.encode key, some payload⟩
        let after := (Replica.consume f (r, shared) record).1
        if road.Readable then
          after.progress = r.progress.advance record.position ∧ after.get? key = some road.reread
        else after = r.finish (some (.serialization key (.invalidValue road.fault)))) ∧
    ∀ (topic : String) (partitions : Nat) (shared : E) (steps : List (Cluster.Step Road O)),
      Cluster.AllKnown [] steps →
      let states := Cluster.trace f
        { rehearsal := { log := Log.create topic partitions }, shared } steps
      ((∀ after ∈ states, ∀ node ∈ after.2.nodes, node.replica.progress.failure = none) ↔
        ∀ step ∈ steps, ∀ road ∈ step.values, road.Readable) ∧
      ((∀ step ∈ steps, ∀ road ∈ step.values, road.Readable) →
        List.Forall₂ (fun concrete plain => ∀ node ∈ concrete.2.nodes,
            node.replica.Shows plain.2)
          states (Cluster.plainTrace .empty (steps.map (.mapValues Road.reread)))) := by
  refine ⟨fun key road => ⟨road.payload, ?_, ?_⟩, fun topic partitions shared steps known => ?_⟩
  · rw [reads, road.encodeEntry_eq]
  · intro r shared partition offset running record after
    have said : Decoded.ofRecord f.codec record = _ :=
      reads ▸ road.ofRecord_payload key partition offset
    by_cases readable : road.Readable
    · rw [if_pos readable] at said ⊢
      refine ⟨Replica.consume_running shared quiet said running, ?_⟩
      have entries := (Replica.tell_frame f record key
        (Change.between (r.get? key) (some road.reread))
        (r.apply (f.now shared) key (some road.reread)) shared).1
      rw [← Replica.consume_of_entry running said] at entries
      have applied := congrFun (r.get?_apply (f.now shared) key (some road.reread)) key
      rw [if_pos rfl] at applied
      rw [Replica.get?, entries]
      exact applied
    · rw [if_neg readable] at said ⊢
      exact congrArg Prod.fst (Replica.consume_of_broken running said)
  · have refines := Cluster.Refines.initial f topic partitions shared
    exact ⟨refines.unfailed_iff reads quiet known, refines.trace_of_readable reads quiet known⟩

def Following.roads : Following Road Unit Unit where
  codec := Road.codec
  now _ := 0
  notify _ _ _ observer shared := ⟨observer, shared, false⟩

def Road.plainRoads : List (Cluster.Step Road Unit) :=
  [.start "first" [], .put "first" "a" (.ofName "a"), .start "second" [],
    .putAll "second" [("b", { name := "b", authorisation := some .null }), ("a", .ofName "c")],
    .remove "first" "a", .compact, .clear "second"]

theorem Road.plain_roads_are_survived :
    Following.roads.notify.Quiet ∧ Cluster.AllKnown [] Road.plainRoads ∧
      ∀ after ∈ Cluster.trace Following.roads
          { rehearsal := { log := Log.create "roads" 2 }, shared := () } Road.plainRoads,
        ∀ node ∈ after.2.nodes, node.replica.progress.failure = none := by
  have quiet : Following.roads.notify.Quiet := fun _ _ _ _ _ => rfl
  have known : Cluster.AllKnown [] Road.plainRoads := by
    simp [Cluster.AllKnown, Road.plainRoads, Cluster.Step.Known, Cluster.Step.starts]
  have readable : ∀ step ∈ Road.plainRoads, ∀ road ∈ step.values, road.Readable := by
    simp only [Road.plainRoads, Cluster.Step.values, List.forall_mem_cons, List.not_mem_nil,
      false_implies, implies_true, true_and, and_true, List.map_cons, List.map_nil]
    refine ⟨?_, ?_, ?_⟩ <;> exact ⟨by decide, by decide⟩
  have survived := (Road.stores_survive_iff_readable .roads rfl quiet).2 "roads" 2 () _ known
  exact ⟨quiet, known, survived.1.mpr readable⟩

theorem Road.nameless_road_is_not_survived :
    let empty : Cluster Road Unit Unit :=
      { rehearsal := { log := Log.create "roads" 1 }, shared := () }
    let before := empty.start .roads "first" [] {}
    let after := ((Cluster.Step.put "first" "r" (.ofName " ")).run .roads before).2
    (∃ key, Cluster.Appended before.log after.log
      (Key.encode key, some (Road.ofName " ").payload)) ∧
      ∃ node ∈ after.nodes, node.replica.progress.failure ≠ none := by
  have quiet : Following.roads.notify.Quiet := fun _ _ _ _ _ => rfl
  have begun := (Cluster.Refines.initial .roads "roads" 1 ()).start quiet "first" []
  have blank : ¬ (Road.ofName " ").Readable := by
    rintro ⟨_, named⟩
    revert named
    decide
  have known : (Cluster.Step.put "first" "r" (.ofName " ") : Cluster.Step Road Unit).Known
      ["first"] := List.mem_singleton_self _
  exact begun.step_of_unreadable rfl known (List.mem_singleton_self _) blank

end RoadRegistry
