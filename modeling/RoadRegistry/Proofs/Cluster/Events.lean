import Mathlib.Data.List.Nodup
import RoadRegistry.Proofs.Cluster.Settling
import RoadRegistry.Proofs.Cluster.View
import RoadRegistry.Proofs.Log.Retention

namespace RoadRegistry

namespace Cluster

inductive Event (V O E : Type) where
  | put (store key : String) (value : V)
  | remove (store key : String)
  | putAll (store : String) (entries : List (String × V))
  | clear (store : String)
  | close (store : String)
  | waitUntilCaughtUp (store : String) (timeout : Duration)
  | start (store : String) (observers : List O) (plan : StartPlan)
  | poll (store : String)
  | deliver (store : String) (polled : Except StoreError (List Record))
  | setHeld (store : String) (held : Bool)
  | log (event : Log.Event)
  | rehearse (accepted : Option Nat) (acknowledgements : List Position)
  | surroundings (change : E → E)

namespace Event

inductive Answer (V : Type) where
  | value (outcome : Except StoreError V)
  | previous (outcome : Except StoreError (Option V))
  | done (outcome : Except StoreError Unit)
  | log (answer : Log.Answer)
  | silent

/-- The event on a cluster whose observers and state take those of the event in. -/
def run (f : Following V P F) (seat : String → O → P) (within : (E → E) → F → F)
    (c : Cluster V P F) : Event V O E → Answer V × Cluster V P F
  | .put store key value => (c.put f store key value).map .value id
  | .remove store key => (c.remove f store key).map .previous id
  | .putAll store entries => (c.putAll f store entries).map .done id
  | .clear store => (c.clear f store).map .done id
  | .close store => (c.close f store).map .done id
  | .waitUntilCaughtUp store timeout => (.done (c.waitUntilCaughtUp store timeout), c)
  | .start store observers plan => (.silent, c.start f store (observers.map (seat store)) plan)
  | .poll store => (.silent, c.poll f store)
  | .deliver store polled => (.silent, c.deliver f store polled)
  | .setHeld store held => (.silent, c.setHeld f store held)
  | .log event =>
    let (answer, changed) := event.run c.log
    (.log answer, (c.withLog changed).settle f)
  | .rehearse accepted acknowledgements =>
    (.silent, { c with rehearsal := { c.rehearsal with accepted, acknowledgements } })
  | .surroundings change => (.silent, { c with shared := within change c.shared })

def trace (f : Following V O E) : Cluster V O E → List (Event V O E) →
    List (Answer V × Cluster V O E)
  | _, [] => []
  | c, happens :: rest =>
    let after := happens.run f (fun _ observer => observer) id c
    after :: trace f after.2 rest

end Event

variable {f : Following V O E} {c : Cluster V O E}

theorem nodup_setNode (nodup : c.names.Nodup) (node : Node V O) : (c.setNode node).names.Nodup := by
  unfold setNode names
  split
  · simp only [List.map_map, Function.comp_def, name_replaced]
    exact nodup
  · next fresh =>
    rw [List.map_append, List.nodup_append]
    refine ⟨nodup, List.nodup_singleton _, fun name old other new same => fresh ?_⟩
    obtain ⟨known, there, rfl⟩ := List.mem_map.mp old
    obtain rfl := List.mem_singleton.mp new
    exact List.any_eq_true.mpr ⟨known, there, decide_eq_true same⟩

theorem setNode_eq_self (nodup : c.names.Nodup) {node : Node V O}
    (found : c.node? node.name = some node) : c.setNode node = c := by
  have there : node ∈ c.nodes := List.mem_of_find?_eq_some found
  have known : c.nodes.any (fun other => other.name = node.name) = true :=
    List.any_eq_true.mpr ⟨node, there, decide_eq_true rfl⟩
  have same (other : Node V O) (member : other ∈ c.nodes) :
      (if other.name = node.name then node else other) = other := by
    split
    · next named => exact (List.inj_on_of_nodup_map nodup member there named).symm
    · rfl
  rw [setNode, if_pos known, List.map_congr_left same, List.map_id']

theorem nodup_changeObserver (nodup : c.names.Nodup) (store : String) (observer : Nat)
    (change : O → O) : (c.changeObserver store observer change).names.Nodup := by
  unfold changeObserver
  cases c.node? store with
  | none => exact nodup
  | some node => exact nodup_setNode nodup _

theorem nodup_settle (nodup : c.names.Nodup) : (settle f c).names.Nodup := by
  rw [names_settle]
  exact nodup

theorem nodup_write (nodup : c.names.Nodup) (name : String)
    (records : Replica V O → List (Except StoreError (Bytes × Option Bytes))) :
    (c.write f name records).2.names.Nodup := by
  unfold write
  cases c.node? name with
  | none => exact nodup
  | some node =>
    simp only
    cases node.replica.ensureOpen with
    | error error => exact nodup
    | ok _ =>
      simp only
      cases (appendAll (records node.replica) c.rehearsal).1 <;> exact nodup_settle nodup

theorem nodup_onNode (nodup : c.names.Nodup) (name : String)
    (step : Node V O → E → Node V O × E) : (c.onNode f name step).names.Nodup := by
  unfold onNode
  cases c.node? name with
  | none => exact nodup
  | some node =>
    simp only
    rw [names_settle]
    exact nodup_setNode nodup _

theorem Event.nodup_run (nodup : c.names.Nodup) (seat : String → P → O)
    (within : (F → F) → E → E) (event : Event V P F) :
    (event.run f seat within c).2.names.Nodup := by
  cases event with
  | put store key value =>
    exact nodup_write nodup store fun _ => [Replica.encodeEntry f.codec key value]
  | remove store key => exact nodup_write nodup store fun _ => [.ok (Replica.encodeTombstone key)]
  | putAll store entries =>
    exact nodup_write nodup store fun _ => entries.map fun entry =>
      Replica.encodeEntry f.codec entry.1 entry.2
  | clear store =>
    exact nodup_write nodup store fun replica => replica.keys.map fun key =>
      .ok (Replica.encodeTombstone key)
  | close store =>
    simp only [run, Cluster.close]
    cases c.node? store with
    | none => exact nodup
    | some node =>
      simp only
      cases (if node.held then node.replica.endOfBatch true else node.replica).close with
      | error error => exact nodup
      | ok replica => exact nodup_settle (nodup_setNode nodup _)
  | start => exact nodup_settle (nodup_setNode nodup _)
  | poll store => exact nodup_onNode nodup store _
  | deliver store polled => exact nodup_onNode nodup store _
  | setHeld store held => exact nodup_onNode nodup store _
  | log => exact nodup_settle nodup
  | waitUntilCaughtUp | rehearse | surroundings => exact nodup

end Cluster

theorem View.names {f : Following V O E} {g : Following V P F} (v : View f g)
    (c : Cluster V O E) : (v.cluster c).names = c.names := List.map_map ..

theorem View.run {f : Following V O E} {g : Following V P F} (v : View f g)
    {seat : String → P → O} {within : (F → F) → E → E}
    (seated : ∀ store observer, v.observer (seat store observer) = observer)
    (changed : ∀ change shared, v.shared (within change shared) = change (v.shared shared))
    (c : Cluster V O E) (event : Cluster.Event V P F) :
    event.run g (fun _ observer => observer) id (v.cluster c) =
      (event.run f seat within c).map id v.cluster := by
  unfold Cluster.Event.run
  cases event with
  | put store key value =>
    simp only [v.put]
    rfl
  | remove store key =>
    simp only [v.remove]
    rfl
  | putAll store entries =>
    simp only [v.putAll]
    rfl
  | clear store =>
    simp only [v.clear]
    rfl
  | close store =>
    simp only [v.close]
    rfl
  | waitUntilCaughtUp store timeout =>
    simp only [v.waitUntilCaughtUp]
    rfl
  | start store observers plan =>
    have started := v.start store (observers.map (seat store)) plan c
    simp only [List.map_map, Function.comp_def, seated] at started
    simp only [started]
    rfl
  | poll store =>
    simp only [v.pollNode]
    rfl
  | deliver store polled =>
    simp only [v.deliver]
    rfl
  | setHeld store held =>
    simp only [v.setHeld]
    rfl
  | log event => exact congrArg (Cluster.Event.Answer.log _, ·) (v.settle (c.withLog _))
  | rehearse accepted acknowledgements => rfl
  | surroundings change =>
    have same := changed change c.shared
    exact congrArg (fun shared => (Cluster.Event.Answer.silent,
      Cluster.mk c.rehearsal (c.nodes.map v.node) shared)) same.symm

end RoadRegistry
