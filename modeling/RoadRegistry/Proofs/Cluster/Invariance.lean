import RoadRegistry.Proofs.Cluster.Events
import RoadRegistry.Proofs.Replica.Ending

namespace RoadRegistry

namespace Cluster

variable {f : Following V O E} {c : Cluster V O E} {name : String} {node : Node V O}

theorem node?_name (found : c.node? name = some node) : node.name = name := by
  simpa using List.find?_some found

theorem mem_of_node? (found : c.node? name = some node) : node ∈ c.nodes :=
  List.mem_of_find?_eq_some found

section Invariant

variable {P : Replica V O → Prop} (invariant : Replica.Invariant f P)

include invariant

theorem forall_follow (log : Log) (kept : P node.replica) (shared : E) :
    P (follow f log node shared).1.replica := by
  unfold follow
  split
  · exact kept
  · split
    · exact invariant.received _ _ _ kept
    · exact kept
    · exact invariant.received _ _ _ kept

theorem forall_followAll (log : Log) {nodes : List (Node V O)}
    (kept : ∀ node ∈ nodes, P node.replica) (shared : E) :
    ∀ node ∈ (followAll f log nodes shared).1, P node.replica := by
  induction nodes generalizing shared with
  | nil => exact kept
  | cons first rest ih =>
    obtain ⟨head, tail⟩ := List.forall_mem_cons.mp kept
    exact List.forall_mem_cons.mpr ⟨forall_follow invariant log head shared, ih tail _⟩

theorem forall_settle (kept : ∀ node ∈ c.nodes, P node.replica) :
    ∀ node ∈ (settle f c).nodes, P node.replica :=
  forall_followAll invariant c.log kept c.shared

omit invariant in
theorem forall_setNode (kept : ∀ node ∈ c.nodes, P node.replica) (set : P node.replica) :
    ∀ other ∈ (c.setNode node).nodes, P other.replica := by
  intro other member
  rcases mem_setNode member with rfl | there
  · exact set
  · exact kept other there

theorem forall_write (kept : ∀ node ∈ c.nodes, P node.replica) (store : String)
    (records : Replica V O → List (Except StoreError (Bytes × Option Bytes))) :
    ∀ node ∈ (c.write f store records).2.nodes, P node.replica := by
  unfold write
  cases c.node? store with
  | none => exact kept
  | some writer =>
    simp only
    cases writer.replica.ensureOpen with
    | error error => exact kept
    | ok _ =>
      simp only
      cases (appendAll (records writer.replica) c.rehearsal).1 <;>
        exact forall_settle invariant kept

theorem forall_onNode (kept : ∀ node ∈ c.nodes, P node.replica) (store : String)
    {step : Node V O → E → Node V O × E}
    (keeps : ∀ node shared, P node.replica → P (step node shared).1.replica) :
    ∀ node ∈ (c.onNode f store step).nodes, P node.replica := by
  unfold onNode
  cases there : c.node? store with
  | none => exact kept
  | some node =>
    have before := kept node (mem_of_node? there)
    exact forall_settle invariant (forall_setNode kept (keeps node c.shared before))

theorem Event.forall_run (kept : ∀ node ∈ c.nodes, P node.replica) {Q F : Type}
    (seat : String → Q → O) (within : (F → F) → E → E) (event : Event V Q F) :
    ∀ node ∈ (event.run f seat within c).2.nodes, P node.replica := by
  cases event with
  | put store key value =>
    exact forall_write invariant kept store fun _ => [Replica.encodeEntry f.codec key value]
  | remove store key =>
    exact forall_write invariant kept store fun _ => [.ok (Replica.encodeTombstone key)]
  | putAll store entries =>
    exact forall_write invariant kept store fun _ => entries.map fun entry =>
      Replica.encodeEntry f.codec entry.1 entry.2
  | clear store =>
    exact forall_write invariant kept store fun replica => replica.keys.map fun key =>
      .ok (Replica.encodeTombstone key)
  | close store =>
    simp only [run, Cluster.close]
    cases there : c.node? store with
    | none => exact kept
    | some node =>
      have before := kept node (mem_of_node? there)
      have asked : P (if node.held then node.replica.endOfBatch true else node.replica) := by
        split
        · exact invariant.idled _ before
        · exact before
      simp only
      cases shut : (if node.held then node.replica.endOfBatch true else node.replica).close with
      | error error => exact kept
      | ok replica =>
        exact forall_settle invariant (forall_setNode kept (invariant.closed _ _ asked shut))
  | start store observers plan =>
    simp only [run, Cluster.start]
    cases openLog c.log plan with
    | error error =>
      exact forall_settle invariant (forall_setNode kept (invariant.unopened _ _ _))
    | ok opened =>
      exact forall_settle invariant (forall_setNode kept (invariant.begun _ _ _ _))
  | poll store =>
    apply forall_onNode invariant kept store
    intro node shared before
    cases node.held with
    | false => exact before
    | true =>
      simp only [ite_true, Replica.poll]
      cases node.reader.poll c.log <;> exact invariant.received _ _ _ before
  | deliver store polled =>
    exact forall_onNode invariant kept store fun _ _ before => invariant.received _ _ _ before
  | setHeld store held => exact forall_onNode invariant kept store fun _ _ before => before
  | log event => exact forall_settle (c := c.withLog _) invariant kept
  | waitUntilCaughtUp | rehearse | surroundings => exact kept

end Invariant

end Cluster

end RoadRegistry
