import RoadRegistry.Cluster.Basic
import RoadRegistry.Proofs.Replica.View

namespace RoadRegistry

variable {V O P E F : Type}

namespace View

variable {f : Following V O E} {g : Following V P F} (v : View f g)

def node (node : Node V O) : Node V P :=
  { name := node.name, held := node.held, reader := node.reader, replica := v.replica node.replica }

def cluster (c : Cluster V O E) : Cluster V P F :=
  { rehearsal := c.rehearsal, nodes := c.nodes.map v.node, shared := v.shared c.shared }

theorem follow (log : Log) (node : Node V O) (shared : E) :
    Cluster.follow g log (v.node node) (v.shared shared) =
      (Cluster.follow f log node shared).map v.node v.shared := by
  have read (polled : Except StoreError (List Record)) :
      Replica.receive g ((v.node node).replica, v.shared shared) polled =
        v.state (Replica.receive f (node.replica, shared) polled) :=
    v.receive (node.replica, shared) polled
  have same_reader : (v.node node).reader = node.reader := rfl
  unfold Cluster.follow
  cases idle : node.held || !Cluster.isRunning node with
  | true =>
    have idle_too : ((v.node node).held || !Cluster.isRunning (v.node node)) = true := idle
    simp only [idle_too, ite_true, Prod.map]
  | false =>
    have active : ((v.node node).held || !Cluster.isRunning (v.node node)) = false := idle
    simp only [active, Bool.false_eq_true, ite_false, same_reader]
    cases node.reader.poll log with
    | error error =>
      simp only [read]
      rfl
    | ok polled =>
      obtain ⟨batch, next⟩ := polled
      cases batch with
      | nil => rfl
      | cons record rest =>
        simp only [read]
        rfl

theorem followAll (log : Log) (nodes : List (Node V O)) (shared : E) :
    Cluster.followAll g log (nodes.map v.node) (v.shared shared) =
      (Cluster.followAll f log nodes shared).map (List.map v.node) v.shared := by
  induction nodes generalizing shared with
  | nil => rfl
  | cons first rest ih =>
    simp only [List.map_cons, Cluster.followAll, v.follow, Prod.map_fst, Prod.map_snd, ih]
    rfl

theorem settle (c : Cluster V O E) :
    Cluster.settle g (v.cluster c) = v.cluster (Cluster.settle f c) := by
  have followed := v.followAll c.log c.nodes c.shared
  unfold Cluster.settle
  change ({ v.cluster c with
    nodes := (Cluster.followAll g c.log (c.nodes.map v.node) (v.shared c.shared)).1
    shared := (Cluster.followAll g c.log (c.nodes.map v.node) (v.shared c.shared)).2 } :
      Cluster V P F) = _
  rw [followed]
  rfl

theorem node? (c : Cluster V O E) (name : String) :
    (v.cluster c).node? name = (c.node? name).map v.node :=
  List.find?_map

theorem setNode (c : Cluster V O E) (node : Node V O) :
    (v.cluster c).setNode (v.node node) = v.cluster (c.setNode node) := by
  have known : (v.cluster c).nodes.any (fun other => other.name = (v.node node).name) =
      c.nodes.any (fun other => other.name = node.name) := List.any_map
  unfold Cluster.setNode
  rw [known]
  cases c.nodes.any (fun other => other.name = node.name) with
  | true =>
    have replaced : (c.nodes.map v.node).map
        (fun other => if other.name = node.name then v.node node else other) =
          (c.nodes.map fun other => if other.name = node.name then node else other).map v.node := by
      rw [List.map_map, List.map_map]
      apply List.map_congr_left
      intro other _
      simp only [Function.comp, apply_ite v.node]
      rfl
    exact congrArg (Cluster.mk c.rehearsal · (v.shared c.shared)) replaced
  | false =>
    have added : c.nodes.map v.node ++ [node].map v.node = (c.nodes ++ [node]).map v.node :=
      List.map_append.symm
    exact congrArg (Cluster.mk c.rehearsal · (v.shared c.shared)) added

theorem start (name : String) (observers : List O) (plan : StartPlan) (c : Cluster V O E) :
    (v.cluster c).start g name (observers.map v.observer) plan =
      v.cluster (c.start f name observers plan) := by
  have fresh : v.replica { topic := c.log.topic, observers } =
      { topic := c.log.topic, observers := observers.map v.observer } := by
    simp only [replica, v.time_zero]
  have same_log : (v.cluster c).log = c.log := rfl
  unfold Cluster.start
  rw [same_log, ← v.settle, ← v.setNode, ← fresh]
  cases Cluster.openLog c.log plan with
  | error error => rfl
  | ok opened => rfl

theorem sync (name : String) (positions : List Position) (c : Cluster V O E) :
    (v.cluster c).sync name positions = c.sync name positions := by
  unfold Cluster.sync
  rw [v.node?]
  cases c.node? name <;> rfl

/-- The records of a call may depend on what the replica shows, but not on what the view hides. -/
theorem write (name : String) (c : Cluster V O E)
    {records : Replica V O → List (Except StoreError (Bytes × Option Bytes))}
    {seen : Replica V P → List (Except StoreError (Bytes × Option Bytes))}
    (same : ∀ r, seen (v.replica r) = records r) :
    (v.cluster c).write g name seen = (c.write f name records).map id v.cluster := by
  have settled (rehearsal : Rehearsal) :
      Cluster.settle g { v.cluster c with rehearsal } =
        v.cluster (Cluster.settle f { c with rehearsal }) := v.settle { c with rehearsal }
  unfold Cluster.write
  rw [v.node?]
  cases c.node? name with
  | none => rfl
  | some node =>
    have open_too : (v.node node).replica.ensureOpen = node.replica.ensureOpen := rfl
    have asked : seen (v.node node).replica = records node.replica := same node.replica
    have rehearsed : (v.cluster c).rehearsal = c.rehearsal := rfl
    simp only [Option.map_some, open_too, asked, rehearsed, settled, v.sync]
    cases node.replica.ensureOpen with
    | error error => rfl
    | ok _ =>
      simp only
      cases (Cluster.appendAll (records node.replica) c.rehearsal).1 <;> rfl

theorem put (name key : String) (value : V) (c : Cluster V O E) :
    (v.cluster c).put g name key value = (c.put f name key value).map id v.cluster := by
  have written : (v.cluster c).write g name (fun _ => [Replica.encodeEntry g.codec key value]) =
      (c.write f name fun _ => [Replica.encodeEntry f.codec key value]).map id v.cluster :=
    v.write name c fun _ => by rw [v.codec]
  unfold Cluster.put
  rw [written]
  rfl

theorem remove (name key : String) (c : Cluster V O E) :
    (v.cluster c).remove g name key = (c.remove f name key).map id v.cluster := by
  have before : ((v.cluster c).node? name).bind (fun node => node.replica.get? key) =
      (c.node? name).bind fun node => node.replica.get? key := by
    rw [v.node?]
    cases c.node? name <;> rfl
  unfold Cluster.remove
  rw [before, v.write name c fun _ => rfl]
  rfl

theorem putAll (name : String) (entries : List (String × V)) (c : Cluster V O E) :
    (v.cluster c).putAll g name entries = (c.putAll f name entries).map id v.cluster :=
  v.write name c fun _ => by rw [v.codec]

theorem clear (name : String) (c : Cluster V O E) :
    (v.cluster c).clear g name = (c.clear f name).map id v.cluster :=
  v.write name c fun _ => rfl

theorem onNode (name : String) (c : Cluster V O E)
    {step : Node V O → E → Node V O × E} {seen : Node V P → F → Node V P × F}
    (same : ∀ node shared, seen (v.node node) (v.shared shared) =
      (step node shared).map v.node v.shared) :
    (v.cluster c).onNode g name seen = v.cluster (c.onNode f name step) := by
  unfold Cluster.onNode
  rw [v.node?]
  cases c.node? name with
  | none => rfl
  | some node =>
    have stepped : seen (v.node node) (v.cluster c).shared =
        (step node c.shared).map v.node v.shared := same node c.shared
    simp only [Option.map_some, stepped, Prod.map_fst, Prod.map_snd, v.setNode]
    exact v.settle { c.setNode (step node c.shared).1 with shared := (step node c.shared).2 }

theorem pollNode (name : String) (c : Cluster V O E) :
    (v.cluster c).poll g name = v.cluster (c.poll f name) := by
  apply v.onNode name c
  intro node shared
  have read : Replica.poll g c.log (v.node node).reader ((v.node node).replica, v.shared shared) =
      (Replica.poll f c.log node.reader (node.replica, shared)).map id v.state :=
    v.poll c.log node.reader (node.replica, shared)
  have held_too : (v.node node).held = node.held := rfl
  have same_log : (v.cluster c).log = c.log := rfl
  rw [held_too, same_log, read]
  cases node.held <;> rfl

theorem deliver (name : String) (polled : Except StoreError (List Record)) (c : Cluster V O E) :
    (v.cluster c).deliver g name polled = v.cluster (c.deliver f name polled) := by
  apply v.onNode name c
  intro node shared
  have read : Replica.receive g ((v.node node).replica, v.shared shared) polled =
      v.state (Replica.receive f (node.replica, shared) polled) :=
    v.receive (node.replica, shared) polled
  rw [read]
  rfl

theorem setHeld (name : String) (held : Bool) (c : Cluster V O E) :
    (v.cluster c).setHeld g name held = v.cluster (c.setHeld f name held) :=
  v.onNode name c fun _ _ => rfl

theorem close (name : String) (c : Cluster V O E) :
    (v.cluster c).close g name = (c.close f name).map id v.cluster := by
  unfold Cluster.close
  rw [v.node?]
  cases c.node? name with
  | none => rfl
  | some node =>
    have last_look : (if (v.node node).held then (v.node node).replica.endOfBatch true
        else (v.node node).replica) =
          v.replica (if node.held then node.replica.endOfBatch true else node.replica) := by
      have held_too : (v.node node).held = node.held := rfl
      rw [held_too]
      cases node.held with
      | true => exact v.endOfBatch node.replica true
      | false => rfl
    simp only [Option.map_some, last_look, v.replica_close]
    cases (if node.held then node.replica.endOfBatch true else node.replica).close with
    | error error => rfl
    | ok replica =>
      have replaced := v.settle (c.setNode { node with replica })
      rw [← v.setNode] at replaced
      exact congrArg (Except.ok (), ·) replaced

theorem waitUntilCaughtUp (name : String) (timeout : Duration) (c : Cluster V O E) :
    (v.cluster c).waitUntilCaughtUp name timeout = c.waitUntilCaughtUp name timeout := by
  unfold Cluster.waitUntilCaughtUp
  rw [v.node?]
  cases c.node? name <;> rfl

end View

end RoadRegistry
