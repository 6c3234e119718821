import RoadRegistry.Proofs.Replica.Following
import RoadRegistry.Proofs.Replica.Sync

namespace RoadRegistry

namespace Cluster

variable {f : Following V O E} {log : Log} {appended : List Record}

structure Active (codec : Codec V) (log : Log) (appended : List Record)
    (node : Node V O) : Prop where
  unheld : node.held = false
  unclosed : node.replica.closed = false
  unfailed : node.replica.progress.failure = none
  running : node.replica.progress.stopped = false
  follows : ∃ consumed, node.replica.Follows codec log appended node.reader consumed []

def UpToDate (log : Log) (appended : List Record) (node : Node V O) : Prop :=
  ∀ record ∈ appended, record.offset < node.reader.position (log.route record.key)

namespace Active

variable {codec : Codec V} {node : Node V O}

theorem push (active : Active codec log appended node) (key : Bytes) (value : Option Bytes) :
    Active codec (log.push (log.nextRecord key value) (log.route key))
      (appended ++ [log.nextRecord key value]) node := by
  obtain ⟨consumed, follows⟩ := active.follows
  exact { active with follows := ⟨consumed, follows.push key value⟩ }

theorem compact (active : Active codec log appended node) :
    Active codec log.compact.2 appended node := by
  obtain ⟨consumed, follows⟩ := active.follows
  exact { active with follows := ⟨consumed, follows.compact⟩ }

theorem following (active : Active codec log appended node) :
    (node.held || !isRunning node) = false := by
  simp only [isRunning, active.unheld, active.running, Bool.not_false, Bool.not_true, Bool.or_self]

theorem follow (quiet : f.notify.Quiet) (available : log.unavailable = none)
    (chronicle : log.Chronicle appended) (keeps : log.KeepsLatest appended)
    (legible : Legible f.codec appended)
    (active : Active f.codec log appended node) (shared : E) :
    Active f.codec log appended (Cluster.follow f log node shared).1 ∧
      UpToDate log appended (Cluster.follow f log node shared).1 := by
  obtain ⟨consumed, follows⟩ := active.follows
  -- A following store never sees an empty poll: its reader stays where it is.
  cases batch : node.reader.batch log with
  | nil =>
    have same : Cluster.follow f log node shared = (node, shared) := by
      unfold Cluster.follow
      rw [active.following, Reader.poll_of_available available, batch]
      rfl
    rw [same]
    exact ⟨active, fun _ => Reader.lt_position_of_batch_nil keeps batch⟩
  | cons record rest =>
    have given := follows.poll chronicle keeps
    rw [batch, ← List.append_nil (record :: rest)] at given
    have known (other : Record) (member : other ∈ record :: rest) : other ∈ appended :=
      given.mem_appended (List.mem_append_right _ (List.mem_append_left _ member))
    obtain ⟨caught_up, running, failure, closed⟩ := given.consume_all shared quiet
      (fun other member => legible other (known other member)) active.running
    have read : (Cluster.follow f log node shared).1 =
        { node with
          reader := node.reader.next log
          replica := ((record :: rest).foldl (Replica.consume f)
            (node.replica, shared)).1.endOfBatch false } := by
      unfold Cluster.follow
      rw [active.following, Reader.poll_of_available available, batch]
      simp only [Bool.false_eq_true, ite_false, Replica.receive, active.running, List.isEmpty_cons]
    obtain ⟨caughtUp, same⟩ := ((record :: rest).foldl (Replica.consume f)
      (node.replica, shared)).1.endOfBatch_eq false
    rw [read]
    refine ⟨⟨active.unheld, ?_, ?_, ?_, _, caught_up.endOfBatch false⟩, fun other member => ?_⟩
    · rw [same]
      exact closed.trans active.unclosed
    · rw [same]
      exact failure.trans active.unfailed
    · rw [same]
      exact running
    · exact Reader.lt_position_of_poll chronicle keeps node.reader member

end Active

def names (c : Cluster V O E) : List String := c.nodes.map (·.name)

/-- The log with everything that was ever appended to it, and every store active. -/
structure Sound (f : Following V O E) (c : Cluster V O E) (appended : List Record) : Prop where
  unbounded : c.rehearsal.accepted = none
  unplanned : c.rehearsal.acknowledgements = []
  available : c.log.unavailable = none
  chronicle : c.log.Chronicle appended
  keeps : c.log.KeepsLatest appended
  legible : Legible f.codec appended
  active : ∀ node ∈ c.nodes, Active f.codec c.log appended node

structure Settled (f : Following V O E) (c : Cluster V O E) (appended : List Record) : Prop
    extends Sound f c appended where
  up_to_date : ∀ node ∈ c.nodes, UpToDate c.log appended node

variable {c : Cluster V O E} {node : Node V O} {name : String}

theorem name_follow (f : Following V O E) (log : Log) (node : Node V O) (shared : E) :
    (follow f log node shared).1.name = node.name := by
  unfold follow
  split
  · rfl
  · split <;> rfl

theorem names_followAll (f : Following V O E) (log : Log) (nodes : List (Node V O)) (shared : E) :
    (followAll f log nodes shared).1.map (·.name) = nodes.map (·.name) := by
  induction nodes generalizing shared with
  | nil => rfl
  | cons node rest ih =>
    simp only [followAll, List.map_cons, name_follow, ih]

theorem names_settle (f : Following V O E) (c : Cluster V O E) : (settle f c).names = c.names :=
  names_followAll f c.log c.nodes c.shared

theorem followAll_active (quiet : f.notify.Quiet) (available : log.unavailable = none)
    (chronicle : log.Chronicle appended) (keeps : log.KeepsLatest appended)
    (legible : Legible f.codec appended) {nodes : List (Node V O)}
    (active : ∀ node ∈ nodes, Active f.codec log appended node) (shared : E) :
    ∀ node ∈ (followAll f log nodes shared).1,
      Active f.codec log appended node ∧ UpToDate log appended node := by
  induction nodes generalizing shared with
  | nil =>
    intro node member
    cases member
  | cons first rest ih =>
    intro node member
    rcases List.mem_cons.mp member with rfl | later
    · exact (active first List.mem_cons_self).follow quiet available chronicle keeps legible shared
    · exact ih (fun other there => active other (List.mem_cons_of_mem _ there)) _ node later

theorem Sound.settle (sound : Sound f c appended) (quiet : f.notify.Quiet) :
    Settled f (Cluster.settle f c) appended := by
  have followed := followAll_active quiet sound.available sound.chronicle sound.keeps
    sound.legible sound.active c.shared
  exact { sound with
    active := fun node member => (followed node member).1
    up_to_date := fun node member => (followed node member).2 }

theorem mem_setNode {other : Node V O} (member : other ∈ (c.setNode node).nodes) :
    other = node ∨ other ∈ c.nodes := by
  unfold setNode at member
  split at member
  · obtain ⟨old, there, same⟩ := List.mem_map.mp member
    split at same
    · exact .inl same.symm
    · exact .inr (same ▸ there)
  · rcases List.mem_append.mp member with there | new
    · exact .inr there
    · exact .inl (List.mem_singleton.mp new)

theorem name_replaced (node other : Node V O) :
    (if other.name = node.name then node else other).name = other.name := by
  split
  · next same => exact same.symm
  · rfl

theorem mem_names_setNode (known : name ∈ c.names ∨ name = node.name) :
    name ∈ (c.setNode node).names := by
  unfold setNode names
  split
  · next replaced =>
    simp only [List.map_map, Function.comp_def, name_replaced]
    rcases known with known | rfl
    · exact known
    · obtain ⟨other, there, same⟩ := List.any_eq_true.mp replaced
      exact List.mem_map.mpr ⟨other, there, of_decide_eq_true same⟩
  · rw [List.map_append]
    rcases known with known | rfl
    · exact List.mem_append_left _ known
    · exact List.mem_append_right _ (List.mem_singleton_self _)

theorem rehearsal_setNode (c : Cluster V O E) (node : Node V O) :
    (c.setNode node).rehearsal = c.rehearsal := by
  unfold setNode
  split <;> rfl

theorem log_setNode (c : Cluster V O E) (node : Node V O) : (c.setNode node).log = c.log :=
  congrArg Rehearsal.log (rehearsal_setNode c node)

theorem Sound.setNode (sound : Sound f c appended)
    (active : Active f.codec c.log appended node) : Sound f (c.setNode node) appended := by
  constructor
  · rw [rehearsal_setNode, sound.unbounded]
  · rw [rehearsal_setNode, sound.unplanned]
  · rw [log_setNode, sound.available]
  · rw [log_setNode]
    exact sound.chronicle
  · rw [log_setNode]
    exact sound.keeps
  · exact sound.legible
  · intro other member
    rw [log_setNode]
    rcases mem_setNode member with rfl | there
    · exact active
    · exact sound.active other there

theorem Settled.start (settled : Settled f c appended) (quiet : f.notify.Quiet) (name : String)
    (observers : List O) :
    Settled f (c.start f name observers {}) appended ∧
      ∀ other, other ∈ c.names ∨ other = name → other ∈ (c.start f name observers {}).names := by
  obtain ⟨ends, earliest, opened⟩ : ∃ ends earliest,
      openLog c.log {} = .ok (⟨c.log.partitions.map fun _ => 0⟩, ends, earliest) :=
    ⟨_, _, openLog_of_available settled.available⟩
  obtain ⟨target, caughtUp, begun⟩ :=
    ({ topic := c.log.topic, observers } : Replica V O).begin_eq ends earliest
  have active : Active f.codec c.log appended ⟨name, false, ⟨c.log.partitions.map fun _ => 0⟩,
      ({ topic := c.log.topic, observers } : Replica V O).begin ends earliest⟩ := by
    refine ⟨rfl, ?_, ?_, ?_, [],
      .opened settled.chronicle f.codec c.log.topic observers ends earliest⟩
    · rw [begun]
    · rw [begun]
    · rw [begun]
  unfold Cluster.start
  simp only [opened]
  refine ⟨(settled.toSound.setNode active).settle quiet, fun other known => ?_⟩
  rw [names_settle]
  exact mem_names_setNode known

theorem exists_node? (known : name ∈ c.names) : ∃ node ∈ c.nodes, c.node? name = some node := by
  obtain ⟨other, there, same⟩ := List.mem_map.mp known
  cases found : c.node? name with
  | none =>
    have absent := List.find?_eq_none.mp found other there
    exact absurd (decide_eq_true same) absent
  | some node => exact ⟨node, List.mem_of_find?_eq_some found, rfl⟩

end Cluster

end RoadRegistry
