import RoadRegistry.Proofs.Cluster.Stopping
import RoadRegistry.Proofs.Log.Appending
import RoadRegistry.Proofs.Replica.Tailing

namespace RoadRegistry

namespace Cluster

variable {f : Following V O E} {c : Cluster V O E} {log : Log} {node : Node V O} {shared : E}

/-- What a store is given comes from the log, and what a writer is told is there is there. -/
def Event.genuine : Event V O E → Bool
  | .deliver _ _ => false
  | .rehearse _ acknowledgements => acknowledgements.isEmpty
  | _ => true

def Tailed (codec : Codec V) (log : Log) (node : Node V O) : Prop :=
  ∃ taken, node.replica.Tails codec log node.reader taken []

def Abreast (log : Log) (node : Node V O) : Prop :=
  node.held = false → node.replica.progress.stopped = false →
    log.unavailable = none ∧ node.reader.batch log = []

structure Coherent (f : Following V O E) (c : Cluster V O E) : Prop where
  genuine : c.rehearsal.acknowledgements = []
  tidy : c.log.Tidy
  tailed : ∀ node ∈ c.nodes, Tailed f.codec c.log node

structure AtRest (f : Following V O E) (c : Cluster V O E) : Prop extends Coherent f c where
  abreast : ∀ node ∈ c.nodes, Abreast c.log node

theorem error_of_bind_eq_error {ε α β : Type} {first : Except ε α} {next : α → Except ε β} {e : ε}
    (failed : (first >>= next) = .error e) :
    first = .error e ∨ ∃ a, first = .ok a ∧ next a = .error e := by
  cases first with
  | error other => exact .inl (congrArg Except.error (Except.error.inj failed))
  | ok a => exact .inr ⟨a, rfl, failed⟩

theorem fatal_of_checkAvailable {error : StoreError} (failed : log.checkAvailable = .error error) :
    error.isFatal = true := by
  unfold Log.checkAvailable at failed
  split at failed <;> cases failed
  rfl

theorem fatal_of_attempt {α : Type} {failure : Option String} {call : Except StoreError α}
    {error : StoreError} (failed : openLog.attempt log failure call = .error error)
    (otherwise : call = .error error → error.isFatal = true) : error.isFatal = true := by
  cases failure with
  | some message =>
    cases failed
    rfl
  | none => exact otherwise failed

theorem fatal_of_given {offsets : Option (Dictionary Int Int)}
    {call : Except StoreError (Dictionary Int Int)} {error : StoreError}
    (failed : openLog.given offsets call = .error error)
    (otherwise : call = .error error → error.isFatal = true) : error.isFatal = true := by
  cases offsets with
  | some offsets => cases failed
  | none => exact otherwise failed

theorem fatal_of_openLog {plan : StartPlan} {error : StoreError}
    (failed : openLog log plan = .error error) : error.isFatal = true := by
  have unavailable {α : Type} {a : α} (failed : (log.checkAvailable >>= fun _ => .ok a) =
      .error error) : error.isFatal = true := by
    rcases error_of_bind_eq_error failed with lost | ⟨_, _, done⟩
    · exact fatal_of_checkAvailable lost
    · cases done
  rcases error_of_bind_eq_error failed with first | ⟨_, _, rest⟩
  · exact fatal_of_attempt first unavailable
  rcases error_of_bind_eq_error rest with second | ⟨_, _, rest⟩
  · exact fatal_of_attempt second fun failed => fatal_of_given failed unavailable
  rcases error_of_bind_eq_error rest with third | ⟨_, _, done⟩
  · exact fatal_of_attempt third fun failed => fatal_of_given failed unavailable
  · cases done

theorem reader_of_openLog {plan : StartPlan} {reader : Reader}
    {ends earliest : Dictionary Int Int}
    (opened : openLog log plan = .ok (reader, ends, earliest)) :
    reader = ⟨log.partitions.map fun _ => 0⟩ := by
  obtain ⟨first, begun, rest⟩ := exists_of_bind_eq_ok opened
  obtain ⟨_, _, rest⟩ := exists_of_bind_eq_ok rest
  obtain ⟨_, _, rest⟩ := exists_of_bind_eq_ok rest
  cases rest
  unfold openLog.attempt at begun
  split at begun
  · cases begun
  · cases available : log.unavailable with
    | none =>
      rw [Reader.openReader_of_available available] at begun
      exact (Except.ok.inj begun).symm
    | some message =>
      rw [Reader.openReader_of_unavailable available] at begun
      cases begun

theorem follow_cases (f : Following V O E) (log : Log) (node : Node V O) (shared : E) :
    (follow f log node shared = (node, shared) ∧ Abreast log node) ∨
      (node.held = false ∧ node.replica.progress.stopped = false ∧
        follow f log node shared =
          let polled := Replica.poll f log node.reader (node.replica, shared)
          ({ node with reader := polled.1, replica := polled.2.1 }, polled.2.2)) := by
  by_cases idle : node.held || !isRunning node
  · refine .inl ⟨if_pos idle, fun unheld running => ?_⟩
    simp [isRunning, unheld, running] at idle
  · have active : node.held = false ∧ node.replica.progress.stopped = false := by
      simpa [isRunning] using idle
    unfold follow
    rw [if_neg idle]
    cases available : log.unavailable with
    | some message =>
      refine .inr ⟨active.1, active.2, ?_⟩
      simp only [Replica.poll, Reader.poll_of_unavailable available]
    | none =>
      rw [Reader.poll_of_available available]
      cases batch : node.reader.batch log with
      | nil => exact .inl ⟨rfl, fun _ _ => ⟨available, batch⟩⟩
      | cons record rest =>
        refine .inr ⟨active.1, active.2, ?_⟩
        simp only [Replica.poll, Reader.poll_of_available available, batch]

theorem abreast_poll (tidy : log.Tidy) (running : node.replica.progress.stopped = false)
    (shared : E) :
    let polled := Replica.poll f log node.reader (node.replica, shared)
    Abreast log { node with reader := polled.1, replica := polled.2.1 } := by
  intro polled _ still
  have poll_eq : polled = Replica.poll f log node.reader (node.replica, shared) := rfl
  unfold Replica.poll at poll_eq
  cases available : log.unavailable with
  | some message =>
    rw [Reader.poll_of_unavailable available] at poll_eq
    simp only [Replica.receive, running, Bool.false_eq_true, ite_false] at poll_eq
    simp only [poll_eq] at still
    cases still
  | none =>
    rw [Reader.poll_of_available available] at poll_eq
    simp only [poll_eq]
    exact ⟨trivial, Reader.batch_next tidy node.reader⟩

theorem Tailed.follow (tidy : log.Tidy) (tailed : Tailed f.codec log node) (shared : E) :
    Tailed f.codec log (Cluster.follow f log node shared).1 ∧
      Abreast log (Cluster.follow f log node shared).1 := by
  rcases follow_cases f log node shared with ⟨same, abreast⟩ | ⟨_, running, polled⟩
  · rw [same]
    exact ⟨tailed, abreast⟩
  · rw [polled]
    obtain ⟨taken, tails⟩ := tailed
    exact ⟨tails.receive tidy shared, abreast_poll tidy running shared⟩

theorem Tailed.followAll (tidy : log.Tidy) {nodes : List (Node V O)}
    (tailed : ∀ node ∈ nodes, Tailed f.codec log node) (shared : E) :
    ∀ node ∈ (followAll f log nodes shared).1, Tailed f.codec log node ∧ Abreast log node := by
  induction nodes generalizing shared with
  | nil => exact List.forall_mem_nil _
  | cons first rest ih =>
    obtain ⟨head, tail⟩ := List.forall_mem_cons.mp tailed
    exact List.forall_mem_cons.mpr ⟨head.follow tidy shared, ih tail _⟩

namespace Coherent

theorem settle (coherent : Coherent f c) : AtRest f (settle f c) where
  genuine := coherent.genuine
  tidy := coherent.tidy
  tailed node member := (Tailed.followAll coherent.tidy coherent.tailed c.shared node member).1
  abreast node member := (Tailed.followAll coherent.tidy coherent.tailed c.shared node member).2

theorem setNode (coherent : Coherent f c) (tailed : Tailed f.codec c.log node) :
    Coherent f (c.setNode node) where
  genuine := by rw [rehearsal_setNode, coherent.genuine]
  tidy := by rw [log_setNode]; exact coherent.tidy
  tailed other member := by
    rw [log_setNode]
    rcases mem_setNode member with rfl | there
    · exact tailed
    · exact coherent.tailed other there

theorem withRehearsal (coherent : Coherent f c) {rehearsal : Rehearsal}
    (genuine : rehearsal.acknowledgements = []) (tidy : rehearsal.log.Tidy)
    (before : c.log.Before rehearsal.log) : Coherent f { c with rehearsal } where
  genuine := genuine
  tidy := tidy
  tailed node member := (coherent.tailed node member).imp fun _ tails => tails.later before

theorem appendAll (coherent : Coherent f c) (items : List Item) :
    Coherent f { c with rehearsal := (appendAll items c.rehearsal).2 } := by
  refine coherent.withRehearsal (appendAll_spec coherent.genuine items).1 ?_ ?_
  · rw [log_appendAll coherent.genuine]
    exact coherent.tidy.after _
  · rw [log_appendAll coherent.genuine]
    exact .after c.log _

end Coherent

namespace AtRest

theorem write (atRest : AtRest f c) (name : String) (records : Replica V O → List Item) :
    AtRest f (c.write f name records).2 := by
  unfold Cluster.write
  cases c.node? name with
  | none => exact atRest
  | some node =>
    simp only
    cases node.replica.ensureOpen with
    | error error => exact atRest
    | ok _ =>
      simp only
      have settled := (atRest.toCoherent.appendAll (records node.replica)).settle
      cases (Cluster.appendAll (records node.replica) c.rehearsal).1 <;> exact settled

theorem start (atRest : AtRest f c) (name : String) (observers : List O) (plan : StartPlan) :
    AtRest f (c.start f name observers plan) := by
  unfold Cluster.start
  cases opened : openLog c.log plan with
  | ok given =>
    obtain ⟨reader, ends, earliest⟩ := given
    obtain rfl := reader_of_openLog opened
    exact (atRest.toCoherent.setNode
      ⟨[], .begin atRest.tidy f.codec c.log.topic observers ends earliest⟩).settle
  | error error =>
    have fatal := fatal_of_openLog opened
    exact (atRest.toCoherent.setNode
      ⟨[], .unopened atRest.tidy f.codec c.log.topic observers fatal⟩).settle

theorem onNode (atRest : AtRest f c) (name : String) {step : Node V O → E → Node V O × E}
    (keeps : ∀ node shared, Tailed f.codec c.log node →
      Tailed f.codec c.log (step node shared).1) :
    AtRest f (c.onNode f name step) := by
  unfold Cluster.onNode
  cases found : c.node? name with
  | none => exact atRest
  | some node =>
    have tailed := keeps node c.shared (atRest.tailed node (mem_of_node? found))
    have set := atRest.toCoherent.setNode tailed
    exact Coherent.settle ⟨set.genuine, set.tidy, set.tailed⟩

theorem poll (atRest : AtRest f c) (name : String) : AtRest f (c.poll f name) := by
  unfold Cluster.poll
  refine atRest.onNode name fun node shared tailed => ?_
  obtain ⟨taken, tails⟩ := tailed
  cases node.held with
  | false => exact ⟨taken, tails⟩
  | true => exact tails.receive atRest.tidy shared

theorem setHeld (atRest : AtRest f c) (name : String) (held : Bool) :
    AtRest f (c.setHeld f name held) := by
  unfold Cluster.setHeld
  exact atRest.onNode name fun _ _ tailed => tailed

theorem run (atRest : AtRest f c) {P F : Type} (seat : String → P → O) (within : (F → F) → E → E)
    {event : Event V P F} (genuine : event.genuine) :
    AtRest f (event.run f seat within c).2 := by
  cases event with
  | put store key value => exact atRest.write store fun _ => [Replica.encodeEntry f.codec key value]
  | remove store key => exact atRest.write store fun _ => [.ok (Replica.encodeTombstone key)]
  | putAll store entries =>
    exact atRest.write store fun _ => entries.map fun entry =>
      Replica.encodeEntry f.codec entry.1 entry.2
  | clear store =>
    exact atRest.write store fun replica => replica.keys.map fun key =>
      .ok (Replica.encodeTombstone key)
  | close store =>
    simp only [Event.run, Cluster.close]
    cases found : c.node? store with
    | none => exact atRest
    | some node =>
      obtain ⟨taken, tails⟩ := atRest.tailed node (mem_of_node? found)
      have asked : (if node.held then node.replica.endOfBatch true else node.replica).Tails f.codec
          c.log node.reader taken [] := by
        split
        · exact tails.endOfBatch true
        · exact tails
      simp only
      cases shut : (if node.held then node.replica.endOfBatch true else node.replica).close with
      | error error => exact atRest
      | ok replica =>
        have closed := asked.close shut
        have set : Coherent f (c.setNode { node with replica }) :=
          atRest.toCoherent.setNode ⟨taken, closed⟩
        exact set.settle
  | start store observers plan => exact atRest.start store _ plan
  | poll store => exact atRest.poll store
  | deliver store polled => cases genuine
  | setHeld store held => exact atRest.setHeld store held
  | log event =>
    have logged : Coherent f (c.withLog (event.run c.log).2) :=
      atRest.toCoherent.withRehearsal atRest.genuine (atRest.tidy.run event) (.run c.log event)
    exact logged.settle
  | waitUntilCaughtUp store timeout => exact atRest
  | rehearse accepted acknowledgements =>
    exact { atRest with genuine := List.isEmpty_iff.mp genuine }
  | surroundings change => exact { atRest with }

theorem runAll (atRest : AtRest f c) {P F : Type} (seat : String → P → O)
    (within : (F → F) → E → E) {events : List (Event V P F)}
    (genuine : ∀ event ∈ events, event.genuine) :
    AtRest f (Event.runAll f seat within c events) := by
  induction events generalizing c with
  | nil => exact atRest
  | cons event rest ih =>
    obtain ⟨first, later⟩ := List.forall_mem_cons.mp genuine
    exact ih (atRest.run seat within first) later

theorem initial (f : Following V O E) (topic : String) (partitions : Nat) (shared : E) :
    AtRest f { rehearsal := { log := Log.create topic partitions }, shared } where
  genuine := rfl
  tidy := .create topic partitions
  tailed := List.forall_mem_nil _
  abreast := List.forall_mem_nil _

end AtRest

theorem after_atRest (f : Following V O E) (topic : String) (partitions : Nat) (shared : E)
    {events : List (Event V O E)} (genuine : ∀ event ∈ events, event.genuine) :
    AtRest f (after f (Log.create topic partitions) shared events) :=
  (AtRest.initial f topic partitions shared).runAll _ _ genuine

theorem noted_atRest (f : Following V O E) (topic : String) (partitions : Nat) (shared : E)
    {events : List (Event V O E)} (genuine : ∀ event ∈ events, event.genuine) :
    AtRest f.noting (noted f (Log.create topic partitions) shared events) :=
  (AtRest.initial f.noting topic partitions shared).runAll _ _ genuine

end Cluster

end RoadRegistry
