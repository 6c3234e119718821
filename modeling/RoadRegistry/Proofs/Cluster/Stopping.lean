import RoadRegistry.Proofs.Cluster.Invariance

namespace RoadRegistry

namespace Cluster

variable {f : Following V O E} {c : Cluster V O E} {name : String} {node : Node V O}

theorem node?_setNode (c : Cluster V O E) (node : Node V O) (name : String) :
    (c.setNode node).node? name = if node.name = name then some node else c.node? name := by
  unfold setNode
  split
  · next known =>
    -- Replacing keeps the names, so what is found is what was found, replaced.
    let replace (other : Node V O) := if other.name = node.name then node else other
    have moved : node? { c with nodes := c.nodes.map replace } name =
        (c.node? name).map replace := by
      simp only [node?, List.find?_map, Function.comp_def, replace, name_replaced]
    refine moved.trans ?_
    cases found : c.node? name with
    | none =>
      obtain ⟨other, there, same⟩ := List.any_eq_true.mp known
      have apart : node.name ≠ name := by
        have absent := List.find?_eq_none.mp found other there
        rw [← of_decide_eq_true same]
        simpa using absent
      rw [if_neg apart, Option.map_none]
    | some other =>
      simp only [Option.map_some, replace, node?_name found, eq_comm (a := name)]
      split <;> rfl
  · next fresh =>
    have absent (here : node.name = name) : c.node? name = none := by
      rw [node?, List.find?_eq_none]
      intro other there same
      exact fresh (List.any_eq_true.mpr ⟨other, there, by simpa [here] using same⟩)
    rw [node?, List.find?_append]
    by_cases here : node.name = name
    · have none_yet : c.nodes.find? (fun other => other.name = name) = none := absent here
      simp [none_yet, here]
    · simp [here, node?]

theorem find?_followAll (f : Following V O E) (log : Log) {nodes : List (Node V O)}
    (found : nodes.find? (fun node => node.name = name) = some node) (shared : E) :
    ∃ before, (followAll f log nodes shared).1.find? (fun node => node.name = name) =
      some (follow f log node before).1 := by
  induction nodes generalizing shared with
  | nil => cases found
  | cons first rest ih =>
    simp only [followAll, List.find?_cons, name_follow] at found ⊢
    cases here : decide (first.name = name) with
    | true =>
      simp only [here, Option.some.injEq] at found
      exact ⟨shared, by rw [found]⟩
    | false =>
      simp only [here] at found
      exact ih found (follow f log first shared).2

theorem node?_settle (f : Following V O E) (found : c.node? name = some node) :
    ∃ before, (settle f c).node? name = some (follow f c.log node before).1 :=
  find?_followAll f c.log found c.shared

theorem follow_of_stopped (ended : node.replica.progress.stopped = true) (log : Log) (shared : E) :
    follow f log node shared = (node, shared) := by
  simp only [follow, isRunning, ended, Bool.not_true, Bool.not_false, Bool.or_true, ite_true]

theorem node?_settle_of_stopped (found : c.node? name = some node)
    (ended : node.replica.progress.stopped = true) : (settle f c).node? name = some node := by
  obtain ⟨before, there⟩ := node?_settle f found
  rw [there, follow_of_stopped ended]

theorem write_of_refused (found : c.node? name = some node) {error : StoreError}
    (refused : node.replica.refusal = some error)
    (records : Replica V O → List (Except StoreError (Bytes × Option Bytes))) :
    c.write f name records = (.error error, c) := by
  simp only [write, found, Replica.ensureOpen_eq, refused]

theorem node?_write_of_stopped (found : c.node? name = some node)
    (ended : node.replica.progress.stopped = true) (store : String)
    (records : Replica V O → List (Except StoreError (Bytes × Option Bytes))) :
    (c.write f store records).2.node? name = some node := by
  unfold write
  cases c.node? store with
  | none => exact found
  | some writer =>
    simp only
    cases writer.replica.ensureOpen with
    | error error => exact found
    | ok _ =>
      simp only
      cases (appendAll (records writer.replica) c.rehearsal).1 <;>
        exact node?_settle_of_stopped (f := f) found ended

theorem node?_onNode_of_stopped (found : c.node? name = some node)
    (ended : node.replica.progress.stopped = true) (store : String)
    {step : Node V O → E → Node V O × E}
    (named : ∀ other shared, (step other shared).1.name = other.name)
    (kept : ∀ shared, (step node shared).1.replica = node.replica) :
    ∃ final, (c.onNode f store step).node? name = some final ∧ final.replica = node.replica := by
  unfold onNode
  cases there : c.node? store with
  | none => exact ⟨node, found, rfl⟩
  | some other =>
    simp only
    have set := node?_setNode c (step other c.shared).1 name
    rw [named, node?_name there] at set
    by_cases here : store = name
    · -- The step is one of the stopped store, and only its replica has to stay.
      subst here
      obtain rfl : node = other := Option.some.inj (found.symm.trans there)
      rw [if_pos rfl] at set
      have still : (step node c.shared).1.replica.progress.stopped = true := by rw [kept, ended]
      exact ⟨_, node?_settle_of_stopped set still, kept c.shared⟩
    · rw [if_neg here, found] at set
      exact ⟨node, node?_settle_of_stopped set ended, rfl⟩

theorem node?_settle_setNode_of_stopped (found : c.node? name = some node)
    (ended : node.replica.progress.stopped = true) {other : Node V O} (apart : other.name ≠ name) :
    (settle f (c.setNode other)).node? name = some node := by
  refine node?_settle_of_stopped ?_ ended
  rw [node?_setNode, if_neg apart, found]

theorem node?_start_of_stopped (found : c.node? name = some node)
    (ended : node.replica.progress.stopped = true) {store : String} (apart : store ≠ name)
    (observers : List O) (plan : StartPlan) :
    (c.start f store observers plan).node? name = some node := by
  unfold start
  cases openLog c.log plan <;> exact node?_settle_setNode_of_stopped found ended apart

theorem close_of_closed (found : c.node? name = some node)
    (ended : node.replica.progress.stopped = true) (shut : node.replica.closed = true) :
    c.close f name = (.error .closed, c) := by
  simp only [close, found, Replica.endOfBatch_of_stopped ended, ite_self,
    Replica.close_of_closed shut]

theorem close_close (f : Following V O E) (name : String) (c : Cluster V O E) :
    ((c.close f name).2.close f name).2 = (c.close f name).2 := by
  cases found : c.node? name with
  | none =>
    have same : (c.close f name).2 = c := by simp only [close, found]
    rw [same, same]
  | some node =>
    cases closed : (if node.held then node.replica.endOfBatch true else node.replica).close with
    | error error =>
      have same : (c.close f name).2 = c := by simp only [close, found, closed]
      rw [same, same]
    | ok replica =>
      obtain ⟨shut, ended⟩ := Replica.closed_of_close closed
      have left : (c.close f name).2 = settle f (c.setNode { node with replica }) := by
        simp only [close, found, closed]
      have set := node?_setNode c { node with replica } name
      rw [if_pos (node?_name found)] at set
      rw [left, close_of_closed (node?_settle_of_stopped (f := f) set ended) ended shut]

theorem node?_close_of_stopped (found : c.node? name = some node)
    (ended : node.replica.progress.stopped = true) (store : String) :
    ∃ final, (c.close f store).2.node? name = some final ∧ final.replica =
      { node.replica with closed := node.replica.closed || decide (store = name) } := by
  unfold close
  cases there : c.node? store with
  | none =>
    have apart : store ≠ name := by
      rintro rfl
      rw [there] at found
      cases found
    simp only [apart, decide_false, Bool.or_false]
    exact ⟨node, found, rfl⟩
  | some other =>
    by_cases here : store = name
    · subst here
      obtain rfl : node = other := Option.some.inj (found.symm.trans there)
      have asked : (if node.held then node.replica.endOfBatch true else node.replica) =
          node.replica := by
        rw [Replica.endOfBatch_of_stopped ended, ite_self]
      simp only [asked, decide_true, Bool.or_true]
      cases shut : node.replica.closed with
      | true =>
        rw [Replica.close_of_closed shut]
        exact ⟨node, found, by rw [← shut]⟩
      | false =>
        rw [Replica.close_of_stopped ended shut]
        have set := node?_setNode c
          { node with replica := { node.replica with closed := true } } store
        rw [if_pos (node?_name found)] at set
        exact ⟨_, node?_settle_of_stopped set ended, rfl⟩
    · simp only [here, decide_false, Bool.or_false]
      refine ⟨node, ?_, rfl⟩
      have apart : other.name ≠ name := by
        rw [node?_name there]
        exact here
      cases (if other.held then other.replica.endOfBatch true else other.replica).close with
      | error error => exact found
      | ok replica => exact node?_settle_setNode_of_stopped found ended apart

namespace Event

def writes (name : String) : Event V O E → Bool
  | .put store _ _ | .remove store _ | .putAll store _ | .clear store => store = name
  | _ => false

def records (codec : Codec V) : Event V P F → Replica V O →
    List (Except StoreError (Bytes × Option Bytes))
  | .put _ key value, _ => [Replica.encodeEntry codec key value]
  | .remove _ key, _ => [.ok (Replica.encodeTombstone key)]
  | .putAll _ entries, _ => entries.map fun (key, value) => Replica.encodeEntry codec key value
  | .clear _, replica => replica.keys.map fun key => .ok (Replica.encodeTombstone key)
  | _, _ => []

def closes (name : String) : Event V O E → Bool
  | .close store => store = name
  | _ => false

def starts (name : String) : Event V O E → Bool
  | .start store _ _ => store = name
  | _ => false

def Answer.error? : Answer V → Option StoreError
  | .value (.error error) | .previous (.error error) | .done (.error error) => some error
  | _ => none

theorem Answer.error?_done {outcome : Except StoreError Unit} {error : StoreError} :
    (Answer.done (V := V) outcome).error? = some error ↔ outcome = .error error := by
  cases outcome with
  | error other =>
    exact ⟨fun same => congrArg Except.error (Option.some.inj same), by rintro ⟨⟩; rfl⟩
  | ok done => exact ⟨nofun, nofun⟩

variable {P F : Type} (seat : String → P → O) (within : (F → F) → E → E)

theorem stays (found : c.node? name = some node) (ended : node.replica.progress.stopped = true)
    (event : Event V P F) (lasts : event.starts name = false) :
    ∃ final, (event.run f seat within c).2.node? name = some final ∧
      final.replica =
        { node.replica with closed := node.replica.closed || event.closes name } := by
  have same : node.replica =
      { node.replica with closed := node.replica.closed || false } := by rw [Bool.or_false]
  have written (store : String)
      (records : Replica V O → List (Except StoreError (Bytes × Option Bytes))) :
      ∃ final, (c.write f store records).2.node? name = some final ∧
        final.replica = { node.replica with closed := node.replica.closed || false } :=
    ⟨node, node?_write_of_stopped found ended store records, same⟩
  have stepped {later : Cluster V O E}
      (kept : ∃ final, later.node? name = some final ∧ final.replica = node.replica) :
      ∃ final, later.node? name = some final ∧
        final.replica = { node.replica with closed := node.replica.closed || false } :=
    kept.imp fun _ known => ⟨known.1, known.2.trans same⟩
  have read (polled : Except StoreError (List Record)) (shared : E) :
      Replica.receive f (node.replica, shared) polled = (node.replica, shared) :=
    Replica.receive_of_stopped ended polled
  cases event with
  | put store key value => exact written store fun _ => [Replica.encodeEntry f.codec key value]
  | remove store key => exact written store fun _ => [.ok (Replica.encodeTombstone key)]
  | putAll store entries =>
    exact written store fun _ => entries.map fun (key, value) =>
      Replica.encodeEntry f.codec key value
  | clear store =>
    exact written store fun replica => replica.keys.map fun key =>
      .ok (Replica.encodeTombstone key)
  | close store => exact node?_close_of_stopped found ended store
  | waitUntilCaughtUp store timeout => exact ⟨node, found, same⟩
  | start store observers plan =>
    have apart : store ≠ name := by simpa [starts] using lasts
    exact ⟨node, node?_start_of_stopped found ended apart _ plan, same⟩
  | poll store =>
    refine stepped (node?_onNode_of_stopped found ended store ?_ fun shared => ?_)
    · intro other shared
      cases other.held <;> rfl
    · cases node.held
      · rfl
      · exact congrArg Prod.fst (Replica.poll_of_stopped ended c.log node.reader)
  | deliver store polled =>
    refine stepped (node?_onNode_of_stopped found ended store (fun _ _ => rfl) fun shared => ?_)
    simp only [read]
  | setHeld store held =>
    exact stepped (node?_onNode_of_stopped found ended store (fun _ _ => rfl) fun _ => rfl)
  | log event => exact ⟨node, node?_settle_of_stopped (f := f) found ended, same⟩
  | rehearse accepted acknowledgements => exact ⟨node, found, same⟩
  | surroundings change => exact ⟨node, found, same⟩

theorem run_of_writes (c : Cluster V O E) (event : Event V P F)
    (writing : event.writes name = true) :
    let outcome := c.write f name (event.records f.codec)
    (event.run f seat within c).1.error? = (Answer.done (V := V) outcome.1).error? ∧
      (event.run f seat within c).2 = outcome.2 := by
  intro outcome
  cases event with
  | put store key value =>
    obtain rfl : store = name := of_decide_eq_true writing
    refine ⟨?_, rfl⟩
    change (Answer.value (outcome.1.map fun _ => value)).error? = _
    cases outcome.1 <;> rfl
  | remove store key =>
    obtain rfl : store = name := of_decide_eq_true writing
    refine ⟨?_, rfl⟩
    change (Answer.previous (outcome.1.map fun _ => _)).error? = _
    cases outcome.1 <;> rfl
  | putAll store entries =>
    obtain rfl : store = name := of_decide_eq_true writing
    exact ⟨rfl, rfl⟩
  | clear store =>
    obtain rfl : store = name := of_decide_eq_true writing
    exact ⟨rfl, rfl⟩
  | _ => cases writing

theorem refused (found : c.node? name = some node) {error : StoreError}
    (reason : node.replica.refusal = some error) (event : Event V P F)
    (writing : event.writes name = true) :
    (event.run f seat within c).1.error? = some error ∧ (event.run f seat within c).2 = c := by
  obtain ⟨answered, left⟩ := event.run_of_writes (f := f) seat within c writing
  rw [write_of_refused found reason] at answered left
  exact ⟨answered, left⟩

def runAll (f : Following V O E) (seat : String → P → O) (within : (F → F) → E → E)
    (c : Cluster V O E) (events : List (Event V P F)) : Cluster V O E :=
  events.foldl (fun c event => (event.run f seat within c).2) c

theorem runAll_append (c : Cluster V O E) (events more : List (Event V P F)) :
    runAll f seat within c (events ++ more) =
      runAll f seat within (runAll f seat within c events) more := List.foldl_append

theorem stays_all (found : c.node? name = some node)
    (ended : node.replica.progress.stopped = true) {events : List (Event V P F)}
    (lasts : ∀ event ∈ events, event.starts name = false) :
    ∃ final, (runAll f seat within c events).node? name = some final ∧
      final.replica =
        { node.replica with closed := node.replica.closed || events.any (·.closes name) } := by
  induction events generalizing c node with
  | nil => exact ⟨node, found, by rw [List.any_nil, Bool.or_false]⟩
  | cons event rest ih =>
    obtain ⟨first, later⟩ := List.forall_mem_cons.mp lasts
    obtain ⟨next, there, same⟩ := stays seat within found ended event first
    have still : next.replica.progress.stopped = true := by rw [same, ended]
    obtain ⟨final, known, last⟩ := ih there still later
    refine ⟨final, known, last.trans ?_⟩
    rw [same, List.any_cons, Bool.or_assoc]

theorem consistent_runAll (kept : ∀ node ∈ c.nodes, node.replica.Consistent)
    (events : List (Event V P F)) :
    ∀ node ∈ (runAll f seat within c events).nodes, node.replica.Consistent := by
  induction events generalizing c with
  | nil => exact kept
  | cons event rest ih =>
    exact ih (forall_run (Replica.Consistent.invariant f) kept seat within event)

end Event

def after (f : Following V O E) (log : Log) (shared : E) (events : List (Event V O E)) :
    Cluster V O E :=
  Event.runAll f (fun _ observer => observer) id { rehearsal := { log }, shared } events

def call (f : Following V O E) (c : Cluster V O E) (event : Event V O E) :
    Event.Answer V × Cluster V O E :=
  event.run f (fun _ observer => observer) id c

theorem after_consistent (f : Following V O E) (log : Log) (shared : E)
    (events : List (Event V O E)) :
    ∀ node ∈ (after f log shared events).nodes, node.replica.Consistent :=
  Event.consistent_runAll _ _ (c := { rehearsal := { log }, shared }) (List.forall_mem_nil _) events

theorem after_of_stopped {f : Following V O E} {log : Log} {shared : E}
    {history more : List (Event V O E)} {name : String} {node : Node V O}
    (found : (after f log shared history).node? name = some node)
    (ended : node.replica.closed = true ∨ node.replica.progress.failure ≠ none)
    (lasts : ∀ event ∈ more, event.starts name = false) :
    node.replica.progress.stopped = true ∧
      ∃ final, (after f log shared (history ++ more)).node? name = some final ∧ final.replica =
        { node.replica with closed := node.replica.closed || more.any (·.closes name) } := by
  have stopped : node.replica.progress.stopped = true :=
    (after_consistent f log shared history node (mem_of_node? found)).mpr ended
  refine ⟨stopped, ?_⟩
  rw [after, Event.runAll_append]
  exact Event.stays_all _ _ found stopped lasts

end Cluster

/-- Observers that write down what they are told, and otherwise do what they did. -/
def Notify.noting (notify : Notify V O E) : Notify V (O × List (String × Change V)) E :=
  fun get key change observer shared =>
    let notice := notify get key change observer.1 shared
    ⟨(notice.observer, observer.2 ++ [(key, change)]), notice.shared, notice.panicked⟩

def Following.noting (f : Following V O E) : Following V (O × List (String × Change V)) E where
  codec := f.codec
  now := f.now
  notify := f.notify.noting

theorem Following.codec_noting (f : Following V O E) : f.noting.codec = f.codec := rfl

def unnoted (f : Following V O E) : View f.noting f where
  observer := Prod.fst
  shared := id
  time := fun stamp => stamp
  time_zero := rfl
  codec := f.codec_noting
  now _ := rfl
  notify _ _ _ _ _ := rfl

namespace Cluster

variable {f : Following V O E}

def noted (f : Following V O E) (log : Log) (shared : E) (events : List (Event V O E)) :
    Cluster V (O × List (String × Change V)) E :=
  Event.runAll f.noting (fun _ observer => (observer, [])) id { rehearsal := { log }, shared }
    events

def told (f : Following V O E) (log : Log) (shared : E) (events : List (Event V O E))
    (name : String) : Option (List (List (String × Change V))) :=
  ((noted f log shared events).node? name).map fun node => node.replica.observers.map Prod.snd

theorem unnoted_runAll (c : Cluster V (O × List (String × Change V)) E)
    (events : List (Event V O E)) :
    (unnoted f).cluster (Event.runAll f.noting (fun _ observer => (observer, [])) id c events) =
      Event.runAll f (fun _ observer => observer) id ((unnoted f).cluster c) events := by
  induction events generalizing c with
  | nil => rfl
  | cons event rest ih =>
    have answered : call f ((unnoted f).cluster c) event =
        (event.run f.noting (fun _ observer => (observer, [])) id c).map id (unnoted f).cluster :=
      (unnoted f).run (fun _ _ => rfl) (fun _ _ => rfl) c event
    have next := congrArg Prod.snd answered
    refine (ih _).trans ?_
    exact congrArg (Event.runAll f (fun _ observer => observer) id · rest) next.symm

theorem unnoted_noted (f : Following V O E) (log : Log) (shared : E)
    (events : List (Event V O E)) :
    (unnoted f).cluster (noted f log shared events) = after f log shared events :=
  unnoted_runAll { rehearsal := { log }, shared } events

theorem told_of_stopped (log : Log) (shared : E) (history : List (Event V O E))
    {more : List (Event V O E)} {name : String} {node : Node V O}
    (found : (after f log shared history).node? name = some node)
    (ended : node.replica.progress.stopped = true)
    (lasts : ∀ event ∈ more, event.starts name = false) :
    told f log shared (history ++ more) name = told f log shared history name := by
  -- The store of the notes stops with the one that is given.
  rw [← unnoted_noted, View.node?] at found
  obtain ⟨noting, there, rfl⟩ := Option.map_eq_some_iff.mp found
  obtain ⟨final, known, same⟩ := Event.stays_all (f := f.noting)
    (fun _ observer => (observer, [])) id there ended lasts
  have later : (noted f log shared (history ++ more)).node? name = some final := by
    rw [noted, Event.runAll_append]
    exact known
  simp only [told, later, there, Option.map_some, same]

/-- A store that has failed or was closed is frozen. Whatever else happens to the log and to all
stores, as long as its name stands for it: of its replica nothing changes but that it may be
closed; a write on it answers that it is closed, if it is, and otherwise the failure, and changes
nothing, neither the log nor a store; if it is closed, closing it once more answers so; and none of
its observers is told of anything. -/
theorem stopped_store_is_frozen (f : Following V O E) (log : Log) (shared : E)
    (history more : List (Event V O E)) {name : String} {node : Node V O}
    (found : (after f log shared history).node? name = some node)
    (ended : node.replica.closed = true ∨ node.replica.progress.failure ≠ none)
    (lasts : ∀ event ∈ more, event.starts name = false) :
    let later := after f log shared (history ++ more)
    ∃ final, later.node? name = some final ∧
      final.replica =
        { node.replica with closed := node.replica.closed || more.any (·.closes name) } ∧
      (∀ event : Event V O E, event.writes name = true →
        (call f later event).1.error? =
            (if final.replica.closed then some .closed else node.replica.progress.failure) ∧
          (call f later event).2 = later) ∧
      (final.replica.closed = true →
        call f later (.close name) = (.done (.error .closed), later)) ∧
      told f log shared (history ++ more) name = told f log shared history name := by
  intro later
  obtain ⟨stopped, final, there, same⟩ := after_of_stopped found ended lasts
  have still : final.replica.progress.stopped = true := by rw [same, stopped]
  have failure : final.replica.progress.failure = node.replica.progress.failure := by rw [same]
  refine ⟨final, there, same, fun event writing => ?_, fun closed => ?_,
    told_of_stopped log shared history found stopped lasts⟩
  · have reason : final.replica.refusal ≠ none :=
      ((after_consistent f log shared _ final (mem_of_node? there)).refusal_ne_none_iff).mpr still
    obtain ⟨error, refusal⟩ := Option.ne_none_iff_exists'.mp reason
    obtain ⟨answer, unchanged⟩ := Event.refused _ _ there refusal event writing
    refine ⟨answer.trans ?_, unchanged⟩
    rw [← refusal, Replica.refusal, failure]
  · have answered := close_of_closed (f := f) there still closed
    simp only [call, Event.run, later, answered]
    rfl

/-- A store that has shown a document and then comes to a key without a tag. -/
def poisoned : List (Event Bytes Unit Unit) :=
  [.start "roads" [()] {}, .log (.append (Key.encode "a") (some [1, 7])),
    .log (.append [120] (some [1, 7]))]

/-- The log goes on, another store comes and fails too, and the first is closed. -/
def aftermath : List (Event Bytes Unit Unit) :=
  [.log (.append (Key.encode "a") none), .log .compact, .start "other" [] {},
    .deliver "roads" (.error (.io "roads" "gone")), .close "roads", .put "other" "b" [8]]

theorem poisoned_store_is_frozen :
    let log := Log.create "roads" 1
    let later := after .plain log () (poisoned ++ aftermath)
    ∃ node, (after .plain log () poisoned).node? "roads" = some node ∧
      node.replica.progress.failure ≠ none ∧
      (∀ event ∈ aftermath, event.starts "roads" = false) ∧
      (∃ final, later.node? "roads" = some final ∧
        final.replica = { node.replica with closed := true }) ∧
      (call .plain later (.put "roads" "b" [8])).1.error? = some .closed ∧
      (call .plain later (.put "roads" "b" [8])).2 = later ∧
      told .plain log () (poisoned ++ aftermath) "roads" = some [[("a", .new [7])]] := by
  intro log later
  have failed : ((after .plain log () poisoned).node? "roads").any (fun node =>
      node.replica.progress.failure.isSome && !node.replica.closed) = true := by decide +kernel
  obtain ⟨node, found, failing⟩ := (Option.any_eq_true _ _).mp failed
  rw [Bool.and_eq_true, Bool.not_eq_true', Option.isSome_iff_ne_none] at failing
  have heard : told .plain (Log.create "roads" 1) () poisoned "roads" =
      some [[("a", .new [7])]] := by rfl
  have lasts : ∀ event ∈ aftermath, event.starts "roads" = false := by decide
  have frozen := stopped_store_is_frozen .plain log () poisoned aftermath found (.inr failing.1)
    lasts
  obtain ⟨final, there, same, refused, _, silent⟩ := frozen
  have closed : final.replica = { node.replica with closed := true } := by
    rw [same, failing.2]
    rfl
  obtain ⟨answer, unchanged⟩ := refused (.put "roads" "b" [8]) rfl
  rw [closed] at answer
  exact ⟨node, found, failing.1, lasts, ⟨final, there, closed⟩, answer, unchanged,
    silent.trans heard⟩

end Cluster

end RoadRegistry
