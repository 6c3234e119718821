import RoadRegistry.Log.Rehearsal
import RoadRegistry.Replica.Basic

namespace RoadRegistry

structure Node (V O : Type) where
  name : String
  held : Bool
  reader : Reader
  replica : Replica V O

/-- Stores on one log. After each step every store that is not held has read what there is, and the
writes of a call are all on the log before any store reads the first of them. -/
structure Cluster (V O E : Type) where
  rehearsal : Rehearsal
  nodes : List (Node V O) := []
  shared : E

/-- What a starting store is told in place of the log: offsets, and messages of calls that fail. -/
structure StartPlan where
  held : Bool := false
  ends : Option (Dictionary Int Int) := none
  earliest : Option (Dictionary Int Int) := none
  openFailure : Option String := none
  endsFailure : Option String := none
  earliestFailure : Option String := none

namespace Cluster

variable {V O E : Type}

def log (c : Cluster V O E) : Log := c.rehearsal.log

def withLog (c : Cluster V O E) (log : Log) : Cluster V O E :=
  { c with rehearsal := { c.rehearsal with log } }

def node? (c : Cluster V O E) (name : String) : Option (Node V O) :=
  c.nodes.find? fun node => node.name = name

def setNode (c : Cluster V O E) (node : Node V O) : Cluster V O E :=
  if c.nodes.any (fun other => other.name = node.name) then
    { c with nodes := c.nodes.map fun other => if other.name = node.name then node else other }
  else { c with nodes := c.nodes ++ [node] }

def changeObserver (c : Cluster V O E) (name : String) (index : Nat) (change : O → O) :
    Cluster V O E :=
  match c.node? name with
  | none => c
  | some node =>
    let observers := node.replica.observers.modify index change
    c.setNode { node with replica := { node.replica with observers } }

def isRunning (node : Node V O) : Bool := !node.replica.progress.stopped

/-- Lets a following store read what is new. It never sees an empty poll. -/
def follow (f : Following V O E) (log : Log) (node : Node V O) (shared : E) : Node V O × E :=
  if node.held || !isRunning node then (node, shared)
  else
    match node.reader.poll log with
    | .error error =>
      let (replica, shared) := Replica.receive f (node.replica, shared) (.error error)
      ({ node with replica }, shared)
    | .ok ([], _) => (node, shared)
    | .ok (batch, reader) =>
      let (replica, shared) := Replica.receive f (node.replica, shared) (.ok batch)
      ({ node with reader, replica }, shared)

def followAll (f : Following V O E) (log : Log) :
    List (Node V O) → E → List (Node V O) × E
  | [], shared => ([], shared)
  | node :: rest, shared =>
    let (node, shared) := follow f log node shared
    let (others, shared) := followAll f log rest shared
    (node :: others, shared)

def settle (f : Following V O E) (c : Cluster V O E) : Cluster V O E :=
  let (nodes, shared) := followAll f c.log c.nodes c.shared
  { c with nodes, shared }

def openLog (log : Log) (plan : StartPlan) :
    Except StoreError (Reader × Dictionary Int Int × Dictionary Int Int) := do
  let reader ← attempt plan.openFailure log.openReader
  let ends ← attempt plan.endsFailure (given plan.ends log.endOffsets)
  let earliest ← attempt plan.earliestFailure (given plan.earliest log.earliestOffsets)
  return (reader, ends, earliest)
where
  attempt {α : Type} (failure : Option String) (call : Except StoreError α) :
      Except StoreError α :=
    match failure with
    | some message => .error (.io log.topic message)
    | none => call
  given (offsets : Option (Dictionary Int Int)) (call : Except StoreError (Dictionary Int Int)) :=
    match offsets with
    | some offsets => .ok offsets
    | none => call

def start (f : Following V O E) (name : String) (observers : List O) (plan : StartPlan)
    (c : Cluster V O E) : Cluster V O E :=
  let replica : Replica V O := { topic := c.log.topic, observers }
  let node : Node V O :=
    match openLog c.log plan with
    | .ok (reader, ends, earliest) => ⟨name, plan.held, reader, replica.begin ends earliest⟩
    | .error error => ⟨name, plan.held, ⟨[]⟩, replica.finish (some error)⟩
  settle f (c.setNode node)

def appendAll : List (Except StoreError (Bytes × Option Bytes)) → Rehearsal →
    Except StoreError (List Position) × Rehearsal
  | [], r => (.ok [], r)
  | .error error :: _, r => (.error error, r)
  | .ok (key, value) :: rest, r =>
    match r.append key value with
    | .error error => (.error error, r)
    | .ok (position, r) =>
      let (positions, r) := appendAll rest r
      (positions.map (position :: ·), r)

/-- A look at the store by a writer whose deadline has come. -/
def sync (c : Cluster V O E) (name : String) (positions : List Position) :
    Except StoreError Unit :=
  match c.node? name with
  | none => .error .closed
  | some node =>
    match node.replica.progress.sync positions with
    | .done => .ok ()
    | .failed error => .error error
    | .pending position => .error (.syncTimeout position.partition position.offset)

def write (f : Following V O E) (name : String)
    (records : Replica V O → List (Except StoreError (Bytes × Option Bytes)))
    (c : Cluster V O E) : Except StoreError Unit × Cluster V O E :=
  match c.node? name with
  | none => (.error .closed, c)
  | some node =>
    match node.replica.ensureOpen with
    | .error error => (.error error, c)
    | .ok () =>
      let (appended, rehearsal) := appendAll (records node.replica) c.rehearsal
      let c := settle f { c with rehearsal }
      match appended with
      | .error error => (.error error, c)
      | .ok positions => (c.sync name positions, c)

def put (f : Following V O E) (name key : String) (value : V) (c : Cluster V O E) :
    Except StoreError V × Cluster V O E :=
  let (outcome, c) := c.write f name fun _ => [Replica.encodeEntry f.codec key value]
  (outcome.map fun _ => value, c)

def remove (f : Following V O E) (name key : String) (c : Cluster V O E) :
    Except StoreError (Option V) × Cluster V O E :=
  let previous := (c.node? name).bind fun node => node.replica.get? key
  let (outcome, c) := c.write f name fun _ => [.ok (Replica.encodeTombstone key)]
  (outcome.map fun _ => previous, c)

def putAll (f : Following V O E) (name : String) (entries : List (String × V))
    (c : Cluster V O E) : Except StoreError Unit × Cluster V O E :=
  c.write f name fun _ => entries.map fun (key, value) => Replica.encodeEntry f.codec key value

def clear (f : Following V O E) (name : String) (c : Cluster V O E) :
    Except StoreError Unit × Cluster V O E :=
  c.write f name fun replica => replica.keys.map fun key => .ok (Replica.encodeTombstone key)

def onNode (f : Following V O E) (name : String)
    (step : Node V O → E → Node V O × E) (c : Cluster V O E) : Cluster V O E :=
  match c.node? name with
  | none => c
  | some node =>
    let (node, shared) := step node c.shared
    settle f { c.setNode node with shared }

def poll (f : Following V O E) (name : String) (c : Cluster V O E) : Cluster V O E :=
  c.onNode f name fun node shared =>
    if node.held then
      let (reader, replica, shared) := Replica.poll f c.log node.reader (node.replica, shared)
      ({ node with reader, replica }, shared)
    else (node, shared)

def deliver (f : Following V O E) (name : String) (polled : Except StoreError (List Record))
    (c : Cluster V O E) : Cluster V O E :=
  c.onNode f name fun node shared =>
    let (replica, shared) := Replica.receive f (node.replica, shared) polled
    ({ node with replica }, shared)

def setHeld (f : Following V O E) (name : String) (held : Bool) (c : Cluster V O E) :
    Cluster V O E :=
  c.onNode f name fun node shared => ({ node with held }, shared)

/-- Closes a store. A held one sees an empty poll before it stops. -/
def close (f : Following V O E) (name : String) (c : Cluster V O E) :
    Except StoreError Unit × Cluster V O E :=
  match c.node? name with
  | none => (.error .closed, c)
  | some node =>
    match (if node.held then node.replica.endOfBatch true else node.replica).close with
    | .error error => (.error error, c)
    | .ok replica => (.ok (), settle f (c.setNode { node with replica }))

/-- Waits for the end of the replay. In a settled cluster nothing more comes by waiting. -/
def waitUntilCaughtUp (name : String) (timeout : Duration) (c : Cluster V O E) :
    Except StoreError Unit :=
  match c.node? name with
  | none => .error .closed
  | some node =>
    match node.replica.progress.catchUp with
    | some outcome => outcome
    | none => .error (.notCaughtUp node.replica.topic timeout)

end Cluster

end RoadRegistry
