import RoadRegistry.Proofs.Replica.Following

namespace RoadRegistry

structure Tailer (V O : Type) where
  reader : Reader
  replica : Replica V O
  /-- What is left of the batch in hand, and whether it came empty. -/
  batch : Option (List Record × Bool) := none
  consumed : List Record := []

namespace Tailer

def pending (t : Tailer V O) : List Record :=
  match t.batch with
  | some (rest, _) => rest
  | none => []

def start (log : Log) (observers : List O) : Tailer V O :=
  let replica : Replica V O := { topic := log.topic, observers }
  match Cluster.openLog log {} with
  | .ok (reader, ends, earliest) => { reader, replica := replica.begin ends earliest }
  | .error error => { reader := ⟨[]⟩, replica := replica.finish (some error) }

def poll (log : Log) (t : Tailer V O) : Tailer V O :=
  if t.replica.progress.stopped || t.batch.isSome then t
  else
    match t.reader.poll log with
    | .error error => { t with replica := t.replica.finish (some error) }
    | .ok (records, reader) => { t with reader, batch := some (records, records.isEmpty) }

def consume (f : Following V O E) (t : Tailer V O) (shared : E) : Tailer V O × E :=
  match t.batch with
  | none => (t, shared)
  | some ([], idle) => ({ t with replica := t.replica.endOfBatch idle, batch := none }, shared)
  | some (record :: rest, idle) =>
    let (replica, shared) := Replica.consume f (t.replica, shared) record
    ({ t with replica, batch := some (rest, idle), consumed := t.consumed ++ [record] }, shared)

end Tailer

/-- Clients append, the log is compacted and stores tail it, in any order, also between two records
of one batch. What was ever appended and what each store has taken is kept beside the state; no step
looks at it. -/
structure Interleaving (V O E : Type) where
  log : Log
  appended : List Record := []
  tailers : List (Tailer V O) := []
  shared : E

namespace Interleaving

inductive Event (O : Type) where
  | append (key : Bytes) (value : Option Bytes)
  | compact
  | start (observers : List O)
  | poll (store : Nat)
  | consume (store : Nat)

def step (f : Following V O E) (s : Interleaving V O E) : Event O → Interleaving V O E
  | .append key value =>
    match s.log.append key value with
    | .error _ => s
    | .ok (_, log) => { s with log, appended := s.appended ++ [s.log.nextRecord key value] }
  | .compact => { s with log := s.log.compact.2 }
  | .start observers => { s with tailers := s.tailers ++ [Tailer.start s.log observers] }
  | .poll store => { s with tailers := s.tailers.modify store (Tailer.poll s.log) }
  | .consume store =>
    match s.tailers[store]? with
    | none => s
    | some t =>
      let (t, shared) := t.consume f s.shared
      { s with tailers := s.tailers.set store t, shared }

def run (f : Following V O E) (topic : String) (partitions : Nat) (shared : E)
    (events : List (Event O)) : Interleaving V O E :=
  events.foldl (step f) { log := Log.create topic partitions, shared }

end Interleaving

namespace Tailer

variable {f : Following V O E} {codec : Codec V} {log : Log} {appended : List Record}
variable {t : Tailer V O} {shared : E}

def drain (f : Following V O E) : Nat → Tailer V O × E → Tailer V O × E
  | 0, state => state
  | steps + 1, (t, shared) => drain f steps (t.consume f shared)

theorem drain_batch (records : List Record) (idle : Bool) (t : Tailer V O) (shared : E) :
    drain f (records.length + 1) ({ t with batch := some (records, idle) }, shared) =
      let state := records.foldl (Replica.consume f) (t.replica, shared)
      ({ t with
          replica := state.1.endOfBatch idle
          batch := none
          consumed := t.consumed ++ records }, state.2) := by
  induction records generalizing t shared with
  | nil => simp only [drain, consume, List.foldl_nil, List.append_nil, List.length_nil]
  | cons record rest ih =>
    rw [List.length_cons, drain]
    simp only [consume]
    rw [ih { t with
      replica := (Replica.consume f (t.replica, shared) record).1
      consumed := t.consumed ++ [record] }]
    simp only [List.foldl_cons, List.append_assoc, List.singleton_append]

/-- Taken record by record, a batch does to the replica what a whole poll does. -/
theorem drain_poll (running : t.replica.progress.stopped = false) (free : t.batch = none)
    {records : List Record} {reader : Reader}
    (polled : t.reader.poll log = .ok (records, reader)) :
    drain f (records.length + 1) (t.poll log, shared) =
      let (reader, replica, shared) := Replica.poll f log t.reader (t.replica, shared)
      ({ reader, replica, consumed := t.consumed ++ records }, shared) := by
  have taken : t.poll log = { t with reader, batch := some (records, records.isEmpty) } := by
    simp only [poll, running, free, polled, Option.isSome_none, Bool.or_self, Bool.false_eq_true,
      ite_false]
  rw [taken, drain_batch records records.isEmpty { t with reader }]
  simp only [Replica.poll, polled, Replica.receive, running, Bool.false_eq_true, ite_false]

def Follows (codec : Codec V) (log : Log) (appended : List Record) (t : Tailer V O) : Prop :=
  t.replica.progress.stopped = false →
    Replica.Follows codec log appended t.reader t.replica t.consumed t.pending

theorem start_of_available (available : log.unavailable = none) (observers : List O) :
    ∃ ends earliest, (start log observers : Tailer V O) =
      { reader := ⟨log.partitions.map fun _ => 0⟩
        replica := ({ topic := log.topic, observers } : Replica V O).begin ends earliest } := by
  refine ⟨log.offsets fun p => p.nextOffset, log.offsets Partition.earliest, ?_⟩
  unfold start
  rw [Cluster.openLog_of_available available]

namespace Follows

theorem start (available : log.unavailable = none) (chronicle : log.Chronicle appended)
    (observers : List O) : Follows codec log appended (Tailer.start log observers) := by
  intro _
  obtain ⟨ends, earliest, started⟩ := start_of_available (V := V) available observers
  rw [started]
  exact .opened chronicle codec log.topic observers ends earliest

theorem poll (available : log.unavailable = none) (chronicle : log.Chronicle appended)
    (keeps : log.KeepsLatest appended) (follows : Follows codec log appended t) :
    Follows codec log appended (t.poll log) := by
  unfold Tailer.poll
  split
  · exact follows
  · next free =>
    simp only [Bool.or_eq_true, not_or, Bool.not_eq_true, Option.isSome_eq_false_iff,
      Option.isNone_iff_eq_none] at free
    obtain ⟨running, free⟩ := free
    rw [Reader.poll_of_available available]
    intro _
    have here := follows running
    simp only [pending, free] at here
    exact here.poll chronicle keeps

theorem consume (follows : Follows f.codec log appended t) :
    Follows f.codec log appended (t.consume f shared).1 := by
  unfold Tailer.consume
  split
  · exact follows
  · next idle free =>
    intro goes_on
    have running : t.replica.progress.stopped = false := by
      obtain ⟨caughtUp, same⟩ := t.replica.endOfBatch_eq idle
      rw [same] at goes_on
      exact goes_on
    have here := (follows running).endOfBatch idle
    simp only [pending, free] at here
    exact here
  · next record rest idle held =>
    intro goes_on
    have here := follows (Replica.running_of_consume goes_on)
    simp only [pending, held] at here
    exact here.consume goes_on

end Follows

theorem poll_stopped (available : log.unavailable = none) :
    (t.poll log).replica.progress.stopped = t.replica.progress.stopped := by
  unfold poll
  rw [Reader.poll_of_available available]
  split <;> rfl

theorem start_running (available : log.unavailable = none) (observers : List O) :
    (start log observers : Tailer V O).replica.progress.stopped = false := by
  obtain ⟨ends, earliest, started⟩ := start_of_available (V := V) available observers
  obtain ⟨target, caughtUp, begun⟩ :=
    ({ topic := log.topic, observers } : Replica V O).begin_eq ends earliest
  rw [started, begun]

theorem consume_running (quiet : f.notify.Quiet)
    (legible : Legible f.codec appended)
    (follows : Follows f.codec log appended t) (running : t.replica.progress.stopped = false) :
    (t.consume f shared).1.replica.progress.stopped = false := by
  unfold consume
  split
  · exact running
  · next idle _ =>
    obtain ⟨caughtUp, same⟩ := t.replica.endOfBatch_eq idle
    rw [same]
    exact running
  · next record rest idle held =>
    have here := follows running
    simp only [pending, held] at here
    obtain ⟨name, value, entry⟩ := legible record (here.mem_appended (by simp))
    have moved := Replica.consume_running shared quiet entry running
    exact (congrArg Progress.stopped moved).trans running

end Tailer

namespace Interleaving

variable {f : Following V O E} {s : Interleaving V O E}

theorem step_append (available : s.log.unavailable = none) (key : Bytes) (value : Option Bytes) :
    s.step f (.append key value) =
      { s with
        log := s.log.push (s.log.nextRecord key value) (s.log.route key)
        appended := s.appended ++ [s.log.nextRecord key value] } := by
  rw [step, Log.append_of_available available]

structure Sound (f : Following V O E) (s : Interleaving V O E) : Prop where
  available : s.log.unavailable = none
  chronicle : s.log.Chronicle s.appended
  keeps : s.log.KeepsLatest s.appended
  follows : ∀ t ∈ s.tailers, t.Follows f.codec s.log s.appended
  running : f.notify.Quiet → Legible f.codec s.appended →
    ∀ t ∈ s.tailers, t.replica.progress.stopped = false

namespace Sound

theorem initial (f : Following V O E) (topic : String) (partitions : Nat) (shared : E) :
    Sound f { log := Log.create topic partitions, shared } where
  available := rfl
  chronicle := .create topic partitions
  keeps _ member := absurd member List.not_mem_nil
  follows _ member := absurd member List.not_mem_nil
  running _ _ _ member := absurd member List.not_mem_nil

theorem append (sound : Sound f s) (key : Bytes) (value : Option Bytes) :
    Sound f (s.step f (.append key value)) := by
  rw [step_append sound.available]
  constructor
  · exact (Log.unavailable_push ..).trans sound.available
  · exact sound.chronicle.push key value
  · exact sound.keeps.push key value
  · intro t member running
    exact (sound.follows t member running).push key value
  · intro quiet legible
    exact sound.running quiet fun record member => legible record (List.mem_append_left _ member)

theorem compact (sound : Sound f s) : Sound f (s.step f .compact) where
  available := sound.available
  chronicle := sound.chronicle.compact
  keeps := sound.keeps.compact sound.chronicle
  follows t member running := (sound.follows t member running).compact
  running := sound.running

theorem start (sound : Sound f s) (observers : List O) :
    Sound f (s.step f (.start observers)) where
  available := sound.available
  chronicle := sound.chronicle
  keeps := sound.keeps
  follows t member := by
    rcases List.mem_append.mp member with member | member
    · exact sound.follows t member
    · rw [List.mem_singleton.mp member]
      exact .start sound.available sound.chronicle observers
  running quiet legible t member := by
    rcases List.mem_append.mp member with member | member
    · exact sound.running quiet legible t member
    · rw [List.mem_singleton.mp member]
      exact Tailer.start_running sound.available observers

theorem poll (sound : Sound f s) (store : Nat) : Sound f (s.step f (.poll store)) := by
  have polled {t : Tailer V O} (member : t ∈ s.tailers.modify store (Tailer.poll s.log)) :
      t ∈ s.tailers ∨ ∃ u ∈ s.tailers, t = u.poll s.log := by
    obtain ⟨index, inside, rfl⟩ := List.getElem_of_mem member
    rw [List.getElem_modify]
    split
    · exact .inr ⟨_, List.getElem_mem _, rfl⟩
    · exact .inl (List.getElem_mem _)
  refine ⟨sound.available, sound.chronicle, sound.keeps, fun t member => ?_,
    fun quiet legible t member => ?_⟩
  · rcases polled member with same | ⟨u, before, rfl⟩
    · exact sound.follows t same
    · exact (sound.follows u before).poll sound.available sound.chronicle sound.keeps
  · rcases polled member with same | ⟨u, before, rfl⟩
    · exact sound.running quiet legible t same
    · rw [Tailer.poll_stopped sound.available]
      exact sound.running quiet legible u before

theorem consume (sound : Sound f s) (store : Nat) : Sound f (s.step f (.consume store)) := by
  cases found : s.tailers[store]? with
  | none =>
    simp only [Interleaving.step, found]
    exact sound
  | some u =>
    simp only [Interleaving.step, found]
    have member := List.mem_of_getElem? found
    refine ⟨sound.available, sound.chronicle, sound.keeps, fun t held => ?_,
      fun quiet legible t held => ?_⟩
    · rcases List.mem_or_eq_of_mem_set held with held | rfl
      · exact sound.follows t held
      · exact (sound.follows u member).consume
    · rcases List.mem_or_eq_of_mem_set held with held | rfl
      · exact sound.running quiet legible t held
      · exact Tailer.consume_running quiet legible (sound.follows u member)
          (sound.running quiet legible u member)

theorem step (sound : Sound f s) (event : Event O) : Sound f (s.step f event) := by
  cases event with
  | append key value => exact sound.append key value
  | compact => exact sound.compact
  | start observers => exact sound.start observers
  | poll store => exact sound.poll store
  | consume store => exact sound.consume store

theorem run (f : Following V O E) (topic : String) (partitions : Nat) (shared : E)
    (events : List (Event O)) : Sound f (Interleaving.run f topic partitions shared events) := by
  have steps (s : Interleaving V O E) (sound : Sound f s) :
      Sound f (events.foldl (Interleaving.step f) s) := by
    induction events generalizing s with
    | nil => exact sound
    | cons event rest ih => exact ih _ (sound.step event)
  exact steps _ (initial f topic partitions shared)

end Sound

end Interleaving

end RoadRegistry
