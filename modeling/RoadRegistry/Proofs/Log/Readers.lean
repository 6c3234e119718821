import RoadRegistry.Proofs.Dictionary
import RoadRegistry.Proofs.Log.Delivery
import RoadRegistry.Proofs.Log.Retention

namespace RoadRegistry

namespace Log

def held (log : Log) : List Record := log.partitions.flatMap (·.records)

theorem mem_held {log : Log} {record : Record} :
    record ∈ log.held ↔ ∃ index, record ∈ (log.part index).records := by
  simp only [held, List.mem_flatMap, part]
  constructor
  · rintro ⟨p, member, there⟩
    obtain ⟨index, inside, rfl⟩ := List.getElem_of_mem member
    exact ⟨index, by simpa [inside] using there⟩
  · rintro ⟨index, there⟩
    cases found : log.partitions[index]? with
    | none => rw [found] at there; cases there
    | some p => rw [found] at there; exact ⟨p, List.mem_of_getElem? found, there⟩

theorem nextRecord_mem_held (log : Log) (key : Bytes) (value : Option Bytes) :
    log.nextRecord key value ∈ (log.push (log.nextRecord key value) (log.route key)).held := by
  refine mem_held.mpr ⟨log.route key, ?_⟩
  rw [part_push_self (log.route_lt key)]
  exact List.mem_append_right _ (List.mem_singleton_self _)

theorem mem_held_append {log : Log} (key : Bytes) (value : Option Bytes) {record : Record}
    (there : record ∈ log.held) : record ∈ ((Event.append key value).run log).2.held := by
  obtain ⟨index, there⟩ := mem_held.mp there
  refine mem_held.mpr ⟨index, ?_⟩
  cases available : log.unavailable with
  | none =>
    simp only [Event.run, append_of_available available]
    by_cases here : log.route key = index
    · subst here
      rw [part_push_self (log.route_lt key)]
      exact List.mem_append_left _ there
    · rw [part_push_of_ne here]
      exact there
  | some message =>
    simp only [Event.run, append_of_unavailable available]
    exact there

end Log

def Record.Precedes (a b : Record) : Prop :=
  a.partition < b.partition ∨ a.partition = b.partition ∧ a.offset < b.offset

theorem Log.Tidy.held_ordered {log : Log} (tidy : log.Tidy) :
    log.held.Pairwise Record.Precedes := by
  have part_eq (index : Nat) (inside : index < log.partitions.length) :
      log.partitions[index] = log.part index := by simp [part, inside]
  rw [held, List.pairwise_flatMap]
  constructor
  · intro p member
    obtain ⟨index, inside, rfl⟩ := List.getElem_of_mem member
    rw [part_eq]
    refine (tidy.tidy index).sorted.imp_of_mem fun {a b} first second less => .inr ⟨?_, less⟩
    rw [tidy.placed index a first, tidy.placed index b second]
  · rw [List.pairwise_iff_getElem]
    intro i j _ _ less a first b second
    rw [part_eq] at first second
    have here := tidy.placed i a first
    have there := tidy.placed j b second
    exact .inl (by omega)

namespace Reader

/-- A reader that was given these records: it is past them, and it left out nothing that is retained
below its positions. -/
structure Served (log : Log) (reader : Reader) (returned : List Record) : Prop where
  passed : ∀ record ∈ returned, ∃ index : Nat, record.partition = index ∧
    record.offset < reader.position index
  complete : ∀ index : Nat, ∀ record ∈ (log.part index).records,
    record.offset < reader.position index → record ∈ returned
  ordered : returned.Pairwise fun a b => a.partition = b.partition → a.offset < b.offset
  behind : ∀ index, reader.position index ≤ (log.part index).nextOffset

namespace Served

variable {log : Log} {reader : Reader} {returned : List Record}

theorem opened (tidy : log.Tidy) : Served log ⟨log.partitions.map fun _ => 0⟩ [] where
  passed _ member := by cases member
  complete index record held below := by
    rw [position_open] at below
    have := ((tidy.tidy index).range record held).1
    omega
  ordered := .nil
  behind index := by
    rw [position_open]
    exact Int.natCast_nonneg _

theorem later (served : Served log reader returned) {later : Log} (before : log.Before later) :
    Served later reader returned where
  passed := served.passed
  complete index record held below := by
    rcases before.records index record held with there | above
    · exact served.complete index record there below
    · have := served.behind index
      omega
  ordered := served.ordered
  behind index := Int.le_trans (served.behind index) (Int.ofNat_le.mpr (before.next index))

theorem unread_iff (served : Served log reader returned) (tidy : log.Tidy) {index : Nat}
    {record : Record} (held : record ∈ (log.part index).records) :
    reader.position index ≤ record.offset ↔ record ∉ returned := by
  constructor
  · intro above given
    obtain ⟨other, placed, below⟩ := served.passed record given
    have same : other = index := Int.ofNat.inj (placed.symm.trans (tidy.placed index record held))
    rw [same] at below
    omega
  · intro unread
    exact Int.not_lt.mp fun below => unread (served.complete index record held below)

theorem batch_eq (served : Served log reader returned) (tidy : log.Tidy) :
    reader.batch log = log.held.filter (· ∉ returned) := by
  refine collect_eq_filter _ fun index record held => ?_
  rw [decide_eq_true_eq]
  exact served.unread_iff tidy held

theorem poll (served : Served log reader returned) (tidy : log.Tidy) :
    Served log (reader.next log) (returned ++ reader.batch log) where
  passed record member := by
    rcases List.mem_append.mp member with old | new
    · obtain ⟨index, placed, below⟩ := served.passed record old
      refine ⟨index, placed, Int.lt_of_lt_of_le below ?_⟩
      rw [position_next]
      exact le_after
    · obtain ⟨index, held, _⟩ := mem_batch.mp new
      exact ⟨index, tidy.placed index record held, lt_position_next (tidy.tidy index).sorted held⟩
  complete index record held _ := by
    by_cases read : record.offset < reader.position index
    · exact List.mem_append_left _ (served.complete index record held read)
    · exact List.mem_append_right _ (mem_batch.mpr ⟨index, held, Int.not_lt.mp read⟩)
  ordered := by
    refine List.pairwise_append.mpr ⟨served.ordered,
      batch_ordered (fun index => (tidy.tidy index).sorted) tidy.placed reader, ?_⟩
    intro old before new member same
    obtain ⟨index, held, above⟩ := mem_batch.mp member
    obtain ⟨other, placed, below⟩ := served.passed old before
    have here := tidy.placed index new held
    have : other = index := by omega
    subst this
    omega
  behind index :=
    position_next_le (fun record held => ((tidy.tidy index).range record held).2)
      (served.behind index)

theorem nodup (served : Served log reader returned) :
    (returned.map Record.position).Nodup := by
  rw [List.Nodup, List.pairwise_map]
  refine served.ordered.imp fun {a b} increasing same => ?_
  have := increasing (congrArg Position.partition same)
  have : a.offset = b.offset := congrArg Position.offset same
  omega

end Served

end Reader

structure Subscription where
  reader : Reader
  waiting : Bool := false
  polls : List (Except StoreError (List Record)) := []

namespace Subscription

def returned (s : Subscription) : List Record :=
  s.polls.flatMap fun
    | .ok batch => batch
    | .error _ => []

/-- One look at the log. It begins a poll or ends the one that is under way; a poll that finds
nothing at the first look is not over. -/
def look (log : Log) (s : Subscription) : Subscription :=
  match s.reader.poll log with
  | .error error => { reader := s.reader, polls := s.polls ++ [.error error] }
  | .ok (batch, reader) =>
    if batch.isEmpty && !s.waiting then { reader, waiting := true, polls := s.polls }
    else { reader, polls := s.polls ++ [.ok batch] }

variable {log : Log}

theorem look_of_unavailable {message : String} (lost : log.unavailable = some message)
    (s : Subscription) :
    s.look log = { reader := s.reader, polls := s.polls ++ [.error (.io log.topic message)] } := by
  simp only [look, Reader.poll_of_unavailable lost]

theorem look_of_available (available : log.unavailable = none) (s : Subscription) :
    s.look log = if s.reader.batch log = [] ∧ s.waiting = false
      then { reader := s.reader.next log, waiting := true, polls := s.polls }
      else { reader := s.reader.next log, polls := s.polls ++ [.ok (s.reader.batch log)] } := by
  simp only [look, Reader.poll_of_available available]
  cases s.reader.batch log <;> cases s.waiting <;> rfl

theorem reader_look (available : log.unavailable = none) (s : Subscription) :
    (s.look log).reader = s.reader.next log := by
  rw [look_of_available available]
  split <;> rfl

theorem returned_look (available : log.unavailable = none) (s : Subscription) :
    (s.look log).returned = s.returned ++ s.reader.batch log := by
  rw [look_of_available available]
  split
  · next idle =>
    rw [idle.1, List.append_nil]
    rfl
  · simp only [returned, List.flatMap_append, List.flatMap_singleton]

theorem returned_look_of_unavailable {message : String} (lost : log.unavailable = some message)
    (s : Subscription) : (s.look log).returned = s.returned := by
  rw [look_of_unavailable lost]
  simp only [returned, List.flatMap_append, List.flatMap_singleton, List.append_nil]

theorem mem_returned_look {s : Subscription} (served : s.reader.Served log s.returned)
    (tidy : log.Tidy) (available : log.unavailable = none) {record : Record}
    (held : record ∈ log.held) : record ∈ (s.look log).returned := by
  rw [returned_look available, served.batch_eq tidy]
  by_cases given : record ∈ s.returned
  · exact List.mem_append_left _ given
  · exact List.mem_append_right _ (List.mem_filter.mpr ⟨held, decide_eq_true given⟩)

theorem position_look {s : Subscription} (idle : s.reader.batch log = []) (index : Nat) :
    (s.look log).reader.position index = s.reader.position index := by
  cases available : log.unavailable with
  | some message => rw [look_of_unavailable available]
  | none =>
    rw [reader_look available]
    exact Reader.position_next_of_idle idle index

end Subscription

structure Readership where
  log : Log
  readers : Dictionary String Subscription := .empty

namespace Readership

inductive Event where
  | log (event : Log.Event)
  | openReader (name : String)
  | look (name : String)

def openReader (s : Readership) (name : String) : Readership :=
  match s.log.openReader with
  | .ok reader => { s with readers := s.readers.insert name { reader } }
  | .error _ => s

def look (s : Readership) (name : String) : Readership :=
  match s.readers.get? name with
  | some subscription => { s with readers := s.readers.insert name (subscription.look s.log) }
  | none => s

def step (s : Readership) : Event → Readership
  | .log event => { s with log := (event.run s.log).2 }
  | .openReader name => s.openReader name
  | .look name => s.look name

def run (s : Readership) (events : List Event) : Readership := events.foldl step s

def create (topic : String) (partitions : Nat) : Readership := { log := .create topic partitions }

/-- What happens to the log concerns every reader, the rest only the one that it names. -/
def Event.concerns (name : String) : Event → Bool
  | .log _ => true
  | .openReader other | .look other => other = name

def Event.drops : Event → Bool
  | .log .compact | .log (.deleteRecords _ _) => true
  | _ => false

def Dropped (s : Readership) (record : Record) (events : List Event) : Prop :=
  ∃ before event after, events = before ++ event :: after ∧ event.drops = true ∧
    record ∈ (s.run before).log.held ∧ record ∉ ((s.run before).step event).log.held

structure Sound (s : Readership) : Prop where
  tidy : s.log.Tidy
  served : ∀ name subscription, s.readers.get? name = some subscription →
    subscription.reader.Served s.log subscription.returned

variable {s t : Readership} {name : String}

namespace Sound

theorem create (topic : String) (partitions : Nat) : (create topic partitions).Sound where
  tidy := .create topic partitions
  served _ _ none := by cases none

theorem insert (sound : s.Sound) (name : String) {subscription : Subscription}
    (served : subscription.reader.Served s.log subscription.returned) :
    Sound { s with readers := s.readers.insert name subscription } where
  tidy := sound.tidy
  served other found there := by
    rw [Dictionary.get?_insert] at there
    split at there
    · cases there
      exact served
    · exact sound.served other found there

theorem look (sound : s.Sound) {subscription : Subscription}
    (there : s.readers.get? name = some subscription) :
    (subscription.look s.log).reader.Served s.log (subscription.look s.log).returned := by
  have served := sound.served name subscription there
  cases available : s.log.unavailable with
  | none =>
    rw [Subscription.reader_look available, Subscription.returned_look available]
    exact served.poll sound.tidy
  | some message =>
    rw [Subscription.returned_look_of_unavailable available,
      Subscription.look_of_unavailable available]
    exact served

theorem step (sound : s.Sound) (event : Event) : (s.step event).Sound := by
  cases event with
  | log event =>
    refine ⟨sound.tidy.run event, fun name subscription there => ?_⟩
    exact (sound.served name subscription there).later (.run s.log event)
  | openReader name =>
    rw [Readership.step, openReader]
    cases available : s.log.unavailable with
    | none =>
      rw [Reader.openReader_of_available available]
      exact sound.insert name (.opened sound.tidy)
    | some message =>
      rw [Reader.openReader_of_unavailable available]
      exact sound
  | look name =>
    rw [Readership.step, Readership.look]
    cases there : s.readers.get? name with
    | none => exact sound
    | some subscription => exact sound.insert name (sound.look there)

theorem run (sound : s.Sound) (events : List Event) : (s.run events).Sound := by
  induction events generalizing s with
  | nil => exact sound
  | cons event rest ih => exact ih (sound.step event)

end Sound

theorem log_openReader (s : Readership) (name : String) : (s.openReader name).log = s.log := by
  unfold openReader
  split <;> rfl

theorem log_look (s : Readership) (name : String) : (s.look name).log = s.log := by
  unfold look
  split <;> rfl

theorem step_of_concerns (same_log : s.log = t.log)
    (same_reader : s.readers.get? name = t.readers.get? name) {event : Event}
    (concerns : event.concerns name = true) :
    (s.step event).log = (t.step event).log ∧
      (s.step event).readers.get? name = (t.step event).readers.get? name := by
  cases event with
  | log event =>
    simp only [step, same_log]
    exact ⟨trivial, same_reader⟩
  | openReader other =>
    obtain rfl : other = name := of_decide_eq_true concerns
    simp only [step, log_openReader]
    refine ⟨same_log, ?_⟩
    unfold openReader
    rw [same_log]
    split
    · simp only [Dictionary.get?_insert_self]
    · exact same_reader
  | look other =>
    obtain rfl : other = name := of_decide_eq_true concerns
    simp only [step, log_look]
    refine ⟨same_log, ?_⟩
    unfold look
    rw [same_log, same_reader]
    split
    · simp only [Dictionary.get?_insert_self]
    · exact same_reader

theorem step_of_unconcerned {event : Event} (other : event.concerns name = false) :
    (s.step event).log = s.log ∧ (s.step event).readers.get? name = s.readers.get? name := by
  cases event with
  | log event => cases other
  | openReader someone =>
    have apart : name ≠ someone := fun same => of_decide_eq_false other same.symm
    refine ⟨log_openReader s someone, ?_⟩
    rw [step, openReader]
    split
    · exact Dictionary.get?_insert_of_ne _ apart _
    · rfl
  | look someone =>
    have apart : name ≠ someone := fun same => of_decide_eq_false other same.symm
    refine ⟨log_look s someone, ?_⟩
    rw [step, look]
    split
    · exact Dictionary.get?_insert_of_ne _ apart _
    · rfl

theorem run_filter (same_log : s.log = t.log)
    (same_reader : s.readers.get? name = t.readers.get? name) (events : List Event) :
    (s.run events).log = (t.run (events.filter (·.concerns name))).log ∧
      (s.run events).readers.get? name =
        (t.run (events.filter (·.concerns name))).readers.get? name := by
  induction events generalizing s t with
  | nil => exact ⟨same_log, same_reader⟩
  | cons event rest ih =>
    cases concerns : event.concerns name with
    | true =>
      rw [List.filter_cons_of_pos concerns]
      obtain ⟨log, reader⟩ := step_of_concerns same_log same_reader concerns
      exact ih log reader
    | false =>
      rw [List.filter_cons_of_neg (by simp [concerns])]
      obtain ⟨log, reader⟩ := step_of_unconcerned (s := s) concerns
      exact ih (log.trans same_log) (reader.trans same_reader)

theorem get?_step_openReader (available : s.log.unavailable = none) (name : String) :
    (s.step (.openReader name)).readers.get? name =
      some { reader := ⟨s.log.partitions.map fun _ => 0⟩ } := by
  simp only [step, openReader, Reader.openReader_of_available available]
  exact Dictionary.get?_insert_self ..

theorem mem_held_step {event : Event} (keeps : event.drops = false) {record : Record}
    (held : record ∈ s.log.held) : record ∈ (s.step event).log.held := by
  cases event with
  | openReader name =>
    rw [step, log_openReader]
    exact held
  | look name =>
    rw [step, log_look]
    exact held
  | log event =>
    cases event with
    | append key value => exact Log.mem_held_append key value held
    | compact => cases keeps
    | deleteRecords partition bound => cases keeps
    | setUnavailable message => exact held
    | setAvailable => exact held

theorem held_or_dropped {record : Record} (held : record ∈ s.log.held) (events : List Event) :
    record ∈ (s.run events).log.held ∨ s.Dropped record events := by
  induction events generalizing s with
  | nil => exact .inl held
  | cons event rest ih =>
    by_cases still : record ∈ (s.step event).log.held
    · rcases ih still with there | ⟨before, dropping, after, rfl, drops, there, gone⟩
      · exact .inl there
      · exact .inr ⟨event :: before, dropping, after, rfl, drops, there, gone⟩
    · cases drops : event.drops with
      | false => exact absurd (mem_held_step drops held) still
      | true => exact .inr ⟨[], event, rest, rfl, drops, held, still⟩

/-- Whatever is done to a log by whomever, and whoever reads it and when: the log retains its
records partition by partition, in the order of their offsets, and a look that completes a poll
gives exactly those that the reader was not given before. None is given twice. A look fails only
where the log is unavailable, and leaves the reader where it was, as does a look that finds nothing.
An appended record is retained, and what is retained at any time is given to every reader by its
next look that does not fail, unless a compaction or a deletion drops it before. No reader would
notice if there were no others. While the log is available anyone can become a reader, at the start
of every partition and given nothing so far. -/
theorem readers_lose_and_repeat_nothing (topic : String) (partitions : Nat) (events : List Event)
    (name : String) :
    let first := create topic partitions
    let s := first.run events
    s.log.held.Pairwise Record.Precedes ∧
      (∀ subscription, s.readers.get? name = some subscription →
        let unread := s.log.held.filter (· ∉ subscription.returned)
        let next := subscription.look s.log
        (s.look name).readers.get? name = some next ∧
          (∀ message, s.log.unavailable = some message → next =
            ⟨subscription.reader, false,
              subscription.polls ++ [.error (.io s.log.topic message)]⟩) ∧
          (s.log.unavailable = none → (next.waiting, next.polls) =
            if unread = [] ∧ subscription.waiting = false then (true, subscription.polls)
            else (false, subscription.polls ++ [.ok unread])) ∧
          (unread = [] → ∀ index,
            next.reader.position index = subscription.reader.position index) ∧
          (subscription.returned.Pairwise fun a b =>
            a.partition = b.partition → a.offset < b.offset) ∧
          (subscription.returned.map Record.position).Nodup ∧
          ∀ before after, events = before ++ after → s.log.unavailable = none →
            ∀ record ∈ (first.run before).log.held,
              record ∈ next.returned ∨ (first.run before).Dropped record after) ∧
      (∀ key value, s.log.unavailable = none →
        s.log.nextRecord key value ∈ (s.step (.log (.append key value))).log.held) ∧
      s.readers.get? name = (first.run (events.filter (·.concerns name))).readers.get? name ∧
      (s.log.unavailable = none → ∃ opened, (s.step (.openReader name)).readers.get? name =
        some opened ∧ opened.polls = [] ∧ opened.waiting = false ∧
          ∀ index, opened.reader.position index = 0) := by
  intro first s
  have sound : s.Sound := (Sound.create topic partitions).run events
  refine ⟨sound.tidy.held_ordered, fun subscription there => ?_, fun key value available => ?_,
    (run_filter rfl rfl events).2, fun available => ⟨_, get?_step_openReader available name, rfl,
    rfl, Reader.position_open s.log⟩⟩
  · intro unread next
    have served := sound.served name subscription there
    have due : subscription.reader.batch s.log = unread := served.batch_eq sound.tidy
    refine ⟨?_, fun message lost => Subscription.look_of_unavailable lost subscription,
      fun available => ?_, fun idle => Subscription.position_look (due.trans idle), served.ordered,
      served.nodup, fun before after split available => ?_⟩
    · rw [look, there]
      exact Dictionary.get?_insert_self ..
    · have looked := Subscription.look_of_available available subscription
      rw [due] at looked
      simp only [next, looked]
      split <;> rfl
    · intro record held
      have reached : s = (first.run before).run after := by
        simp only [s, run, split, List.foldl_append]
      refine (held_or_dropped held after).imp_left fun still => ?_
      rw [← reached] at still
      exact Subscription.mem_returned_look served sound.tidy available still
  · simp only [step, Log.Event.run, Log.append_of_available available]
    exact Log.nextRecord_mem_held s.log key value

example :
    let s := (create "roads" 1).run [.openReader "first", .log (.append [1] none), .look "first",
      .look "first", .log (.append [2] none), .log (.append [1] (some [7])), .log .compact,
      .openReader "other", .look "other", .look "first"]
    let offsets name := (s.readers.get? name).map (·.returned.map (·.offset))
    offsets "first" = some [0, 1, 2] ∧ offsets "other" = some [1, 2] := by
  decide +kernel

end Readership

end RoadRegistry
