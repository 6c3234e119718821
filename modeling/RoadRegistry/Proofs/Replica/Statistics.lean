import RoadRegistry.Proofs.Cluster.PlainMap
import RoadRegistry.Proofs.Replica.Counts

namespace RoadRegistry

/-- What happens to a store. A poll that succeeds is its records and then the end of its batch. -/
inductive Happening (O E : Type) where
  | begun (ends earliest : Dictionary Int Int)
  | came (record : Record)
  | batchEnd (isIdle : Bool)
  | pollFailed (error : StoreError)
  | closed
  | switched (observer : Nat) (change : O → O)
  | meanwhile (change : E → E)

namespace Happening

def traced : Happening O E → Happening (O × Nat) (E × List (Call V))
  | .begun ends earliest => .begun ends earliest
  | .came record => .came record
  | .batchEnd isIdle => .batchEnd isIdle
  | .pollFailed error => .pollFailed error
  | .closed => .closed
  | .switched observer change => .switched observer (Prod.map change id)
  | .meanwhile change => .meanwhile (Prod.map change id)

def ofPoll : Except StoreError (List Record) → List (Happening O E)
  | .ok batch => batch.map .came ++ [.batchEnd batch.isEmpty]
  | .error error => [.pollFailed error]

end Happening

namespace Replica

section Runs

variable (f : Following V O E)

def happen (state : Replica V O × E) : Happening O E → Replica V O × E
  | .begun ends earliest => (state.1.begin ends earliest, state.2)
  | .came record => consume f state record
  | .batchEnd isIdle => (state.1.endOfBatch isIdle, state.2)
  | .pollFailed error => receive f state (.error error)
  | .closed => (state.1.close.toOption.getD state.1, state.2)
  | .switched observer change =>
    ({ state.1 with observers := state.1.observers.modify observer change }, state.2)
  | .meanwhile change => (state.1, change state.2)

def lived (state : Replica V O × E) (happenings : List (Happening O E)) : Replica V O × E :=
  happenings.foldl (happen f) state

def passed (state : Replica V O × E) : Happening O E → List (Record × UInt64)
  | .came record =>
    if (consume f state record).1.progress.stopped then [] else [(record, f.now state.2)]
  | _ => []

def history (state : Replica V O × E) : List (Happening O E) → List (Record × UInt64)
  | [] => []
  | happening :: rest =>
    passed f state happening ++ history (happen f state happening) rest

def traced (topic : String) (observers : List O) (shared : E)
    (happenings : List (Happening O E)) : Replica V (O × Nat) × E × List (Call V) :=
  lived f.traced ({ topic, observers := observers.zipIdx }, shared, [])
    (happenings.map Happening.traced)

variable {f}

theorem lived_ofPoll (state : Replica V O × E) (polled : Except StoreError (List Record)) :
    lived f state (Happening.ofPoll polled) = receive f state polled := by
  cases polled with
  | error error => rfl
  | ok batch =>
    rw [Happening.ofPoll, lived, List.foldl_append, List.foldl_map]
    change ((batch.foldl (consume f) state).1.endOfBatch batch.isEmpty,
      (batch.foldl (consume f) state).2) = _
    obtain ⟨r, shared⟩ := state
    cases ended : r.progress.stopped with
    | true =>
      rw [foldl_consume_of_stopped ended, receive_of_stopped ended, endOfBatch_of_stopped ended]
    | false => simp only [receive, ended, Bool.false_eq_true, ite_false]

theorem history_concat (state : Replica V O × E) (happenings : List (Happening O E))
    (happening : Happening O E) :
    history f state (happenings ++ [happening]) =
      history f state happenings ++ passed f (lived f state happenings) happening := by
  induction happenings generalizing state with
  | nil => exact List.append_nil _
  | cons first rest ih =>
    rw [List.cons_append, history, ih, history, List.append_assoc]
    rfl

theorem lived_concat (state : Replica V O × E) (happenings : List (Happening O E))
    (happening : Happening O E) :
    lived f state (happenings ++ [happening]) =
      happen f (lived f state happenings) happening := by
  rw [lived, List.foldl_append]
  rfl

theorem happen_traced (s : Replica V (O × Nat) × E × List (Call V)) (happening : Happening O E) :
    happen f ((untraced f).state s) happening =
      (untraced f).state (happen f.traced s happening.traced) := by
  cases happening with
  | begun ends earliest => rfl
  | came record => exact (untraced f).consume s record
  | batchEnd isIdle => exact congrArg (·, s.2.1) ((untraced f).endOfBatch s.1 isIdle)
  | pollFailed error => exact (untraced f).receive s (.error error)
  | closed =>
    have closes := (untraced f).replica_close s.1
    simp only [happen, Happening.traced, View.state, closes]
    cases s.1.close <;> rfl
  | switched index change =>
    simp only [happen, Happening.traced, View.state, View.replica]
    congr 2
    exact (map_modify Prod.fst (Prod.map change id) change (fun _ => rfl) s.1.observers index).symm
  | meanwhile change => rfl

theorem lived_traced (s : Replica V (O × Nat) × E × List (Call V))
    (happenings : List (Happening O E)) :
    lived f ((untraced f).state s) happenings =
      (untraced f).state (lived f.traced s (happenings.map .traced)) := by
  rw [lived, lived, List.foldl_map]
  exact List.foldl_hom (untraced f).state fun s happening => happen_traced s happening

theorem untraced_start (f : Following V O E) (topic : String) (observers : List O) (shared : E) :
    (untraced f).state ({ topic, observers := observers.zipIdx }, shared, []) =
      ({ topic, observers }, shared) := by
  simp only [View.state, View.replica, untraced, List.zipIdx_map_fst]
  rfl

theorem traced_concat (topic : String) (observers : List O) (shared : E)
    (happenings : List (Happening O E)) (happening : Happening O E) :
    traced f topic observers shared (happenings ++ [happening]) =
      happen f.traced (traced f topic observers shared happenings) happening.traced := by
  rw [traced, List.map_append, List.map_singleton, lived_concat]
  rfl

theorem lived_start (f : Following V O E) (topic : String) (observers : List O) (shared : E)
    (happenings : List (Happening O E)) :
    lived f ({ topic, observers }, shared) happenings =
      (untraced f).state (traced f topic observers shared happenings) := by
  rw [← untraced_start, lived_traced]
  rfl

theorem passed_traced (s : Replica V (O × Nat) × E × List (Call V)) (happening : Happening O E) :
    passed f ((untraced f).state s) happening = passed f.traced s happening.traced := by
  cases happening with
  | came record =>
    have consumed := (untraced f).consume s record
    simp only [passed, Happening.traced, consumed]
    rfl
  | begun | batchEnd | pollFailed | closed | switched | meanwhile => rfl

end Runs

def lastApplied (codec : Codec V) (history : List (Record × UInt64)) : Option UInt64 :=
  (history.filter (Applies codec ·.1)).getLast?.map (·.2)

def resumed (r : Replica V O) : Replica V O :=
  { r with progress := { r.progress with failure := none, stopped := false } }

/-- A store with this history: it has moved past the records, but for how it ended if it has. -/
structure Recounts (f : Following V O E) (n : Nat) (history : List (Record × UInt64))
    (s : Replica V (O × Nat) × E × List (Call V)) : Prop where
  passed : Passed f n (history.map (·.1)) (s.1.resumed, s.2)
  unfailed : s.1.progress.stopped = false → s.1.progress.failure = none
  lastAppliedAt : s.1.counters.lastAppliedAt = (lastApplied f.codec history).getD 0

def Panicked (s : Replica V (O × Nat) × E × List (Call V)) : Prop :=
  s.1.progress.stopped = true ∧ ∃ call ∈ s.2.2, call.panicked = true

section Steps

variable {f : Following V O E} {n : Nat} {history : List (Record × UInt64)} {record : Record}
variable {s : Replica V (O × Nat) × E × List (Call V)}

theorem lastApplied_concat (codec : Codec V) (history : List (Record × UInt64)) (record : Record)
    (time : UInt64) :
    lastApplied codec (history ++ [(record, time)]) =
      if Applies codec record then some time else lastApplied codec history := by
  rw [lastApplied, List.filter_append]
  split
  · next applies =>
    rw [List.filter_cons_of_pos (by simpa using applies), List.filter_nil, List.getLast?_concat]
    rfl
  · next other =>
    rw [List.filter_cons_of_neg (by simpa using other), List.filter_nil, List.append_nil]
    rfl

theorem consume_lastAppliedAt {r : Replica V O} (running : r.progress.stopped = false)
    (passable : Passable f.codec record) (shared : E) :
    (consume f (r, shared) record).1.counters.lastAppliedAt =
      if Applies f.codec record then f.now shared else r.counters.lastAppliedAt := by
  cases said : Decoded.ofRecord f.codec record with
  | broken key error => exact absurd said (passable key error)
  | legacy =>
    have skipped : ¬ Applies f.codec record := by
      rw [← Decoded.isSome_pair?_iff, said]
      exact Bool.false_ne_true
    rw [consume_of_legacy running said, if_neg skipped]
    rfl
  | entry key value =>
    have applied : Applies f.codec record := ⟨key, value, Decoded.eq_entry_iff.mp said⟩
    rw [consume_of_entry running said, tell_counters, if_pos applied]
    rfl

theorem resumed_of_running {r : Replica V O} (running : r.progress.stopped = false)
    (unfailed : r.progress.failure = none) : r.resumed = r := by
  rw [resumed, ← running, ← unfailed]

theorem Panicked.happen (panicked : Panicked s) (happening : Happening O E) :
    Panicked (happen f.traced s happening.traced) := by
  obtain ⟨ended, called⟩ := panicked
  cases happening with
  | came record =>
    rw [Happening.traced, Replica.happen, consume_of_stopped ended]
    exact ⟨ended, called⟩
  | batchEnd isIdle =>
    rw [Happening.traced, Replica.happen, endOfBatch_of_stopped ended]
    exact ⟨ended, called⟩
  | pollFailed error =>
    rw [Happening.traced, Replica.happen, receive_of_stopped ended]
    exact ⟨ended, called⟩
  | begun ends earliest =>
    obtain ⟨target, caughtUp, same⟩ := s.1.begin_eq ends earliest
    rw [Happening.traced, Replica.happen, same]
    exact ⟨ended, called⟩
  | closed =>
    refine ⟨?_, called⟩
    rw [Happening.traced, Replica.happen]
    cases shut : s.1.closed with
    | true =>
      rw [close_of_closed shut]
      exact ended
    | false =>
      rw [close_of_stopped ended shut]
      exact ended
  | switched index change => exact ⟨ended, called⟩
  | meanwhile change => exact ⟨ended, called⟩

namespace Recounts

theorem congr (recounts : Recounts f n history s) {r : Replica V (O × Nat)} {shared : E}
    (entries : r.entries = s.1.entries) (counters : r.counters = s.1.counters)
    (consumed : r.progress.consumed = s.1.progress.consumed)
    (numbers : r.observers.map (·.2) = s.1.observers.map (·.2))
    (unfailed : r.progress.stopped = false → r.progress.failure = none) :
    Recounts f n history (r, shared, s.2.2) := by
  obtain ⟨passed, _, lastAppliedAt⟩ := recounts
  obtain ⟨all, running, numbered, effects, shown, legacySkipped, offsets⟩ := passed
  have same_map : r.resumed.get? = s.1.resumed.get? := by
    funext key
    rw [get?, get?]
    exact congrArg (fun d : Dictionary String (Option V) => (d.get? key).join) entries
  refine ⟨⟨all, rfl, numbers.trans numbered, ?_, same_map.trans shown, ?_,
    consumed.trans offsets⟩, unfailed, ?_⟩
  · rw [← effects, Replica.effects, Replica.effects]
    simp only [resumed, entries, counters]
  · rw [← legacySkipped]
    exact congrArg Counters.legacySkipped counters
  · rw [← lastAppliedAt, counters]

theorem finish (recounts : Recounts f n history s) (failure : Option StoreError) :
    Recounts f n history (s.1.finish failure, s.2) := by
  refine recounts.congr rfl rfl rfl rfl fun running => ?_
  cases running

theorem consume (recounts : Recounts f n history s) (record : Record) :
    let next := Replica.consume f.traced s record
    Panicked next ∨
      Recounts f n (history ++ Replica.passed f.traced s (.came record)) next := by
  intro next
  have unpassed (ended : next.1.progress.stopped = true) :
      history ++ Replica.passed f.traced s (.came record) = history := by
    rw [Replica.passed, if_pos ended, List.append_nil]
  cases ended : s.1.progress.stopped with
  | true =>
    have same : next = s := consume_of_stopped ended
    rw [unpassed (same ▸ ended), same]
    exact .inr recounts
  | false =>
    have unfailed := recounts.unfailed ended
    have passed := recounts.passed
    rw [resumed_of_running ended unfailed] at passed
    rcases consume_traced f s.2.1 s.2.2 record ended passed.numbered with ⟨moved, _⟩ |
      ⟨key, error, broken, _⟩ | ⟨change, observer, _, _, _, stopped, heard⟩
    · have goes_on : next.1.progress.stopped = false :=
        (congrArg Progress.stopped moved).trans ended
      have still_unfailed : next.1.progress.failure = none :=
        (congrArg Progress.failure moved).trans unfailed
      have past : Passed f n (history.map (·.1) ++ [record]) next :=
        passed.consume_of_running goes_on
      have passable := past.passable record (List.mem_append_right _ (List.mem_singleton_self _))
      have counted : Replica.passed f.traced s (.came record) = [(record, f.now s.2.1)] :=
        if_neg (Bool.eq_false_iff.mp goes_on)
      rw [counted]
      refine .inr ⟨?_, fun _ => still_unfailed, ?_⟩
      · rw [resumed_of_running goes_on still_unfailed, List.map_append]
        exact past
      · have time : next.1.counters.lastAppliedAt = _ :=
          consume_lastAppliedAt (f := f.traced) ended passable s.2
        rw [time, lastApplied_concat, recounts.lastAppliedAt, apply_ite (Option.getD · 0)]
        rfl
    · have same : next = (s.1.finish (some (.serialization key error)), s.2) :=
        consume_of_broken (f := f.traced) ended broken
      rw [unpassed (congrArg (fun s => s.1.progress.stopped) same), same]
      exact .inr (recounts.finish _)
    · refine .inl ⟨congrArg Progress.stopped stopped, Call.telling true change observer, ?_, rfl⟩
      rw [heard]
      exact List.mem_append_right _ (List.mem_singleton_self _)

theorem happen (recounts : Recounts f n history s) (happening : Happening O E) :
    let next := Replica.happen f.traced s happening.traced
    Panicked next ∨
      Recounts f n (history ++ Replica.passed f.traced s happening.traced) next := by
  have unmoved {next : Replica V (O × Nat) × E × List (Call V)}
      (still : Recounts f n history next) : Panicked next ∨ Recounts f n (history ++ []) next :=
    .inr ((List.append_nil history).symm ▸ still)
  cases happening with
  | came record => exact recounts.consume record
  | begun ends earliest =>
    obtain ⟨target, caughtUp, same⟩ := s.1.begin_eq ends earliest
    apply unmoved
    rw [Happening.traced, Replica.happen, same]
    exact recounts.congr rfl rfl rfl rfl recounts.unfailed
  | batchEnd isIdle =>
    obtain ⟨caughtUp, same⟩ := s.1.endOfBatch_eq isIdle
    apply unmoved
    rw [Happening.traced, Replica.happen, same]
    exact recounts.congr rfl rfl rfl rfl recounts.unfailed
  | pollFailed error =>
    apply unmoved
    cases ended : s.1.progress.stopped with
    | true =>
      rw [Happening.traced, Replica.happen, receive_of_stopped ended]
      exact recounts
    | false =>
      have failed : receive f.traced s (.error error) = (s.1.finish (some error), s.2) := by
        simp only [receive, ended, Bool.false_eq_true, ite_false]
      rw [Happening.traced, Replica.happen, failed]
      exact recounts.finish (some error)
  | closed =>
    have closed : Recounts f n history ({ s.1 with closed := true }, s.2) :=
      recounts.congr rfl rfl rfl rfl recounts.unfailed
    apply unmoved
    cases shut : s.1.closed with
    | true =>
      rw [Happening.traced, Replica.happen, close_of_closed shut]
      exact recounts
    | false =>
      cases ended : s.1.progress.stopped with
      | true =>
        rw [Happening.traced, Replica.happen, close_of_stopped ended shut]
        exact closed
      | false =>
        rw [Happening.traced, Replica.happen, close_of_running ended shut]
        exact closed.finish none
  | switched index change =>
    have numbers : (s.1.observers.modify index (Prod.map change id)).map (·.2) =
        s.1.observers.map (·.2) := by
      rw [map_modify (·.2) (Prod.map change id) id fun _ => rfl, List.modify_id]
    exact unmoved (recounts.congr rfl rfl rfl numbers recounts.unfailed)
  | meanwhile change => exact unmoved (recounts.congr rfl rfl rfl rfl recounts.unfailed)

end Recounts

/-- Over any run, a store has its history, or an observer has panicked. That a panic stops the store
for good keeps its call among the calls to the end. -/
theorem panicked_or_recounts (f : Following V O E) (topic : String) (observers : List O)
    (shared : E) (happenings : List (Happening O E)) :
    let s := traced f topic observers shared happenings
    Panicked s ∨
      Recounts f observers.length
        (Replica.history f ({ topic, observers }, shared) happenings) s := by
  induction happenings using List.reverseRecOn with
  | nil =>
    refine .inr ⟨⟨List.forall_mem_nil _, rfl, ?_, rfl, rfl, rfl, rfl⟩, fun _ => rfl, rfl⟩
    change observers.zipIdx.map (·.2) = List.range observers.length
    rw [List.zipIdx_map_snd, List.range_eq_range']
  | append_singleton happenings happening ih =>
    rw [traced_concat, history_concat, lived_start, passed_traced]
    rcases ih with panicked | recounts
    · exact .inl (panicked.happen happening)
    · exact recounts.happen happening

end Steps

def ExactlyOne (a b c : Prop) : Prop := (a ∨ b ∨ c) ∧ ¬ (a ∧ b) ∧ ¬ (a ∧ c) ∧ ¬ (b ∧ c)

/-- The statistics of a store, and all ways to read it, come out as its history and the calls to its
observers have it. -/
structure Agrees (codec : Codec V) (observers : Nat) (history : List (Record × UInt64))
    (calls : List (Call V)) (r : Replica V O) : Prop where
  offsets : r.progress.consumed = (Progress.past {} (history.map (·.1))).consumed
  consumed : r.stats.applied + r.stats.legacySkipped = history.length
  applied : r.stats.applied = history.countP (Applies codec ·.1)
  tombstones : r.stats.tombstones = history.countP (Removes codec ·.1)
  live : r.stats.live = r.size ∧ r.documents.length = r.size
  keys : r.keys.Nodup ∧ r.keys.length = r.size ∧ ∀ key, key ∈ r.keys ↔ r.containsKey key = true
  heard : ∀ observer < observers,
    let changes := Call.heardBy observer calls
    (r.size : Int) = changes.countP (·.2.isNew) - changes.countP (·.2.isRemoval)
  exactly_one : ∀ key, ExactlyOne (r.containsKey key = true) (r.isTombstoned key = true)
    (¬ ∃ entry ∈ history, ∃ value, Says codec entry.1 key value)
  get? : ∀ key, (r.get? key).isSome = true ↔ r.containsKey key = true
  isEmpty : r.isEmpty = true ↔ ∀ key, r.containsKey key = false
  lastAppliedAt : r.stats.lastAppliedAt = (lastApplied codec history).filter (· ≠ 0)

theorem size_eq_countP (r : Replica V O) : r.size = r.entries.entries.countP (·.2.isSome) := by
  rw [size, documents, List.length_filterMap_eq_countP]
  simp only [Option.isSome_map]

theorem outcome_eq_none_iff_unsaid {codec : Codec V} {history : List (Record × UInt64)}
    {key : String} : outcome codec (history.map (·.1)) key = none ↔
      ¬ ∃ entry ∈ history, ∃ value, Says codec entry.1 key value := by
  rw [outcome_eq_none_iff, List.forall_mem_map]
  push Not
  refine forall₂_congr fun entry _ => ?_
  simp only [Option.eq_none_iff_forall_ne_some, ne_eq, Decoded.about_eq_some_iff]

theorem Shows.exactly_one {r : Replica V O} {m : PlainMap V} (shows : r.Shows m) (key : String) :
    ExactlyOne (r.containsKey key = true) (r.isTombstoned key = true) (m key = none) := by
  rw [shows.containsKey, shows.isTombstoned]
  cases m key with
  | none => simp [ExactlyOne]
  | some held => cases held <;> simp [ExactlyOne]

/-- A clock that stood at 0 is not told from one that was never read. -/
theorem stats_lastAppliedAt {r : Replica V O} {last : Option UInt64}
    (same : r.counters.lastAppliedAt = last.getD 0) :
    r.stats.lastAppliedAt = last.filter (· ≠ 0) := by
  have positive (time : UInt64) : 0 < time ↔ time ≠ 0 := by
    rw [UInt64.lt_iff_toNat_lt, ne_eq, ← UInt64.toNat_inj]
    exact Nat.pos_iff_ne_zero
  simp only [stats, same, positive]
  cases last with
  | none => rfl
  | some time => simp only [Option.getD_some, Option.filter_some, decide_eq_true_iff]

theorem Recounts.agrees {f : Following V O E} {n : Nat} {history : List (Record × UInt64)}
    {s : Replica V (O × Nat) × E × List (Call V)} (recounts : Recounts f n history s) :
    Agrees f.codec n history s.2.2 s.1.unnumbered := by
  obtain ⟨⟨passable, _, _, effects, _, legacySkipped, consumed⟩, _, lastAppliedAt⟩ := recounts
  simp only [Replica.effects, Effects.mk.injEq, length_decodedEntries, countP_decodedEntries]
    at effects
  obtain ⟨entries, told, applied, tombstones, _⟩ := effects
  have shows : s.1.unnumbered.Shows (outcome f.codec (history.map (·.1))) := by
    refine shows_of_entries fun key => ?_
    rw [← get?_decodedEntries, ← entries]
    rfl
  constructor
  case offsets => exact consumed
  case consumed =>
    have total := applies_add_legacy f.codec passable
    rw [← applied, ← legacySkipped, List.length_map] at total
    exact total
  case applied => exact applied.trans List.countP_map
  case tombstones => exact tombstones.trans List.countP_map
  case live => exact ⟨rfl, rfl⟩
  case keys =>
    refine ⟨s.1.unnumbered.keys_nodup, List.length_map _, fun key => ?_⟩
    rw [shows.keys, shows.containsKey]
  case heard =>
    intro observer inside changes
    have all : changes = Live.transitions f.codec .empty (history.map (·.1)) := by
      rw [← Call.heardBy_flatMap inside (Live.transitions f.codec .empty (history.map (·.1))),
        ← told]
    have balance := live_balance f.codec (history.map (·.1))
    rw [← entries, ← all] at balance
    have size : s.1.unnumbered.size = s.1.resumed.entries.entries.countP (·.2.isSome) :=
      size_eq_countP s.1.unnumbered
    omega
  case exactly_one =>
    intro key
    rw [← outcome_eq_none_iff_unsaid]
    exact shows.exactly_one key
  case get? => exact fun key => Iff.rfl
  case isEmpty =>
    rw [shows.isEmpty]
    refine forall_congr' fun key => ?_
    rw [← Bool.not_eq_true, shows.containsKey, not_exists]
  case lastAppliedAt => exact stats_lastAppliedAt (r := s.1.unnumbered) lastAppliedAt

theorem consume_unreadable {f : Following V O E} {record : Record} {key : String}
    {error : DecodeError} (unreadable : Unreadable f.codec record key error) (r : Replica V O)
    (shared : E) : ∃ failure, consume f (r, shared) record =
      ({ r with progress := { r.progress with failure, stopped := true } }, shared) := by
  cases ended : r.progress.stopped with
  | true =>
    refine ⟨r.progress.failure, ?_⟩
    rw [consume_of_stopped ended, ← ended]
  | false => exact ⟨_, consume_of_broken ended (Decoded.eq_broken_iff.mpr unreadable)⟩

/-- Over any run in which no observer panics, the statistics of a store and what it shows agree with
the records it has moved past and with what its observers were told. A poll makes the run longer by
its parts, and a record that cannot be read changes nothing of all this. -/
theorem statistics_agree_with_history (f : Following V O E) (topic : String) (observers : List O)
    (shared : E) (happenings : List (Happening O E))
    (calm : ∀ call ∈ (traced f topic observers shared happenings).2.2, call.panicked = false) :
    let start : Replica V O × E := ({ topic, observers }, shared)
    let now := lived f start happenings
    let s := traced f topic observers shared happenings
    now = (s.1.unnumbered, s.2.1) ∧
      Agrees f.codec observers.length (history f start happenings) s.2.2 now.1 ∧
      (∀ polled, receive f now polled = lived f start (happenings ++ Happening.ofPoll polled)) ∧
      ∀ record key error, Unreadable f.codec record key error →
        let later := happenings ++ [.came record]
        let after := lived f start later
        after.1.stats = now.1.stats ∧ after.1.entries = now.1.entries ∧ after.2 = now.2 ∧
          after.1.progress.consumed = now.1.progress.consumed ∧
          history f start later = history f start happenings ∧
          (traced f topic observers shared later).2.2 = s.2.2 := by
  intro start now s
  have untold : now = (s.1.unnumbered, s.2.1) := lived_start f topic observers shared happenings
  have agrees : Agrees f.codec observers.length (history f start happenings) s.2.2 now.1 := by
    rw [untold]
    rcases panicked_or_recounts f topic observers shared happenings with
      ⟨_, call, member, panicked⟩ | recounts
    · rw [calm call member] at panicked
      cases panicked
    · exact recounts.agrees
  refine ⟨untold, agrees, fun polled => ?_, fun record key error unreadable => ?_⟩
  · rw [← lived_ofPoll, lived, lived, List.foldl_append]
    rfl
  · intro later after
    obtain ⟨_, ends⟩ := consume_unreadable unreadable now.1 now.2
    obtain ⟨_, ends_traced⟩ := consume_unreadable (f := f.traced) unreadable s.1 s.2
    have after_eq : after = consume f now record := lived_concat start happenings (.came record)
    have traced_eq : traced f topic observers shared later = consume f.traced s record :=
      traced_concat topic observers shared happenings (.came record)
    have unpassed : passed f now (.came record) = [] := if_pos (by rw [ends])
    rw [after_eq, ends, traced_eq, ends_traced]
    refine ⟨rfl, rfl, rfl, rfl, ?_, rfl⟩
    rw [history_concat, unpassed, List.append_nil]

def calmRecorders : List Recorder :=
  [{ name := "first", millis := 3 }, { name := "second", panicAt := some "z" }]

/-- A key comes and is removed by a null, another is removed that was never there, and a third
comes; a legacy record is passed over, and the last record but one cannot be read. -/
def eventfulRun : List (Happening Recorder (Journal Bytes)) :=
  .begun (.ofList [(0, 4), (1, 1)]) .empty ::
    Happening.ofPoll (.ok [⟨0, 0, Key.encode "a", some [1, 7]⟩, ⟨0, 1, [0], some [9]⟩,
      ⟨1, 0, Key.encode "b", none⟩]) ++
    .meanwhile (fun journal => { journal with clock := journal.clock.advance 10 }) ::
    Happening.ofPoll (.ok [⟨0, 2, Key.encode "a", some [2]⟩]) ++
    .switched 0 (fun recorder => { recorder with millis := 0 }) ::
    Happening.ofPoll (.ok [⟨0, 3, Key.encode "c", some [1]⟩]) ++
    Happening.ofPoll (.ok [⟨0, 4, [3], none⟩, ⟨0, 5, Key.encode "d", some [1]⟩]) ++
    [.closed]

theorem eventful_run_counted :
    let start : Replica Bytes Recorder × Journal Bytes :=
      ({ topic := "roads", observers := calmRecorders }, ⟨⟨5⟩, []⟩)
    let now := (lived recording start eventfulRun).1
    let s := traced recording "roads" calmRecorders ⟨⟨5⟩, []⟩ eventfulRun
    (∀ call ∈ s.2.2, call.panicked = false) ∧
      Agrees Codec.plain 2 (history recording start eventfulRun) s.2.2 now ∧
      now.stats = ⟨4, 1, 2, 1, some 21, true⟩ ∧ now.keys = ["c"] ∧
      now.isTombstoned "b" = true ∧ s.2.2.length = 6 ∧
      (history recording start eventfulRun).map (·.2) = [5, 8, 8, 18, 21] := by
  intro start now s
  have calm : ∀ call ∈ s.2.2, call.panicked = false := by decide +kernel
  have agrees := (statistics_agree_with_history recording "roads" calmRecorders ⟨⟨5⟩, []⟩
    eventfulRun calm).2.1
  exact ⟨calm, agrees, by decide +kernel, by decide +kernel, by decide +kernel, by decide +kernel,
    by decide +kernel⟩

end Replica

end RoadRegistry
