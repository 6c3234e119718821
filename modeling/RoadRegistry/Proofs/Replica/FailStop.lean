import Mathlib.Data.List.Basic
import Mathlib.Data.List.TakeWhile
import RoadRegistry.Proofs.Replica.CatchUp
import RoadRegistry.Proofs.Replica.Dispatch
import RoadRegistry.Proofs.Replica.Ending

namespace RoadRegistry

section Records

variable {codec : Codec V} {record : Record} {key name : String} {error fault : DecodeError}

/-- The key is from the time before frames; or the key decodes and the value is from that time. -/
def Legacy (codec : Codec V) (record : Record) : Prop :=
  (∃ error, Key.decode record.key = .error error ∧ error.isIgnorable = true) ∨
    ∃ key bytes error, Key.decode record.key = .ok key ∧ record.value = some bytes ∧
      codec.decode bytes = .error error ∧ error.isIgnorable = true

/-- The key cannot be decoded, or it can and the value cannot. A key that cannot is shown by its
bytes, as far as they are text. -/
def Unreadable (codec : Codec V) (record : Record) (key : String) (error : DecodeError) : Prop :=
  error.isIgnorable = false ∧
    (Key.decode record.key = .error error ∧ key = Text.Utf8.decodeLossy record.key ∨
      Key.decode record.key = .ok key ∧
        ∃ bytes, record.value = some bytes ∧ codec.decode bytes = .error error)

namespace Decoded

def isLegacy : Decoded V → Bool
  | .legacy => true
  | .entry _ _ | .broken _ _ => false

def pair? : Decoded V → Option (String × Option V)
  | .entry key value => some (key, value)
  | .legacy | .broken _ _ => none

def failure? : Decoded V → Option StoreError
  | .broken key error => some (.serialization key error)
  | .entry _ _ | .legacy => none

theorem isLegacy_ofFault (key : String) (error : DecodeError) :
    (ofFault key error : Decoded V).isLegacy = error.isIgnorable := by
  unfold ofFault
  cases error.isIgnorable <;> rfl

theorem ofFault_eq_broken_iff :
    (ofFault name fault : Decoded V) = .broken key error ↔
      error.isIgnorable = false ∧ fault = error ∧ name = key := by
  unfold ofFault
  cases ignorable : fault.isIgnorable with
  | true =>
    simp only [ite_true, reduceCtorEq, false_iff]
    rintro ⟨harmful, rfl, _⟩
    rw [ignorable] at harmful
    cases harmful
  | false =>
    simp only [Bool.false_eq_true, ite_false, broken.injEq]
    constructor
    · rintro ⟨rfl, rfl⟩
      exact ⟨ignorable, rfl, rfl⟩
    · rintro ⟨_, rfl, rfl⟩
      exact ⟨rfl, rfl⟩

theorem isLegacy_iff : (ofRecord codec record).isLegacy = true ↔ Legacy codec record := by
  unfold ofRecord Legacy
  cases Key.decode record.key with
  | error fault => simp [isLegacy_ofFault]
  | ok key =>
    cases record.value with
    | none => simp [isLegacy]
    | some bytes =>
      cases read : codec.decode bytes with
      | ok value => simp [isLegacy, read]
      | error fault => simp [isLegacy_ofFault, read]

theorem eq_broken_iff :
    ofRecord codec record = .broken key error ↔ Unreadable codec record key error := by
  unfold ofRecord Unreadable
  cases Key.decode record.key with
  | error fault =>
    simp only [ofFault_eq_broken_iff, Except.error.injEq, reduceCtorEq, false_and, or_false,
      eq_comm (a := key)]
  | ok name =>
    cases record.value with
    | none => simp
    | some bytes =>
      cases read : codec.decode bytes with
      | ok value => simp [read]
      | error fault =>
        simp only [ofFault_eq_broken_iff, reduceCtorEq, false_and, false_or, Except.ok.injEq,
          Option.some.injEq, exists_eq_left', read, Except.error.injEq,
          and_comm (a := fault = error)]

end Decoded

instance (codec : Codec V) (record : Record) : Decidable (Legacy codec record) :=
  decidable_of_iff _ Decoded.isLegacy_iff

end Records

/-- What a store makes of some records, as its callers and its observers can tell. -/
structure Effects (V : Type) where
  entries : Dictionary String (Option V)
  calls : List (Call V)
  applied : Nat
  tombstones : Nat
  failure : Option StoreError

section Effects

variable {codec : Codec V}

def readable (codec : Codec V) (records : List Record) : List Record :=
  records.takeWhile fun record => Replica.Passable codec record

def decodedEntries (codec : Codec V) (records : List Record) : List (String × Option V) :=
  records.filterMap fun record => (Decoded.ofRecord codec record).pair?

/-- All records that decode are carried out, each change is told to all observers, and the first
record that cannot be read is the failure. -/
def Effects.of (codec : Codec V) (observers : Nat) (records : List Record) : Effects V :=
  let decoded := decodedEntries codec (readable codec records)
  { entries := .ofList decoded
    calls := (Live.transitions codec .empty (readable codec records)).flatMap
      (Call.toAll observers)
    applied := decoded.length
    tombstones := decoded.countP (·.2.isNone)
    failure := records.findSome? fun record => (Decoded.ofRecord codec record).failure? }

theorem readable_of_passable {records : List Record}
    (passable : ∀ record ∈ records, Replica.Passable codec record) :
    readable codec records = records :=
  List.takeWhile_eq_self_iff.mpr fun record member => decide_eq_true (passable record member)

theorem readable_of_broken {before : List Record} {record : Record} {key : String}
    {error : DecodeError} (passable : ∀ earlier ∈ before, Replica.Passable codec earlier)
    (broken : Decoded.ofRecord codec record = .broken key error) (after : List Record) :
    readable codec (before ++ record :: after) = before := by
  have unreadable : ¬ Replica.Passable codec record := fun passable => passable key error broken
  rw [readable, List.takeWhile_append_of_pos fun earlier member =>
    decide_eq_true (passable earlier member), List.takeWhile_cons,
    if_neg (by simpa using unreadable), List.append_nil]

theorem failure?_of_passable {record : Record} (passable : Replica.Passable codec record) :
    (Decoded.ofRecord codec record).failure? = none := by
  cases said : Decoded.ofRecord codec record with
  | entry key value => rfl
  | legacy => rfl
  | broken key error => exact absurd said (passable key error)

theorem Effects.failure_of_passable {records : List Record}
    (passable : ∀ record ∈ records, Replica.Passable codec record) (observers : Nat) :
    (Effects.of codec observers records).failure = none :=
  List.findSome?_eq_none_iff.mpr fun record member => failure?_of_passable (passable record member)

theorem Effects.of_broken {before : List Record} {record : Record} {key : String}
    {error : DecodeError} (passable : ∀ earlier ∈ before, Replica.Passable codec earlier)
    (broken : Decoded.ofRecord codec record = .broken key error) (after : List Record)
    (observers : Nat) :
    Effects.of codec observers (before ++ record :: after) =
      { Effects.of codec observers before with failure := some (.serialization key error) } := by
  have failure : (before ++ record :: after).findSome?
      (fun record => (Decoded.ofRecord codec record).failure?) =
        some (.serialization key error) := by
    have silent :
        before.findSome? (fun record => (Decoded.ofRecord codec record).failure?) = none :=
      Effects.failure_of_passable passable observers
    rw [List.findSome?_append, silent, Option.none_or, List.findSome?_cons, broken]
    rfl
  simp only [Effects.of, readable_of_broken passable broken, readable_of_passable passable, failure]

theorem passable_of_legacy {record : Record} (legacy : Legacy codec record) :
    Replica.Passable codec record := by
  intro key error broken
  rw [← Decoded.isLegacy_iff, broken] at legacy
  cases legacy

theorem eq_legacy {record : Record} (legacy : Legacy codec record) :
    Decoded.ofRecord codec record = .legacy := by
  rw [← Decoded.isLegacy_iff] at legacy
  cases said : Decoded.ofRecord codec record with
  | legacy => rfl
  | entry key value => rw [said] at legacy; cases legacy
  | broken key error => rw [said] at legacy; cases legacy

theorem readable_filter (codec : Codec V) (records : List Record) :
    readable codec (records.filter (¬ Legacy codec ·)) =
      (readable codec records).filter (¬ Legacy codec ·) := by
  induction records with
  | nil => rfl
  | cons record rest ih =>
    unfold readable at ih ⊢
    by_cases legacy : Legacy codec record
    · have passed := passable_of_legacy legacy
      rw [List.filter_cons_of_neg (by simpa using legacy), ih, List.takeWhile_cons,
        if_pos (decide_eq_true passed), List.filter_cons_of_neg (by simpa using legacy)]
    · rw [List.filter_cons_of_pos (by simpa using legacy), List.takeWhile_cons,
        List.takeWhile_cons]
      split
      · rw [ih, List.filter_cons_of_pos (by simpa using legacy)]
      · rfl

theorem decodedEntries_filter (codec : Codec V) (records : List Record) :
    decodedEntries codec (records.filter (¬ Legacy codec ·)) = decodedEntries codec records := by
  rw [decodedEntries, List.filterMap_filter]
  refine List.filterMap_congr fun record _ => ?_
  by_cases legacy : Legacy codec record
  · rw [eq_legacy legacy, if_neg (by simpa using legacy)]
    rfl
  · rw [if_pos (by simpa using legacy)]

theorem transitions_filter (codec : Codec V) (live : Live V) (records : List Record) :
    live.transitions codec (records.filter (¬ Legacy codec ·)) =
      live.transitions codec records := by
  induction records generalizing live with
  | nil => rfl
  | cons record rest ih =>
    by_cases legacy : Legacy codec record
    · have no_entry : ¬ ∃ name value, Decoded.ofRecord codec record = .entry name value := by
        simp [eq_legacy legacy]
      rw [List.filter_cons_of_neg (by simpa using legacy), ih, Live.transitions,
        Live.transition_of_no_entry no_entry, Live.after_of_no_entry no_entry]
      rfl
    · rw [List.filter_cons_of_pos (by simpa using legacy), Live.transitions, ih, Live.transitions]

theorem Effects.of_filter (codec : Codec V) (observers : Nat) (records : List Record) :
    Effects.of codec observers (records.filter (¬ Legacy codec ·)) =
      Effects.of codec observers records := by
  have failure : (records.filter (¬ Legacy codec ·)).findSome?
      (fun record => (Decoded.ofRecord codec record).failure?) =
        records.findSome? fun record => (Decoded.ofRecord codec record).failure? := by
    induction records with
    | nil => rfl
    | cons record rest ih =>
      by_cases legacy : Legacy codec record
      · rw [List.filter_cons_of_neg (by simpa using legacy), ih, List.findSome?_cons,
          eq_legacy legacy]
        rfl
      · rw [List.filter_cons_of_pos (by simpa using legacy), List.findSome?_cons, ih,
          List.findSome?_cons]
  simp only [Effects.of, readable_filter, decodedEntries_filter, transitions_filter, failure]

end Effects

namespace Replica

def effects (s : Replica V (O × Nat) × E × List (Call V)) : Effects V :=
  ⟨s.1.entries, s.2.2, s.1.counters.applied, s.1.counters.tombstones, s.1.progress.failure⟩

def tail (f : Following V O E) (topic : String) (observers : List O) (shared : E)
    (ends earliest : Dictionary Int Int) (polls : List (List Record)) :
    Replica V (O × Nat) × E × List (Call V) :=
  polls.foldl (fun state batch => receive f.traced state (.ok batch))
    (({ topic, observers := observers.zipIdx } : Replica V (O × Nat)).begin ends earliest, shared,
      [])

structure Passed (f : Following V O E) (n : Nat) (records : List Record)
    (s : Replica V (O × Nat) × E × List (Call V)) : Prop where
  passable : ∀ record ∈ records, Passable f.codec record
  running : s.1.progress.stopped = false
  numbered : s.1.observers.map (·.2) = List.range n
  effects : effects s =
    ⟨.ofList (decodedEntries f.codec records),
      (Live.transitions f.codec .empty records).flatMap (Call.toAll n),
      (decodedEntries f.codec records).length,
      (decodedEntries f.codec records).countP (·.2.isNone), none⟩
  shown : s.1.get? = records.foldl (Live.after f.codec) .empty
  legacySkipped : s.1.counters.legacySkipped = records.countP (Legacy f.codec ·)
  consumed : s.1.progress.consumed = (Progress.past {} records).consumed

variable {f : Following V O E} {n : Nat} {records : List Record} {record : Record}
variable {s : Replica V (O × Nat) × E × List (Call V)}

theorem consume_counted {r : Replica V O} (running : r.progress.stopped = false)
    (passable : Passable f.codec record) (shared : E) :
    let after := (consume f (r, shared) record).1
    let decoded := decodedEntries f.codec [record]
    after.entries = decoded.foldl (fun d entry => d.insert entry.1 entry.2) r.entries ∧
      after.counters.applied = r.counters.applied + decoded.length ∧
      after.counters.tombstones = r.counters.tombstones + decoded.countP (·.2.isNone) ∧
      after.counters.legacySkipped =
        r.counters.legacySkipped + [record].countP (Legacy f.codec ·) := by
  intro after decoded
  cases said : Decoded.ofRecord f.codec record with
  | broken key error => exact absurd said (passable key error)
  | legacy =>
    have legacy : Legacy f.codec record := by rw [← Decoded.isLegacy_iff, said]; rfl
    have nothing : decoded = [] := by simp only [decoded, decodedEntries, List.filterMap_cons, said,
      Decoded.pair?, List.filterMap_nil]
    have passed : after = r.skipLegacy.advance record :=
      congrArg Prod.fst (consume_of_legacy running said)
    rw [nothing, passed, List.countP_singleton, if_pos (decide_eq_true legacy)]
    exact ⟨rfl, rfl, rfl, rfl⟩
  | entry key value =>
    have modern : ¬ Legacy f.codec record := by
      rw [← Decoded.isLegacy_iff, said]
      exact Bool.false_ne_true
    have one : decoded = [(key, value)] := by simp only [decoded, decodedEntries,
      List.filterMap_cons, said, Decoded.pair?, List.filterMap_nil]
    have told : after = (tell f record key (Change.between (r.get? key) value)
        (r.apply (f.now shared) key value) shared).1 :=
      congrArg Prod.fst (consume_of_entry running said)
    have frame := (tell_frame f record key (Change.between (r.get? key) value)
      (r.apply (f.now shared) key value) shared).1
    have counters := tell_counters f record key (Change.between (r.get? key) value)
      (r.apply (f.now shared) key value) shared
    rw [← told] at frame counters
    have unskipped : [record].countP (Legacy f.codec ·) = 0 := by
      rw [List.countP_singleton, if_neg (by simpa using modern)]
    rw [one, frame, counters, unskipped]
    refine ⟨rfl, rfl, ?_, rfl⟩
    cases value <;> rfl

namespace Passed

theorem consume_of_running (passed : Passed f n records s)
    (goes_on : (consume f.traced s record).1.progress.stopped = false) :
    Passed f n (records ++ [record]) (consume f.traced s record) := by
  obtain ⟨r, shared, calls⟩ := s
  obtain ⟨all, running, numbered, effects, shown, legacySkipped, consumed⟩ := passed
  simp only [Replica.effects, Effects.mk.injEq] at effects
  obtain ⟨entries, told, applied, tombstones, unfailed⟩ := effects
  have passable : Passable f.codec record := by
    intro key error broken
    rw [consume_of_broken (f := f.traced) running broken] at goes_on
    cases goes_on
  obtain ⟨moved, numbers, shows, heard⟩ : _ ∧ _ ∧ _ ∧ _ := by
    rcases consume_traced f shared calls record running numbered with calm |
      ⟨key, error, _, ended, _⟩ | ⟨_, _, _, _, _, ended, _⟩
    · exact calm
    · exact nomatch (congrArg Progress.stopped ended).symm.trans goes_on
    · exact nomatch (congrArg Progress.stopped ended).symm.trans goes_on
  obtain ⟨inserted, counted, removed, skipped⟩ :=
    consume_counted (f := f.traced) running passable (shared, calls)
  have more : decodedEntries f.codec (records ++ [record]) =
      decodedEntries f.codec records ++ decodedEntries f.codec [record] :=
    List.filterMap_append
  have changes : Live.transitions f.codec .empty (records ++ [record]) =
      Live.transitions f.codec .empty records ++
        (Live.transition f.codec r.get? record).toList := by
    rw [Live.transitions_append, ← shown, Live.transitions, Live.transitions, List.append_nil]
  constructor
  · exact List.forall_mem_append.mpr ⟨all, List.forall_mem_singleton.mpr passable⟩
  · exact goes_on
  · exact numbers
  · simp only [Replica.effects, Effects.mk.injEq, more, changes, List.flatMap_append,
      List.length_append, List.countP_append, ← applied, ← tombstones, ← told]
    refine ⟨?_, heard, counted, removed, (congrArg Progress.failure moved).trans unfailed⟩
    rw [Dictionary.ofList, List.foldl_append, ← Dictionary.ofList, ← entries]
    exact inserted
  · rw [List.foldl_append, ← shown]
    exact shows
  · rw [List.countP_append, ← legacySkipped]
    exact skipped
  · rw [moved, Progress.past, List.foldl_append, ← Progress.past]
    exact congrArg (fun d : Dictionary Int Int => d.insert record.partition (record.offset + 1))
      consumed

theorem consume (quiet : f.notify.Quiet) (passed : Passed f n records s)
    (passable : Passable f.codec record) :
    Passed f n (records ++ [record]) (consume f.traced s record) := by
  have moved := (consume_passable (f := f.traced) quiet.traced passed.running passable s.2).1
  exact passed.consume_of_running ((congrArg Progress.stopped moved).trans passed.running)

theorem foldl (quiet : f.notify.Quiet) (passed : Passed f n records s) {batch : List Record}
    (passable : ∀ record ∈ batch, Passable f.codec record) :
    Passed f n (records ++ batch) (batch.foldl (Replica.consume f.traced) s) := by
  induction batch generalizing records s with
  | nil =>
    rw [List.append_nil]
    exact passed
  | cons record rest ih =>
    obtain ⟨first, others⟩ := List.forall_mem_cons.mp passable
    rw [List.append_cons]
    exact ih (passed.consume quiet first) others

theorem endOfBatch (passed : Passed f n records s) (idle : Bool) :
    Passed f n records (s.1.endOfBatch idle, s.2) := by
  obtain ⟨caughtUp, same⟩ := s.1.endOfBatch_eq idle
  rw [same]
  exact ⟨passed.passable, passed.running, passed.numbered, passed.effects, passed.shown,
    passed.legacySkipped, passed.consumed⟩

theorem begun (f : Following V O E) (topic : String) (observers : List O) (shared : E)
    (ends earliest : Dictionary Int Int) :
    Passed f observers.length []
      (tail f topic observers shared ends earliest []) := by
  obtain ⟨target, caughtUp, same⟩ :=
    ({ topic, observers := observers.zipIdx } : Replica V (O × Nat)).begin_eq ends earliest
  rw [tail, List.foldl_nil, same]
  refine ⟨List.forall_mem_nil _, rfl, ?_, rfl, rfl, rfl, rfl⟩
  rw [List.zipIdx_map_snd, List.range_eq_range']

theorem effects_eq (passed : Passed f n records s) :
    Replica.effects s = .of f.codec n records := by
  have unfailed := Effects.failure_of_passable passed.passable n
  rw [passed.effects]
  simp only [Effects.of, readable_of_passable passed.passable] at unfailed ⊢
  rw [unfailed]

end Passed

/-- A store that was given these records: it has moved past them all, or past those up to the first
that cannot be read, which stopped it. -/
inductive Given (f : Following V O E) (n : Nat) :
    List Record → Replica V (O × Nat) × E × List (Call V) → Prop where
  | running {records : List Record} {s : Replica V (O × Nat) × E × List (Call V)}
    (passed : Passed f n records s) : Given f n records s
  | failed {before : List Record} {record : Record} {key : String} {error : DecodeError}
    {s : Replica V (O × Nat) × E × List (Call V)}
    (broken : Decoded.ofRecord f.codec record = .broken key error) (passed : Passed f n before s)
    (rest : List Record) :
    Given f n (before ++ record :: rest)
      (s.1.finish (some (.serialization key error)), s.2)

theorem Given.receive (quiet : f.notify.Quiet) (given : Given f n records s)
    (batch : List Record) :
    Given f n (records ++ batch) (receive f.traced s (.ok batch)) := by
  cases given with
  | failed broken passed rest =>
    rw [List.append_assoc, List.cons_append, receive_of_stopped rfl]
    exact .failed broken passed (rest ++ batch)
  | running passed =>
    have received : Replica.receive f.traced s (.ok batch) =
        ((batch.foldl (consume f.traced) s).1.endOfBatch batch.isEmpty,
          (batch.foldl (consume f.traced) s).2) := by
      simp only [Replica.receive, passed.running, Bool.false_eq_true, ite_false]
    rw [received]
    rcases passable_or_fault f.codec batch with
      all | ⟨before, record, rest, key, error, rfl, earlier, broken⟩
    · exact .running ((passed.foldl quiet all).endOfBatch batch.isEmpty)
    · have ended := foldl_consume_fault (f := f.traced) quiet.traced passed.running earlier broken
        rest s.2
      rw [ended, endOfBatch_of_stopped rfl, ← List.append_assoc]
      exact .failed broken (passed.foldl quiet earlier) rest

theorem given_tail (f : Following V O E) (quiet : f.notify.Quiet) (topic : String)
    (observers : List O) (shared : E) (ends earliest : Dictionary Int Int)
    (polls : List (List Record)) :
    Given f observers.length polls.flatten
      (tail f topic observers shared ends earliest polls) := by
  induction polls using List.reverseRecOn with
  | nil => exact .running (.begun f topic observers shared ends earliest)
  | append_singleton polls batch ih =>
    rw [tail, List.foldl_append, ← tail, List.flatten_concat]
    exact ih.receive quiet batch

theorem Given.effects_eq (given : Given f n records s) :
    effects s = .of f.codec n records ∧
      s.1.counters.legacySkipped = (readable f.codec records).countP (Legacy f.codec ·) ∧
      s.1.progress.consumed = (Progress.past {} (readable f.codec records)).consumed := by
  cases given with
  | running passed =>
    rw [readable_of_passable passed.passable]
    exact ⟨passed.effects_eq, passed.legacySkipped, passed.consumed⟩
  | failed broken passed rest =>
    rw [readable_of_broken passed.passable broken, Effects.of_broken passed.passable broken,
      ← passed.effects_eq]
    refine ⟨?_, passed.legacySkipped, passed.consumed⟩
    have unfailed : _ = none := congrArg Effects.failure passed.effects
    simp only [effects] at unfailed
    simp only [effects, finish, Progress.finish, unfailed, Option.none_or]

theorem passable_of_readable {codec : Codec V} {record : Record}
    (readable : ∀ key error, ¬ Unreadable codec record key error) : Passable codec record :=
  fun key error broken => readable key error (Decoded.eq_broken_iff.mp broken)

/-- What tailing comes to, as long as no observer panics. Over any polls the store's map, the calls
to its observers, its counts and its failure are what the records that decode add up to, before the
first that cannot be read. Other polls with the same records, or with the same but for legacy ones,
come to the same; of the legacy records only the number is kept. The first record that cannot be
read leaves all as those before it left it, but for the failure, and is not passed. -/
theorem tailing_is_fail_stop_fold (f : Following V O E) (quiet : f.notify.Quiet) (topic : String)
    (observers : List O) (shared : E) (ends earliest : Dictionary Int Int)
    (polls : List (List Record)) :
    let tailed := tail f topic observers shared ends earliest
    let s := tailed polls
    polls.foldl (fun state batch => receive f state (.ok batch))
        (({ topic, observers } : Replica V O).begin ends earliest, shared) =
          (s.1.unnumbered, s.2.1) ∧
      effects s = .of f.codec observers.length polls.flatten ∧
      (∀ others : List (List Record), others.flatten.filter (¬ Legacy f.codec ·) =
        polls.flatten.filter (¬ Legacy f.codec ·) → effects (tailed others) = effects s) ∧
      s.1.counters.legacySkipped =
        (readable f.codec polls.flatten).countP (Legacy f.codec ·) ∧
      ∀ before record after key error, polls.flatten = before ++ record :: after →
        (∀ earlier ∈ before, ∀ key error, ¬ Unreadable f.codec earlier key error) →
        Unreadable f.codec record key error →
          (∀ others : List (List Record), others.flatten = before → effects s =
            { effects (tailed others) with failure := some (.serialization key error) }) ∧
          readable f.codec polls.flatten = before ∧
          ((before ++ [record]).Pairwise (fun a b =>
              a.partition = b.partition → a.offset < b.offset) →
            0 ≤ record.offset → s.1.progress.reached record.partition record.offset = false) := by
  intro tailed s
  have comes_to (polls : List (List Record)) :=
    (given_tail f quiet topic observers shared ends earliest polls).effects_eq
  obtain ⟨effects_eq, skipped, consumed⟩ := comes_to polls
  refine ⟨?_, effects_eq, fun others same => ?_, skipped, ?_⟩
  · let fresh :=
      ({ topic, observers := observers.zipIdx } : Replica V (O × Nat)).begin ends earliest
    have same : fresh.unnumbered = ({ topic, observers } : Replica V O).begin ends earliest := by
      simp only [fresh, unnumbered, begin, List.zipIdx_map_fst]
    rw [← same]
    exact (untraced f).foldl_receive polls (fresh, shared, [])
  · rw [effects_eq, (comes_to others).1, ← Effects.of_filter, same, Effects.of_filter]
  · intro before record after key error split earlier unreadable
    have broken := Decoded.eq_broken_iff.mpr unreadable
    have passable : ∀ earlier ∈ before, Passable f.codec earlier :=
      fun other member => passable_of_readable (earlier other member)
    have taken : readable f.codec polls.flatten = before :=
      split ▸ readable_of_broken passable broken after
    refine ⟨fun others same => ?_, taken, fun ordered positive => ?_⟩
    · rw [effects_eq, (comes_to others).1, same, split, Effects.of_broken passable broken]
    · have below : (Progress.past {} before).watermark record.partition ≤ record.offset := by
        refine Progress.watermark_past_le (fun other member same => ?_) positive
        exact (List.pairwise_append.mp ordered).2.2 other member record
          (List.mem_singleton_self record) same
      rw [taken] at consumed
      rw [Progress.watermark, ← consumed] at below
      exact decide_eq_false (Int.not_lt.mpr below)

/-- A legacy key hides a value that cannot be read; a key that cannot be read is not hidden by a
legacy value. -/
def spoiledPolls : List (List Record) :=
  [[⟨0, 0, Key.encode "a", some [1, 7]⟩, ⟨0, 1, [0], some [9]⟩], [],
    [⟨0, 2, [3], some [0]⟩, ⟨0, 3, Key.encode "a", none⟩]]

theorem bad_key_stops_store :
    let tailed := tail .plain "roads" [(), ()] () .empty .empty
    let s := tailed spoiledPolls
    let before := spoiledPolls.head!
    Following.plain.notify.Quiet ∧
      Unreadable Codec.plain ⟨0, 2, [3], some [0]⟩ "\x03" (.unknownTag 3) ∧
      effects s = { effects (tailed [before]) with
        failure := some (.serialization "\x03" (.unknownTag 3)) } ∧
      s.1.keys = ["a"] ∧ s.1.counters.legacySkipped = 1 ∧ s.2.2.length = 2 ∧
      s.1.progress.reached 0 2 = false := by
  intro tailed s before
  have quiet : Following.plain.notify.Quiet := fun _ _ _ _ _ => rfl
  have unreadable : Unreadable Codec.plain ⟨0, 2, [3], some [0]⟩ "\x03" (.unknownTag 3) :=
    ⟨rfl, .inl ⟨rfl, by decide +kernel⟩⟩
  have passable : ∀ record ∈ before, Passable Codec.plain record := by decide +kernel
  obtain ⟨_, _, _, _, fails⟩ :=
    tailing_is_fail_stop_fold .plain quiet "roads" [(), ()] () .empty .empty spoiledPolls
  obtain ⟨same, _, unpassed⟩ := fails before _ _ "\x03" (.unknownTag 3) rfl
    (fun record member key error bad =>
      passable record member key error (Decoded.eq_broken_iff.mpr bad)) unreadable
  exact ⟨quiet, unreadable, same [before] rfl, by decide +kernel, by decide +kernel,
    by decide +kernel, unpassed (by decide) (by decide)⟩

end Replica

end RoadRegistry
