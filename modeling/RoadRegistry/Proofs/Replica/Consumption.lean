import Mathlib.Data.List.Induction
import RoadRegistry.Proofs.Replica.Outcome

namespace RoadRegistry

def Notify.Quiet (notify : Notify V O E) : Prop :=
  ∀ get key change observer shared, (notify get key change observer shared).panicked = false

theorem Notify.Quiet.all {notify : Notify V O E} (quiet : notify.Quiet) (get : String → Option V)
    (key : String) (change : Change V) (observers : List O) (shared : E) :
    (notify.all get key change observers shared).panicked = false := by
  induction observers generalizing shared with
  | nil => rfl
  | cons observer rest ih =>
    rw [Notify.all]
    simp only [quiet get key change observer shared, Bool.false_eq_true, ite_false]
    exact ih _

theorem Progress.watermark_advance (progress : Progress) (record : Record) (partition : Int) :
    ((progress.advance record.position).consumed.get? partition).getD 0 =
      if partition = record.partition then record.offset + 1
      else (progress.consumed.get? partition).getD 0 := by
  have inserted : (progress.advance record.position).consumed =
      progress.consumed.insert record.partition (record.offset + 1) := rfl
  by_cases here : partition = record.partition
  · rw [if_pos here, here, inserted, Dictionary.get?_insert_self]
    rfl
  · rw [if_neg here, inserted, Dictionary.get?_insert_of_ne _ here]

namespace Replica

variable {f : Following V O E} {r : Replica V O} {shared : E} {record : Record}

theorem consume_of_stopped (ended : r.progress.stopped = true) :
    consume f (r, shared) record = (r, shared) := by
  unfold consume
  simp only [ended, ite_true]

theorem foldl_consume_of_stopped (ended : r.progress.stopped = true) (records : List Record) :
    records.foldl (consume f) (r, shared) = (r, shared) := by
  induction records with
  | nil => rfl
  | cons record rest ih => rw [List.foldl_cons, consume_of_stopped ended, ih]

theorem foldl_consume_of_finished {failed : Replica V O} {error : StoreError}
    (ended : failed.progress = r.progress.finish (some error))
    (unfailed : r.progress.failure = none) (records : List Record) (shared : E) :
    records.foldl (consume f) (failed, shared) = (failed, shared) ∧
      failed.progress.stopped = true ∧ failed.progress.failure = some error := by
  have stopped : failed.progress.stopped = true := by
    rw [ended]
    rfl
  refine ⟨foldl_consume_of_stopped stopped records, stopped, ?_⟩
  rw [ended, Progress.finish, unfailed]
  rfl

theorem running_of_consume (goes_on : (consume f (r, shared) record).1.progress.stopped = false) :
    r.progress.stopped = false := by
  cases ended : r.progress.stopped with
  | false => rfl
  | true =>
    rw [consume_of_stopped ended, ended] at goes_on
    exact goes_on

theorem consume_of_legacy (running : r.progress.stopped = false)
    (said : Decoded.ofRecord f.codec record = .legacy) :
    consume f (r, shared) record = (r.skipLegacy.advance record, shared) := by
  unfold consume
  simp only [running, said, Bool.false_eq_true, ite_false]

theorem consume_of_broken {key : String} {error : DecodeError}
    (running : r.progress.stopped = false)
    (said : Decoded.ofRecord f.codec record = .broken key error) :
    consume f (r, shared) record = (r.finish (some (.serialization key error)), shared) := by
  unfold consume
  simp only [running, said, Bool.false_eq_true, ite_false]

theorem consume_of_entry {key : String} {value : Option V} (running : r.progress.stopped = false)
    (said : Decoded.ofRecord f.codec record = .entry key value) :
    consume f (r, shared) record = tell f record key (Change.between (r.get? key) value)
      (r.apply (f.now shared) key value) shared := by
  unfold consume
  simp only [running, said, Bool.false_eq_true, ite_false]

theorem get?_apply (r : Replica V O) (now : UInt64) (key : String) (value : Option V) :
    (r.apply now key value).get? = fun other => if other = key then value else r.get? other := by
  funext other
  simp only [get?, apply, Dictionary.get?_insert]
  split <;> rfl

theorem tell_of_calm {key : String} {change : Change V}
    (calm : (f.notify.all r.get? key change r.observers shared).panicked = false) :
    tell f record key (some change) r shared =
      ({ r with observers := (f.notify.all r.get? key change r.observers shared).observer }.advance
        record, (f.notify.all r.get? key change r.observers shared).shared) := by
  simp only [tell, calm, Bool.false_eq_true, ite_false]

theorem tell_of_panicked {key : String} {change : Change V}
    (panicked : (f.notify.all r.get? key change r.observers shared).panicked = true) :
    tell f record key (some change) r shared =
      ({ r with observers := (f.notify.all r.get? key change r.observers shared).observer }.finish
        (some .panicked), (f.notify.all r.get? key change r.observers shared).shared) := by
  simp only [tell, panicked, ite_true]

theorem tell_frame (f : Following V O E) (record : Record) (key : String)
    (change : Option (Change V)) (r : Replica V O) (shared : E) :
    (tell f record key change r shared).1.entries = r.entries ∧
      (tell f record key change r shared).1.closed = r.closed := by
  cases change with
  | none => exact ⟨rfl, rfl⟩
  | some change =>
    cases told : (f.notify.all r.get? key change r.observers shared).panicked with
    | true =>
      rw [tell_of_panicked told]
      exact ⟨rfl, rfl⟩
    | false =>
      rw [tell_of_calm told]
      exact ⟨rfl, rfl⟩

theorem tell_counters (f : Following V O E) (record : Record) (key : String)
    (change : Option (Change V)) (r : Replica V O) (shared : E) :
    (tell f record key change r shared).1.counters = r.counters := by
  cases change with
  | none => rfl
  | some change =>
    cases told : (f.notify.all r.get? key change r.observers shared).panicked with
    | true => rw [tell_of_panicked told]; rfl
    | false => rw [tell_of_calm told]; rfl

theorem tell_progress (f : Following V O E) (record : Record) (key : String)
    (change : Option (Change V)) (r : Replica V O) (shared : E) :
    (tell f record key change r shared).1.progress = r.progress.advance record.position ∨
      (tell f record key change r shared).1.progress =
        r.progress.finish (some .panicked) ∧ ¬ f.notify.Quiet := by
  cases change with
  | none => exact .inl rfl
  | some change =>
    cases told : (f.notify.all r.get? key change r.observers shared).panicked with
    | true =>
      rw [tell_of_panicked told]
      refine .inr ⟨rfl, fun quiet => ?_⟩
      rw [quiet.all] at told
      cases told
    | false =>
      rw [tell_of_calm told]
      exact .inl rfl

/-- Consuming a record either ends tailing or moves past the record, which was legible, with the map
showing what it said. -/
theorem consume_cases (f : Following V O E) (shared : E) (record : Record)
    (running : r.progress.stopped = false) :
    (∃ failure, (consume f (r, shared) record).1.progress = r.progress.finish (some failure)) ∨
      ((consume f (r, shared) record).1.progress = r.progress.advance record.position ∧
        (∀ name error, Decoded.ofRecord f.codec record ≠ .broken name error) ∧
        ∀ key, (consume f (r, shared) record).1.entries.get? key =
          ((Decoded.ofRecord f.codec record).about key).or (r.entries.get? key)) := by
  cases said : Decoded.ofRecord f.codec record with
  | legacy =>
    rw [consume_of_legacy running said]
    exact .inr ⟨rfl, fun _ _ => by simp, fun key => rfl⟩
  | broken name error =>
    rw [consume_of_broken running said]
    exact .inl ⟨_, rfl⟩
  | entry name value =>
    rw [consume_of_entry running said]
    have frame := (tell_frame f record name (Change.between (r.get? name) value)
      (r.apply (f.now shared) name value) shared).1
    rcases tell_progress f record name (Change.between (r.get? name) value)
      (r.apply (f.now shared) name value) shared with moved | ⟨ended, _⟩
    · refine .inr ⟨moved, fun _ _ => by simp, fun key => ?_⟩
      rw [frame]
      simp only [apply, Dictionary.get?_insert, Decoded.about, eq_comm (a := key)]
      split <;> rfl
    · exact .inl ⟨_, ended⟩

theorem consume_closed : (consume f (r, shared) record).1.closed = r.closed := by
  cases ended : r.progress.stopped with
  | true => rw [consume_of_stopped ended]
  | false =>
    cases said : Decoded.ofRecord f.codec record with
    | legacy => rw [consume_of_legacy ended said]; rfl
    | broken name error => rw [consume_of_broken ended said]; rfl
    | entry name value =>
      rw [consume_of_entry ended said]
      exact (tell_frame ..).2

theorem consume_running (shared : E) (quiet : f.notify.Quiet) {key : String} {value : Option V}
    (said : Decoded.ofRecord f.codec record = .entry key value)
    (running : r.progress.stopped = false) :
    (consume f (r, shared) record).1.progress = r.progress.advance record.position := by
  rw [consume_of_entry running said]
  rcases tell_progress f record key (Change.between (r.get? key) value)
    (r.apply (f.now shared) key value) shared with moved | ⟨_, loud⟩
  · exact moved
  · exact absurd quiet loud

/-- A record that does not end tailing by itself: it decodes, or is passed over. -/
def Passable (codec : Codec V) (record : Record) : Prop :=
  ∀ key error, Decoded.ofRecord codec record ≠ .broken key error

instance (codec : Codec V) (record : Record) : Decidable (Passable codec record) :=
  match said : Decoded.ofRecord codec record with
  | .entry _ _ => isTrue fun _ _ broken => nomatch said.symm.trans broken
  | .legacy => isTrue fun _ _ broken => nomatch said.symm.trans broken
  | .broken key error => isFalse fun passable => passable key error said

theorem passable_or_fault (codec : Codec V) (records : List Record) :
    (∀ record ∈ records, Passable codec record) ∨
      ∃ before record after key error, records = before ++ record :: after ∧
        (∀ earlier ∈ before, Passable codec earlier) ∧
        Decoded.ofRecord codec record = .broken key error := by
  induction records with
  | nil => exact .inl (List.forall_mem_nil _)
  | cons first rest ih =>
    by_cases passable : Passable codec first
    · rcases ih with all | ⟨before, record, after, key, error, rfl, earlier, broken⟩
      · exact .inl (List.forall_mem_cons.mpr ⟨passable, all⟩)
      · exact .inr ⟨first :: before, record, after, key, error, rfl,
          List.forall_mem_cons.mpr ⟨passable, earlier⟩, broken⟩
    · simp only [Passable, ne_eq, not_forall, not_not] at passable
      obtain ⟨key, error, broken⟩ := passable
      exact .inr ⟨[], first, rest, key, error, rfl, List.forall_mem_nil _, broken⟩

theorem consume_passable (quiet : f.notify.Quiet) (running : r.progress.stopped = false)
    (passable : Passable f.codec record) (shared : E) :
    (consume f (r, shared) record).1.progress = r.progress.advance record.position ∧
      ∀ key, (consume f (r, shared) record).1.entries.get? key =
        ((Decoded.ofRecord f.codec record).about key).or (r.entries.get? key) := by
  rcases consume_cases f shared record running with ⟨failure, ended⟩ | ⟨moved, _, shown⟩
  · cases said : Decoded.ofRecord f.codec record with
    | legacy =>
      rw [consume_of_legacy running said]
      exact ⟨rfl, fun _ => rfl⟩
    | broken key error => exact absurd said (passable key error)
    | entry key value =>
      have moved := consume_running shared quiet said running
      have stopped := congrArg Progress.stopped (ended.symm.trans moved)
      rw [show (r.progress.advance record.position).stopped = r.progress.stopped from rfl,
        running] at stopped
      cases stopped
  · exact ⟨moved, shown⟩

theorem foldl_consume_passable (quiet : f.notify.Quiet) (running : r.progress.stopped = false)
    {records : List Record} (passable : ∀ record ∈ records, Passable f.codec record) (shared : E) :
    let s := (records.foldl (consume f) (r, shared)).1
    s.progress.stopped = false ∧ s.progress.failure = r.progress.failure ∧
      ∀ key, s.entries.get? key = (outcome f.codec records key).or (r.entries.get? key) := by
  induction records using List.reverseRecOn with
  | nil => exact ⟨running, rfl, fun _ => rfl⟩
  | append_singleton records record ih =>
    obtain ⟨still, unfailed, shown⟩ :=
      ih fun other member => passable other (List.mem_append_left _ member)
    obtain ⟨moved, next⟩ := consume_passable quiet still
      (passable record (List.mem_append_right _ (List.mem_singleton_self _)))
      (records.foldl (consume f) (r, shared)).2
    simp only [List.foldl_append, List.foldl_cons, List.foldl_nil]
    refine ⟨(congrArg Progress.stopped moved).trans still,
      (congrArg Progress.failure moved).trans unfailed, fun key => ?_⟩
    rw [outcome_concat, Option.or_assoc, ← shown]
    exact next key

theorem foldl_consume_fault (quiet : f.notify.Quiet) (running : r.progress.stopped = false)
    {before : List Record} (passable : ∀ record ∈ before, Passable f.codec record)
    {key : String} {error : DecodeError}
    (broken : Decoded.ofRecord f.codec record = .broken key error) (after : List Record)
    (shared : E) :
    let s := before.foldl (consume f) (r, shared)
    (before ++ record :: after).foldl (consume f) (r, shared) =
      (s.1.finish (some (.serialization key error)), s.2) := by
  intro s
  have still := (foldl_consume_passable quiet running passable shared).1
  rw [List.foldl_append, List.foldl_cons]
  change after.foldl (consume f) (consume f (s.1, s.2) record) = _
  rw [consume_of_broken still broken]
  exact foldl_consume_of_stopped rfl after

/-- What a replica shows and how far it has come, by the records it moved past. -/
structure Mirrors (codec : Codec V) (r : Replica V O) (consumed : List Record) : Prop where
  entries : ∀ key, r.entries.get? key = outcome codec consumed key
  legible : ∀ record ∈ consumed, ∀ name error, Decoded.ofRecord codec record ≠ .broken name error
  passed : ∀ record ∈ consumed,
    record.offset < (r.progress.consumed.get? record.partition).getD 0
  reached : ∀ partition offset, r.progress.reached partition offset = true → 0 ≤ offset →
    ∃ record ∈ consumed, record.partition = partition ∧ offset ≤ record.offset

namespace Mirrors

variable {consumed : List Record}

theorem initial (codec : Codec V) (topic : String) (observers : List O) :
    Mirrors codec ({ topic, observers } : Replica V O) [] where
  entries key := rfl
  legible := by simp
  passed := by simp
  reached partition offset reached positive := by
    have below : offset < 0 := of_decide_eq_true reached
    omega

theorem congr {s : Replica V O} {codec : Codec V} (mirrors : r.Mirrors codec consumed)
    (entries : s.entries = r.entries) (offsets : s.progress.consumed = r.progress.consumed) :
    s.Mirrors codec consumed where
  entries key := by rw [entries, mirrors.entries]
  legible := mirrors.legible
  passed record member := by
    rw [offsets]
    exact mirrors.passed record member
  reached partition offset reached positive := by
    rw [Progress.reached, offsets] at reached
    exact mirrors.reached partition offset reached positive

theorem consume (mirrors : r.Mirrors f.codec consumed)
    (ordered : (consumed ++ [record]).Pairwise fun a b =>
      a.partition = b.partition → a.offset < b.offset)
    (goes_on : (consume f (r, shared) record).1.progress.stopped = false) :
    (Replica.consume f (r, shared) record).1.Mirrors f.codec (consumed ++ [record]) := by
  have running := running_of_consume goes_on
  rcases consume_cases f shared record running with ⟨failure, ended⟩ | ⟨moved, legible, shown⟩
  · rw [ended] at goes_on
    cases goes_on
  · have watermark (partition : Int) :
        ((Replica.consume f (r, shared) record).1.progress.consumed.get? partition).getD 0 =
          if partition = record.partition then record.offset + 1
          else (r.progress.consumed.get? partition).getD 0 := by
      rw [moved]
      exact Progress.watermark_advance r.progress record partition
    constructor
    · intro key
      rw [shown, outcome_concat, mirrors.entries]
    · intro other member
      rcases List.mem_append.mp member with member | member
      · exact mirrors.legible other member
      · rw [List.mem_singleton.mp member]
        exact legible
    · intro other member
      rw [watermark]
      rcases List.mem_append.mp member with member | member
      · split
        · next same =>
          have := (List.pairwise_append.mp ordered).2.2 other member record
            (List.mem_singleton_self record) same
          omega
        · exact mirrors.passed other member
      · rw [List.mem_singleton.mp member, if_pos rfl]
        omega
    · intro partition offset reached positive
      have below : offset < _ := of_decide_eq_true reached
      rw [watermark] at below
      split at below
      · next same =>
        exact ⟨record, List.mem_append_right _ (List.mem_singleton_self record), same.symm,
          by omega⟩
      · obtain ⟨earlier, member, here, bound⟩ :=
          mirrors.reached partition offset (decide_eq_true below) positive
        exact ⟨earlier, List.mem_append_left _ member, here, bound⟩

end Mirrors

end Replica

end RoadRegistry
