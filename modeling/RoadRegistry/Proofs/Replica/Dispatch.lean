import RoadRegistry.Proofs.Replica.Consumption
import RoadRegistry.Proofs.Replica.Snapshot
import RoadRegistry.Proofs.Replica.Transitions
import RoadRegistry.Proofs.Replica.View
import RoadRegistry.Replica.Recorder

namespace RoadRegistry

structure Call (V : Type) where
  observer : Nat
  key : String
  change : Change V
  seen : Option V
  panicked : Bool

/-- Observers with numbers, whose calls are written down. -/
def Notify.traced (notify : Notify V O E) : Notify V (O × Nat) (E × List (Call V)) :=
  fun get key change observer shared =>
    let notice := notify get key change observer.1 shared.1
    let call := ⟨observer.2, key, change, get key, notice.panicked⟩
    ⟨(notice.observer, observer.2), (notice.shared, shared.2 ++ [call]), notice.panicked⟩

theorem Notify.Quiet.traced {notify : Notify V O E} (quiet : notify.Quiet) :
    notify.traced.Quiet :=
  fun get key change observer shared => quiet get key change observer.1 shared.1

def Following.traced (f : Following V O E) : Following V (O × Nat) (E × List (Call V)) where
  codec := f.codec
  now shared := f.now shared.1
  notify := f.notify.traced

def Call.telling (panicked : Bool) (change : String × Change V) (observer : Nat) : Call V :=
  ⟨observer, change.1, change.2, change.2.result, panicked⟩

def Call.toAll (observers : Nat) (change : String × Change V) : List (Call V) :=
  (List.range observers).map (telling false change)

def Call.heardBy (observer : Nat) (calls : List (Call V)) : List (String × Change V) :=
  calls.filterMap fun call =>
    if call.observer = observer then some (call.key, call.change) else none

/-- The calls over some records, and the failure that ended them: all observers are told of each
change before any is told of the next, up to a record that cannot be decoded or an observer that
panics. -/
inductive Told (codec : Codec V) (observers : Nat) (live : Live V) :
    List Record → Option StoreError → List (Call V) → Prop where
  | all (records : List Record) :
    Told codec observers live records none
      ((live.transitions codec records).flatMap (Call.toAll observers))
  | broken (applied rest : List Record) {record : Record} {key : String} {error : DecodeError}
      (fault : Decoded.ofRecord codec record = .broken key error) :
    Told codec observers live (applied ++ record :: rest) (some (.serialization key error))
      ((live.transitions codec applied).flatMap (Call.toAll observers))
  | panicked (applied rest : List Record) {record : Record} {change : String × Change V}
      {observer : Nat} (inside : observer < observers)
      (changed : (applied.foldl (Live.after codec) live).transition codec record = some change) :
    Told codec observers live (applied ++ record :: rest) (some .panicked)
      ((live.transitions codec applied).flatMap (Call.toAll observers) ++
        (List.range observer).map (Call.telling false change) ++
          [Call.telling true change observer])

theorem Told.cons {codec : Codec V} {n : Nat} {live : Live V} {record : Record}
    {rest : List Record}
    {failure : Option StoreError} {later : List (Call V)}
    (told : Told codec n (live.after codec record) rest failure later) :
    Told codec n live (record :: rest) failure
      ((live.transition codec record).toList.flatMap (Call.toAll n) ++ later) := by
  cases told with
  | all =>
    rw [← List.flatMap_append]
    exact .all (record :: rest)
  | broken applied rest fault =>
    rw [← List.flatMap_append]
    exact .broken (record :: applied) rest fault
  | panicked applied rest inside changed =>
    rw [← List.append_assoc, ← List.append_assoc, ← List.flatMap_append]
    exact .panicked (record :: applied) rest inside changed

theorem Call.heardBy_toAll (observer observers : Nat) (change : String × Change V) :
    heardBy observer (toAll observers change) = if observer < observers then [change] else [] := by
  induction observers with
  | zero => rfl
  | succ n ih =>
    have last : toAll (n + 1) change = toAll n change ++ [telling false change n] := by
      rw [toAll, List.range_succ, List.map_append]
      rfl
    rw [last, heardBy, List.filterMap_append]
    change heardBy observer (toAll n change) ++ _ = _
    rw [ih]
    by_cases here : n = observer
    · subst here
      simp [telling]
    · by_cases below : observer < n
      · simp [telling, here, below, Nat.lt_succ_of_lt below]
      · have above : ¬ observer < n + 1 := by omega
        simp [telling, here, below, above]

theorem Call.heardBy_flatMap {observer observers : Nat} (inside : observer < observers)
    (changes : List (String × Change V)) :
    heardBy observer (changes.flatMap (toAll observers)) = changes := by
  have each (change : String × Change V) : (toAll observers change).filterMap
      (fun call => if call.observer = observer then some (call.key, call.change) else none) =
        [change] := by
    have once := heardBy_toAll observer observers change
    rw [if_pos inside] at once
    exact once
  rw [heardBy, List.filterMap_flatMap]
  simp only [each, List.flatMap_singleton']

theorem Told.heardBy {codec : Codec V} {observers observer : Nat} {live : Live V}
    {records : List Record} {failure : Option StoreError} {calls : List (Call V)}
    (told : Told codec observers live records failure calls) (unfailed : failure = none)
    (inside : observer < observers) :
    Call.heardBy observer calls = live.transitions codec records := by
  cases told with
  | all => exact Call.heardBy_flatMap inside _
  | broken => cases unfailed
  | panicked => cases unfailed

namespace Replica

def unnumbered (r : Replica V (O × Nat)) : Replica V O where
  topic := r.topic
  entries := r.entries
  progress := r.progress
  counters := r.counters
  observers := r.observers.map (·.1)
  closed := r.closed

variable {f : Following V O E} {r : Replica V (O × Nat)} {shared : E} {calls : List (Call V)}
variable {record : Record}

def untraced (f : Following V O E) : View f.traced f where
  observer := Prod.fst
  shared := Prod.fst
  time := id
  time_zero := rfl
  codec := rfl
  now _ := rfl
  notify _ _ _ _ _ := rfl

theorem range_eq_append {n index : Nat} {before after : List Nat}
    (split : List.range n = before ++ index :: after) :
    before = List.range index ∧ index < n := by
  have here : (List.range n)[before.length]? = some index := by
    rw [split, List.getElem?_append_right (Nat.le_refl _), Nat.sub_self]
    rfl
  obtain ⟨inside, same⟩ := List.getElem?_eq_some_iff.mp here
  rw [List.getElem_range] at same
  rw [List.length_range] at inside
  refine ⟨?_, same ▸ inside⟩
  have first : (List.range n).take before.length = before := by
    rw [split, List.take_left]
  rw [← first, List.take_range, Nat.min_eq_left (Nat.le_of_lt inside), same]

theorem all_traced {get : String → Option V} {key : String} {change : Change V}
    (shown : get key = change.result) (notify : Notify V O E) (observers : List (O × Nat))
    (shared : E) (calls : List (Call V)) :
    let notice := notify.traced.all get key change observers (shared, calls)
    notice.observer.map (·.2) = observers.map (·.2) ∧
      ((notice.panicked = false ∧ notice.shared.2 =
          calls ++ (observers.map (·.2)).map (Call.telling false (key, change))) ∨
        (notice.panicked = true ∧ ∃ before index after,
          observers.map (·.2) = before ++ index :: after ∧ notice.shared.2 =
            calls ++ before.map (Call.telling false (key, change)) ++
              [Call.telling true (key, change) index])) := by
  induction observers generalizing shared calls with
  | nil => exact ⟨rfl, .inl ⟨rfl, (List.append_nil _).symm⟩⟩
  | cons observer rest ih =>
    cases gone : (notify get key change observer.1 shared).panicked with
    | true =>
      have all_cons : notify.traced.all get key change (observer :: rest) (shared, calls) =
          ⟨((notify get key change observer.1 shared).observer, observer.2) :: rest,
            ((notify get key change observer.1 shared).shared,
              calls ++ [Call.telling true (key, change) observer.2]), true⟩ := by
        simp only [Notify.all, Notify.traced, gone, ite_true, shown]
        rfl
      rw [all_cons]
      exact ⟨rfl, .inr ⟨rfl, [], observer.2, rest.map (·.2), rfl, by simp⟩⟩
    | false =>
      obtain ⟨numbers, told⟩ := ih (notify get key change observer.1 shared).shared
        (calls ++ [Call.telling false (key, change) observer.2])
      have all_cons : notify.traced.all get key change (observer :: rest) (shared, calls) =
          let others := notify.traced.all get key change rest
            ((notify get key change observer.1 shared).shared,
              calls ++ [Call.telling false (key, change) observer.2])
          ⟨((notify get key change observer.1 shared).observer, observer.2) :: others.observer,
            others.shared, others.panicked⟩ := by
        simp only [Notify.all, Notify.traced, gone, Bool.false_eq_true, ite_false, shown]
        rfl
      rw [all_cons]
      refine ⟨congrArg (observer.2 :: ·) numbers, ?_⟩
      rcases told with ⟨calm, heard⟩ | ⟨panicked, before, index, after, split, heard⟩
      · refine .inl ⟨calm, ?_⟩
        exact heard.trans (by simp)
      · refine .inr ⟨panicked, observer.2 :: before, index, after, ?_, ?_⟩
        · rw [List.map_cons, split]
          rfl
        · exact heard.trans (by simp)

theorem consume_traced {n : Nat} (f : Following V O E) (shared : E) (calls : List (Call V))
    (record : Record) (running : r.progress.stopped = false)
    (numbered : r.observers.map (·.2) = List.range n) :
    let s := consume f.traced (r, shared, calls) record
    (s.1.progress = r.progress.advance record.position ∧
        s.1.observers.map (·.2) = List.range n ∧
        s.1.get? = Live.after f.codec r.get? record ∧
        s.2.2 = calls ++
          (Live.transition f.codec r.get? record).toList.flatMap (Call.toAll n)) ∨
      (∃ key error, Decoded.ofRecord f.codec record = .broken key error ∧
        s.1.progress = r.progress.finish (some (.serialization key error)) ∧ s.2.2 = calls) ∨
      (∃ change observer, observer < n ∧ ¬ f.notify.Quiet ∧
        Live.transition f.codec r.get? record = some change ∧
        s.1.progress = r.progress.finish (some .panicked) ∧
        s.2.2 = calls ++ (List.range observer).map (Call.telling false change) ++
          [Call.telling true change observer]) := by
  intro s
  cases said : Decoded.ofRecord f.codec record with
  | legacy =>
    have no_entry : ¬ ∃ name value, Decoded.ofRecord f.codec record = .entry name value := by
      simp [said]
    have passed : s = (r.skipLegacy.advance record, shared, calls) := consume_of_legacy running said
    rw [passed, Live.after_of_no_entry no_entry, Live.transition_of_no_entry no_entry]
    exact .inl ⟨rfl, numbered, rfl, (List.append_nil _).symm⟩
  | broken key error =>
    have ended : s = (r.finish (some (.serialization key error)), shared, calls) :=
      consume_of_broken running said
    rw [ended]
    exact .inr (.inl ⟨key, error, rfl, rfl, rfl⟩)
  | entry key value =>
    have told : s = tell f.traced record key (Change.between (r.get? key) value)
        (r.apply (f.now shared) key value) (shared, calls) := consume_of_entry running said
    rw [told, Live.after_of_entry said, Live.transition_of_entry said]
    cases changed : Change.between (r.get? key) value with
    | none =>
      exact .inl ⟨rfl, numbered, get?_apply r (f.now shared) key value, (List.append_nil _).symm⟩
    | some change =>
      have shown : (r.apply (f.now shared) key value).get? key = change.result := by
        rw [get?_apply, Live.result_between changed]
        exact if_pos rfl
      obtain ⟨numbers, heard⟩ := all_traced shown f.notify r.observers shared calls
      have quiet_all := fun quiet : f.notify.Quiet =>
        (Notify.Quiet.traced quiet).all (r.apply (f.now shared) key value).get? key change
          r.observers (shared, calls)
      rw [numbered] at numbers heard
      rcases heard with ⟨calm, heard⟩ | ⟨panicked, before, index, after, split, heard⟩
      · rw [tell_of_calm (f := f.traced) calm]
        refine .inl ⟨rfl, numbers, get?_apply r (f.now shared) key value, heard.trans ?_⟩
        simp [Call.toAll]
      · rw [tell_of_panicked (f := f.traced) panicked]
        obtain ⟨rfl, inside⟩ := range_eq_append split
        refine .inr (.inr ⟨(key, change), index, inside, fun quiet => ?_, rfl, rfl, heard⟩)
        rw [quiet_all quiet] at panicked
        cases panicked

theorem foldl_traced {n : Nat} (f : Following V O E) (records : List Record)
    (r : Replica V (O × Nat)) (shared : E) (calls : List (Call V))
    (running : r.progress.stopped = false) (unfailed : r.progress.failure = none)
    (numbered : r.observers.map (·.2) = List.range n) :
    let s := records.foldl (consume f.traced) (r, shared, calls)
    (∃ more, s.2.2 = calls ++ more ∧ Told f.codec n r.get? records s.1.progress.failure more) ∧
      s.1.progress.stopped = s.1.progress.failure.isSome ∧
      (s.1.progress.stopped = false → s.1.get? = records.foldl (Live.after f.codec) r.get?) ∧
      (f.notify.Quiet → s.1.progress.failure ≠ some .panicked) := by
  induction records generalizing r shared calls with
  | nil =>
    refine ⟨⟨[], (List.append_nil calls).symm, ?_⟩, ?_, fun _ => rfl, fun _ => ?_⟩
    · rw [List.foldl_nil, unfailed]
      exact .all []
    · rw [List.foldl_nil, running, unfailed]
      rfl
    · rw [List.foldl_nil, unfailed]
      simp
  | cons record rest ih =>
    rw [List.foldl_cons]
    have step := consume_traced f shared calls record running numbered
    generalize consume f.traced (r, shared, calls) record = next at step ⊢
    obtain ⟨r', shared', calls'⟩ := next
    rcases step with ⟨moved, numbers, shown, heard⟩ | ⟨key, error, fault, ended, heard⟩ |
      ⟨change, observer, inside, loud, changed, ended, heard⟩
    · have still_running : r'.progress.stopped = false := by rw [moved]; exact running
      have still_unfailed : r'.progress.failure = none := by rw [moved]; exact unfailed
      obtain ⟨⟨more, later, told⟩, ending, shows, quiet⟩ :=
        ih r' shared' calls' still_running still_unfailed numbers
      rw [shown] at told shows
      refine ⟨⟨_, later.trans ?_, told.cons⟩, ending, shows, quiet⟩
      rw [← List.append_assoc]
      exact congrArg (· ++ more) heard
    · obtain ⟨left_alone, stopped, failed⟩ :=
        foldl_consume_of_finished (f := f.traced) ended unfailed rest (shared', calls')
      rw [left_alone]
      dsimp only
      rw [stopped, failed]
      refine ⟨⟨[], ?_, .broken [] rest fault⟩, rfl, nofun, fun _ => ?_⟩
      · rw [List.append_nil]
        exact heard
      · simp [StoreError.panicked]
    · obtain ⟨left_alone, stopped, failed⟩ :=
        foldl_consume_of_finished (f := f.traced) ended unfailed rest (shared', calls')
      rw [left_alone]
      dsimp only
      rw [stopped, failed]
      exact ⟨⟨_, heard.trans (List.append_assoc ..), .panicked [] rest inside changed⟩, rfl, nofun,
        fun quiet => absurd quiet loud⟩

/-- Over any records, whatever the observers do, all of them are told of every change to the map in
their order before any is told of the next, and the replica already shows the change; the one who
panics is the last to be called. While tailing goes on, what one observer was told is the history of
the map: each change once, the documents once it is carried out, and for each key a chain of
changes without gaps. -/
theorem observers_told_of_transitions (f : Following V O E) (topic : String) (observers : List O)
    (shared : E) (records : List Record) :
    let fresh : Replica V (O × Nat) := { topic, observers := observers.zipIdx }
    let s := records.foldl (consume f.traced) (fresh, shared, [])
    records.foldl (consume f) ({ topic, observers }, shared) = (s.1.unnumbered, s.2.1) ∧
      Told f.codec observers.length .empty records s.1.progress.failure s.2.2 ∧
      s.1.progress.stopped = s.1.progress.failure.isSome ∧
      (f.notify.Quiet → s.1.progress.failure ≠ some .panicked) ∧
      (s.1.progress.stopped = false → ∀ observer < observers.length,
        let heard := Call.heardBy observer s.2.2
        heard = Live.transitions f.codec .empty records ∧
          (heard.foldl Change.carryOut .empty).entries = s.1.documents ∧
          ∀ key, Change.Chained none (Change.ofKey key heard)) := by
  intro fresh s
  -- The numbers tell the observers apart, also where two of them are equal.
  have numbered : fresh.observers.map (·.2) = List.range observers.length := by
    rw [List.zipIdx_map_snd, List.range_eq_range']
  obtain ⟨⟨calls, all_calls, told⟩, ending, shows, quiet⟩ :=
    foldl_traced f records fresh shared [] rfl rfl numbered
  rw [List.nil_append] at all_calls
  refine ⟨?_, ?_, ending, quiet, fun running observer inside => ?_⟩
  · have same : fresh.unnumbered = { topic, observers } := by
      simp only [fresh, unnumbered, List.zipIdx_map_fst]
    rw [← same]
    exact (untraced f).foldl records (fresh, shared, [])
  · exact all_calls ▸ told
  · have unfailed : s.1.progress.failure = none := by
      rw [running] at ending
      exact Option.isSome_eq_false_iff.mp ending.symm |> Option.isNone_iff_eq_none.mp
    have heard : Call.heardBy observer s.2.2 = Live.transitions f.codec .empty records := by
      rw [all_calls]
      exact told.heardBy unfailed inside
    refine ⟨heard, ?_, fun key => ?_⟩
    · have none_yet : ∀ key, (Dictionary.empty : Dictionary String V).get? key = Live.empty key :=
        fun _ => rfl
      apply entries_eq_documents
      intro key
      rw [heard, Live.get?_carryOut none_yet]
      exact (congrFun (shows running) key).symm
    · rw [heard]
      exact Live.chained_transitions .empty records key

def recording : Following Bytes Recorder (Journal Bytes) where
  codec := .plain
  now journal := journal.clock.now
  notify := Recorder.notify

/-- A key comes, is set again, and is removed by a null; a legacy record and a removal of what was
never there are passed over; then another key comes. -/
def mixedRecords : List Record :=
  [⟨0, 0, Key.encode "a", some [1, 7]⟩, ⟨0, 1, Key.encode "a", some [1, 7]⟩,
    ⟨1, 0, Key.encode "b", none⟩, ⟨0, 2, Key.encode "a", some [0]⟩,
    ⟨0, 3, Key.encode "a", some [2]⟩, ⟨1, 1, Key.encode "b", some [1]⟩]

def threeRecorders : List Recorder :=
  [{ name := "first" }, { name := "second", panicAt := some "b" }, { name := "third" }]

def recorded (records : List Record) :
    Replica Bytes (Recorder × Nat) × Journal Bytes × List (Call Bytes) :=
  records.foldl (consume recording.traced)
    ({ topic := "roads", observers := threeRecorders.zipIdx }, ⟨⟨5⟩, []⟩, [])

theorem second_recorder_panics :
    (recorded (mixedRecords.take 5)).1.progress.stopped = false ∧
      (∀ observer < 3, Call.heardBy observer (recorded (mixedRecords.take 5)).2.2 =
        Live.transitions Codec.plain .empty (mixedRecords.take 5)) ∧
      (recorded mixedRecords).1.progress.failure = some .panicked ∧
      Told Codec.plain 3 .empty mixedRecords (some .panicked) (recorded mixedRecords).2.2 ∧
      ((recorded mixedRecords).2.2.map fun call => (call.observer, call.key, call.panicked)) =
        [(0, "a", false), (1, "a", false), (2, "a", false),
          (0, "a", false), (1, "a", false), (2, "a", false),
          (0, "a", false), (1, "a", false), (2, "a", false),
          (0, "b", false), (1, "b", true)] := by
  have running : (recorded (mixedRecords.take 5)).1.progress.stopped = false := by decide +kernel
  have failed : (recorded mixedRecords).1.progress.failure = some .panicked := rfl
  have before := observers_told_of_transitions recording "roads" threeRecorders ⟨⟨5⟩, []⟩
    (mixedRecords.take 5)
  have after := observers_told_of_transitions recording "roads" threeRecorders ⟨⟨5⟩, []⟩
    mixedRecords
  refine ⟨running, fun observer inside => ?_, failed, failed ▸ after.2.1, by decide +kernel⟩
  exact (before.2.2.2.2 running observer inside).1

end Replica

end RoadRegistry
