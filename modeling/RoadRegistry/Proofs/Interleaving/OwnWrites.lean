import RoadRegistry.Proofs.Interleaving.Basic
import RoadRegistry.Proofs.Replica.Sync

namespace RoadRegistry

namespace Tailer

def SetSince (codec : Codec V) (t : Tailer V O) (key : String) (offset : Int) : Prop :=
  ∃ before last after value, t.consumed = before ++ last :: after ∧
    (Decoded.ofRecord codec last).about key = some value ∧
    (∀ record ∈ after, (Decoded.ofRecord codec record).about key = none) ∧
    t.replica.entries.get? key = some value ∧ offset ≤ last.offset

/-- Of the record and those that may supersede it, the store has consumed only what it passes
over. -/
def Missed (codec : Codec V) (t : Tailer V O) (record : Record) : Prop :=
  ∀ later ∈ t.consumed, later.key = record.key → record.offset ≤ later.offset →
    Decoded.ofRecord codec later = .legacy

variable {codec : Codec V} {log : Log} {appended : List Record} {t : Tailer V O} {key : String}

theorem setSince_iff (chronicle : log.Chronicle appended) (follows : t.Follows codec log appended)
    (running : t.replica.progress.stopped = false) {record : Record}
    (own : record.key = Key.encode key) :
    t.SetSince codec key record.offset ↔ ¬ t.Missed codec record := by
  have here := follows running
  constructor
  · rintro ⟨before, last, after, value, split, speaks, silent, shown, bound⟩ missed
    have entry := Decoded.eq_entry_of_about speaks
    have passed_over := missed last (by simp [split]) ((Decoded.key_of_about speaks).trans own.symm)
      bound
    rw [entry] at passed_over
    cases passed_over
  · intro consumed
    simp only [Missed, not_forall] at consumed
    obtain ⟨later, member, same, bound, effective⟩ := consumed
    have bytes : later.key = Key.encode key := same.trans own
    obtain ⟨value, speaks⟩ : ∃ value, (Decoded.ofRecord codec later).about key = some value := by
      cases said : Decoded.ofRecord codec later with
      | legacy => exact absurd said effective
      | broken name error => exact absurd said (here.mirrors.legible later member name error)
      | entry name value => exact ⟨value, said ▸ Decoded.about_of_key said bytes⟩
    cases shown : outcome codec t.consumed key with
    | none =>
      rw [outcome_eq_none_iff.mp shown later member] at speaks
      cases speaks
    | some last_value =>
      obtain ⟨before, last, after, split, last_speaks, silent⟩ := outcome_eq_some_iff.mp shown
      refine ⟨before, last, after, last_value, split, last_speaks, silent, ?_, ?_⟩
      · rw [here.mirrors.entries, shown]
      · have whole := here.sequenced chronicle
        have sequenced : Sequenced (before ++ last :: after) := by
          rw [← split]
          exact chronicle.sequenced (fun r held => here.mem_appended (List.mem_append_left _ held))
            (whole.increasing.sublist (List.sublist_append_left _ _))
        have last_bytes := Decoded.key_of_about last_speaks
        rcases sequenced.le_of_split (split ▸ member) (bytes.trans last_bytes.symm) with
          after_last | below
        · rw [silent later after_last] at speaks
          cases speaks
        · exact Int.le_trans bound below

/-- A record whose position was reached without it being consumed was compacted away before the
store came to it, and what superseded it is known to the store. -/
theorem superseded_of_missed (chronicle : log.Chronicle appended)
    (follows : t.Follows codec log appended) (running : t.replica.progress.stopped = false)
    {record : Record} (known : record ∈ appended)
    (reached : t.replica.progress.reached record.partition record.offset = true)
    (missed : t.Missed codec record) (effective : Decoded.ofRecord codec record ≠ .legacy) :
    record ∉ (log.part (log.route record.key)).records ∧ record ∉ t.consumed ++ t.pending ∧
      ∃ later ∈ t.consumed ++ t.pending,
        later.key = record.key ∧ record.offset < later.offset := by
  have here := follows running
  obtain ⟨passed, consumed, together, above⟩ := here.mirrors.reached record.partition record.offset
    reached (chronicle.offset_range known).1
  -- A record in hand is behind the one that raised the watermark past it.
  have not_given : record ∉ t.consumed ++ t.pending := by
    intro given
    rcases List.mem_append.mp given with given | given
    · exact effective (missed record given rfl (Int.le_refl _))
    · have less := (List.pairwise_append.mp here.delivered.ordered).2.2 passed consumed record given
        together
      omega
  have below : record.offset < t.reader.position (log.route record.key) := by
    have ⟨passed_known, read⟩ := here.delivered.passed passed (List.mem_append_left _ consumed)
    rw [chronicle.route_of_placed passed_known (together.trans (chronicle.placed record known))]
      at read
    omega
  refine ⟨fun held => not_given (here.delivered.complete _ record held below), not_given, ?_⟩
  obtain ⟨later, given, same, bound⟩ := here.delivered.covered record known below
  refine ⟨later, given, same, Int.lt_iff_le_and_ne.mpr ⟨bound, fun level => not_given ?_⟩⟩
  rw [chronicle.sequenced_appended.eq_of_offset known (here.mem_appended given) same.symm level]
  exact given

end Tailer

namespace Interleaving

/-- When the positions of a writer's records have been reached, its store shows each of them, or a
later record of the same key, except where it has consumed nothing of that key since the record but
what it passes over. That takes a record that was compacted away before the store came to it, with
what superseded it still in hand or legacy, so between two batches, and without legacy records, no
write is missed. -/
theorem synced_write_shown_iff (f : Following V O E) (topic : String) (partitions : Nat)
    (shared : E) (events : List (Event O)) :
    let s := run f topic partitions shared events
    ∀ t ∈ s.tailers, ∀ positions, t.replica.progress.sync positions = .done →
      ∀ record ∈ s.appended, record.position ∈ positions →
        ∀ key, record.key = Key.encode key →
          (t.SetSince f.codec key record.offset ↔ ¬ t.Missed f.codec record) ∧
          (t.Missed f.codec record → Decoded.ofRecord f.codec record ≠ .legacy →
            record ∉ (s.log.part (s.log.route record.key)).records ∧
            record ∉ t.consumed ++ t.pending ∧
            ∃ later ∈ t.consumed ++ t.pending,
              later.key = record.key ∧ record.offset < later.offset) ∧
          (t.pending = [] →
            (∀ other ∈ s.appended, other.key = record.key →
              Decoded.ofRecord f.codec other ≠ .legacy) →
            t.SetSince f.codec key record.offset) := by
  intro s t member positions synced record known asked key own
  have sound : Sound f s := .run f topic partitions shared events
  obtain ⟨_, running, all_reached⟩ := Progress.sync_eq_done_iff.mp synced
  have follows := sound.follows t member
  have shown_iff := Tailer.setSince_iff sound.chronicle follows running own
  have superseded := Tailer.superseded_of_missed sound.chronicle follows running known
    (all_reached _ asked)
  refine ⟨shown_iff, superseded, fun free effective => shown_iff.mpr fun missed => ?_⟩
  obtain ⟨_, _, later, given, same, above⟩ := superseded missed (effective record known rfl)
  have later_known := (follows running).mem_appended given
  rw [free, List.append_nil] at given
  exact effective later later_known same (missed later given same (by omega))

/-- A writer's record, one of another key, and a later record that supersedes the first: the store
has come to the second. -/
def interruptedBatch : List (Event Unit) :=
  [.start [], .append (Key.encode "a") (some [1, 1]), .append (Key.encode "b") (some [1, 1]),
    .append (Key.encode "a") (some [1, 2]), .compact, .poll 0, .consume 0]

theorem synced_write_not_shown :
    let s := run .plain "roads" 1 () interruptedBatch
    ∃ t ∈ s.tailers, ∃ record ∈ s.appended, record.key = Key.encode "a" ∧
      t.replica.progress.sync [record.position] = .done ∧
      t.replica.entries.get? "a" = none ∧ ¬ t.SetSince Codec.plain "a" record.offset := by
  intro s
  obtain ⟨t, member, healthy, running, reached, absent⟩ : ∃ t ∈ s.tailers,
      t.replica.progress.failure = none ∧ t.replica.progress.stopped = false ∧
        t.replica.progress.reached 0 0 = true ∧ t.replica.entries.get? "a" = none := by
    decide +kernel
  refine ⟨t, member, ⟨0, 0, Key.encode "a", some [1, 1]⟩, by decide +kernel, rfl, ?_, absent, ?_⟩
  · refine Progress.sync_eq_done_iff.mpr ⟨healthy, running, fun position asked => ?_⟩
    rw [List.mem_singleton.mp asked]
    exact reached
  · rintro ⟨_, _, _, _, _, _, _, shown, _⟩
    rw [absent] at shown
    cases shown

theorem synced_write_shown_after_batch :
    let s := run .plain "roads" 1 () (interruptedBatch ++ [.consume 0, .consume 0])
    ∃ t ∈ s.tailers, ∃ record ∈ s.appended, record.key = Key.encode "a" ∧
      t.replica.progress.sync [record.position] = .done ∧
      t.SetSince Codec.plain "a" record.offset := by
  intro s
  obtain ⟨t, member, healthy, running, reached, later⟩ : ∃ t ∈ s.tailers,
      t.replica.progress.failure = none ∧ t.replica.progress.stopped = false ∧
        t.replica.progress.reached 0 0 = true ∧
        ⟨0, 2, Key.encode "a", some [1, 2]⟩ ∈ t.consumed := by
    decide +kernel
  have known : (⟨0, 0, Key.encode "a", some [1, 1]⟩ : Record) ∈ s.appended := by decide +kernel
  have synced : t.replica.progress.sync [⟨0, 0⟩] = .done := by
    refine Progress.sync_eq_done_iff.mpr ⟨healthy, running, fun position asked => ?_⟩
    rw [List.mem_singleton.mp asked]
    exact reached
  have all := synced_write_shown_iff .plain "roads" 1 ()
    (interruptedBatch ++ [.consume 0, .consume 0])
  have shown_iff := (all t member [⟨0, 0⟩] synced ⟨0, 0, Key.encode "a", some [1, 1]⟩ known
    (List.mem_singleton_self _) "a" rfl).1
  have consumed : ¬ t.Missed Codec.plain ⟨0, 0, Key.encode "a", some [1, 1]⟩ := by
    intro missed
    have entry : Decoded.ofRecord Codec.plain ⟨0, 2, Key.encode "a", some [1, 2]⟩ =
        .entry "a" (some [2]) := rfl
    rw [missed _ later rfl (by decide)] at entry
    cases entry
  exact ⟨t, member, _, known, rfl, synced, shown_iff.mpr consumed⟩

end Interleaving

end RoadRegistry
