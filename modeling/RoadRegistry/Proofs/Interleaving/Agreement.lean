import RoadRegistry.Proofs.Interleaving.Basic

namespace RoadRegistry

def Tailer.CaughtUp (log : Log) (t : Tailer V O) : Prop :=
  t.pending = [] ∧ t.reader.AtHead log

instance (log : Log) (t : Tailer V O) : Decidable (t.CaughtUp log) :=
  inferInstanceAs (Decidable (_ ∧ _))

namespace Interleaving

variable {f : Following V O E} {s : Interleaving V O E}

theorem Sound.shows (sound : Sound f s)
    (legible : Legible f.codec s.appended)
    {t : Tailer V O} (member : t ∈ s.tailers) (running : t.replica.progress.stopped = false)
    (caught_up : t.CaughtUp s.log) (key : String) :
    t.replica.entries.get? key = outcome f.codec s.appended key := by
  have follows := sound.follows t member running
  rw [caught_up.1] at follows
  exact follows.shows sound.chronicle
    (fun record known => caught_up.2.lt_position sound.chronicle known) legible key

theorem Sound.atHead_poll (sound : Sound f s) {t : Tailer V O} (member : t ∈ s.tailers)
    (running : t.replica.progress.stopped = false) (free : t.batch = none) :
    (t.poll s.log).reader.AtHead s.log := by
  have given := (sound.follows t member running).delivered
  have taken : (t.poll s.log).reader = t.reader.next s.log := by
    simp only [Tailer.poll, running, free, Reader.poll_of_available sound.available,
      Option.isSome_none, Bool.or_self, Bool.false_eq_true, ite_false]
  rw [taken]
  exact given.atHead_next sound.chronicle sound.keeps

/-- Once caught up, every store shows for every key what the last record ever appended for it says,
so any two show the same. A store gets there by a poll, whenever it was started. -/
theorem caught_up_stores_agree (f : Following V O E) (topic : String) (partitions : Nat)
    (shared : E) (events : List (Event O))
    (legible : Legible f.codec (run f topic partitions shared events).appended) :
    let s := run f topic partitions shared events
    (∀ t ∈ s.tailers, t.replica.progress.stopped = false → t.CaughtUp s.log → ∀ key,
      t.replica.entries.get? key = outcome f.codec s.appended key) ∧
    (∀ t ∈ s.tailers, ∀ u ∈ s.tailers,
      t.replica.progress.stopped = false → u.replica.progress.stopped = false →
      t.CaughtUp s.log → u.CaughtUp s.log → t.replica.entries = u.replica.entries) ∧
    (∀ t ∈ s.tailers, t.replica.progress.stopped = false → t.batch = none →
      (t.poll s.log).reader.AtHead s.log) ∧
    (f.notify.Quiet → ∀ t ∈ s.tailers, t.replica.progress.stopped = false) := by
  intro s
  have sound : Sound f s := .run f topic partitions shared events
  refine ⟨?_, ?_, ?_, ?_⟩
  · intro t member running caught_up
    exact sound.shows legible member running caught_up
  · intro t first u second t_running u_running t_caught_up u_caught_up
    apply Dictionary.ext_get?
    intro key
    rw [sound.shows legible first t_running t_caught_up key,
      sound.shows legible second u_running u_caught_up key]
  · intro t member running free
    exact sound.atHead_poll member running free
  · intro quiet
    exact sound.running quiet legible

/-- One store polls before a key is removed and compacted away, the other starts after that. -/
def lateStart : List (Event Unit) :=
  [.start [], .append (Key.encode "a") (some [1, 7]), .append (Key.encode "b") (some [2]), .poll 0,
    .append (Key.encode "a") none, .consume 0, .compact, .start [], .consume 0, .poll 1,
    .append (Key.encode "b") (some [1, 9]), .consume 0, .consume 1, .consume 1, .consume 1,
    .poll 0, .consume 0, .consume 0, .consume 0, .poll 1, .consume 1, .consume 1]

theorem late_store_agrees :
    let s := run .plain "roads" 2 () lateStart
    Legible Codec.plain s.appended ∧
    (∀ t ∈ s.tailers, t.replica.progress.stopped = false ∧ t.CaughtUp s.log) ∧
    (s.tailers.map fun t => t.consumed.map Record.position) =
      [[⟨0, 0⟩, ⟨1, 0⟩, ⟨0, 1⟩, ⟨1, 1⟩], [⟨0, 1⟩, ⟨1, 0⟩, ⟨1, 1⟩]] ∧
    ∀ t ∈ s.tailers, ∀ u ∈ s.tailers, t.replica.entries = u.replica.entries := by
  intro s
  have legible : Legible Codec.plain s.appended := by
    have list : s.appended = [⟨0, 0, Key.encode "a", some [1, 7]⟩, ⟨1, 0, Key.encode "b", some [2]⟩,
        ⟨0, 1, Key.encode "a", none⟩, ⟨1, 1, Key.encode "b", some [1, 9]⟩] := by decide +kernel
    rw [list]
    simp only [Legible, List.forall_mem_cons]
    refine ⟨⟨"a", some [7], rfl⟩, ⟨"b", none, rfl⟩, ⟨"a", none, rfl⟩, ⟨"b", some [9], rfl⟩, ?_⟩
    intro record member
    cases member
  have ready : ∀ t ∈ s.tailers, t.replica.progress.stopped = false ∧ t.CaughtUp s.log := by
    decide +kernel
  refine ⟨legible, ready, by decide +kernel, ?_⟩
  intro t first u second
  exact (caught_up_stores_agree .plain "roads" 2 () lateStart legible).2.1 t first u second
    (ready t first).1 (ready u second).1 (ready t first).2 (ready u second).2

end Interleaving

end RoadRegistry
