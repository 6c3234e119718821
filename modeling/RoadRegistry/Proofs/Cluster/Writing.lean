import Mathlib.Data.List.Forall2
import RoadRegistry.Proofs.Cluster.Settling

namespace RoadRegistry

/-- Values that come back from a log as they were. -/
def Codec.RoundTrips (codec : Codec V) (value : V) : Prop :=
  ∃ bytes, codec.encode value = .ok bytes ∧ codec.decode bytes = .ok (some value)

theorem Rehearsal.append_of_unplanned {r : Rehearsal} (unplanned : r.acknowledgements = [])
    (unbounded : r.accepted = none) (available : r.log.unavailable = none) (key : Bytes)
    (value : Option Bytes) :
    r.append key value = .ok ((r.log.nextRecord key value).position,
      { r with log := r.log.push (r.log.nextRecord key value) (r.log.route key) }) := by
  obtain ⟨log, accepted, acknowledgements⟩ := r
  cases unplanned
  cases unbounded
  simp only [append, Log.append_of_available available]
  rfl

namespace Cluster

def Writes (codec : Codec V) (write : String × Option V)
    (item : Except StoreError (Bytes × Option Bytes)) : Prop :=
  ∃ payload, item = .ok (Key.encode write.1, payload) ∧ ∀ partition offset,
    Decoded.ofRecord codec ⟨partition, offset, Key.encode write.1, payload⟩ =
      .entry write.1 write.2

def Sets (codec : Codec V) (write : String × Option V) (record : Record) : Prop :=
  Decoded.ofRecord codec record = .entry write.1 write.2

theorem writes_tombstone (codec : Codec V) (key : String) :
    Writes codec (key, none) (.ok (Replica.encodeTombstone key)) :=
  ⟨none, rfl, fun _ _ => Decoded.ofRecord_tombstone rfl rfl⟩

theorem writes_entry {codec : Codec V} {value : V} (round_trips : codec.RoundTrips value)
    (key : String) : Writes codec (key, some value) (Replica.encodeEntry codec key value) := by
  obtain ⟨bytes, encoded, decoded⟩ := round_trips
  refine ⟨some bytes, ?_, fun _ _ => Decoded.ofRecord_value rfl rfl decoded⟩
  simp only [Replica.encodeEntry, encoded]

variable {f : Following V O E} {c : Cluster V O E} {appended : List Record} {name : String}

theorem log_withLog (c : Cluster V O E) (log : Log) : (c.withLog log).log = log := rfl

theorem withLog_withLog (c : Cluster V O E) (log other : Log) :
    (c.withLog log).withLog other = c.withLog other := rfl

theorem Sound.withLog {log : Log} {more : List Record} (sound : Sound f c appended)
    (available : log.unavailable = none) (chronicle : log.Chronicle more)
    (keeps : log.KeepsLatest more) (legible : Legible f.codec more)
    (active : ∀ node ∈ c.nodes, Active f.codec log more node) :
    Sound f (c.withLog log) more :=
  ⟨sound.unbounded, sound.unplanned, available, chronicle, keeps, legible, active⟩

theorem Sound.push (sound : Sound f c appended) (key : Bytes) (value : Option Bytes)
    (legible : ∃ name said, Decoded.ofRecord f.codec (c.log.nextRecord key value) =
      .entry name said) :
    Sound f (c.withLog (c.log.push (c.log.nextRecord key value) (c.log.route key)))
      (appended ++ [c.log.nextRecord key value]) := by
  apply sound.withLog
  · exact (Log.unavailable_push ..).trans sound.available
  · exact sound.chronicle.push key value
  · exact sound.keeps.push key value
  · intro record member
    rcases List.mem_append.mp member with member | member
    · exact sound.legible record member
    · rw [List.mem_singleton.mp member]
      exact legible
  · intro node member
    exact (sound.active node member).push key value

theorem Settled.compact (settled : Settled f c appended) :
    Settled f (c.withLog c.log.compact.2) appended where
  toSound := settled.toSound.withLog settled.available settled.chronicle.compact
    (settled.keeps.compact settled.chronicle) settled.legible
    fun node member => (settled.active node member).compact
  up_to_date node member record known := by
    rw [log_withLog, Log.route_compact]
    exact settled.up_to_date node member record known

theorem Sound.append (sound : Sound f c appended) (key : Bytes) (value : Option Bytes) :
    c.rehearsal.append key value = .ok ((c.log.nextRecord key value).position,
      (c.withLog (c.log.push (c.log.nextRecord key value) (c.log.route key))).rehearsal) :=
  Rehearsal.append_of_unplanned sound.unplanned sound.unbounded sound.available key value

theorem appendAll_cons {r next last : Rehearsal} {key : Bytes} {value : Option Bytes}
    {position : Position} {positions : List Position}
    {items : List (Except StoreError (Bytes × Option Bytes))}
    (first : r.append key value = .ok (position, next))
    (rest : Cluster.appendAll items next = (.ok positions, last)) :
    Cluster.appendAll (.ok (key, value) :: items) r = (.ok (position :: positions), last) := by
  rw [Cluster.appendAll, first]
  simp only [rest]
  rfl

theorem Sound.appendAll (sound : Sound f c appended) {writes : List (String × Option V)}
    {items : List (Except StoreError (Bytes × Option Bytes))}
    (encoded : List.Forall₂ (Writes f.codec) writes items) :
    ∃ written log, Cluster.appendAll items c.rehearsal =
        (.ok (written.map Record.position), (c.withLog log).rehearsal) ∧
      Sound f (c.withLog log) (appended ++ written) ∧
      List.Forall₂ (Sets f.codec) writes written := by
  induction encoded generalizing c appended with
  | nil =>
    refine ⟨[], c.log, rfl, ?_, .nil⟩
    rw [List.append_nil]
    exact sound
  | @cons write item writes items first rest ih =>
    obtain ⟨payload, rfl, sets⟩ := first
    have pushed := sound.push (Key.encode write.1) payload ⟨_, _, sets _ _⟩
    obtain ⟨written, log, appended_rest, still_sound, all_set⟩ := ih pushed
    rw [withLog_withLog, List.append_assoc, List.singleton_append] at still_sound
    rw [withLog_withLog] at appended_rest
    exact ⟨c.log.nextRecord (Key.encode write.1) payload :: written, log,
      appendAll_cons (sound.append (Key.encode write.1) payload) appended_rest, still_sound,
      .cons (sets _ _) all_set⟩

theorem Settled.sync (settled : Settled f c appended) (known : name ∈ c.names)
    {written : List Record} (member : ∀ record ∈ written, record ∈ appended) :
    c.sync name (written.map Record.position) = .ok () := by
  obtain ⟨node, there, found⟩ := exists_node? known
  have active := settled.active node there
  obtain ⟨consumed, follows⟩ := active.follows
  have done : node.replica.progress.sync (written.map Record.position) = .done := by
    refine Progress.sync_eq_done_iff.mpr ⟨active.unfailed, active.running, ?_⟩
    intro position asked
    obtain ⟨record, own, rfl⟩ := List.mem_map.mp asked
    exact follows.reached settled.chronicle (member record own)
      (settled.up_to_date node there record (member record own))
  unfold Cluster.sync
  rw [found]
  simp only [done]

theorem Settled.write (settled : Settled f c appended) (quiet : f.notify.Quiet)
    {node : Node V O} (found : c.node? name = some node) {writes : List (String × Option V)}
    {records : Replica V O → List (Except StoreError (Bytes × Option Bytes))}
    (encoded : List.Forall₂ (Writes f.codec) writes (records node.replica)) :
    ∃ written, (c.write f name records).1 = .ok () ∧
      Settled f (c.write f name records).2 (appended ++ written) ∧
      (c.write f name records).2.names = c.names ∧
      List.Forall₂ (Sets f.codec) writes written := by
  have there : node ∈ c.nodes := List.mem_of_find?_eq_some found
  have is_named : node.name = name := by simpa using List.find?_some found
  have active := settled.active node there
  have is_open : node.replica.ensureOpen = .ok () := by
    unfold Replica.ensureOpen
    rw [active.unclosed, active.unfailed]
    rfl
  obtain ⟨written, log, all_appended, sound, all_set⟩ := settled.toSound.appendAll encoded
  have now_settled := sound.settle quiet
  have known : name ∈ (settle f (c.withLog log)).names := by
    rw [names_settle]
    exact List.mem_map.mpr ⟨node, there, is_named⟩
  have outcome : c.write f name records =
      ((settle f (c.withLog log)).sync name (written.map Record.position),
        settle f (c.withLog log)) := by
    unfold Cluster.write
    rw [found]
    simp only [is_open, all_appended]
    rfl
  rw [outcome]
  refine ⟨written, ?_, now_settled, names_settle f _, all_set⟩
  exact now_settled.sync known fun record member => List.mem_append_right _ member

end Cluster

end RoadRegistry
