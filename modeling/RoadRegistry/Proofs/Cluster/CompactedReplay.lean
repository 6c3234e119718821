import RoadRegistry.Proofs.Cluster.FirstRead
import RoadRegistry.Proofs.Log.Compaction

namespace RoadRegistry

section

variable {codec : Codec V} {key : String}

theorem outcome_withKey (codec : Codec V) (records : List Record) (key : String) :
    outcome codec (Log.withKey (Key.encode key) records) key = outcome codec records key := by
  induction records using List.reverseRecOn with
  | nil => rfl
  | append_singleton records record ih =>
    rw [Log.withKey, List.filter_append, outcome_concat, ← Log.withKey, ← Log.withKey]
    by_cases same : record.key = Key.encode key
    · rw [Log.withKey_cons_self same]
      exact (outcome_concat ..).trans (congrArg _ ih)
    · have silent : (Decoded.ofRecord codec record).about key = none := by
        cases said : (Decoded.ofRecord codec record).about key with
        | none => rfl
        | some value => exact absurd (Decoded.key_of_about said) same
      rw [Log.withKey_cons_of_ne same, silent]
      exact (congrArg (outcome codec · key) (List.append_nil _)).trans ih

/-- The last record under some key bytes is passed over, although an earlier one counts. -/
def Shadowed (codec : Codec V) (records : List Record) (key : Bytes) : Prop :=
  ∃ before last, Log.withKey key records = before ++ [last] ∧
    Decoded.ofRecord codec last = .legacy ∧
    ∃ earlier ∈ before, ∃ name value, Decoded.ofRecord codec earlier = .entry name value

theorem Shadowed.exists_key {records : List Record} {key : Bytes}
    (shadowed : Shadowed codec records key) : ∃ name, key = Key.encode name := by
  obtain ⟨before, last, split, _, earlier, member, name, value, entry⟩ := shadowed
  have listed : earlier ∈ Log.withKey key records := split ▸ List.mem_append_left _ member
  exact ⟨name, (Log.mem_withKey.mp listed).2.symm.trans (Decoded.key_of_entry entry)⟩

theorem outcome_getLast? (codec : Codec V) (records : List Record) (key : String) :
    outcome codec records.getLast?.toList key = none ∨
      outcome codec records.getLast?.toList key = outcome codec records key := by
  rcases List.eq_nil_or_concat records with rfl | ⟨before, last, rfl⟩
  · exact .inl rfl
  · rw [List.concat_eq_append, List.getLast?_concat, outcome_concat]
    have alone : outcome codec [last] key = (Decoded.ofRecord codec last).about key :=
      (outcome_concat [] last).trans Option.or_none
    rw [Option.toList_some, alone]
    cases (Decoded.ofRecord codec last).about key with
    | none => exact .inl rfl
    | some value => exact .inr rfl

theorem legacy_of_silent {record : Record} (passable : Replica.Passable codec record)
    (same : record.key = Key.encode key)
    (silent : (Decoded.ofRecord codec record).about key = none) :
    Decoded.ofRecord codec record = .legacy := by
  cases decoded : Decoded.ofRecord codec record with
  | legacy => rfl
  | entry name value =>
    rw [Decoded.about_of_key decoded same] at silent
    cases silent
  | broken name error => exact absurd decoded (passable name error)

theorem shadowed_iff {records : List Record}
    (passable : ∀ record ∈ records, Replica.Passable codec record) :
    Shadowed codec records (Key.encode key) ↔
      outcome codec (Log.withKey (Key.encode key) records).getLast?.toList key = none ∧
        outcome codec records key ≠ none := by
  rw [← outcome_withKey codec records, outcome_eq_none_iff, ne_eq, outcome_eq_none_iff]
  constructor
  · rintro ⟨before, last, split, legacy, earlier, member, name, value, entry⟩
    have listed : earlier ∈ Log.withKey (Key.encode key) records :=
      split ▸ List.mem_append_left _ member
    refine ⟨fun record same => ?_, fun silent => ?_⟩
    · rw [split, List.getLast?_concat, Option.toList_some, List.mem_singleton] at same
      rw [same, legacy]
      rfl
    · have told := Decoded.about_of_key entry (Log.mem_withKey.mp listed).2
      rw [silent earlier listed] at told
      cases told
  · rintro ⟨last_silent, spoken⟩
    obtain ⟨earlier, listed, said⟩ : ∃ record ∈ Log.withKey (Key.encode key) records,
        (Decoded.ofRecord codec record).about key ≠ none := by
      simpa only [not_forall, exists_prop] using spoken
    have held := List.ne_nil_of_mem listed
    let last := (Log.withKey (Key.encode key) records).getLast held
    have split : Log.withKey (Key.encode key) records =
        (Log.withKey (Key.encode key) records).dropLast ++ [last] :=
      (List.dropLast_append_getLast held).symm
    have silent : (Decoded.ofRecord codec last).about key = none :=
      last_silent last (by rw [List.getLast?_eq_some_getLast held]; exact List.mem_singleton_self _)
    obtain ⟨there, same⟩ := Log.mem_withKey.mp (List.getLast_mem held)
    obtain ⟨value, told⟩ := Option.ne_none_iff_exists'.mp said
    refine ⟨_, last, split, legacy_of_silent (passable last there) same silent, earlier, ?_, key,
      value, Decoded.eq_entry_of_about told⟩
    -- What speaks of the key is not the last record, so it comes before it.
    rw [split] at listed
    refine (List.mem_append.mp listed).resolve_right fun is_last => said ?_
    rw [List.mem_singleton.mp is_last, silent]

end

namespace Cluster

def replayed (f : Following V O E) (log : Log) (name : String) (observers : List O) (shared : E) :
    Option (Replica V O) :=
  ((({ rehearsal := { log }, shared } : Cluster V O E).start f name observers {}).node? name).map
    Node.replica

theorem replayed_of_passable {f : Following V O E} (quiet : f.notify.Quiet) {log : Log}
    (tidy : log.Tidy) (available : log.unavailable = none)
    (passable : ∀ record ∈ log.partitions.flatMap (·.records), Replica.Passable f.codec record)
    (name : String) (observers : List O) (shared : E) :
    ∃ r, replayed f log name observers shared = some r ∧
      (r.progress.failure = none ∧ r.progress.stopped = false ∧ r.progress.caughtUp = true) ∧
      ∀ key, r.entries.get? key = outcome f.codec (log.partitions.flatMap (·.records)) key := by
  obtain ⟨target, caughtUp, reader, started⟩ :=
    start_first f tidy available name observers shared
  let begun : Replica V O := { topic := log.topic, observers, progress := { target, caughtUp } }
  obtain ⟨running, unfailed, shown⟩ :=
    Replica.foldl_consume_passable (r := begun) quiet rfl passable shared
  let state := (log.partitions.flatMap (·.records)).foldl (Replica.consume f) (begun, shared)
  let r : Replica V O := { state.1 with
    progress := { state.1.progress with caughtUp := !state.1.progress.stopped } }
  have found : [(⟨name, false, reader, r⟩ : Node V O)].find? (fun node => node.name = name) =
      some ⟨name, false, reader, r⟩ :=
    List.find?_cons_of_pos (decide_eq_true rfl)
  refine ⟨r, ?_, ⟨unfailed, running, ?_⟩, fun key => (shown key).trans Option.or_none⟩
  · rw [replayed, started]
    exact congrArg (Option.map Node.replica) found
  · exact (congrArg Bool.not running).trans Bool.not_false

/-- Compaction is not seen by a store that replays a log whose records all decode or are passed
over, but for the keys whose last record is a legacy one that comes after something that counts:
what they had is shown before compaction and lost after it. -/
theorem compaction_unseen_iff (f : Following V O E) (quiet : f.notify.Quiet) (topic : String)
    (partitions : Nat) (history : List Log.Event) (name : String) (observers : List O) (shared : E)
    (available : ((Log.create topic partitions).after history).unavailable = none)
    (passable : ∀ record ∈ ((Log.create topic partitions).after history).partitions.flatMap
      (·.records), Replica.Passable f.codec record) :
    let log := (Log.create topic partitions).after history
    let records := log.partitions.flatMap (·.records)
    ∃ plain compacted : Replica V O,
      replayed f log name observers shared = some plain ∧
      replayed f log.compact.2 name observers shared = some compacted ∧
      (∀ r ∈ [plain, compacted], r.progress.failure = none ∧ r.progress.stopped = false ∧
        r.progress.caughtUp = true) ∧
      (compacted.entries = plain.entries ↔ ¬ ∃ key, Shadowed f.codec records key) ∧
      (∀ key, ¬ Shadowed f.codec records (Key.encode key) →
        compacted.entries.get? key = plain.entries.get? key) ∧
      ∀ key, Shadowed f.codec records (Key.encode key) →
        compacted.entries.get? key = none ∧ plain.entries.get? key ≠ none := by
  intro log records
  have tidy : log.Tidy := (Log.Tidy.create topic partitions).after history
  have kept : ∀ record ∈ log.compact.2.partitions.flatMap (·.records),
      Replica.Passable f.codec record := by
    intro record member
    obtain ⟨_, there, held⟩ := List.mem_flatMap.mp member
    obtain ⟨p, listed, rfl⟩ := List.mem_map.mp there
    have before := p.compact_sublist.subset held
    exact passable record (List.mem_flatMap.mpr ⟨p, listed, before⟩)
  obtain ⟨plain, plain_replayed, plain_completed, plain_shown⟩ :=
    replayed_of_passable quiet tidy available passable name observers shared
  obtain ⟨compacted, compacted_replayed, completed, compacted_shown⟩ :=
    replayed_of_passable quiet (tidy.run .compact) available kept name observers shared
  have shown_last (key : String) : compacted.entries.get? key =
      outcome f.codec (Log.withKey (Key.encode key) records).getLast?.toList key := by
    rw [compacted_shown, ← outcome_withKey, ← tidy.withKey_compact]
    rfl
  have shadowed (key : String) : Shadowed f.codec records (Key.encode key) ↔
      compacted.entries.get? key = none ∧ plain.entries.get? key ≠ none := by
    rw [shadowed_iff passable, shown_last, plain_shown]
  have agree (key : String) (clear : ¬ Shadowed f.codec records (Key.encode key)) :
      compacted.entries.get? key = plain.entries.get? key := by
    rw [shadowed, not_and_not_right] at clear
    have last := outcome_getLast? f.codec (Log.withKey (Key.encode key) records) key
    rw [← shown_last, outcome_withKey, ← plain_shown] at last
    exact last.elim (fun none => none.trans (clear none).symm) id
  refine ⟨plain, compacted, plain_replayed, compacted_replayed,
    List.forall_mem_cons.mpr ⟨plain_completed, List.forall_mem_singleton.mpr completed⟩,
    ⟨?_, fun clear => ?_⟩, agree, fun key => (shadowed key).mp⟩
  · rintro same ⟨bytes, hidden⟩
    obtain ⟨key, rfl⟩ := hidden.exists_key
    obtain ⟨lost, there⟩ := (shadowed key).mp hidden
    exact there (same ▸ lost)
  · exact Dictionary.ext_get? fun key => agree key fun hidden => clear ⟨_, hidden⟩

/-- A record from before frames comes after a value. -/
def overshadowed : List Log.Event :=
  [.append (Key.encode "a") (some [1, 7]), .append (Key.encode "b") (some [1, 8]),
    .append (Key.encode "a") (some [0])]

theorem compaction_loses_overshadowed_value :
    let log := (Log.create "roads" 1).after overshadowed
    let records := log.partitions.flatMap (·.records)
    log.unavailable = none ∧ (∀ record ∈ records, Replica.Passable Codec.plain record) ∧
      Shadowed Codec.plain records (Key.encode "a") ∧ ∃ plain compacted : Replica Bytes Unit,
        replayed .plain log "store" [] () = some plain ∧
        replayed .plain log.compact.2 "store" [] () = some compacted ∧
        compacted.entries ≠ plain.entries ∧ plain.entries.get? "a" ≠ none ∧
        compacted.entries.get? "a" = none := by
  intro log records
  have available : log.unavailable = none := rfl
  have passable : ∀ record ∈ records, Replica.Passable Codec.plain record := by decide +kernel
  have hidden : Shadowed Codec.plain records (Key.encode "a") :=
    ⟨[⟨0, 0, Key.encode "a", some [1, 7]⟩], ⟨0, 2, Key.encode "a", some [0]⟩, by decide +kernel,
      rfl, _, List.mem_singleton_self _, "a", some [7], rfl⟩
  obtain ⟨plain, compacted, first, second, _, same_iff, _, lost⟩ := compaction_unseen_iff .plain
    (fun _ _ _ _ _ => rfl) "roads" 1 overshadowed "store" [] () available passable
  obtain ⟨gone, there⟩ := lost "a" hidden
  exact ⟨available, passable, hidden, plain, compacted, first, second,
    fun same => same_iff.mp same ⟨_, hidden⟩, there, gone⟩

end Cluster

end RoadRegistry
