import RoadRegistry.Proofs.Log.Compaction
import RoadRegistry.Proofs.Replica.Following

namespace RoadRegistry

theorem FrameTag.ofByte_of_unknown {byte : UInt8} (noop : byte ≠ 0) (data : byte ≠ 1)
    (null : byte ≠ 2) : FrameTag.ofByte byte = .error (.unknownTag byte) := by
  rw [FrameTag.ofByte, if_neg noop, if_neg data, if_neg null]

namespace Key

variable {bytes : Bytes} {key : String} {error : DecodeError}

/-- Why bytes are no key, told from the bytes. -/
inductive Refused : Bytes → DecodeError → Prop where
  | empty : Refused [] .empty
  | legacy (rest : Bytes) : Refused (0 :: rest) .legacyNoop
  | null (rest : Bytes) : Refused (2 :: rest) .nullKey
  | unknown {tag : UInt8} (rest : Bytes) : tag ≠ 0 → tag ≠ 1 → tag ≠ 2 →
      Refused (tag :: rest) (.unknownTag tag)
  | undecodable {payload : Bytes} {fault : Text.Utf8.Fault} :
      (∀ text, payload ≠ Bytes.ofString text) → Text.Utf8.decode payload = .error fault →
      Refused (1 :: payload) (.invalidKey (.encoding fault))

theorem decode_eq_ok_iff : decode bytes = .ok key ↔ bytes = encode key := by
  constructor
  · exact eq_encode_of_decode
  · rintro rfl
    exact decode_encode key

theorem decode_data (payload : Bytes) :
    decode (1 :: payload) = match Text.Utf8.decode payload with
      | .ok key => .ok key
      | .error fault => .error (.invalidKey (.encoding fault)) := by
  have framed : Frame.decode (1 :: payload) = .ok (.data payload) := rfl
  simp only [decode, framed, Bind.bind, Except.bind]
  rfl

theorem decode_unknown {tag : UInt8} (noop : tag ≠ 0) (data : tag ≠ 1) (null : tag ≠ 2)
    (rest : Bytes) : decode (tag :: rest) = .error (.unknownTag tag) := by
  simp only [decode, Frame.decode, FrameTag.ofByte_of_unknown noop data null]
  rfl

theorem Refused.decode_eq (refused : Refused bytes error) : decode bytes = .error error := by
  cases refused with
  | empty => rfl
  | legacy rest => rfl
  | null rest => rfl
  | unknown rest noop data null => exact decode_unknown noop data null rest
  | undecodable foreign read => rw [decode_data, read]

theorem spelled_or_refused (bytes : Bytes) :
    (∃ key, bytes = encode key) ∨ ∃ error, Refused bytes error := by
  cases bytes with
  | nil => exact .inr ⟨_, .empty⟩
  | cons tag rest =>
    by_cases noop : tag = 0
    · exact .inr ⟨_, noop ▸ Refused.legacy rest⟩
    by_cases null : tag = 2
    · exact .inr ⟨_, null ▸ Refused.null rest⟩
    by_cases data : tag = 1
    · subst data
      cases read : Text.Utf8.decode rest with
      | ok text => exact .inl ⟨text, by rw [Text.Utf8.decode_eq_ok_iff.mp read]; rfl⟩
      | error fault =>
        refine .inr ⟨_, .undecodable (fun text spelled => ?_) read⟩
        rw [spelled, Text.Utf8.decode_ofString] at read
        cases read
    · exact .inr ⟨_, .unknown rest noop data null⟩

theorem decode_eq_error_iff : decode bytes = .error error ↔ Refused bytes error := by
  constructor
  · intro failed
    rcases spelled_or_refused bytes with ⟨key, rfl⟩ | ⟨reason, refused⟩
    · rw [decode_encode] at failed
      cases failed
    · rw [refused.decode_eq] at failed
      cases failed
      exact refused
  · exact Refused.decode_eq

theorem refused_iff :
    (∃ error, Refused bytes error) ↔ ∀ text, bytes ≠ 1 :: Bytes.ofString text := by
  constructor
  · rintro ⟨error, refused⟩ text spelled
    have read : decode bytes = .ok text := decode_eq_ok_iff.mpr spelled
    rw [refused.decode_eq] at read
    cases read
  · intro foreign
    rcases spelled_or_refused bytes with ⟨key, spelled⟩ | refused
    · exact absurd spelled (foreign key)
    · exact refused

end Key

def Record.addresses (key : String) (record : Record) : Bool :=
  match Key.decode record.key with
  | .ok name => name = key
  | .error _ => false

section Records

variable {record : Record} {key : String}

theorem Record.addresses_iff : record.addresses key = true ↔ record.key = Key.encode key := by
  unfold addresses
  cases read : Key.decode record.key with
  | ok name =>
    rw [decide_eq_true_iff, Key.decode_eq_ok_iff.mp read, Key.encode_inj]
  | error fault =>
    constructor
    · exact nofun
    · intro spelled
      rw [spelled, Key.decode_encode] at read
      cases read

theorem filter_addresses (key : String) (records : List Record) :
    records.filter (Record.addresses key) = Log.withKey (Key.encode key) records := by
  refine List.filter_congr fun record _ => ?_
  rw [Bool.eq_iff_iff, Record.addresses_iff, decide_eq_true_iff]

end Records

namespace Replica

variable {f : Following V O E} {r : Replica V O} {shared : E} {record : Record} {key : String}

theorem entries_consume_of_entry {value : Option V} (running : r.progress.stopped = false)
    (said : Decoded.ofRecord f.codec record = .entry key value) :
    (consume f (r, shared) record).1.entries = r.entries.insert key value := by
  rw [consume_of_entry running said, (tell_frame ..).1]
  rfl

theorem entries_consume (f : Following V O E) (r : Replica V O) (shared : E) (record : Record) :
    (consume f (r, shared) record).1.entries = r.entries ∨ ∃ key value,
      record.key = Key.encode key ∧
        (consume f (r, shared) record).1.entries = r.entries.insert key value := by
  cases ended : r.progress.stopped with
  | true => exact .inl (by rw [consume_of_stopped ended])
  | false =>
    cases said : Decoded.ofRecord f.codec record with
    | legacy => exact .inl (by rw [consume_of_legacy ended said]; rfl)
    | broken name error => exact .inl (by rw [consume_of_broken ended said]; rfl)
    | entry name value =>
      exact .inr ⟨name, value, Decoded.key_of_entry said, entries_consume_of_entry ended said⟩

theorem key_of_changed
    (changed : (consume f (r, shared) record).1.entries.get? key ≠ r.entries.get? key) :
    record.key = Key.encode key := by
  rcases entries_consume f r shared record with same | ⟨name, value, spelled, set⟩
  · rw [same] at changed
    exact absurd rfl changed
  · by_cases here : key = name
    · rw [here, spelled]
    · rw [set, Dictionary.get?_insert_of_ne _ here] at changed
      exact absurd rfl changed

theorem entries_consume_of_refused (refused : ∀ name, record.key ≠ Key.encode name) :
    (consume f (r, shared) record).1.entries = r.entries := by
  rcases entries_consume f r shared record with same | ⟨name, value, spelled, _⟩
  · exact same
  · exact absurd spelled (refused name)

end Replica

/-- A record whose key is refused is passed over if the key is from the time before frames, and
cannot be read otherwise. -/
theorem Decoded.ofRecord_of_refused (codec : Codec V) {record : Record} {error : DecodeError}
    (refused : Key.Refused record.key error) :
    (∃ rest, record.key = 0 :: rest) ∧ ofRecord codec record = .legacy ∨
      ofRecord codec record = .broken (Text.Utf8.decodeLossy record.key) error := by
  have said : ofRecord codec record = ofFault (Text.Utf8.decodeLossy record.key) error := by
    rw [ofRecord, refused.decode_eq]
  rw [said]
  generalize record.key = bytes at refused
  cases refused with
  | legacy rest => exact .inl ⟨⟨rest, rfl⟩, rfl⟩
  | empty => exact .inr rfl
  | null rest => exact .inr rfl
  | unknown rest _ _ _ => exact .inr rfl
  | undecodable _ _ => exact .inr rfl

/-- A key has one spelling. Bytes that decode to it are the bytes it is encoded as, so two records
address one entry exactly if their key bytes are equal; all of them are in one partition of any log,
and compaction leaves the last. A record that is applied sets the entry of the key that its bytes
decode to and no other one. Bytes that are not a data frame around a text are refused, each kind for
its own reason, and a record with such a key sets no entry of any replica. -/
theorem Key.spelled_once (f : Following V O E) (topic : String) (partitions : Nat)
    (events : List Log.Event) :
    let log := (Log.create topic partitions).after events
    let held := log.partitions.flatMap (·.records)
    let kept := log.compact.2.partitions.flatMap (·.records)
    (∀ bytes key, decode bytes = .ok key ↔ bytes = encode key) ∧
      (∀ bytes error, decode bytes = .error error ↔ Refused bytes error) ∧
      (∀ bytes, (∃ error, Refused bytes error) ↔ ∀ text, bytes ≠ 1 :: Bytes.ofString text) ∧
      (∀ (a b : Record) key other, decode a.key = .ok key → decode b.key = .ok other →
        (key = other ↔ a.key = b.key)) ∧
      (∀ (r : Replica V O) shared record key value, r.progress.stopped = false →
        Decoded.ofRecord f.codec record = .entry key value →
          decode record.key = .ok key ∧
            (Replica.consume f (r, shared) record).1.entries = r.entries.insert key value) ∧
      (∀ (r : Replica V O) shared record key,
        (Replica.consume f (r, shared) record).1.entries.get? key ≠ r.entries.get? key →
          decode record.key = .ok key) ∧
      (∀ (r : Replica V O) shared record error, Refused record.key error →
        (Replica.consume f (r, shared) record).1.entries = r.entries ∧
          ((∃ rest, record.key = 0 :: rest) ∧ Decoded.ofRecord f.codec record = .legacy ∨
            Decoded.ofRecord f.codec record =
              .broken (Text.Utf8.decodeLossy record.key) error)) ∧
      (∀ (index : Nat) record key, record ∈ (log.part index).records →
        decode record.key = .ok key → index = log.route (encode key)) ∧
      ∀ key, kept.filter (Record.addresses key) =
        (held.filter (Record.addresses key)).getLast?.toList := by
  intro log held kept
  have tidy : log.Tidy := (Log.Tidy.create topic partitions).after events
  refine ⟨fun _ _ => decode_eq_ok_iff, fun _ _ => decode_eq_error_iff, fun _ => refused_iff,
    fun a b key other first second => ?_, fun r shared record key value running said => ⟨?_, ?_⟩,
    fun r shared record key changed => ?_,
    fun r shared record error refused => ⟨?_, Decoded.ofRecord_of_refused f.codec refused⟩,
    fun index record key member read => ?_, fun key => ?_⟩
  · rw [decode_eq_ok_iff.mp first, decode_eq_ok_iff.mp second, encode_inj]
  · exact decode_eq_ok_iff.mpr (Decoded.key_of_entry said)
  · exact Replica.entries_consume_of_entry running said
  · exact decode_eq_ok_iff.mpr (Replica.key_of_changed changed)
  · exact Replica.entries_consume_of_refused (refused_iff.mp ⟨error, refused⟩)
  · rw [← decode_eq_ok_iff.mp read, tidy.routed index record member]
  · rw [filter_addresses, filter_addresses]
    exact tidy.withKey_compact (encode key)

theorem Key.one_entry_set :
    let r : Replica Bytes Unit := { topic := "roads", observers := [()] }
    let readable : Record := ⟨0, 0, encode "a", some [1, 7]⟩
    let garbled : Record := ⟨0, 1, [1, 255], some [1, 7]⟩
    decode readable.key = .ok "a" ∧
      (Replica.consume .plain (r, ()) readable).1.entries = r.entries.insert "a" (some [7]) ∧
      ∃ error, decode garbled.key = .error error ∧
        (Replica.consume .plain (r, ()) garbled).1.entries = r.entries := by
  intro r readable garbled
  obtain ⟨_, refusal, _, _, applied, _, refused, _⟩ := spelled_once .plain "roads" 1 []
  have said : Decoded.ofRecord Codec.plain readable = .entry "a" (some [7]) := rfl
  obtain ⟨read, set⟩ := applied r () readable "a" (some [7]) rfl said
  have failed : decode garbled.key = .error (.invalidKey (.encoding (.broken 1 0))) := rfl
  exact ⟨read, set, _, failed, (refused r () garbled _ ((refusal _ _).mp failed)).1⟩

end RoadRegistry
