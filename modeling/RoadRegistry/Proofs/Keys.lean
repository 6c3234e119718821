import RoadRegistry.Model
import RoadRegistry.Replica.Basic
import RoadRegistry.Proofs.Text.Utf8

namespace RoadRegistry

def Codec.plain : Codec Bytes where
  encode payload := .ok (Frame.data payload).encode
  decode bytes := do
    match ← Frame.decode bytes with
    | .data payload => return some payload
    | .null => return none

theorem exists_of_bind_eq_ok {ε α β : Type} {first : Except ε α} {next : α → Except ε β} {b : β}
    (both : (first >>= next) = .ok b) : ∃ a, first = .ok a ∧ next a = .ok b := by
  cases first with
  | error e => cases both
  | ok a => exact ⟨a, rfl, both⟩

theorem Frame.decode_eq_data_iff {bytes payload : Bytes} :
    Frame.decode bytes = .ok (.data payload) ↔ bytes = FrameTag.data.toByte :: payload := by
  constructor
  · intro h
    cases bytes with
    | nil => cases h
    | cons byte rest =>
      simp only [Frame.decode, FrameTag.ofByte] at h
      by_cases noop : byte = 0
      · rw [if_pos noop] at h
        cases h
      · by_cases data : byte = 1
        · rw [if_neg noop, if_pos data] at h
          cases h
          rw [data]
          rfl
        · rw [if_neg noop, if_neg data] at h
          split at h <;> cases h
  · rintro rfl
    rfl

namespace Key

theorem decode_encode (key : String) : decode (encode key) = .ok key := by
  unfold decode encode
  rw [Frame.decode_encode]
  simp only [Bind.bind, Except.bind, Text.Utf8.decode_ofString]
  rfl

theorem eq_encode_of_decode {bytes : Bytes} {key : String} (h : decode bytes = .ok key) :
    bytes = encode key := by
  obtain ⟨frame, framed, named⟩ := exists_of_bind_eq_ok h
  cases frame with
  | null => cases named
  | data payload =>
    dsimp only at named
    split at named
    · next read =>
      cases named
      rw [Frame.decode_eq_data_iff.mp framed, Text.Utf8.decode_eq_ok_iff.mp read]
      rfl
    · cases named

theorem encode_inj {key other : String} : encode key = encode other ↔ key = other :=
  (List.cons_inj_right _).trans Text.Utf8.ofString_inj

end Key

namespace Decoded

variable {V : Type} {codec : Codec V} {record : Record} {key : String} {value : Option V}

theorem ofFault_ne_entry (fault : DecodeError) {name : String} :
    (ofFault name fault : Decoded V) ≠ .entry key value := by
  unfold ofFault
  split <;> simp

theorem key_of_entry (h : ofRecord codec record = .entry key value) :
    record.key = Key.encode key := by
  unfold ofRecord at h
  cases decoded : Key.decode record.key with
  | error fault =>
    rw [decoded] at h
    exact absurd h (ofFault_ne_entry fault)
  | ok name =>
    rw [decoded] at h
    have same : name = key := by
      cases held : record.value with
      | none =>
        simp only [held] at h
        cases h
        rfl
      | some bytes =>
        simp only [held] at h
        cases read : codec.decode bytes with
        | error fault => rw [read] at h; exact absurd h (ofFault_ne_entry fault)
        | ok found => rw [read] at h; cases h; rfl
    rw [← same]
    exact Key.eq_encode_of_decode decoded

theorem ofRecord_tombstone (key_eq : record.key = Key.encode key) (no_value : record.value = none) :
    ofRecord codec record = .entry key none := by
  unfold ofRecord
  rw [key_eq, Key.decode_encode, no_value]

theorem ofRecord_value {bytes : Bytes} (key_eq : record.key = Key.encode key)
    (held : record.value = some bytes) (read : codec.decode bytes = .ok value) :
    ofRecord codec record = .entry key value := by
  unfold ofRecord
  rw [key_eq, Key.decode_encode, held]
  simp only [read]

end Decoded

end RoadRegistry
