import RoadRegistry.Proofs.Json.Canonical
import RoadRegistry.Proofs.Keys

namespace RoadRegistry

theorem eq_ok_of_mapError {ε ε' α : Type} {f : ε → ε'} {x : Except ε α} {a : α}
    (mapped : x.mapError f = .ok a) : x = .ok a := by
  cases x with
  | error e => cases mapped
  | ok b =>
    cases mapped
    rfl

namespace Model

variable {V : Type} (model : Model V)

theorem ofBytes_eq_bind (bytes : Bytes) :
    model.ofBytes bytes = json.ofBytes bytes >>= model.read := by
  unfold ofBytes ofText parseText
  cases Text.Utf8.decode bytes with
  | error fault => rfl
  | ok text =>
    dsimp only
    cases Json.parse text.toList <;> rfl

theorem ofBytes_toBytes (value : V) :
    model.ofBytes (model.toBytes value) =
      if (model.write value).depth ≤ Json.nestingLimit then model.read (model.write value).reread
      else .error .malformed := by
  have parsed : Json.parse (model.toText value).toList =
      if (model.write value).depth ≤ Json.nestingLimit then some (model.write value).reread
      else none := by
    rw [toText, Json.text, String.toList_ofList]
    exact Json.parse_write _
  rw [ofBytes, toBytes, Text.Utf8.decode_ofString]
  simp only [ofText, parseText, parsed]
  by_cases shallow : (model.write value).depth ≤ Json.nestingLimit
  · rw [if_pos shallow, if_pos shallow]
    rfl
  · rw [if_neg shallow, if_neg shallow]
    rfl

end Model

namespace Codec

variable {V : Type} {model : Model V} {bytes : Bytes} {value : V}

theorem decode_eq_some_iff :
    (ofModel model).decode bytes = .ok (some value) ↔
      ∃ payload, Frame.decode bytes = .ok (.data payload) ∧ model.ofBytes payload = .ok value := by
  constructor
  · intro decoded
    obtain ⟨frame, framed, decoded⟩ := exists_of_bind_eq_ok decoded
    cases frame with
    | null => cases decoded
    | data payload =>
      refine ⟨payload, framed, ?_⟩
      dsimp only at decoded
      split at decoded
      · next same =>
        cases decoded
        exact same
      · cases decoded
  · rintro ⟨payload, framed, read⟩
    unfold ofModel
    simp only [framed, Bind.bind, Except.bind, read]
    rfl

theorem exists_document (decoded : (ofModel model).decode bytes = .ok (some value)) :
    ∃ json, (ofModel .json).decode bytes = .ok (some json) ∧ model.read json = .ok value := by
  obtain ⟨payload, framed, read⟩ := decode_eq_some_iff.mp decoded
  rw [Model.ofBytes_eq_bind] at read
  obtain ⟨json, document, read⟩ := exists_of_bind_eq_ok read
  exact ⟨json, decode_eq_some_iff.mpr ⟨payload, framed, document⟩, read⟩

theorem tidy_document {json : Json} (decoded : (ofModel .json).decode bytes = .ok (some json)) :
    json.Tidy Json.nestingLimit := by
  obtain ⟨payload, _, read⟩ := decode_eq_some_iff.mp decoded
  unfold Model.ofBytes Model.ofText Model.parseText at read
  split at read
  · split at read
    · next parsed =>
      cases read
      exact Json.tidy_of_parse parsed
    · cases read
  · cases read

end Codec

end RoadRegistry
