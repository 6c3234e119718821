import RoadRegistry.Proofs.Json.Payloads
import RoadRegistry.Proofs.Road.Document

namespace RoadRegistry

namespace Json

theorem Record.exists_build {α : Type} {record : Record α} {json : Json} {value : α}
    (read : record.read json = .ok value) :
    ∃ missing fields, record.build missing fields = .ok value ∧
      ∀ field ∈ fields, field.2 ∈ json.children := by
  cases json with
  | object fields =>
    obtain ⟨_, _, built⟩ := exists_of_bind_eq_ok read
    exact ⟨_, fields, built, fun field member => List.mem_map_of_mem member⟩
  | array items =>
    obtain ⟨_, built, fits⟩ := exists_of_bind_eq_ok read
    split at fits
    · cases fits
    · cases fits
      exact ⟨_, _, built, fun field member => (List.of_mem_zip member).2⟩
  | _ => cases read

theorem eq_object_of_map {json : Json} {d : Dictionary String Json}
    (ordered : json.isOrdered = true) (read : Reader.map json = .ok d) :
    json = .object d.entries := by
  cases json with
  | object fields =>
    have sorted : fields.Pairwise fun a b => a.1 < b.1 :=
      of_decide_eq_true (everywhere_iff.mp ordered).1
    cases read
    rw [Dictionary.entries_ofList sorted]
  | _ => cases read

theorem eq_of_present {json kept : Json} (found : json.present = some kept) : json = kept := by
  cases json with
  | null => cases found
  | _ => exact Option.some.inj found

end Json

namespace Road

open Json

variable {road : Road}

theorem carried_of_build {missing : String → ShapeError} {fields : List (String × Json)}
    (built : record.build missing fields = .ok road) :
    schemasField.get missing fields = .ok road.schemas ∧
      authorisationField.get missing fields = .ok road.authorisation := by
  -- The six fields before these carry no document.
  obtain ⟨_, _, built⟩ := exists_of_bind_eq_ok built
  obtain ⟨_, _, built⟩ := exists_of_bind_eq_ok built
  obtain ⟨_, _, built⟩ := exists_of_bind_eq_ok built
  obtain ⟨_, _, built⟩ := exists_of_bind_eq_ok built
  obtain ⟨_, _, built⟩ := exists_of_bind_eq_ok built
  obtain ⟨_, _, built⟩ := exists_of_bind_eq_ok built
  obtain ⟨schemas, schemasGiven, built⟩ := exists_of_bind_eq_ok built
  obtain ⟨authorisation, authorisationGiven, built⟩ := exists_of_bind_eq_ok built
  obtain ⟨_, _, built⟩ := exists_of_bind_eq_ok built
  cases built
  exact ⟨schemasGiven, authorisationGiven⟩

def carriedLimit : Nat := nestingLimit - 1

/-- What a road carries through untouched is canonical, and nothing of it stands for its absence. -/
structure Settled (road : Road) : Prop where
  schemas : Canonical carriedLimit (.object road.schemas.entries)
  authorisation : ∀ json ∈ road.authorisation,
    Canonical carriedLimit json ∧ json.present = some json

theorem settled_of_read {json : Json} (canonical : Canonical nestingLimit json)
    (read : record.read json = .ok road) : road.Settled := by
  obtain ⟨missing, fields, built, parts⟩ := Record.exists_build read
  obtain ⟨schemas, authorisation⟩ := carried_of_build built
  have below : ∀ field ∈ fields, Canonical carriedLimit field.2 := fun field member =>
    Canonical.child canonical (parts field member)
  constructor
  · rcases Field.exists_of_get schemas with fallback | ⟨document, member, given⟩
    · rw [← Option.some.inj fallback]
      exact .object .nil (List.forall_mem_nil _)
    · have part := below _ member
      exact eq_object_of_map part.ordered given ▸ part
  · intro kept found
    rcases Field.exists_of_get authorisation with fallback | ⟨document, member, given⟩
    · rw [← Option.some.inj fallback] at found
      cases found
    · have same : document.present = some kept :=
        (Except.ok.inj ((optional_any document).symm.trans given)).trans found
      obtain rfl := eq_of_present same
      exact ⟨below _ member, same⟩

theorem Status.depth_toJson (status : Status) : status.toJson.depth ≤ 1 := by
  rw [toJson, depth, fields]
  cases status.partitions <;> cases status.message <;> exact Nat.le_refl 1

theorem Settled.readable (settled : road.Settled) (named : Text.isBlank road.name = false) :
    road.Readable := by
  have below : ∀ field ∈ road.fields, field.2.depth ≤ carriedLimit := by
    have flat {p : Prop} : p → 0 ≤ carriedLimit := fun _ => Nat.zero_le _
    simp only [fields, List.forall_mem_append, List.forall_mem_cons, forall_mem_optional,
      List.not_mem_nil, false_implies, implies_true, and_true]
    refine ⟨⟨⟨⟨⟨⟨⟨Nat.zero_le _, fun _ => flat⟩, fun _ => flat⟩, Nat.zero_le _, Nat.zero_le _⟩,
      fun _ => flat⟩, ?schemas⟩, ?authorisation⟩, ?status⟩
    case schemas =>
      intro field member
      split at member
      · cases member
      · rw [List.mem_singleton.mp member]
        exact settled.schemas.shallow
    case authorisation =>
      exact fun json found => (settled.authorisation json found).1.shallow
    case status =>
      exact fun status _ => Nat.le_trans status.depth_toJson (by decide)
  refine ⟨?_, named⟩
  exact depth_le_succ_iff.mpr (List.forall_mem_map.mpr below)

theorem Settled.reread_eq_self (settled : road.Settled) : road.reread = road := by
  have kept : Dictionary.ofList (rereadFields road.schemas.entries) = road.schemas := by
    have entries := Json.object.inj settled.schemas.reread_eq_self
    rw [← Dictionary.ofList_entries (.ofList _), entries, Dictionary.ofList_entries]
  have untouched : (road.authorisation.map Json.reread).bind present = road.authorisation := by
    cases found : road.authorisation with
    | none => rfl
    | some json =>
      obtain ⟨canonical, present⟩ := settled.authorisation json found
      rw [Option.map_some, canonical.reread_eq_self, Option.bind_some, present]
  rw [reread, kept, untouched]

theorem read_eq_ok {json : Json} (read : model.read json = .ok road) :
    record.read json = .ok road ∧ Text.isBlank road.name = false := by
  obtain ⟨plain, shaped, checked⟩ := exists_of_bind_eq_ok read
  unfold requireName at checked
  split at checked
  · cases checked
  · next named =>
    cases checked
    exact ⟨eq_ok_of_mapError shaped, Bool.not_eq_true _ ▸ named⟩

/-- A road that was read from a document without floats is written, reads back as it was, and is
written the same way again. -/
theorem reencoding_keeps_road {bytes : Bytes} {road : Road}
    (integral : ∀ json, (Codec.ofModel .json).decode bytes = .ok (some json) →
      json.isIntegral = true)
    (decoded : codec.decode bytes = .ok (some road)) :
    ∃ written, codec.encodeOption (some road) = .ok written ∧
      codec.decode written = .ok (some road) ∧
      ∀ again, codec.decode written = .ok again → codec.encodeOption again = .ok written := by
  obtain ⟨json, document, read⟩ := Codec.exists_document decoded
  obtain ⟨shaped, named⟩ := read_eq_ok read
  have settled : road.Settled :=
    settled_of_read ⟨Codec.tidy_document document, integral json document⟩ shaped
  have back : codec.decode road.payload = .ok (some road) := by
    rw [codec_decode, if_pos (settled.readable named), settled.reread_eq_self]
  refine ⟨road.payload, codec_encode road, back, fun again decodedAgain => ?_⟩
  rw [back] at decodedAgain
  cases decodedAgain
  exact codec_encode road

/-- A road in an unusual spelling: positional fields with an escape and a null, a repeated key, keys
out of order, and a phase written as an object. -/
def spelledOut : Bytes := 1 :: Bytes.ofString
  ("[\"r\\u0031\",null,\"t\",true,false,3,\x7b\"b\":[-2],\"a\":7,\"a\":[]\x7d," ++
    "[[]],[\x7b\"READY\":null\x7d,\"x\"]]")

theorem spelled_out_survives :
    ∃ road written, codec.decode spelledOut = .ok (some road) ∧
      (road.name, road.schemas.keys, road.phase) = ("r1", ["a", "b"], .ready) ∧
      codec.encodeOption (some road) = .ok written ∧ codec.decode written = .ok (some road) := by
  have integral : ∀ json, (Codec.ofModel .json).decode spelledOut = .ok (some json) →
      json.isIntegral = true := by
    have all : ((Codec.ofModel .json).decode spelledOut).toOption.join.all isIntegral = true := by
      decide +kernel
    intro json document
    rw [document] at all
    exact all
  have read : (codec.decode spelledOut).toOption.join.map
      (fun road => (road.name, road.schemas.keys, road.phase)) =
        some ("r1", ["a", "b"], .ready) := by
    decide +kernel
  obtain ⟨road, found, seen⟩ := Option.map_eq_some_iff.mp read
  have decoded : codec.decode spelledOut = .ok (some road) := by
    cases given : codec.decode spelledOut with
    | error fault => rw [given] at found; cases found
    | ok value => rw [given] at found; exact congrArg Except.ok found
  obtain ⟨written, encoded, back, _⟩ := reencoding_keeps_road integral decoded
  exact ⟨road, written, decoded, seen, encoded, back⟩

end Road

end RoadRegistry
