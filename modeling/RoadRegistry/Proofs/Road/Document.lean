import RoadRegistry.Proofs.Json.Payloads
import RoadRegistry.Proofs.Road.Status
import RoadRegistry.Road.Basic

namespace RoadRegistry

namespace Json

theorem lookup?_map_reread (key : String) (fields : List (String × Json)) :
    lookup? key (fields.map fun field => (field.1, field.2.reread)) =
      (lookup? key fields).map reread := by
  induction fields with
  | nil => rfl
  | cons field rest ih =>
    rw [List.map_cons, lookup?_cons, ih, lookup?_cons]
    split <;> rfl

theorem lookup?_reread (key : String) (fields : List (String × Json)) :
    lookup? key (Dictionary.ofList (rereadFields fields)).entries =
      (lookup? key fields.reverse).map reread := by
  rw [lookup?_entries_ofList, rereadFields_eq_map, ← List.map_reverse, lookup?_map_reread]

theorem lookup?_unless (absent : Bool) (name key : String) (value : Json) :
    lookup? key (if absent then [] else [(name, value)]).reverse =
      if name = key then if absent then none else some value else none := by
  cases absent with
  | false => exact lookup?_cons name value []
  | true => rw [if_pos rfl, if_pos rfl, ite_self]; rfl

def present : Json → Option Json
  | .null => none
  | json => some json

theorem optional_any (json : Json) : Reader.optional Reader.any json = .ok json.present := by
  cases json <;> rfl

end Json

namespace Road

open Json

namespace Status

theorem reread_toJson (status : Status) : status.toJson.reread = status.toValue := by
  have kept : rereadFields status.fields = status.fields := by
    rw [rereadFields_eq_map, fields]
    cases status.partitions <;> cases status.message <;> rfl
  rw [toJson, Json.reread, kept, toValue]

theorem optional_read (status : Status) :
    Reader.optional read status.toJson.reread = .ok (some status) := by
  have as_read : Reader.optional read status.toValue = (read status.toValue).map some := by
    rw [toValue, ofFields, Reader.optional]
    exact Json.noConfusion
  rw [reread_toJson, as_read, read_toValue]
  rfl

end Status

variable (road : Road)

def reread : Road :=
  { road with
    schemas := .ofList (rereadFields road.schemas.entries)
    authorisation := (road.authorisation.map Json.reread).bind present }

def readFields : Dictionary String Json := .ofList (rereadFields road.fields)

theorem fields_yield :
    nameField.Yields road.readFields road.reread.name ∧
      descriptionField.Yields road.readFields road.reread.description ∧
      teamField.Yields road.readFields road.reread.team ∧
      enabledField.Yields road.readFields road.reread.enabled ∧
      deletedField.Yields road.readFields road.reread.deleted ∧
      partitionsField.Yields road.readFields road.reread.partitions ∧
      schemasField.Yields road.readFields road.reread.schemas ∧
      authorisationField.Yields road.readFields road.reread.authorisation ∧
      statusField.Yields road.readFields road.reread.status := by
  simp only [Field.Yields, readFields, lookup?_reread, fields, List.reverse_append,
    List.reverse_cons, List.reverse_nil, List.nil_append, List.cons_append, lookup?_append,
    lookup?_cons, lookup?_nil, lookup?_optional,
    lookup?_optional road.authorisation fun json => json, lookup?_unless, reverse_toList,
    nameField, descriptionField, teamField, enabledField, deletedField, partitionsField,
    schemasField, authorisationField, statusField, String.reduceEq, ite_true, ite_false,
    Option.or_none, Option.none_or, reread]
  refine ⟨rfl, ?_, ?_, rfl, rfl, ?_, ?_, ?_, ?_⟩
  · cases road.description <;> rfl
  · cases road.team <;> rfl
  · cases road.partitions with
    | none => rfl
    | some n => exact Reader.optional_uint32 n
  · cases written : road.schemas.entries with
    | nil => rfl
    | cons first rest => exact congrArg Except.ok (Dictionary.ofList_entries _)
  · cases road.authorisation with
    | none => rfl
    | some json => exact optional_any json.reread
  · cases road.status with
    | none => rfl
    | some status => exact status.optional_read

theorem read_reread : record.read road.toJson.reread = .ok road.reread := by
  obtain ⟨name, description, team, enabled, deleted, partitions, schemas, authorisation, status⟩ :=
    road.fields_yield
  have pass : ∀ known ∈ record.fields, known.Passes road.readFields := by
    simp only [record, List.forall_mem_cons, List.not_mem_nil, false_implies, implies_true,
      and_true]
    exact ⟨name.passes, description.passes, team.passes, enabled.passes, deleted.passes,
      partitions.passes, schemas.passes, authorisation.passes, status.passes⟩
  have built : record.build .missingField road.readFields.entries = .ok road.reread := by
    simp only [record, name.get, description.get, team.get, enabled.get, deleted.get,
      partitions.get, schemas.get, authorisation.get, status.get]
    rfl
  exact (Record.read_object pass).trans built

def Readable : Prop :=
  road.toJson.depth ≤ Json.nestingLimit ∧ Text.isBlank road.name = false

instance : Decidable road.Readable := inferInstanceAs (Decidable (_ ∧ _))

def fault : ValueFault :=
  if road.toJson.depth ≤ Json.nestingLimit then .refused "road name is empty" else .malformed

theorem ofBytes_toBytes :
    model.ofBytes (model.toBytes road) =
      if road.Readable then .ok road.reread else .error road.fault := by
  have named : road.reread.name = road.name := rfl
  rw [Model.ofBytes_toBytes]
  by_cases shallow : road.toJson.depth ≤ nestingLimit
  · have read : model.read road.toJson.reread = requireName road.reread := by
      simp only [model, plainModel, read_reread]
      rfl
    refine (if_pos shallow).trans (read.trans ?_)
    rw [requireName, named, fault, if_pos shallow]
    by_cases blank : Text.isBlank road.name = true
    · have unreadable : ¬ road.Readable := fun readable => by
        rw [readable.2] at blank
        cases blank
      rw [if_pos blank, if_neg unreadable]
    · rw [if_neg blank, if_pos ⟨shallow, Bool.not_eq_true _ ▸ blank⟩]
  · rw [fault, if_neg shallow, if_neg fun readable : road.Readable => shallow readable.1]
    exact if_neg shallow

def payload : Bytes := (Frame.data (model.toBytes road)).encode

theorem codec_encode : codec.encode road = .ok road.payload := rfl

theorem codec_decode :
    codec.decode road.payload =
      if road.Readable then .ok (some road.reread) else .error (.invalidValue road.fault) := by
  unfold codec Codec.ofModel payload
  simp only [Frame.decode_encode, Bind.bind, Except.bind, ofBytes_toBytes]
  by_cases readable : road.Readable
  · rw [if_pos readable, if_pos readable]
    rfl
  · rw [if_neg readable, if_neg readable]

theorem encodeEntry_eq (key : String) :
    Replica.encodeEntry codec key road = .ok (Key.encode key, some road.payload) := by
  rw [Replica.encodeEntry, codec_encode]

theorem ofRecord_payload (key : String) (partition offset : Int) :
    Decoded.ofRecord codec ⟨partition, offset, Key.encode key, some road.payload⟩ =
      if road.Readable then .entry key (some road.reread)
      else .broken key (.invalidValue road.fault) := by
  unfold Decoded.ofRecord
  rw [Key.decode_encode]
  simp only [codec_decode]
  by_cases readable : road.Readable
  · rw [if_pos readable, if_pos readable]
  · rw [if_neg readable, if_neg readable]
    rfl

end Road

end RoadRegistry
