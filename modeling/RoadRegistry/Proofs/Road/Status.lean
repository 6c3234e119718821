import RoadRegistry.Proofs.Json.Fields
import RoadRegistry.Road.Status

namespace RoadRegistry.Road

theorem Phase.read_name (phase : Phase) : Phase.read (.string phase.name) = .ok phase := by
  cases phase <;> rfl

namespace Status

open Json

variable (status : Status)

theorem fields_yield :
    phaseField.Yields (Dictionary.ofList status.fields) status.phase ∧
      topicNameField.Yields (Dictionary.ofList status.fields) status.topicName ∧
      partitionsField.Yields (Dictionary.ofList status.fields) status.partitions ∧
      messageField.Yields (Dictionary.ofList status.fields) status.message := by
  simp only [Field.Yields, lookup?_entries_ofList, fields, List.reverse_append, List.reverse_cons,
    List.reverse_nil, List.nil_append, lookup?_append, lookup?_cons, lookup?_nil, lookup?_optional,
    reverse_toList, phaseField, topicNameField, partitionsField, messageField, String.reduceEq,
    ite_true, ite_false, Option.or_none, Option.none_or]
  refine ⟨Phase.read_name _, rfl, ?_, ?_⟩
  · cases status.partitions with
    | none => rfl
    | some n => exact Reader.optional_uint32 n
  · cases status.message <;> rfl

theorem read_toValue : read status.toValue = .ok status := by
  obtain ⟨phase, topicName, partitions, message⟩ := status.fields_yield
  have pass : ∀ known ∈ record.fields, known.Passes (Dictionary.ofList status.fields) := by
    simp only [record, List.forall_mem_cons, List.not_mem_nil, false_implies, implies_true,
      and_true]
    exact ⟨phase.passes, topicName.passes, partitions.passes, message.passes⟩
  have built : record.build .missingField (Dictionary.ofList status.fields).entries =
      .ok status := by
    simp only [record, phase.get, topicName.get, partitions.get, message.get]
    rfl
  exact (Record.read_object pass).trans built

end Status

end RoadRegistry.Road
