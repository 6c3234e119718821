import RoadRegistry.Patch.Basic
import RoadRegistry.Proofs.Json.Payloads

namespace RoadRegistry

open Json

namespace Patch.Operation

def value? : Operation → Option Json
  | .add _ value | .replace _ value => some value
  | .remove _ => none

theorem read_toJson (operation : Operation) : read operation.toJson = .ok operation := by
  cases operation <;> rfl

theorem toJson_eq (operation : Operation) :
    operation.toJson = .object (
      [("op", .string operation.name), ("path", .string operation.path)] ++
        (operation.value?.map fun value => ("value", value)).toList) := by
  cases operation <;> rfl

theorem canonical_toJson {operation : Operation} {nesting : Nat}
    (canonical : ∀ value ∈ operation.value?, Canonical nesting value) :
    Canonical (nesting + 1) operation.toJson := by
  rw [toJson_eq]
  apply Canonical.object
  · apply List.pairwise_map.mp
    cases operation.value? with
    | none => exact (by decide : ["op", "path"].Pairwise (· < ·))
    | some value => exact (by decide : ["op", "path", "value"].Pairwise (· < ·))
  · rw [List.forall_mem_append, forall_mem_optional]
    have named : Canonical nesting (.string operation.path) := .string _
    exact ⟨List.forall_mem_cons.mpr ⟨.string _, List.forall_mem_singleton.mpr named⟩, canonical⟩

end Patch.Operation

namespace PatchSet

open Patch

variable (patch : PatchSet)

def valueLimit : Nat := nestingLimit - 3

/-- Every document that the patch set carries is canonical: its objects are maps, its numbers are
integers, and it is nested no deeper than the patch set leaves room for. -/
def Fits : Prop :=
  ∀ operation ∈ patch.operations, ∀ value ∈ operation.value?, Canonical valueLimit value

instance : Decidable patch.Fits := inferInstanceAs (Decidable (∀ _ ∈ _, _))

def fields : Dictionary String Json where
  entries := [("documentId", .string patch.documentId),
    ("operations", .array (patch.operations.map Operation.toJson))]
  sorted := List.pairwise_map.mp (show ["documentId", "operations"].Pairwise (· < ·) by decide)

theorem canonical_toJson (fits : patch.Fits) : Canonical nestingLimit patch.toJson := by
  have operations : ∀ operation ∈ patch.operations,
      Canonical (valueLimit + 1) operation.toJson := fun operation member =>
    Operation.canonical_toJson (fits operation member)
  refine Canonical.object patch.fields.sorted (List.forall_mem_cons.mpr ⟨.string _, ?_⟩)
  exact List.forall_mem_singleton.mpr (.array (List.forall_mem_map.mpr operations))

theorem read_toJson : record.read patch.toJson = .ok patch := by
  have documentId : documentIdField.Yields patch.fields patch.documentId := rfl
  have operations : operationsField.Yields patch.fields patch.operations :=
    Reader.list_map fun operation _ => operation.read_toJson
  have pass : ∀ known ∈ record.fields, known.Passes patch.fields := by
    simp only [record, List.forall_mem_cons, List.not_mem_nil, false_implies, implies_true,
      and_true]
    exact ⟨documentId.passes, operations.passes⟩
  have built : record.build .missingField patch.fields.entries = .ok patch := by
    simp only [record, documentId.get, operations.get]
    rfl
  exact (Record.read_object pass).trans built

theorem ofBytes_toBytes (fits : patch.Fits) :
    model.ofBytes (model.toBytes patch) = .ok patch := by
  have canonical := patch.canonical_toJson fits
  have read : model.read patch.toJson = .ok patch := by
    simp only [model, read_toJson]
    rfl
  rw [Model.ofBytes_toBytes]
  exact (if_pos canonical.shallow).trans (canonical.reread_eq_self.symm ▸ read)

end PatchSet

end RoadRegistry
