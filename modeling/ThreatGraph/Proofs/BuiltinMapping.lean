import ThreatGraph.Mapping.Builtin
import ThreatGraph.Proofs.Acceptance

/-!
# The built-in mapping

The built-in documents agree with each other (`Mapping.builtin_eq`), so what holds under consistent
mappings holds under the built-in one. Under it a relationship is stored as a relation whose type
the object chooses by its own kind, and its two ends are named by two properties.

The documents are closed terms, so that they agree is decided by evaluating the checks.
-/

namespace ThreatGraph

/-- The mapping that comes with the program is that of its documents, which agree. -/
theorem Mapping.builtin_eq : builtin = .ok Documents.builtin.mapping :=
  assemble_eq_ok.mpr ⟨.builtin, rfl, rfl, by decide +kernel, by decide +kernel,
    List.isEmpty_iff.mp (by decide +kernel)⟩

theorem Mapping.consistent_builtin : Documents.builtin.mapping.Consistent :=
  consistent_of_assemble builtin_eq

namespace Builtin

theorem classOf?_relationship :
    Documents.builtin.mapping.classOf? "relationship" = some .relationship := by decide +kernel

theorem object_relationship :
    Documents.builtin.mapping.objects.get? "relationship" = some relationshipObject := by
  decide +kernel

/-- The properties that name the objects at the ends of a relationship. -/
def relationshipEnds : List String := ["source_ref", "target_ref"]

theorem roleplayerProperties_relationship :
    Documents.builtin.mapping.roleplayerProperties "relationship" = .ok relationshipEnds := by
  have hsorted : Text.sorted relationshipObject.roleplayers = relationshipEnds := by
    have hroleplayers : relationshipObject.roleplayers = relationshipEnds := by decide +kernel
    simp [hroleplayers, relationshipEnds, Text.sorted, List.mergeSort]
  rw [Mapping.roleplayerProperties_of_object object_relationship, hsorted]

/-- The ends of a relationship have different roles, whatever its type in the target schema. -/
theorem roles_relationship : ∀ typeName ∈ relationshipObject.relationTypes,
    ∀ property ∈ relationshipEnds,
      (Documents.builtin.mapping.role? typeName property).isSome = true ∧
      relationshipEnds.filter (fun other => Documents.builtin.mapping.role? typeName other =
        Documents.builtin.mapping.role? typeName property) = [property] := by
  decide +kernel

end Builtin

end ThreatGraph
