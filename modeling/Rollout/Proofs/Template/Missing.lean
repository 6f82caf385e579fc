import Rollout.Proofs.Template.Places

/-!
# Missing references

Where placeholders have an address, resolution depends on the references alone: it reports the first
one, in document order, that is missing, and succeeds if none is.
-/

set_option autoImplicit false

namespace Rollout

namespace Template

/-- The first of some references that is missing. -/
def firstMissing (lookUp : Reference → Option Value) (references : List Reference) :
    Option Reference :=
  references.find? fun reference => (lookUp reference).isNone

private theorem reason?_resolve_some (lookUp : Reference → Option Value) (address : String)
    (template : Template) :
    Computation.reason? (template.resolve lookUp (some address)) =
      (firstMissing lookUp template.references).map fun missing => .reference missing.name := by
  have lacking : ∀ marker : Marker, marker.isLacking lookUp (some address) =
      marker.reference?.any fun reference => (lookUp reference).isNone := by
    intro marker
    cases marker <;> rfl
  rw [reason?_resolve, firstLacking?, references_eq, firstMissing, List.find?_filterMap]
  simp only [lacking]
  cases found : template.markers.find? _ with
  | none => rfl
  | some each =>
      have absent := List.find?_some found
      obtain ⟨_, marker⟩ := each
      cases marker with
      | reference => rfl
      | placeholder => cases absent

end Template

namespace Registry

variable {registry : Registry} {template : Template} {address : String}
  {contract : Option Scalar}

theorem isNone_lookUp (registry : Registry) (reference : Reference) :
    (registry.lookUp reference).isNone = !registry.contains (.text reference.name) := by
  rw [lookUp, contains]
  cases registry.find? (.text reference.name) <;> rfl

theorem resolve_of_firstMissing_eq_none
    (complete : Template.firstMissing registry.lookUp template.references = none) :
    ∃ value, registry.resolve template (some address) contract = .ok value := by
  have settled := Template.reason?_resolve_some registry.lookUp address template
  rw [complete] at settled
  obtain ⟨value, resolved⟩ := Computation.reason?_eq_none_iff.mp settled
  exact ⟨value, by rw [resolve, resolved]; rfl⟩

theorem resolve_of_firstMissing_eq_some {reference : Reference}
    (missing : Template.firstMissing registry.lookUp template.references = some reference) :
    registry.resolve template (some address) contract =
      .error (.unresolved reference.name contract) := by
  have settled := Template.reason?_resolve_some registry.lookUp address template
  rw [missing] at settled
  rw [resolve, Computation.reason?_eq_some_iff.mp settled]
  rfl

end Registry

end Rollout
