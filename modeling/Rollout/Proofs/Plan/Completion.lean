import Rollout.Proofs.Plan.Order

/-!
# Plans of completed runs

A run that completes has found the references of every contract that it deployed. What it skips it
does not look at, whereas the check of its plan does: such a plan is refused only on behalf of a
contract that was recorded before the run.
-/

set_option autoImplicit false

namespace Rollout

/-- A reference names a contract that is recorded or that comes before. -/
def Plan.Known (registry : Registry) (before : List Descriptor) (reference : Reference) : Prop :=
  registry.contains (.text reference.name) = true ∨
    ∃ earlier ∈ before, earlier.name.key = .text reference.name

namespace Plan

variable {registry : Registry} {before : List Descriptor} {reference : Reference}

theorem unavailable_iff :
    (!(availableBehind (registry.names.map Scalar.key) before).contains (.text reference.name)) =
        true ↔ ¬ Known registry before reference := by
  unfold availableBehind Known
  rw [Bool.not_eq_true', Bool.eq_false_iff, ne_eq, List.contains_iff_mem, List.mem_append,
    List.mem_reverse, Registry.contains_iff, or_comm]
  simp [Registry.names, Scalar.key]

private theorem firstUnavailable_some {references : List Reference}
    (found : firstUnavailable (availableBehind (registry.names.map Scalar.key) before) references =
      some reference) :
    reference ∈ references ∧ ¬ Known registry before reference := by
  have absent := List.find?_some found
  exact ⟨List.mem_of_find?_eq_some found, unavailable_iff.mp absent⟩

theorem checkReferences_eq_ok_iff {contract : Scalar} {references : List Reference} :
    checkReferences (availableBehind (registry.names.map Scalar.key) before) contract references =
        .ok () ↔
      ∀ reference ∈ references, Known registry before reference := by
  rw [checkReferences_eq]
  constructor
  · intro accepted reference member
    split at accepted
    · cases accepted
    · next complete =>
        have present := List.find?_eq_none.mp complete reference member
        rw [unavailable_iff, not_not] at present
        exact present
  · intro known
    split
    · next found =>
        obtain ⟨member, unknown⟩ := firstUnavailable_some found
        exact absurd (known _ member) unknown
    · rfl

end Plan

namespace Deployment

variable {σ : Type} {client : Client σ} {catalog : Schema.Catalog} {path : Option Path}
  {registry final : Registry} {before rest : List Descriptor} {descriptor : Descriptor}
  {session after : Session σ}

private theorem advance_before
    (completed : (advance client catalog path registry (before ++ descriptor :: rest)).run session =
      ((final, .ok ()), after)) :
    ∃ known middle, (advance client catalog path registry before).run session =
        ((known, .ok ()), middle) ∧
      (advance client catalog path known (descriptor :: rest)).run middle =
        ((final, .ok ()), after) := by
  rcases ran : (advance client catalog path registry before).run session with
    ⟨⟨known, ending⟩, middle⟩
  cases ending with
  | error halt =>
      rw [advance_append_error ran] at completed
      cases completed
  | ok _ =>
      rw [advance_append ran] at completed
      exact ⟨known, middle, rfl, completed⟩

/-- A completed run knew the references of a contract that it did not skip. -/
theorem checkReferences_of_completed
    (completed : (advance client catalog path registry (before ++ descriptor :: rest)).run session =
      ((final, .ok ()), after))
    (distinct : ((before ++ descriptor :: rest).map (·.name.key)).Nodup)
    (absent : registry.contains descriptor.name = false) :
    Plan.checkReferences (Plan.availableBehind (registry.names.map Scalar.key) before)
      descriptor.name descriptor.message.references = .ok () := by
  obtain ⟨known, middle, advanced, continued⟩ := advance_before completed
  rw [Plan.checkReferences_eq]
  split
  · next found unavailable =>
      obtain ⟨halted, stepped⟩ :=
        step_of_unavailable advanced distinct absent unavailable
      rw [advance_cons_error stepped] at continued
      cases continued
  · rfl

/-- The check accepts the plan of a completed run just if the contracts that were recorded before
it refer to nothing but what is recorded or comes before them. A refusal blames one of these. -/
theorem completed_run_refused_for_recorded (client : Client σ) (catalog : Schema.Catalog)
    (path : Option Path) (registry : Registry) (descriptors : List Descriptor)
    (session : Session σ)
    (completed : ((run client catalog path registry descriptors).run session).1.2 = .ok ()) :
    (Plan.checkOrder descriptors registry.names = .ok () ↔
        ∀ before descriptor rest, descriptors = before ++ descriptor :: rest →
          registry.contains descriptor.name = true →
            ∀ reference ∈ descriptor.message.references, Plan.Known registry before reference) ∧
      ∀ fault, Plan.checkOrder descriptors registry.names = .error fault →
        ∃ before culprit rest reference, descriptors = before ++ culprit :: rest ∧
          registry.contains culprit.name = true ∧ reference ∈ culprit.message.references ∧
          ¬ Plan.Known registry before reference ∧
          fault = .unresolved reference.name (some culprit.name) := by
  have distinct : (descriptors.map (·.name.key)).Nodup := by
    by_contra repeated
    obtain ⟨name, _, ran⟩ := run_of_repeated client catalog path registry session repeated
    rw [ran] at completed
    cases completed
  rcases advanced : (advance client catalog path registry descriptors).run session with
    ⟨⟨final, ending⟩, after⟩
  obtain ⟨outcome, _⟩ := run_of_distinct client catalog path registry session distinct
  rw [outcome, advanced] at completed
  dsimp only at completed
  subst completed
  constructor
  · refine Plan.checkFrom_eq_ok_iff.trans ⟨?_, ?_⟩
    · intro accepted before descriptor rest split _
      exact Plan.checkReferences_eq_ok_iff.mp (accepted before descriptor rest split)
    · rintro recorded before descriptor rest rfl
      cases present : registry.contains descriptor.name with
      | true =>
          exact Plan.checkReferences_eq_ok_iff.mpr (recorded before descriptor rest rfl present)
      | false => exact checkReferences_of_completed advanced distinct present
  · intro fault refused
    obtain ⟨before, culprit, rest, rfl, blamed⟩ := Plan.checkFrom_eq_error refused
    obtain ⟨reference, unavailable, rfl⟩ := Plan.firstUnavailable_eq_some blamed
    obtain ⟨member, unknown⟩ := Plan.firstUnavailable_some unavailable
    refine ⟨before, culprit, rest, reference, rfl, ?_, member, unknown, rfl⟩
    cases present : registry.contains culprit.name with
    | true => rfl
    | false =>
        rw [checkReferences_of_completed advanced distinct present] at blamed
        cases blamed

def vaultRecorded : Registry :=
  ⟨.null, [⟨.text "vault", .int 9, pairAddress⟩], List.nodup_singleton _⟩

/-- A run that skips a contract and deploys the one that it refers to. -/
def skipping : Sitting (List CommandLine.ChainAnswer) :=
  rehearsed none vaultRecorded [storedAs 7, instantiatedAt]

/-- The run completes on a client that accepts everything, but the check blames the contract that
is skipped. -/
theorem skipped_vault_refused :
    (pair.reverse.map (·.name.key)).Nodup ∧
      (skipping.finished pairCatalog pair.reverse).1.2 = .ok () ∧
      Plan.checkOrder pair.reverse skipping.registry.names =
        .error (.unresolved "hub" (some (.text "vault"))) := by
  refine ⟨by decide, rfl, rfl⟩

/-- A run that skips the first contract of a pair has a plan that is accepted. One that skips the
second contract, which comes first, has one that is refused for it. -/
theorem recorded_pair_checked :
    (continued.finished pairCatalog pair).1.2 = .ok () ∧
      Plan.checkOrder pair continued.registry.names = .ok () ∧
      (skipping.finished pairCatalog pair.reverse).1.2 = .ok () ∧
      ∃ culprit ∈ pair.reverse, vaultRecorded.contains culprit.name = true ∧
        culprit.name = .text "vault" := by
  have inOrder := completed_run_refused_for_recorded continued.client pairCatalog continued.path
    continued.registry pair continued.session rfl
  have reversed := completed_run_refused_for_recorded skipping.client pairCatalog skipping.path
    skipping.registry pair.reverse skipping.session rfl
  refine ⟨rfl, ?_, rfl, ?_⟩
  · refine inOrder.1.mpr ?_
    intro before descriptor rest split present
    -- the contract that is recorded refers to nothing
    have member : descriptor ∈ pair := by
      rw [split]
      simp
    obtain rfl | rfl : descriptor = pair[0] ∨ descriptor = pair[1] := by
      simpa [pair] using member
    · exact fun _ absurdly => absurd absurdly List.not_mem_nil
    · cases present
  · obtain ⟨before, culprit, rest, _, split, present, _, _, same⟩ := reversed.2 _ rfl
    have member : culprit ∈ pair.reverse := by
      rw [split]
      simp
    refine ⟨culprit, member, present, ?_⟩
    injection same with _ named
    exact (Option.some.inj named).symm

end Deployment

end Rollout
