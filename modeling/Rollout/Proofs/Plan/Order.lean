import Rollout.Plan.Order
import Rollout.Proofs.Deployment.Halting
import Rollout.Proofs.Template.Missing

/-!
# Checked orders

The check of a plan looks at names alone, and a run resolves messages from records. They agree: a
plan that passes never lacks a reference in a run, and a run that gets to the contract that is
blamed blames it for the same reference.
-/

set_option autoImplicit false

namespace Rollout.Plan

/-- The first of some references that names nothing available. -/
def firstUnavailable (available : List Scalar) (references : List Reference) : Option Reference :=
  references.find? fun reference => !available.contains (.text reference.name)

theorem checkReferences_eq (available : List Scalar) (contract : Scalar)
    (references : List Reference) :
    checkReferences available contract references =
      match firstUnavailable available references with
      | some reference => .error (.unresolved reference.name (some contract))
      | none => .ok () := by
  induction references with
  | nil => rfl
  | cons reference rest ih =>
      rw [checkReferences, ih, firstUnavailable, firstUnavailable, List.find?_cons]
      by_cases present : .text reference.name ∈ available
      · simp [Scalar.key, present]
      · simp [Scalar.key, present]

private theorem firstUnavailable_eq_none {available : List Scalar} {contract : Scalar}
    {references : List Reference}
    (accepted : checkReferences available contract references = .ok ()) :
    firstUnavailable available references = none := by
  rw [checkReferences_eq] at accepted
  split at accepted
  · cases accepted
  · assumption

theorem firstUnavailable_eq_some {available : List Scalar} {contract : Scalar}
    {references : List Reference} {fault : Fault}
    (refused : checkReferences available contract references = .error fault) :
    ∃ reference, firstUnavailable available references = some reference ∧
      fault = .unresolved reference.name (some contract) := by
  rw [checkReferences_eq] at refused
  split at refused
  · next reference found =>
      cases refused
      exact ⟨reference, found, rfl⟩
  · cases refused

/-- What is available to a contract that comes behind others. -/
def availableBehind (available : List Scalar) (before : List Descriptor) : List Scalar :=
  (before.map (·.name.key)).reverse ++ available

private theorem availableBehind_cons (available : List Scalar) (descriptor : Descriptor)
    (before : List Descriptor) :
    availableBehind (descriptor.name.key :: available) before =
      availableBehind available (descriptor :: before) := by
  simp [availableBehind]

/-- The check of a plan is that of each contract by what is available behind those before it. -/
theorem checkFrom_eq_ok_iff {descriptors : List Descriptor} {available : List Scalar} :
    checkFrom available descriptors = .ok () ↔
      ∀ before descriptor rest, descriptors = before ++ descriptor :: rest →
        checkReferences (availableBehind available before) descriptor.name
          descriptor.message.references = .ok () := by
  induction descriptors generalizing available with
  | nil =>
      refine ⟨fun _ before descriptor rest split => ?_, fun _ => rfl⟩
      simp at split
  | cons first others ih =>
      rw [checkFrom]
      constructor
      · intro accepted before descriptor rest split
        obtain ⟨_, here, behind⟩ := Computation.bind_eq_ok accepted
        cases before with
        | nil =>
            cases split
            exact here
        | cons head tail =>
            obtain ⟨rfl, splitRest⟩ := List.cons.inj split
            rw [← availableBehind_cons]
            exact ih.mp behind tail descriptor rest splitRest
      · intro accepted
        have here := accepted [] first others rfl
        rw [availableBehind, List.map_nil, List.reverse_nil, List.nil_append] at here
        rw [here]
        refine ih.mpr fun before descriptor rest split => ?_
        rw [availableBehind_cons]
        exact accepted (first :: before) descriptor rest (by rw [split]; rfl)

/-- A plan is refused on behalf of one of its contracts. -/
theorem checkFrom_eq_error {descriptors : List Descriptor} {available : List Scalar}
    {fault : Fault} (refused : checkFrom available descriptors = .error fault) :
    ∃ before culprit rest, descriptors = before ++ culprit :: rest ∧
      checkReferences (availableBehind available before) culprit.name
        culprit.message.references = .error fault := by
  induction descriptors generalizing available with
  | nil => cases refused
  | cons first others ih =>
      rw [checkFrom] at refused
      cases here : checkReferences available first.name first.message.references with
      | error blamed =>
          rw [here] at refused
          cases refused
          exact ⟨[], first, others, rfl, here⟩
      | ok _ =>
          rw [here] at refused
          obtain ⟨before, culprit, rest, rfl, blamed⟩ := ih refused
          rw [availableBehind_cons] at blamed
          exact ⟨first :: before, culprit, rest, rfl, blamed⟩

end Rollout.Plan

namespace Rollout.Deployment

open Rollout.Chain

variable {σ : Type} {client : Client σ} {catalog : Schema.Catalog} {path : Option Path}
  {registry known : Registry} {descriptors before rest : List Descriptor}
  {descriptor culprit : Descriptor} {session middle : Session σ}

/-- Once contracts are done, their names are recorded besides those that were recorded before. -/
theorem advance_contains_iff
    (advanced : (advance client catalog path registry before).run session =
      ((known, .ok ()), middle)) (name : Scalar) :
    known.contains name = true ↔
      registry.contains name = true ∨ ∃ descriptor ∈ before, descriptor.name.key = name.key := by
  induction before generalizing registry session with
  | nil =>
      cases advanced
      simp
  | cons first others ih =>
      obtain ⟨extended, ending, after, ran, turn⟩ :=
        step_turn client catalog path registry first session
      cases ending with
      | error halt =>
          rw [advance_cons_error ran] at advanced
          cases advanced
      | ok _ =>
          rw [advance_cons_ok ran] at advanced
          rw [ih advanced, List.exists_mem_cons_iff, ← or_assoc]
          refine or_congr_left ?_
          cases turn with
          | skipped present =>
              refine ⟨.inl, ?_⟩
              rintro (here | same)
              · exact here
              · rw [Registry.contains_iff] at present ⊢
                exact same ▸ present
          | recorded _ _ attempt records =>
              rw [Registry.contains_iff, Registry.contains_iff, records]
              simp [attempt.name_eq]

/-- The check of a contract and its turn in a run look for the same references. -/
theorem firstUnavailable_eq_firstMissing
    (advanced : (advance client catalog path registry before).run session =
      ((known, .ok ()), middle)) (references : List Reference) :
    Plan.firstUnavailable (Plan.availableBehind (registry.names.map Scalar.key) before) references =
      Template.firstMissing known.lookUp references := by
  rw [Plan.firstUnavailable, Template.firstMissing]
  congr 1
  funext reference
  rw [Registry.isNone_lookUp, Bool.not_inj_iff, Bool.eq_iff_iff, advance_contains_iff advanced,
    Registry.contains_iff, List.contains_iff_mem, Plan.availableBehind, List.mem_append,
    List.mem_reverse, or_comm]
  simp [Registry.names, Scalar.key]

private theorem validate_ne_unresolved {schemaName message : Value} {reference : String}
    {contract : Option Scalar} :
    catalog.validate .instantiate schemaName message ≠ .error (.unresolved reference contract) := by
  intro refused
  cases schemaName with
  | list | object => cases refused
  | scalar name =>
      simp only [Schema.Catalog.validate, Value.toKey, Schema.Catalog.problems,
        Schema.Catalog.instantiateProblems, Schema.Catalog.schema, bind, Except.bind] at refused
      split at refused
      · cases found : catalog.find? name with
        | none =>
            rw [found] at refused
            cases refused
        | some schema =>
            rw [found] at refused
            dsimp only at refused
            cases checked : schema.instantiateProblems catalog.account message with
            | error fault =>
                rw [checked] at refused
                cases refused
            | ok problems =>
                rw [checked] at refused
                dsimp only [Except.mapError] at refused
                split at refused <;> cases refused
      · cases refused

private theorem readBytecode_ne_unresolved {files : Files} {reference : String}
    {contract : Option Scalar} :
    readBytecode files descriptor ≠ .error (.unresolved reference contract) := by
  intro refused
  rw [readBytecode] at refused
  split at refused <;> cases refused

private theorem instantiateMessage_ne_unresolved {signer : Signer} {reference : String}
    {message codeId : Value} {contract : Option Scalar} :
    instantiateMessage signer descriptor message codeId ≠
      .error (.unresolved reference contract) := by
  intro refused
  rw [instantiateMessage, ← coinsOf] at refused
  cases counted : coinsOf signer descriptor with
  | error fault =>
      rw [counted] at refused
      cases refused
  | ok coins =>
      rw [counted] at refused
      cases read : codeId.toInteger with
      | error fault =>
          rw [read] at refused
          cases refused
      | ok number =>
          rw [read] at refused
          cases refused

private theorem assignedAddress_ne_unresolved {account reference : String} {codeId : Value}
    {outcome : Outcome} {contract : Option Scalar} :
    assignedAddress account descriptor codeId outcome ≠
      .error (.unresolved reference contract) := by
  intro refused
  rw [assignedAddress] at refused
  cases judged : Schema.Kind.address.check account outcome.contractAddress with
  | error fault =>
      rw [judged] at refused
      cases refused
  | ok problem =>
      rw [judged] at refused
      cases problem <;> cases refused

/-- Only the resolution of a message finds a reference to be missing. -/
theorem Attempt.resolve_eq_error {signer : Signer} {reference : String} {files : Files}
    {contract : Option Scalar} {exchanges : List Exchange}
    (attempt : Attempt signer catalog registry files descriptor exchanges
      (.error (.unresolved reference contract))) :
    registry.resolve descriptor.message (some signer.address) (some descriptor.name) =
      .error (.unresolved reference contract) := by
  cases attempt with
  | addressless _ _ _ _ refused => exact absurd refused assignedAddress_ne_unresolved
  | unbuilt _ _ refused => exact absurd refused instantiateMessage_ne_unresolved
  | unready refused =>
      rw [ready] at refused
      cases resolved : registry.resolve descriptor.message (some signer.address)
          (some descriptor.name) with
      | error fault =>
          rw [resolved] at refused
          cases refused
          rfl
      | ok message =>
          rw [resolved] at refused
          cases valid : catalog.validate .instantiate descriptor.schemaName message with
          | error fault =>
              simp only [bind, Except.bind, valid] at refused
              cases refused
              exact absurd valid validate_ne_unresolved
          | ok judged =>
              cases found : readBytecode files descriptor with
              | error fault =>
                  simp only [bind, Except.bind, valid, found] at refused
                  cases refused
                  exact absurd found readBytecode_ne_unresolved
              | ok bytecode =>
                  simp only [bind, Except.bind, valid, found] at refused
                  cases refused

private theorem resolve_eq_error_of_step {extended : Registry} {after : Session σ} {halt : Halt}
    {reference : String} {contract : Option Scalar}
    (ran : (step client catalog path registry descriptor).run session =
      ((extended, .error halt), after))
    (unresolved : halt.fault = .unresolved reference contract) :
    registry.resolve descriptor.message (some client.address) (some descriptor.name) =
      .error (.unresolved reference contract) := by
  rcases step_eq_error ran with ⟨fault, failed, _, rfl⟩ | ⟨_, _, _, _, _, _, _, _, rfl⟩
  · obtain ⟨_, _, conducted, attempt⟩ :=
      deployResolved_attempt client catalog registry descriptor session
    rw [conducted.answered] at failed
    subst failed
    have same : fault = .unresolved reference contract := by
      rw [Halt.fault, asDeploymentFault] at unresolved
      split at unresolved
      · exact unresolved
      · cases unresolved
    subst same
    exact attempt.resolve_eq_error
  · cases unresolved

private theorem step_of_resolve_eq_error {fault : Fault}
    (absent : registry.contains descriptor.name = false)
    (refused : registry.resolve descriptor.message (some client.address) (some descriptor.name) =
      .error fault) :
    ∃ after, (step client catalog path registry descriptor).run session =
      ((registry, .error (.resumable (asDeploymentFault descriptor.name fault) descriptor.name
        registry)), after) := by
  have found := Registry.contains_eq_false_iff.mp absent
  have conducted : Action.Conducts client (deployResolved client catalog registry descriptor)
      session [] (.error fault) :=
    (Action.Conducts.except client session refused).bind_error
  rcases ran : (deployResolved client catalog registry descriptor).run.run session with
    ⟨result, middle⟩
  have answered := conducted.answered
  rw [ran] at answered
  subst answered
  simp only [step, found, Change.run_bind, ran]
  exact ⟨_, rfl⟩

theorem advance_append_error {extended : Registry} {after : Session σ} {halt : Halt}
    (ran : (advance client catalog path registry before).run session =
      ((extended, .error halt), after)) (rest : List Descriptor) :
    (advance client catalog path registry (before ++ rest)).run session =
      ((extended, .error halt), after) := by
  induction before generalizing registry session with
  | nil => cases ran
  | cons first others ih =>
      rcases stepped : (step client catalog path registry first).run session with
        ⟨⟨next, ending⟩, later⟩
      cases ending with
      | error _ =>
          rw [advance_cons_error stepped] at ran
          rw [List.cons_append, advance_cons_error stepped, ran]
      | ok _ =>
          rw [advance_cons_ok stepped] at ran
          rw [List.cons_append, advance_cons_ok stepped]
          exact ih ran

/-- In a plan whose order is accepted, no contract halts the run for a missing reference. -/
theorem advance_ne_unresolved {descriptors : List Descriptor} {halt : Halt}
    (accepted : Plan.checkOrder descriptors registry.names = .ok ())
    (halted : ((advance client catalog path registry descriptors).run session).1.2 = .error halt)
    (reference : String) (contract : Option Scalar) :
    halt.fault ≠ .unresolved reference contract := by
  intro unresolved
  obtain ⟨before, descriptor, rest, known, middle, _, _, rfl, advanced, stepped, _⟩ :=
    advance_halted halted
  have passed := Plan.checkFrom_eq_ok_iff.mp accepted before descriptor rest rfl
  have complete := Plan.firstUnavailable_eq_none passed
  rw [firstUnavailable_eq_firstMissing advanced] at complete
  obtain ⟨_, resolved⟩ := Registry.resolve_of_firstMissing_eq_none complete
  have refused := resolve_eq_error_of_step stepped unresolved
  rw [resolved] at refused
  cases refused

/-- A contract that refers to what is not available halts the run if its turn comes. -/
theorem step_of_unavailable {culprit : Descriptor} {rest : List Descriptor} {found : Reference}
    (advanced : (advance client catalog path registry before).run session =
      ((known, .ok ()), middle))
    (distinct : ((before ++ culprit :: rest).map (·.name.key)).Nodup)
    (absent : registry.contains culprit.name = false)
    (unavailable : Plan.firstUnavailable
      (Plan.availableBehind (registry.names.map Scalar.key) before)
      culprit.message.references = some found) :
    ∃ after, (step client catalog path known culprit).run middle =
      ((known, .error (.resumable (.unresolved found.name (some culprit.name)) culprit.name
        known)), after) := by
  rw [firstUnavailable_eq_firstMissing advanced] at unavailable
  have unresolved : known.resolve culprit.message (some client.address) (some culprit.name) =
      .error (.unresolved found.name (some culprit.name)) :=
    Registry.resolve_of_firstMissing_eq_some unavailable
  have fresh : known.contains culprit.name = false := by
    rw [Bool.eq_false_iff, ne_eq, advance_contains_iff advanced]
    rintro (recorded | ⟨other, member, sameName⟩)
    · rw [absent] at recorded
      cases recorded
    · rw [List.map_append, List.map_cons, List.nodup_append] at distinct
      exact distinct.2.2 _ (List.mem_map.mpr ⟨other, member, rfl⟩) _ List.mem_cons_self sameName
  exact step_of_resolve_eq_error fresh unresolved

/-- The check of a plan foretells its runs. If it accepts the plan, no run ends for a missing
reference. If nothing of the plan is recorded and it blames a contract for a reference, a run
halts before that contract or for the same reference of the same contract. -/
theorem checkOrder_foretells_run (client : Client σ) (catalog : Schema.Catalog)
    (path : Option Path) (registry : Registry) (descriptors : List Descriptor)
    (session : Session σ) (distinct : (descriptors.map (·.name.key)).Nodup) :
    (Plan.checkOrder descriptors registry.names = .ok () →
      ∀ halt, ((run client catalog path registry descriptors).run session).1.2 = .error halt →
        ∀ reference contract, halt.fault ≠ .unresolved reference contract) ∧
    ∀ reference contract,
      (∀ descriptor ∈ descriptors, registry.contains descriptor.name = false) →
      Plan.checkOrder descriptors registry.names = .error (.unresolved reference contract) →
      ∃ before culprit rest halt, descriptors = before ++ culprit :: rest ∧
        contract = some culprit.name ∧
        ((run client catalog path registry descriptors).run session).1.2 = .error halt ∧
        ((∃ earlier ∈ before,
            HaltsAt client catalog path registry descriptors session earlier halt) ∨
          halt = .resumable (.unresolved reference contract) culprit.name
            ((run client catalog path registry descriptors).run session).1.1) := by
  obtain ⟨outcome, _⟩ := run_of_distinct client catalog path registry session distinct
  rw [outcome]
  constructor
  · intro accepted halt halted
    exact advance_ne_unresolved accepted halted
  · intro reference contract absent refused
    obtain ⟨before, culprit, rest, rfl, blamed⟩ := Plan.checkFrom_eq_error refused
    obtain ⟨found, unavailable, same⟩ := Plan.firstUnavailable_eq_some blamed
    cases same
    rcases ran : (advance client catalog path registry before).run session with
      ⟨⟨known, ending⟩, middle⟩
    cases ending with
    | error halt =>
        obtain ⟨first, earlier, others, reached, late, rfl, advanced, stepped⟩ :=
          advance_eq_error ran
        rw [advance_append_error ran]
        refine ⟨_, culprit, rest, halt, rfl, rfl, rfl, .inl ⟨earlier, by simp, ?_⟩⟩
        rw [List.append_assoc, List.cons_append]
        exact ⟨reached, late, known, middle, turnOf_of_advance advanced, stepped⟩
    | ok _ =>
        obtain ⟨after, stepped⟩ :=
          step_of_unavailable ran distinct (absent culprit (by simp)) unavailable
        rw [advance_append ran, advance_cons_error stepped]
        exact ⟨before, culprit, rest, _, rfl, rfl, rfl, .inr rfl⟩

/-- A run of a contract and one that is told of it, in order and in the opposite order. -/
theorem pair_foretold :
    (Plan.checkOrder pair interrupted.registry.names = .ok () ∧
      ∃ halt, (interrupted.finished pairCatalog pair).1.2 = .error halt ∧
        ∀ reference contract, halt.fault ≠ .unresolved reference contract) ∧
    Plan.checkOrder pair.reverse interrupted.registry.names =
        .error (.unresolved "hub" (some (.text "vault"))) ∧
      (interrupted.finished pairCatalog pair.reverse).1.2 =
        .error (.resumable (.unresolved "hub" (some (.text "vault"))) (.text "vault")
          (interrupted.finished pairCatalog pair.reverse).1.1) := by
  have inOrder := checkOrder_foretells_run interrupted.client pairCatalog interrupted.path
    interrupted.registry pair interrupted.session (by decide)
  have reversed := checkOrder_foretells_run interrupted.client pairCatalog interrupted.path
    interrupted.registry pair.reverse interrupted.session (by decide)
  refine ⟨⟨rfl, _, rfl, inOrder.1 rfl _ rfl⟩, rfl, ?_⟩
  obtain ⟨before, culprit, rest, halt, split, blamed, halted, early | same⟩ :=
    reversed.2 "hub" (some (.text "vault")) (fun _ _ => rfl) rfl
  · cases before with
    | nil =>
        obtain ⟨_, member, _⟩ := early
        cases member
    | cons first others =>
        have behind : [pair.head (by decide)] = others ++ culprit :: rest :=
          (List.cons.inj split).2
        have member : culprit ∈ [pair.head (by decide)] := by simp [behind]
        rw [List.mem_singleton.mp member] at blamed
        exact absurd blamed (by decide)
  · rw [same, ← Option.some.inj blamed] at halted
    exact halted

end Rollout.Deployment
