import Rollout.Proofs.Deployment.Messages
import Rollout.Proofs.Deployment.Resumption

/-!
# Halts of runs

A run halts in the turn of a contract. If the contract could not be deployed, the halt tells the
contract and the records so far. If it was deployed and the registry could not be kept, the halt
tells no more than the fault of the file.
-/

set_option autoImplicit false

namespace Rollout.Deployment

open Rollout.Chain

variable {σ : Type}

/-- A run comes to its halt in the turn of a contract. -/
def HaltsAt (client : Client σ) (catalog : Schema.Catalog) (path : Option Path)
    (registry : Registry) (descriptors : List Descriptor) (session : Session σ)
    (descriptor : Descriptor) (halt : Halt) : Prop :=
  ∃ known middle extended after,
    TurnOf client catalog path registry descriptors session descriptor known middle ∧
      (step client catalog path known descriptor).run middle = ((extended, .error halt), after)

/-- Whatever fault a contract is hit by, a run reports a fault of a deployment. -/
@[simp] theorem isDeployment_asDeploymentFault (contract : Scalar) (fault : Fault) :
    (asDeploymentFault contract fault).isDeployment = true := by
  rw [asDeploymentFault]
  split
  · assumption
  · rfl

/-- What is done about a contract when it is known what deploying it came to. -/
def conclude (path : Option Path) (registry : Registry) (descriptor : Descriptor) :
    Except Fault Record → Change σ (Registry × Except Halt Unit)
  | .error fault => do
      sayOfRun .error s!"Deployment halted at {descriptor.name.display}: {fault.message}"
      let reported := asDeploymentFault descriptor.name fault
      return (registry, .error (.resumable reported descriptor.name registry))
  | .ok record =>
      match registry.add record, path with
      | .error fault, _ => return (registry, .error (.bare fault))
      | .ok extended, none => return (extended, .ok ())
      | .ok extended, some path => do
          match ← (keep extended path).run with
          | .ok () => return (extended, .ok ())
          | .error fault => return (extended, .error (.bare fault))

theorem step_eq_conclude (client : Client σ) (catalog : Schema.Catalog) (path : Option Path)
    {registry : Registry} {descriptor : Descriptor}
    (absent : registry.find? descriptor.name = none) :
    step client catalog path registry descriptor =
      (deployResolved client catalog registry descriptor).run >>=
        conclude path registry descriptor := by
  simp only [step, absent]
  refine congrArg _ (funext fun answer => ?_)
  cases answer with
  | error fault => rfl
  | ok record =>
      unfold conclude
      cases registry.add record with
      | error fault => rfl
      | ok extended => cases path <;> rfl

section

variable {client : Client σ} {catalog : Schema.Catalog} {path : Option Path}
  {registry extended : Registry} {descriptor : Descriptor} {session after : Session σ}
  {halt : Halt}

/-- The two ways in which the turn of a contract ends a run. -/
theorem step_eq_error
    (ran : (step client catalog path registry descriptor).run session =
      ((extended, .error halt), after)) :
    (∃ fault, ((deployResolved client catalog registry descriptor).run.run session).1 =
          .error fault ∧
        extended = registry ∧
        halt = .resumable (asDeploymentFault descriptor.name fault) descriptor.name registry) ∨
      ∃ record location fault files,
        ((deployResolved client catalog registry descriptor).run.run session).1 = .ok record ∧
          extended.records = registry.records ++ [record] ∧ path = some location ∧
          (extended.save location session.clock).run.run session.files = (.error fault, files) ∧
          halt = .bare (.file fault) := by
  cases found : registry.find? descriptor.name with
  | some record =>
      simp only [step, found] at ran
      cases ran
  | none =>
      obtain ⟨transactions, answer, conducted, attempt⟩ :=
        deployResolved_attempt client catalog registry descriptor session
      rcases deployed : (deployResolved client catalog registry descriptor).run.run session with
        ⟨result, middle⟩
      have answered := conducted.answered
      have sends := conducted.sends
      rw [deployed] at answered sends
      subst answered
      rw [step_eq_conclude client catalog path found, Change.run_bind, deployed] at ran
      cases result with
      | error fault =>
          cases ran
          exact .inl ⟨fault, rfl, rfl, rfl⟩
      | ok record =>
          have fresh : registry.find? record.name = none := by rw [attempt.name_eq, found]
          obtain ⟨grown, added, records, _⟩ := Registry.add_of_find?_eq_none fresh
          cases path with
          | none =>
              simp only [conclude, added] at ran
              cases ran
          | some location =>
              simp only [conclude, added, keep, Change.run_bind, Computation.run_bind,
                Action.run_get, Action.run_edit] at ran
              rcases saved : (grown.save location middle.clock).run.run middle.files with
                ⟨ending, files⟩
              rw [saved] at ran
              cases ending with
              | ok _ => cases ran
              | error fault =>
                  cases ran
                  rw [sends.files, sends.clock] at saved
                  exact .inr ⟨record, location, fault, files, rfl, records, rfl, saved, rfl⟩

theorem advance_eq_error {descriptors : List Descriptor}
    (ran : (advance client catalog path registry descriptors).run session =
      ((extended, .error halt), after)) :
    ∃ before descriptor rest known middle,
      descriptors = before ++ descriptor :: rest ∧
        (advance client catalog path registry before).run session = ((known, .ok ()), middle) ∧
        (step client catalog path known descriptor).run middle =
          ((extended, .error halt), after) := by
  induction descriptors generalizing registry session with
  | nil => cases ran
  | cons first others ih =>
      rcases stepped : (step client catalog path registry first).run session with
        ⟨⟨next, ending⟩, later⟩
      cases ending with
      | error _ =>
          rw [advance_cons_error stepped] at ran
          cases ran
          exact ⟨[], first, others, registry, session, rfl, rfl, stepped⟩
      | ok _ =>
          rw [advance_cons_ok stepped] at ran
          obtain ⟨before, descriptor, rest, known, middle, rfl, advanced, halted⟩ := ih ran
          refine ⟨first :: before, descriptor, rest, known, middle, rfl, ?_, halted⟩
          rw [advance_cons_ok stepped, advanced]

/-- A run that ends early does so in the turn of one of its contracts. -/
theorem advance_halted {descriptors : List Descriptor}
    (halted : ((advance client catalog path registry descriptors).run session).1.2 =
      .error halt) :
    ∃ before descriptor rest known middle extended after,
      descriptors = before ++ descriptor :: rest ∧
        (advance client catalog path registry before).run session = ((known, .ok ()), middle) ∧
        (step client catalog path known descriptor).run middle =
          ((extended, .error halt), after) ∧
        (advance client catalog path registry descriptors).run session =
          ((extended, .error halt), after) := by
  rcases ran : (advance client catalog path registry descriptors).run session with
    ⟨⟨extended, ending⟩, after⟩
  rw [ran] at halted
  obtain rfl : ending = .error halt := halted
  obtain ⟨before, descriptor, rest, known, middle, split, advanced, stepped⟩ :=
    advance_eq_error ran
  exact ⟨before, descriptor, rest, known, middle, extended, after, split, advanced, stepped, rfl⟩

/-- Nothing but the file that the registry is kept in ends a run in a bare fault. -/
theorem advance_bare {descriptors : List Descriptor} {fault : Fault}
    (halted : ((advance client catalog path registry descriptors).run session).1.2 =
      .error (.bare fault)) :
    ∃ reason location, fault = .file reason ∧ path = some location := by
  obtain ⟨_, _, _, _, _, _, _, _, _, stepped, _⟩ := advance_halted halted
  rcases step_eq_error stepped with
    ⟨_, _, _, impossible⟩ | ⟨_, location, reason, _, _, _, given, _, same⟩
  · cases impossible
  · exact ⟨reason, location, Halt.bare.inj same, given⟩

/-- The turn of a contract comes once those before it are done. -/
theorem turnOf_of_advance {before rest : List Descriptor} {known : Registry} {middle : Session σ}
    (advanced : (advance client catalog path registry before).run session =
      ((known, .ok ()), middle)) :
    TurnOf client catalog path registry (before ++ descriptor :: rest) session descriptor known
      middle := by
  obtain ⟨_, added, _, grown, named⟩ := advance_grown client catalog path before registry session
  rw [advanced] at grown
  exact ⟨before, rest, added, rfl, advanced, grown, named⟩

end

/-- A run of contracts with distinct names halts for one of two reasons. A contract was not
deployed: then the halt tells a fault of a deployment, which is the fault that hit the contract or
has it as its cause, the contract, and the registry with all records so far. Or a contract was
deployed and recorded, and the registry was not kept, for its file or for a number too long to be
written: then the halt tells that fault and nothing else. -/
theorem run_halts_in_turn {client : Client σ} {catalog : Schema.Catalog} {path : Option Path}
    {registry : Registry} {descriptors : List Descriptor} {session : Session σ} {halt : Halt}
    (distinct : (descriptors.map (·.name.key)).Nodup)
    (halted : ((run client catalog path registry descriptors).run session).1.2 = .error halt) :
    ∃ descriptor known middle,
      TurnOf client catalog path registry descriptors session descriptor known middle ∧
        ((∃ fault reported,
            ((deployResolved client catalog known descriptor).run.run middle).1 = .error fault ∧
            reported.isDeployment = true ∧
            (reported = fault ∨
              fault.isDeployment = false ∧ reported = .aborted descriptor.name fault) ∧
            ((run client catalog path registry descriptors).run session).1.1 = known ∧
            halt = .resumable reported descriptor.name known) ∨
          ∃ record location fault files,
            ((deployResolved client catalog known descriptor).run.run middle).1 = .ok record ∧
            ((run client catalog path registry descriptors).run session).1.1.records =
              known.records ++ [record] ∧
            path = some location ∧
            (((run client catalog path registry descriptors).run session).1.1.save location
              middle.clock).run.run middle.files = (.error fault, files) ∧
            halt = .bare (.file fault)) := by
  obtain ⟨outcome, _⟩ := run_of_distinct client catalog path registry session distinct
  rw [outcome] at halted ⊢
  obtain ⟨before, descriptor, rest, known, middle, _, _, rfl, advanced, stepped, ran⟩ :=
    advance_halted halted
  rw [ran]
  refine ⟨descriptor, known, middle, turnOf_of_advance advanced, ?_⟩
  rcases step_eq_error stepped with
    ⟨fault, failed, rfl, rfl⟩ |
    ⟨record, location, fault, files, deployed, records, given, saved, rfl⟩
  · refine .inl ⟨fault, _, failed, isDeployment_asDeploymentFault _ fault, ?_, rfl, rfl⟩
    rw [asDeploymentFault]
    split
    · exact .inl rfl
    · next foreign => exact .inr ⟨Bool.eq_false_iff.mpr foreign, rfl⟩
  · exact .inr ⟨record, location, fault, files, deployed, records, given, saved, rfl⟩

/-- The client fails at the second contract: the halt tells that contract and the record of the
first one. -/
theorem interrupted_pair_halts_at_vault :
    (interrupted.finished pairCatalog pair).1.2 = .error (.resumable
        (.aborted (.text "vault") (.client ⟨.timeout, "late"⟩)) (.text "vault") hubRecorded) ∧
      ∃ descriptor middle fault,
        TurnOf interrupted.client pairCatalog interrupted.path interrupted.registry pair
            interrupted.session descriptor hubRecorded middle ∧
          descriptor.name = .text "vault" ∧
          ((deployResolved interrupted.client pairCatalog hubRecorded descriptor).run.run
            middle).1 = .error fault := by
  have distinct : (pair.map (·.name.key)).Nodup := by decide
  have halted : (interrupted.finished pairCatalog pair).1.2 = .error (.resumable
      (.aborted (.text "vault") (.client ⟨.timeout, "late"⟩)) (.text "vault") hubRecorded) := rfl
  refine ⟨halted, ?_⟩
  obtain ⟨descriptor, known, middle, turn, ⟨fault, _, failed, _, _, _, same⟩ |
      ⟨_, _, _, _, _, _, _, _, impossible⟩⟩ := run_halts_in_turn distinct halted
  · injection same with _ named reached
    subst reached
    exact ⟨descriptor, middle, fault, turn, named.symm, failed⟩
  · cases impossible

/-- A run that has to keep its registry below a file that is no directory. -/
def unkept : Sitting (List CommandLine.ChainAnswer) :=
  rehearsed (some ⟨"/", ["hub.wasm", "registry.json"]⟩) (.empty .null) [storedAs 7, instantiatedAt]

theorem unkept_pair_halts_bare :
    (pair.map (·.name.key)).Nodup ∧
      (unkept.finished pairCatalog pair).1.1.records = hubRecorded.records ∧
      (unkept.finished pairCatalog pair).1.2 =
        .error (.bare (.file (.failed .alreadyThere ⟨"/", ["hub.wasm"]⟩))) ∧
      (Fault.file (.failed .alreadyThere ⟨"/", ["hub.wasm"]⟩)).isDeployment = false := by
  refine ⟨by decide, rfl, rfl, rfl⟩

end Rollout.Deployment
