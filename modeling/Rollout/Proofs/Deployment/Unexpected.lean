import Rollout.Proofs.Deployment.Halting
import Rollout.Proofs.Deployment.Midway
import Rollout.Proofs.Registry.Shape
import Rollout.Registry.Table

/-!
# Faults that nobody expects

Runs report every fault, whatever they meet. Updates do not: a name that is none, an amount that
cannot be judged and a message without parts are not looked for, and neither is a contract in a
table whose name is no text.
-/

set_option autoImplicit false

namespace Rollout

open Rollout.Chain
open Rollout.Computation (Fails FirstRefused)

private theorem Fault.isReported_of_isDeployment {fault : Fault}
    (known : fault.isDeployment = true) :
    fault.isReported = true := by
  cases fault with
  | client failure =>
      have kind : failure.kind = .deployment := of_decide_eq_true known
      simp [isReported, kind]
  | _ => first | rfl | cases known

theorem Template.firstPart_unexpected {template : Template} (partless : ¬template.HasParts) :
    Fails Fault.Unexpected template.firstPart := by
  obtain ⟨_, failed⟩ := firstPart_of_partless partless
  exact ⟨_, failed, rfl⟩

namespace Registry

/-- The code ids of a registry can be taken for integers. -/
def Counted (registry : Registry) : Prop :=
  ∀ record ∈ registry.records, ∃ number, record.codeId.toInteger = .ok number

theorem Coded.counted {registry : Registry} (coded : registry.Coded) : registry.Counted := by
  intro record member
  obtain ⟨number, codeId, _⟩ := (coded record member).codeId
  exact ⟨number, by rw [codeId]; rfl⟩

private theorem codeCell_isOk {codeId : Value} {number : Int}
    (counted : codeId.toInteger = .ok number)
    (short : codeId.Quotable) : ∃ cell, codeCell codeId = .ok cell := by
  cases codeId with
  | list | object => cases counted
  | scalar value =>
      cases value with
      | null => cases counted
      | int value => exact ⟨_, if_pos (Number.isWritable_iff.mpr short)⟩
      | bool | float | text => exact ⟨_, rfl⟩

private theorem addressCell_isOk {address : Value} (short : address.Quotable) :
    ∃ cell, addressCell address = .ok cell := by
  rw [addressCell, Value.quoting, if_pos (Value.isQuotable_iff.mpr short)]
  exact ⟨_, rfl⟩

/-- A code id that can be taken for an integer is expected, and so is an integer with too many
digits. -/
theorem codeCell_expected {codeId : Value} {number : Int}
    (counted : codeId.toInteger = .ok number) : ¬Fails Fault.Unexpected (codeCell codeId) := by
  rintro ⟨fault, failed, unexpected⟩
  cases codeId with
  | list | object => cases counted
  | scalar value =>
      cases value with
      | null => cases counted
      | bool | float | text => cases failed
      | int value =>
          rw [codeCell] at failed
          split at failed
          · cases failed
          · cases failed
            cases unexpected

private theorem addressCell_expected (address : Value) :
    ¬Fails Fault.Unexpected (addressCell address) := by
  rw [addressCell, Value.quoting]
  rintro ⟨fault, failed, unexpected⟩
  split at failed
  · cases failed
  · cases failed
    cases unexpected

theorem nameCell_isOk_iff {name : Scalar} :
    (∃ cell, nameCell name = .ok cell) ↔ ∃ text, name = .text text := by
  cases name <;> simp [nameCell]

theorem nameCell_unexpected_iff {name : Scalar} :
    Fails Fault.Unexpected (nameCell name) ↔ ¬∃ text, name = .text text := by
  cases name <;> simp [nameCell, Fault.Unexpected, Fault.isReported]

/-- A table cannot be shown if one of the names is no text. -/
theorem table_unexpected_iff {registry : Registry} (counted : registry.Counted) :
    Fails Fault.Unexpected registry.table ↔
      ∃ record ∈ registry.records, ∀ text, record.name ≠ .text text := by
  have named : Fails Fault.Unexpected (registry.names.mapM nameCell) ↔
      ∃ record ∈ registry.records, ∀ text, record.name ≠ .text text := by
    rw [Computation.fails_mapM]
    simp only [nameCell_unexpected_iff, nameCell_isOk_iff]
    rw [Computation.firstRefused_not_iff]
    simp [names]
  unfold table
  split
  · next none =>
      rw [List.isEmpty_iff.mp none]
      simp [pure, Except.pure]
  · rw [Computation.fails_bind, named]
    refine or_iff_left_of_imp ?_
    rintro ⟨cells, _, failed⟩
    rcases Computation.fails_bind.mp failed with unshown | ⟨rows, _, _, ⟨⟩, _⟩
    -- nothing but its name is unexpected in a row
    obtain ⟨before, record, rest, split, _, unshown⟩ := Computation.fails_mapM.mp unshown
    refine ⟨record, by simp [split], fun text same => ?_⟩
    obtain ⟨number, taken⟩ := counted record (by simp [split])
    rcases Computation.fails_bind.mp unshown with unnamed | ⟨_, _, unshown⟩
    · exact nameCell_unexpected_iff.mp unnamed ⟨text, same⟩
    rcases Computation.fails_bind.mp unshown with uncoded | ⟨_, _, unshown⟩
    · exact codeCell_expected taken uncoded
    rcases Computation.fails_bind.mp unshown with unplaced | ⟨_, _, _, ⟨⟩, _⟩
    exact addressCell_expected _ unplaced

theorem table_isOk {registry : Registry} (counted : registry.Counted)
    (writable : registry.Writable)
    (named : ∀ record ∈ registry.records, ∃ text, record.name = .text text) :
    ∃ shown, registry.table = .ok shown := by
  have measured : ∃ names, registry.names.mapM nameCell = .ok names := by
    apply Computation.mapM_isOk
    intro name member
    obtain ⟨record, among, rfl⟩ := List.mem_map.mp member
    exact nameCell_isOk_iff.mpr (named record among)
  obtain ⟨names, measured⟩ := measured
  unfold table
  split
  · exact ⟨_, rfl⟩
  · have rows : ∃ rows, registry.records.mapM (fun record => do
        let name ← nameCell record.name
        let codeId ← codeCell record.codeId
        let address ← addressCell record.address
        return row ((names.map String.length).foldl max nameHeading.length) name codeId address) =
          Except.ok rows := by
      apply Computation.mapM_isOk
      intro record member
      obtain ⟨text, same⟩ := named record member
      obtain ⟨number, taken⟩ := counted record member
      obtain ⟨shortCode, shortAddress⟩ := writable.records record member
      obtain ⟨cell, coded⟩ := codeCell_isOk taken shortCode
      obtain ⟨placed, addressed⟩ := addressCell_isOk shortAddress
      exact ⟨_, by rw [same, nameCell, coded, addressed]; rfl⟩
    obtain ⟨rows, shown⟩ := rows
    simp only [measured, bind, Except.bind] at shown ⊢
    rw [shown]
    exact ⟨_, rfl⟩

end Registry

namespace Deployment

variable {σ : Type} {client : Client σ} {catalog : Schema.Catalog} {path : Option Path}
  {registry : Registry} {descriptors : List Descriptor} {session : Session σ}

/-- A run ends early with nothing but faults that are reported. -/
theorem run_halt_reported {halt : Halt}
    (halted : ((run client catalog path registry descriptors).run session).1.2 = .error halt) :
    ¬halt.fault.Unexpected := by
  rw [Fault.Unexpected, Bool.not_eq_false]
  by_cases distinct : (descriptors.map (·.name.key)).Nodup
  · obtain ⟨outcome, _⟩ := run_of_distinct client catalog path registry session distinct
    rw [outcome] at halted
    obtain ⟨_, _, _, _, _, _, _, _, _, stepped, _⟩ := advance_halted halted
    rcases step_eq_error stepped with ⟨fault, _, _, rfl⟩ | ⟨_, _, _, _, _, _, _, _, rfl⟩
    · exact Fault.isReported_of_isDeployment (isDeployment_asDeploymentFault _ fault)
    · rfl
  · obtain ⟨_, _, ran⟩ := run_of_repeated client catalog path registry session distinct
    rw [ran] at halted
    cases halted
    rfl

private theorem Attempt.counted {signer : Signer} {files : Files} {descriptor : Descriptor}
    {exchanges : List Exchange} {record : Record}
    (attempt : Attempt signer catalog registry files descriptor exchanges (.ok record)) :
    ∃ number, record.codeId.toInteger = .ok number := by
  cases attempt with
  | deployed _ _ built =>
      obtain ⟨number, _, taken, _⟩ := instantiateMessage_eq_ok built
      exact ⟨number, taken⟩

private theorem Turn.counted {extended : Registry} {descriptor : Descriptor} {after : Session σ}
    {ending : Except Halt Unit} (counted : registry.Counted)
    (turn : Turn client catalog path registry descriptor session extended ending after) :
    extended.Counted := by
  cases turn with
  | skipped | halted => exact counted
  | recorded _ _ attempt records =>
      intro record member
      rw [records, List.mem_append, List.mem_singleton] at member
      rcases member with old | rfl
      · exact counted record old
      · exact attempt.counted

private theorem advance_counted (counted : registry.Counted) :
    ((advance client catalog path registry descriptors).run session).1.1.Counted := by
  induction descriptors generalizing registry session with
  | nil => exact counted
  | cons descriptor rest ih =>
      obtain ⟨extended, ending, after, ran, turn⟩ :=
        step_turn client catalog path registry descriptor session
      cases ending with
      | error halt =>
          rw [advance_cons_error ran]
          exact turn.counted counted
      | ok _ =>
          rw [advance_cons_ok ran]
          exact ih (turn.counted counted)

theorem run_counted (counted : registry.Counted) :
    ((run client catalog path registry descriptors).run session).1.1.Counted := by
  by_cases distinct : (descriptors.map (·.name.key)).Nodup
  · obtain ⟨outcome, _⟩ := run_of_distinct client catalog path registry session distinct
    rw [outcome]
    exact advance_counted counted
  · obtain ⟨_, _, ran⟩ := run_of_repeated client catalog path registry session distinct
    rw [ran]
    exact counted

/-!
## Updates
-/

/-- An update that is not fit, for a reason that is not looked for: its target or its schema is no
name, or its message cannot be judged. -/
inductive Strange (catalog : Schema.Catalog) (registry : Registry) (update : ConfigUpdate) : Prop
    where
  | targetless : (∀ name, update.target ≠ .scalar name) → Strange catalog registry update
  | schemaless {message : Value} :
      Filled registry update message → (∀ name, update.schemaName ≠ .scalar name) →
      Strange catalog registry update
  | unjudged {name : Scalar} {message : Value} {schema : Schema.ContractSchema}
      {cause : Wire.Fault} :
      Filled registry update message → update.schemaName = .scalar name →
      catalog.find? name = some schema →
      catalog.problems .execute name message = .error (.wire cause) →
      (Fault.wire cause).Unexpected → Strange catalog registry update

variable {update : ConfigUpdate} {updates : List ConfigUpdate}

private theorem Filled.prepare_eq {message : Value} (filled : Filled registry update message)
    (catalog : Schema.Catalog) :
    ∃ record, prepare catalog registry update =
      (catalog.validate .execute update.schemaName message).map fun _ =>
        ⟨update, record, message⟩ := by
  obtain ⟨⟨name, targeted, present⟩, fills⟩ := filled
  obtain ⟨record, found⟩ := Option.isSome_iff_exists.mp present
  refine ⟨record, ?_⟩
  have resolved : registry.resolve update.message none (some name) = .ok message :=
    Template.resolve_eq_ok_iff.mpr fills
  simp only [prepare, targeted, Value.toKey, found, resolved, bind, Except.bind]
  cases catalog.validate .execute update.schemaName message <;> rfl

theorem prepare_unexpected_iff :
    Fails Fault.Unexpected (prepare catalog registry update) ↔ Strange catalog registry update := by
  constructor
  · rintro ⟨fault, failed, unexpected⟩
    rcases prepare_cases catalog registry update with
      ⟨_, _, _, accepted⟩ | ⟨_, refused, refusal⟩
    · rw [accepted] at failed
      cases failed
    · rw [refusal] at failed
      cases failed
      cases refused with
      | targetless nameless => exact .targetless nameless
      | unknown | unresolved | violating => cases unexpected
      | schemaless filled nameless => exact .schemaless filled nameless
      | unjudged filled named known _ failed => exact .unjudged filled named known failed unexpected
  · intro strange
    cases strange with
    | targetless nameless =>
        rw [prepare]
        cases targeted : update.target with
        | scalar name => exact absurd targeted (nameless name)
        | list | object => exact ⟨_, rfl, rfl⟩
    | schemaless filled nameless =>
        obtain ⟨record, prepared⟩ := filled.prepare_eq catalog
        rw [prepared]
        cases named : update.schemaName with
        | scalar name => exact absurd named (nameless name)
        | list | object => exact ⟨_, rfl, rfl⟩
    | unjudged filled named known failed unexpected =>
        obtain ⟨record, prepared⟩ := filled.prepare_eq catalog
        refine ⟨_, ?_, unexpected⟩
        rw [prepared, named]
        simp [Schema.Catalog.validate, Value.toKey, Schema.Catalog.contains, known, failed, bind,
          Except.bind, Except.map]

/-- Updates that are fit are all sent and told of, or one has a message without parts. -/
theorem configure_of_fit (client : Client σ) (session : Session σ)
    (fit : ∀ update ∈ updates, Fit catalog registry update) :
    Fails Fault.Unexpected ((configure client catalog registry updates).run.run session).1 ∨
      ∃ results after,
        (configure client catalog registry updates).run.run session = (.ok results, after) ∧
          results.map (·.update) = updates := by
  obtain ⟨_, _, conducts, batch⟩ := configure_batch client catalog registry updates session
  cases batch with
  | refused unfit =>
      obtain ⟨update, member, unready⟩ := unfit
      exact absurd (fit update member) unready
  | cut => exact .inl ⟨_, conducts.answered, rfl⟩
  | sent _ _ _ applied => exact .inr ⟨_, _, Prod.ext conducts.answered rfl, applied⟩

end Deployment

end Rollout
