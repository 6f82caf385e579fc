import Rollout.Proofs.Computation
import Rollout.Proofs.Schema.Conformance

/-!
# Acceptance of messages

A check comes to an end without problems just if the value conforms, whether or not every part can
be judged: a part that cannot does not conform, and ends the check with a fault. So a message that
the catalog refuses violates its schema.
-/

set_option autoImplicit false

namespace Rollout.Schema

section

variable {ε : Type} {first second : Except ε (List Problem)}

private theorem joined_eq_nil_iff :
    (do
      let here ← first
      let there ← second
      return here ++ there) = .ok [] ↔ first = .ok [] ∧ second = .ok [] := by
  cases first with
  | error fault => simp [bind, Except.bind]
  | ok here =>
      cases second with
      | error fault => simp [bind, Except.bind]
      | ok there => simp [bind, Except.bind, pure, Except.pure]

private theorem extended_eq_nil_iff {last : List Problem} :
    (do
      let here ← first
      let there ← second
      return here ++ there ++ last) = .ok [] ↔ (first = .ok [] ∧ second = .ok []) ∧ last = [] := by
  rw [← joined_eq_nil_iff]
  cases first with
  | error fault => simp [bind, Except.bind]
  | ok here =>
      cases second with
      | error fault => simp [bind, Except.bind]
      | ok there => simp [bind, Except.bind, pure, Except.pure, and_assoc]

end

theorem checkEach_eq_nil_iff {checkItem : String → Value → Except Wire.Fault (List Problem)}
    {conforms : Value → Prop} (path : String) (items : List Value) (index : Nat)
    (each : ∀ item ∈ items, ∀ place, checkItem place item = .ok [] ↔ conforms item) :
    checkEach checkItem path index items = .ok [] ↔ ∀ item ∈ items, conforms item := by
  induction items generalizing index with
  | nil => simp [checkEach]
  | cons item rest ih =>
      have here := each item List.mem_cons_self (itemPath path index)
      have others := ih (index + 1) fun other member => each other (List.mem_cons_of_mem _ member)
      rw [checkEach, joined_eq_nil_iff, here, others, List.forall_mem_cons]

namespace FieldType

mutual

theorem check_eq_nil_iff (account : String) :
    ∀ (type : FieldType) (path : String) (value : Value),
      type.check account path value = .ok [] ↔ type.Conforms account value
  | leaf kind, path, value => by
      rw [check, Conforms]
      cases kind.check account value with
      | error fault => simp [bind, Except.bind]
      | ok verdict => cases verdict <;> simp [bind, Except.bind, pure, Except.pure]
  | list item, path, value => by
      cases value with
      | scalar | object => simp [check, Conforms, refuseForm_ne_nil]
      | list items =>
          have every := checkEach_eq_nil_iff path items 0 fun element _ place =>
            check_eq_nil_iff account item place element
          rw [check, every]
          simp [Conforms]
  | struct required optional, path, value => by
      cases value with
      | scalar | list => simp [check, Conforms, refuseForm_ne_nil]
      | object fields =>
          have provided := checkRequired_eq_nil_iff account fields path required
          have permitted := checkOptional_eq_nil_iff account fields path optional
          have known := (unknownFields_finds required optional path fields).1
          rw [check, extended_eq_nil_iff, provided, permitted, known]
          simp [Conforms, and_assoc]

theorem checkRequired_eq_nil_iff (account : String) (fields : List (String × Value))
    (path : String) :
    ∀ types : List (String × FieldType),
      checkRequired account fields path types = .ok [] ↔ Provides account fields types
  | [] => by simp [checkRequired, Provides]
  | (key, type) :: rest => by
      have others := checkRequired_eq_nil_iff account fields path rest
      rw [checkRequired, Provides, ← others]
      cases fields.lookup key with
      | none => exact joined_eq_nil_iff.trans (by simp)
      | some value =>
          have here := check_eq_nil_iff account type (fieldPath path key) value
          exact joined_eq_nil_iff.trans (by simp [here])

theorem checkOptional_eq_nil_iff (account : String) (fields : List (String × Value))
    (path : String) :
    ∀ types : List (String × FieldType),
      checkOptional account fields path types = .ok [] ↔ Permits account fields types
  | [] => by simp [checkOptional, Permits]
  | (key, type) :: rest => by
      have others := checkOptional_eq_nil_iff account fields path rest
      rw [checkOptional, Permits, ← others]
      cases fields.lookup key with
      | none => exact joined_eq_nil_iff.trans (by simp)
      | some value =>
          by_cases isNull : value = .null
          · subst isNull
            exact joined_eq_nil_iff.trans (by simp)
          · have here := check_eq_nil_iff account type (fieldPath path key) value
            have conforms : (∀ other, some value = some other →
                other = .null ∨ type.Conforms account other) ↔ type.Conforms account value := by
              simp [isNull]
            rw [conforms, ← here]
            cases value with
            | list | object => exact joined_eq_nil_iff
            | scalar value =>
                cases value with
                | null => exact absurd rfl isNull
                | bool | int | float | text => exact joined_eq_nil_iff

end

end FieldType

theorem ContractSchema.variantProblems_eq_nil_iff {schema : ContractSchema}
    {account variant : String} {body : Value} :
    schema.variantProblems account variant body = .ok [] ↔
      schema.Conforms account .execute (.object [(variant, body)]) := by
  unfold variantProblems
  cases declared : schema.execute.lookup variant with
  | none => simp [Conforms, declared]
  | some type =>
      refine (type.check_eq_nil_iff account variant body).trans ⟨?_, ?_⟩
      · intro conforms
        exact ⟨variant, body, type, rfl, declared, conforms⟩
      · rintro ⟨_, _, other, shape, found, conforms⟩
        cases shape
        rw [declared] at found
        cases found
        exact conforms

namespace Catalog

variable {catalog : Catalog} {kind : MessageKind} {name : Scalar} {schema : ContractSchema}
  {message : Value}

theorem problems_eq_nil_iff (known : catalog.find? name = some schema) :
    catalog.problems kind name message = .ok [] ↔ schema.Conforms catalog.account kind message := by
  cases kind with
  | instantiate =>
      have checked := schema.instantiate.check_eq_nil_iff catalog.account
        MessageKind.instantiate.name message
      simp only [problems, instantiateProblems, Catalog.schema, known]
      exact Computation.mapError_eq_ok.trans checked
  | execute =>
      simp only [problems, executeProblems]
      cases given : oneVariant? message with
      | none =>
          have refused : refuseForm .notOneVariant MessageKind.execute.name message ≠ .ok [] :=
            refuseForm_ne_nil
          exact iff_of_false (mt Computation.mapError_eq_ok.mp refused)
            (ContractSchema.undivided given).1
      | some named =>
          obtain ⟨variant, body⟩ := named
          obtain rfl := oneVariant?_eq_some_iff.mp given
          simp only [Catalog.schema, known]
          exact Computation.mapError_eq_ok.trans ContractSchema.variantProblems_eq_nil_iff

/-- The only fault of a check is that a part of the message cannot be judged. -/
theorem problems_eq_error {fault : Fault} (known : catalog.find? name = some schema)
    (failed : catalog.problems kind name message = .error fault) :
    ∃ cause, fault = .wire cause := by
  cases kind with
  | instantiate =>
      simp only [problems, instantiateProblems, Catalog.schema, known] at failed
      obtain ⟨cause, _, renamed⟩ := Computation.mapError_eq_error.mp failed
      exact ⟨cause, renamed.symm⟩
  | execute =>
      simp only [problems, executeProblems, Catalog.schema, known] at failed
      split at failed
      · obtain ⟨cause, _, renamed⟩ := Computation.mapError_eq_error.mp failed
        exact ⟨cause, renamed.symm⟩
      · obtain ⟨cause, _, renamed⟩ := Computation.mapError_eq_error.mp failed
        exact ⟨cause, renamed.symm⟩

/-- A message is accepted just if it conforms to the schema of its contract, if there is one. -/
theorem validate_eq_ok_iff_conforms :
    catalog.validate kind (.scalar name) message = .ok () ↔
      ∀ schema, catalog.find? name = some schema →
        schema.Conforms catalog.account kind message := by
  unfold validate contains
  simp only [Value.toKey, bind, Except.bind]
  cases known : catalog.find? name with
  | none => simp
  | some schema =>
      have conforms : catalog.problems kind name message = .ok [] ↔
          schema.Conforms catalog.account kind message := problems_eq_nil_iff known
      simp only [Option.isSome_some, if_true, Option.some.injEq, forall_eq', ← conforms]
      cases catalog.problems kind name message with
      | error fault => simp
      | ok problems => cases problems <;> simp

theorem validate_isOk_iff {named : Value} :
    catalog.validate kind named message = .ok () ↔
      ∃ name, named = .scalar name ∧ ∀ schema, catalog.find? name = some schema →
        schema.Conforms catalog.account kind message := by
  cases named with
  | list | object =>
      refine iff_of_false ?_ (by simp)
      simp [validate, Value.toKey, bind, Except.bind]
  | scalar name => simp [validate_eq_ok_iff_conforms]

/-- A message that is refused has problems, or a part that cannot be judged. -/
theorem validate_eq_error {fault : Fault}
    (refused : catalog.validate kind (.scalar name) message = .error fault) :
    ∃ schema, catalog.find? name = some schema ∧
      ¬ schema.Conforms catalog.account kind message ∧
      ((∃ problems, catalog.problems kind name message = .ok problems ∧ problems ≠ [] ∧
          fault = .invalidMessage name kind problems) ∨
        ∃ cause, catalog.problems kind name message = .error (.wire cause) ∧
          fault = .wire cause) := by
  unfold validate contains at refused
  simp only [Value.toKey, bind, Except.bind] at refused
  cases known : catalog.find? name with
  | none => simp [known] at refused
  | some schema =>
      rw [known] at refused
      simp only [Option.isSome_some, if_true] at refused
      refine ⟨schema, rfl, ?_, ?_⟩
      · intro conforms
        rw [(problems_eq_nil_iff known).mpr conforms] at refused
        cases refused
      · cases found : catalog.problems kind name message with
        | error cause =>
            obtain ⟨cause, rfl⟩ := problems_eq_error known found
            rw [found] at refused
            cases refused
            exact .inr ⟨cause, rfl, rfl⟩
        | ok problems =>
            rw [found] at refused
            cases problems with
            | nil => cases refused
            | cons problem rest =>
                cases refused
                exact .inl ⟨_, rfl, by simp, rfl⟩

end Catalog

end Rollout.Schema
