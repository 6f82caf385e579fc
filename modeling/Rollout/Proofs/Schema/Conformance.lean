import Mathlib.Algebra.Ring.Nat
import Rollout.Proofs.Schema.Refusal
import Rollout.Schema.Validation

/-!
# Conformance to schemas

What it means for a value to conform to a type, told by recursion on the type and without paths or
problems. Checking finds as many problems as there are violations, so it finds none exactly where
the value conforms.
-/

set_option autoImplicit false

namespace Rollout.Schema

namespace FieldType

mutual

/-- A value conforms to a type. -/
def Conforms (account : String) : FieldType → Value → Prop
  | leaf kind, value => kind.check account value = .ok none
  | list item, value => ∃ items, value = .list items ∧ ∀ element ∈ items, item.Conforms account element
  | struct required optional, value =>
      ∃ fields, value = .object fields ∧ Provides account fields required ∧
        Permits account fields optional ∧
        ∀ field ∈ fields, (required.lookup field.1).isSome ∨ (optional.lookup field.1).isSome
termination_by structural type => type

/-- Every required field is there and conforms. -/
def Provides (account : String) (fields : List (String × Value)) :
    List (String × FieldType) → Prop
  | [] => True
  | (key, type) :: rest =>
      (∃ value, fields.lookup key = some value ∧ type.Conforms account value) ∧
        Provides account fields rest
termination_by structural types => types

/-- Every optional field is absent, null or conforms. -/
def Permits (account : String) (fields : List (String × Value)) :
    List (String × FieldType) → Prop
  | [] => True
  | (key, type) :: rest =>
      (∀ value, fields.lookup key = some value → value = .null ∨ type.Conforms account value) ∧
        Permits account fields rest
termination_by structural types => types

end

mutual

/-- How often a value violates a type: every wrong leaf, every wrong container, every required
field that is missing and every unknown field counts once. -/
def violations (account : String) : FieldType → Value → Nat
  | leaf kind, value =>
      match kind.check account value with
      | .ok none => 0
      | _ => 1
  | list item, value =>
      match value with
      | .list items => (items.map fun element => item.violations account element).sum
      | _ => 1
  | struct required optional, value =>
      match value with
      | .object fields =>
          requiredViolations account fields required + optionalViolations account fields optional +
            fields.countP fun field =>
              (required.lookup field.1).isNone && (optional.lookup field.1).isNone
      | _ => 1
termination_by structural type => type

def requiredViolations (account : String) (fields : List (String × Value)) :
    List (String × FieldType) → Nat
  | [] => 0
  | (key, type) :: rest =>
      (match fields.lookup key with
        | none => 1
        | some value => type.violations account value) + requiredViolations account fields rest
termination_by structural types => types

def optionalViolations (account : String) (fields : List (String × Value)) :
    List (String × FieldType) → Nat
  | [] => 0
  | (key, type) :: rest =>
      (match fields.lookup key with
        | none | some .null => 0
        | some value => type.violations account value) + optionalViolations account fields rest
termination_by structural types => types

end

mutual

/-- Every leaf that a type puts in a value can be judged, and what stands in the place of a list or
of an object has a property. -/
def Judged (account : String) (stray : Value → Prop) : FieldType → Value → Prop
  | leaf kind, value => ∃ verdict, kind.check account value = .ok verdict
  | list item, value =>
      match value with
      | .list items => ∀ element ∈ items, item.Judged account stray element
      | other => stray other
  | struct required optional, value =>
      match value with
      | .object fields =>
          RequiredJudged account stray fields required ∧
            OptionalJudged account stray fields optional
      | other => stray other
termination_by structural type => type

def RequiredJudged (account : String) (stray : Value → Prop) (fields : List (String × Value)) :
    List (String × FieldType) → Prop
  | [] => True
  | (key, type) :: rest =>
      (∀ value, fields.lookup key = some value → type.Judged account stray value) ∧
        RequiredJudged account stray fields rest
termination_by structural types => types

/-- Every leaf of an optional field that is there and not null can be judged. -/
def OptionalJudged (account : String) (stray : Value → Prop) (fields : List (String × Value)) :
    List (String × FieldType) → Prop
  | [] => True
  | (key, type) :: rest =>
      (∀ value, fields.lookup key = some value → value ≠ .null → type.Judged account stray value) ∧
        OptionalJudged account stray fields rest
termination_by structural types => types

end

end FieldType

/-- A computation finds as many problems as there are violations, and none exactly where a value
conforms. -/
def Finds {ε : Type} (computation : Except ε (List Problem)) (conforms : Prop) (violations : Nat) :
    Prop :=
  ∃ problems, computation = .ok problems ∧ (problems = [] ↔ conforms) ∧
    problems.length = violations

namespace Finds

variable {ε : Type} {first second : Except ε (List Problem)} {left right : Prop} {count more : Nat}

theorem none (ε : Type) : Finds (.ok [] : Except ε (List Problem)) True 0 :=
  ⟨[], rfl, by simp, rfl⟩

theorem one (ε : Type) (problem : Problem) :
    Finds (.ok [problem] : Except ε (List Problem)) False 1 :=
  ⟨[problem], rfl, by simp, rfl⟩

theorem append (begun : Finds first left count) (ended : Finds second right more) :
    Finds (do
      let here ← first
      let there ← second
      return here ++ there) (left ∧ right) (count + more) := by
  obtain ⟨here, rfl, conforms, rfl⟩ := begun
  obtain ⟨there, rfl, alsoConforms, rfl⟩ := ended
  refine ⟨here ++ there, rfl, ?_, List.length_append⟩
  rw [List.append_eq_nil_iff, conforms, alsoConforms]

theorem congr {other : Prop} (found : Finds first left count) (same : left ↔ other) :
    Finds first other count := by
  obtain ⟨problems, computed, conforms, counted⟩ := found
  exact ⟨problems, computed, conforms.trans same, counted⟩

private theorem mapError {δ : Type} {rename : ε → δ} (found : Finds first left count) :
    Finds (first.mapError rename) left count := by
  obtain ⟨problems, rfl, conforms, counted⟩ := found
  exact ⟨problems, rfl, conforms, counted⟩

end Finds

private theorem refuseForm_finds {violation : String → Violation} {path : String} {value : Value}
    (quotable : value.Quotable) : Finds (refuseForm violation path value) False 1 := by
  rw [refuseForm_of_quotable quotable]
  exact .one _ _

private theorem checkEach_finds {checkItem : String → Value → Except Wire.Fault (List Problem)}
    {conforms : Value → Prop} {count : Value → Nat} (path : String) :
    ∀ (items : List Value) (index : Nat),
      (∀ item ∈ items, ∀ place, Finds (checkItem place item) (conforms item) (count item)) →
      Finds (checkEach checkItem path index items) (∀ item ∈ items, conforms item)
        (items.map count).sum
  | [], _, _ => (Finds.none _).congr (by simp)
  | item :: rest, index, each => by
      have here := each item List.mem_cons_self (itemPath path index)
      have others := checkEach_finds path rest (index + 1) fun other member =>
        each other (List.mem_cons_of_mem _ member)
      rw [List.map_cons, List.sum_cons]
      exact (here.append others).congr (List.forall_mem_cons).symm

theorem unknownFields_finds (required optional : List (String × FieldType)) (path : String)
    (fields : List (String × Value)) :
    (unknownFields required optional path fields = [] ↔
        ∀ field ∈ fields, (required.lookup field.1).isSome ∨ (optional.lookup field.1).isSome) ∧
      (unknownFields required optional path fields).length =
        fields.countP fun field =>
          (required.lookup field.1).isNone && (optional.lookup field.1).isNone := by
  constructor
  · rw [unknownFields, List.map_eq_nil_iff, List.filter_eq_nil_iff]
    refine forall₂_congr fun field _ => ?_
    cases required.lookup field.1 <;> cases optional.lookup field.1 <;> simp
  · rw [unknownFields, List.length_map, List.countP_eq_length_filter]

namespace FieldType

mutual

/-- Checking finds every violation of a type, wherever it is told to be. -/
theorem check_finds (account : String) :
    ∀ (type : FieldType) (path : String) (value : Value),
      type.Judged account Value.Quotable value →
        Finds (type.check account path value) (type.Conforms account value)
          (type.violations account value)
  | leaf kind, path, value, judged => by
      obtain ⟨verdict, checked⟩ := judged
      rw [check, Conforms, violations, checked]
      cases verdict with
      | none => exact (Finds.none _).congr (by simp)
      | some mismatch => exact (Finds.one _ _).congr (by simp)
  | list item, path, value, judged => by
      cases value with
      | scalar | object => exact (refuseForm_finds judged).congr (by simp [Conforms])
      | list items =>
          have found := checkEach_finds path items 0 fun element member place =>
            check_finds account item place element (judged element member)
          refine found.congr ?_
          simp [Conforms]
  | struct required optional, path, value, judged => by
      cases value with
      | scalar | list => exact (refuseForm_finds judged).congr (by simp [Conforms])
      | object fields =>
          obtain ⟨requiredJudged, optionalJudged⟩ := judged
          obtain ⟨missing, missingFound, provides, missingCount⟩ :=
            checkRequired_finds account fields path required requiredJudged
          obtain ⟨wrong, wrongFound, permits, wrongCount⟩ :=
            checkOptional_finds account fields path optional optionalJudged
          obtain ⟨known, unknownCount⟩ := unknownFields_finds required optional path fields
          refine ⟨missing ++ wrong ++ unknownFields required optional path fields, ?_, ?_, ?_⟩
          · simp only [check, missingFound, wrongFound]
            rfl
          · rw [List.append_eq_nil_iff, List.append_eq_nil_iff, provides, permits, known]
            simp [Conforms, and_assoc]
          · rw [List.length_append, List.length_append, missingCount, wrongCount, unknownCount]
            rfl

theorem checkRequired_finds (account : String) (fields : List (String × Value)) (path : String) :
    ∀ types : List (String × FieldType), RequiredJudged account Value.Quotable fields types →
      Finds (checkRequired account fields path types) (Provides account fields types)
        (requiredViolations account fields types)
  | [], _ => Finds.none _
  | (key, type) :: rest, judged => by
      obtain ⟨here, others⟩ := judged
      have found := checkRequired_finds account fields path rest others
      rw [checkRequired, Provides, requiredViolations]
      cases given : fields.lookup key with
      | none => exact ((Finds.one _ _).congr (by simp)).append found
      | some value =>
          have checked := check_finds account type (fieldPath path key) value (here value given)
          exact (checked.congr (by simp)).append found

theorem checkOptional_finds (account : String) (fields : List (String × Value)) (path : String) :
    ∀ types : List (String × FieldType), OptionalJudged account Value.Quotable fields types →
      Finds (checkOptional account fields path types) (Permits account fields types)
        (optionalViolations account fields types)
  | [], _ => Finds.none _
  | (key, type) :: rest, judged => by
      obtain ⟨here, others⟩ := judged
      have found := checkOptional_finds account fields path rest others
      rw [checkOptional, Permits, optionalViolations]
      cases given : fields.lookup key with
      | none => exact ((Finds.none _).congr (by simp)).append found
      | some value =>
          by_cases isNull : value = .null
          · subst isNull
            exact ((Finds.none _).congr (by simp)).append found
          · have checked := check_finds account type (fieldPath path key) value
              (here value given isNull)
            have conforms : type.Conforms account value ↔
                ∀ other, some value = some other → other = .null ∨ type.Conforms account other := by
              simp [isNull]
            cases value with
            | list | object => exact (checked.congr conforms).append found
            | scalar value =>
                cases value with
                | null => exact absurd rfl isNull
                | bool | int | float | text => exact (checked.congr conforms).append found

end

end FieldType

namespace ContractSchema

/-- A message conforms to the schema of a contract. To execute something, it is an object whose only
key is a declared variant, and its body conforms to that. -/
def Conforms (schema : ContractSchema) (account : String) : MessageKind → Value → Prop
  | .instantiate, message => schema.instantiate.Conforms account message
  | .execute, message =>
      ∃ variant body type, message = .object [(variant, body)] ∧
        schema.execute.lookup variant = some type ∧ type.Conforms account body

/-- How often a message violates the schema of a contract. One that has no declared variant does so
once. -/
def violations (schema : ContractSchema) (account : String) : MessageKind → Value → Nat
  | .instantiate, message => schema.instantiate.violations account message
  | .execute, .object [(variant, body)] =>
      match schema.execute.lookup variant with
      | some type => type.violations account body
      | none => 1
  | .execute, _ => 1

/-- Every leaf of a message can be judged, and what stands in the place of a list, of an object or of a
variant has a property. -/
def Judged (schema : ContractSchema) (account : String) (stray : Value → Prop) :
    MessageKind → Value → Prop
  | .instantiate, message => schema.instantiate.Judged account stray message
  | .execute, message =>
      match oneVariant? message with
      | some (variant, body) =>
          ∀ type, schema.execute.lookup variant = some type → type.Judged account stray body
      | none => stray message

end ContractSchema

theorem oneVariant?_eq_some_iff {message body : Value} {variant : String} :
    oneVariant? message = some (variant, body) ↔ message = .object [(variant, body)] := by
  unfold oneVariant?
  split
  · simp
  · next differs =>
      refine iff_of_false (by simp) ?_
      rintro rfl
      exact differs _ rfl

namespace ContractSchema

variable {schema : ContractSchema} {account variant : String} {message body : Value}

theorem undivided (divided : oneVariant? message = none) :
    ¬ schema.Conforms account .execute message ∧
      schema.violations account .execute message = 1 := by
  constructor
  · rintro ⟨variant, body, _, rfl, _⟩
    cases divided
  · unfold violations
    split
    · next instantiates => cases instantiates
    · cases divided
    · rfl

private theorem variantProblems_finds (judged : ∀ type, schema.execute.lookup variant = some type →
      type.Judged account Value.Quotable body) :
    Finds (schema.variantProblems account variant body)
      (schema.Conforms account .execute (.object [(variant, body)]))
      (schema.violations account .execute (.object [(variant, body)])) := by
  rw [variantProblems, violations]
  cases declared : schema.execute.lookup variant with
  | none =>
      refine (Finds.one _ _).congr ?_
      simp [Conforms, declared]
  | some type =>
      have checked := type.check_finds account variant body (judged type declared)
      refine checked.congr ⟨fun conforms => ⟨variant, body, type, rfl, declared, conforms⟩, ?_⟩
      rintro ⟨_, _, other, shape, found, conforms⟩
      cases shape
      rw [declared] at found
      cases found
      exact conforms

end ContractSchema

namespace Catalog

variable {catalog : Catalog} {kind : MessageKind} {name : Scalar} {schema : ContractSchema}
  {message : Value}

private theorem executeProblems_finds (known : catalog.find? name = some schema)
    (judged : schema.Judged catalog.account Value.Quotable .execute message) :
    Finds (catalog.executeProblems name message)
      (schema.Conforms catalog.account .execute message)
      (schema.violations catalog.account .execute message) := by
  rw [ContractSchema.Judged] at judged
  rw [executeProblems]
  cases given : oneVariant? message with
  | none =>
      rw [given] at judged
      obtain ⟨differs, once⟩ := ContractSchema.undivided given
      rw [once]
      exact (refuseForm_finds judged).mapError.congr (by simp [differs])
  | some named =>
      obtain ⟨variant, body⟩ := named
      rw [given] at judged
      obtain rfl := oneVariant?_eq_some_iff.mp given
      have found := ContractSchema.variantProblems_finds judged
      simp only [Catalog.schema, known]
      exact found.mapError

theorem problems_find (known : catalog.find? name = some schema)
    (judged : schema.Judged catalog.account Value.Quotable kind message) :
    Finds (catalog.problems kind name message) (schema.Conforms catalog.account kind message)
      (schema.violations catalog.account kind message) := by
  cases kind with
  | execute => exact executeProblems_finds known judged
  | instantiate =>
      have found := schema.instantiate.check_finds catalog.account MessageKind.instantiate.name
        message judged
      simp only [problems, instantiateProblems, Catalog.schema, known]
      exact found.mapError

end Catalog

end Rollout.Schema
