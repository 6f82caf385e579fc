import Rollout.Proofs.Schema.Acceptance
import Rollout.Proofs.Value.Integer

/-!
# Checked messages

A check that comes to an end has judged every leaf and quoted every stray value: one that stands in
the place of a list, of an object or of a variant. Where every leaf can be judged, only a stray value
that is too long to be quoted breaks the check off, and no document gives such a value.
-/

set_option autoImplicit false

namespace Rollout.Schema

section

variable {ε : Type} {first second : Except ε (List Problem)}

private theorem joined_eq_ok {problems : List Problem}
    (joined : (do
      let here ← first
      let there ← second
      return here ++ there) = .ok problems) :
    (∃ here, first = .ok here) ∧ ∃ there, second = .ok there := by
  obtain ⟨here, found, continued⟩ := Computation.bind_eq_ok joined
  obtain ⟨there, behind, _⟩ := Computation.bind_eq_ok continued
  exact ⟨⟨here, found⟩, there, behind⟩

private theorem joined_eq_error {fault : ε}
    (joined : (do
      let here ← first
      let there ← second
      return here ++ there) = .error fault) :
    first = .error fault ∨ second = .error fault := by
  rcases Computation.bind_eq_error joined with here | ⟨_, _, continued⟩
  · exact .inl here
  · rcases Computation.bind_eq_error continued with there | ⟨_, _, ended⟩
    · exact .inr there
    · cases ended

end

section

variable {checkItem : String → Value → Except Wire.Fault (List Problem)} {path : String}
  {items : List Value} {index : Nat}

private theorem checkEach_eq_ok
    (checked : ∃ problems, checkEach checkItem path index items = .ok problems) :
    ∀ item ∈ items, ∃ place found, checkItem place item = .ok found := by
  induction items generalizing index with
  | nil => simp
  | cons item rest ih =>
      obtain ⟨problems, checked⟩ := checked
      obtain ⟨here, others⟩ := joined_eq_ok checked
      exact List.forall_mem_cons.mpr ⟨⟨itemPath path index, here⟩, ih others⟩

private theorem checkEach_eq_error {fault : Wire.Fault}
    (failed : checkEach checkItem path index items = .error fault) :
    ∃ item ∈ items, ∃ place, checkItem place item = .error fault := by
  induction items generalizing index with
  | nil => cases failed
  | cons item rest ih =>
      rcases joined_eq_error failed with here | behind
      · exact ⟨item, List.mem_cons_self, itemPath path index, here⟩
      · obtain ⟨other, member, place, there⟩ := ih behind
        exact ⟨other, List.mem_cons_of_mem item member, place, there⟩

end

private theorem refuseForm_eq_error {violation : String → Violation} {path : String} {value : Value}
    {fault : Wire.Fault} (failed : refuseForm violation path value = .error fault) :
    fault = .number .unwritable := by
  by_cases quotable : value.Quotable
  · rw [refuseForm_of_quotable quotable] at failed
    cases failed
  · rw [refuseForm_of_not_quotable quotable] at failed
    cases failed
    rfl

namespace FieldType

mutual

/-- A check that comes to an end has judged every leaf that the type puts in the value. -/
theorem judged_of_check (account : String) :
    ∀ (type : FieldType) (path : String) (value : Value),
      (∃ problems, type.check account path value = .ok problems) →
        type.Judged account Value.Quotable value
  | leaf kind, path, value, ⟨problems, checked⟩ => by
      obtain ⟨verdict, judged, _⟩ := Computation.bind_eq_ok checked
      exact ⟨verdict, judged⟩
  | list item, path, value, checked => by
      cases value with
      | scalar | object =>
          obtain ⟨problems, refused⟩ := checked
          exact quotable_of_refuseForm refused
      | list items =>
          intro element member
          obtain ⟨place, here⟩ := checkEach_eq_ok checked element member
          exact judged_of_check account item place element here
  | struct required optional, path, value, ⟨problems, checked⟩ => by
      cases value with
      | scalar | list => exact quotable_of_refuseForm checked
      | object fields =>
          obtain ⟨missing, provided, continued⟩ := Computation.bind_eq_ok checked
          obtain ⟨wrong, permitted, _⟩ := Computation.bind_eq_ok continued
          exact ⟨requiredJudged_of_check account fields path required ⟨missing, provided⟩,
            optionalJudged_of_check account fields path optional ⟨wrong, permitted⟩⟩

theorem requiredJudged_of_check (account : String) (fields : List (String × Value))
    (path : String) :
    ∀ types : List (String × FieldType),
      (∃ problems, checkRequired account fields path types = .ok problems) →
        RequiredJudged account Value.Quotable fields types
  | [], _ => trivial
  | (key, type) :: rest, ⟨problems, checked⟩ => by
      rw [checkRequired] at checked
      split at checked
      · next absent =>
          obtain ⟨_, others⟩ := joined_eq_ok checked
          exact ⟨by simp [absent], requiredJudged_of_check account fields path rest others⟩
      · next value given =>
          obtain ⟨here, others⟩ := joined_eq_ok checked
          have judged := judged_of_check account type (fieldPath path key) value here
          refine ⟨?_, requiredJudged_of_check account fields path rest others⟩
          simpa [given] using judged

theorem optionalJudged_of_check (account : String) (fields : List (String × Value))
    (path : String) :
    ∀ types : List (String × FieldType),
      (∃ problems, checkOptional account fields path types = .ok problems) →
        OptionalJudged account Value.Quotable fields types
  | [], _ => trivial
  | (key, type) :: rest, ⟨problems, checked⟩ => by
      rw [checkOptional] at checked
      split at checked
      · next absent =>
          obtain ⟨_, others⟩ := joined_eq_ok checked
          exact ⟨by simp [absent], optionalJudged_of_check account fields path rest others⟩
      · next isNull =>
          obtain ⟨_, others⟩ := joined_eq_ok checked
          exact ⟨by simp [isNull], optionalJudged_of_check account fields path rest others⟩
      · next value _ given =>
          obtain ⟨here, others⟩ := joined_eq_ok checked
          have judged := judged_of_check account type (fieldPath path key) value here
          refine ⟨?_, optionalJudged_of_check account fields path rest others⟩
          simpa [given] using fun _ => judged

end

mutual

theorem check_eq_error (account : String) {stray : Value → Prop} {fault : Wire.Fault} :
    ∀ (type : FieldType) (path : String) (value : Value), type.Judged account stray value →
      type.check account path value = .error fault → fault = .number .unwritable
  | leaf kind, path, value, ⟨verdict, judged⟩, failed => by
      rw [check, judged] at failed
      cases verdict <;> cases failed
  | list item, path, value, judged, failed => by
      cases value with
      | scalar | object => exact refuseForm_eq_error failed
      | list items =>
          obtain ⟨element, member, place, here⟩ := checkEach_eq_error failed
          exact check_eq_error account item place element (judged element member) here
  | struct required optional, path, value, judged, failed => by
      cases value with
      | scalar | list => exact refuseForm_eq_error failed
      | object fields =>
          obtain ⟨requiredJudged, optionalJudged⟩ := judged
          rcases Computation.bind_eq_error failed with provided | ⟨_, _, continued⟩
          · exact checkRequired_eq_error account fields path required requiredJudged provided
          · rcases Computation.bind_eq_error continued with permitted | ⟨_, _, ended⟩
            · exact checkOptional_eq_error account fields path optional optionalJudged permitted
            · cases ended

theorem checkRequired_eq_error (account : String) {stray : Value → Prop} {fault : Wire.Fault}
    (fields : List (String × Value)) (path : String) :
    ∀ types : List (String × FieldType), RequiredJudged account stray fields types →
      checkRequired account fields path types = .error fault → fault = .number .unwritable
  | [], _, failed => by cases failed
  | (key, type) :: rest, ⟨here, others⟩, failed => by
      rw [checkRequired] at failed
      split at failed
      · rcases joined_eq_error failed with first | behind
        · cases first
        · exact checkRequired_eq_error account fields path rest others behind
      · next value given =>
          rcases joined_eq_error failed with first | behind
          · exact check_eq_error account type (fieldPath path key) value (here value given) first
          · exact checkRequired_eq_error account fields path rest others behind

theorem checkOptional_eq_error (account : String) {stray : Value → Prop} {fault : Wire.Fault}
    (fields : List (String × Value)) (path : String) :
    ∀ types : List (String × FieldType), OptionalJudged account stray fields types →
      checkOptional account fields path types = .error fault → fault = .number .unwritable
  | [], _, failed => by cases failed
  | (key, type) :: rest, ⟨here, others⟩, failed => by
      rw [checkOptional] at failed
      split at failed
      · rcases joined_eq_error failed with first | behind
        · cases first
        · exact checkOptional_eq_error account fields path rest others behind
      · rcases joined_eq_error failed with first | behind
        · cases first
        · exact checkOptional_eq_error account fields path rest others behind
      · next value differs given =>
          rcases joined_eq_error failed with first | behind
          · have apart : value ≠ .null := fun same => differs same
            exact check_eq_error account type (fieldPath path key) value (here value given apart)
              first
          · exact checkOptional_eq_error account fields path rest others behind

end

mutual

theorem judged_of_quotable (account : String) {stray : Value → Prop} :
    ∀ (type : FieldType) (value : Value), value.Quotable → type.Judged account stray value →
      type.Judged account Value.Quotable value
  | leaf _, _, _, judged => judged
  | list item, value, quotable, judged => by
      cases value with
      | scalar | object => exact quotable
      | list items =>
          intro element member
          exact judged_of_quotable account item element
            (Value.itemsHold_iff.mp quotable element member) (judged element member)
  | struct required optional, value, quotable, judged => by
      cases value with
      | scalar | list => exact quotable
      | object fields =>
          obtain ⟨requiredJudged, optionalJudged⟩ := judged
          exact ⟨requiredJudged_of_quotable account quotable required requiredJudged,
            optionalJudged_of_quotable account quotable optional optionalJudged⟩

theorem requiredJudged_of_quotable (account : String) {stray : Value → Prop}
    {fields : List (String × Value)} (quotable : (Value.object fields).Quotable) :
    ∀ types : List (String × FieldType), RequiredJudged account stray fields types →
      RequiredJudged account Value.Quotable fields types
  | [], _ => trivial
  | (_, type) :: rest, ⟨here, others⟩ => by
      refine ⟨fun value given => ?_, requiredJudged_of_quotable account quotable rest others⟩
      exact judged_of_quotable account type value (Value.holds_of_lookup quotable given)
        (here value given)

theorem optionalJudged_of_quotable (account : String) {stray : Value → Prop}
    {fields : List (String × Value)} (quotable : (Value.object fields).Quotable) :
    ∀ types : List (String × FieldType), OptionalJudged account stray fields types →
      OptionalJudged account Value.Quotable fields types
  | [], _ => trivial
  | (_, type) :: rest, ⟨here, others⟩ => by
      refine ⟨fun value given apart => ?_, optionalJudged_of_quotable account quotable rest others⟩
      exact judged_of_quotable account type value (Value.holds_of_lookup quotable given)
        (here value given apart)

end

end FieldType

namespace ContractSchema

variable {schema : ContractSchema} {account : String} {stray : Value → Prop} {kind : MessageKind}
  {message : Value}

private theorem judged_of_quotable (quotable : message.Quotable)
    (judged : schema.Judged account stray kind message) :
    schema.Judged account Value.Quotable kind message := by
  cases kind with
  | instantiate => exact schema.instantiate.judged_of_quotable account message quotable judged
  | execute =>
      rw [Judged] at judged ⊢
      cases given : oneVariant? message with
      | none => exact quotable
      | some named =>
          obtain ⟨variant, body⟩ := named
          obtain rfl := oneVariant?_eq_some_iff.mp given
          rw [given] at judged
          intro type declared
          exact type.judged_of_quotable account body quotable.1 (judged type declared)

end ContractSchema

/-- What finds all that is wrong where it ends, and where a value can be quoted, finds it, or the
value cannot be quoted and that breaks it off. -/
private theorem finds_or_breaks {ε : Type} {computation : Except ε (List Problem)}
    {conforms quotable : Prop} {violations : Nat} {fault : ε}
    (ends : ∀ problems, computation = .ok problems → Finds computation conforms violations)
    (breaks : ∀ cause, computation = .error cause → cause = fault)
    (quoted : quotable → Finds computation conforms violations) :
    Finds computation conforms violations ∨ ¬ quotable ∧ computation = .error fault := by
  cases computed : computation with
  | ok problems =>
      rw [← computed]
      exact .inl (ends problems computed)
  | error cause =>
      obtain rfl := breaks cause computed
      refine .inr ⟨fun quotable => ?_, rfl⟩
      obtain ⟨problems, found, _⟩ := quoted quotable
      rw [computed] at found
      cases found

/-- Where every leaf can be judged, a check finds what is wrong, unless it has to quote what cannot
be quoted. -/
theorem FieldType.check_finds_or_breaks {account : String} {stray : Value → Prop} {type : FieldType}
    {value : Value} (path : String) (judged : type.Judged account stray value) :
    Finds (type.check account path value) (type.Conforms account value)
        (type.violations account value) ∨
      ¬ value.Quotable ∧ type.check account path value = .error (.number .unwritable) := by
  refine finds_or_breaks ?ends ?breaks ?quoted
  case ends =>
    intro problems checked
    exact type.check_finds account path value
      (type.judged_of_check account path value ⟨problems, checked⟩)
  case breaks =>
    intro fault failed
    exact type.check_eq_error account path value judged failed
  case quoted =>
    intro quotable
    exact type.check_finds account path value
      (type.judged_of_quotable account value quotable judged)

namespace Catalog

variable {catalog : Catalog} {kind : MessageKind} {name : Scalar} {schema : ContractSchema}
  {message : Value}

theorem judged_of_problems {problems : List Problem} (known : catalog.find? name = some schema)
    (found : catalog.problems kind name message = .ok problems) :
    schema.Judged catalog.account Value.Quotable kind message := by
  cases kind with
  | instantiate =>
      simp only [Catalog.problems, instantiateProblems, Catalog.schema, known] at found
      have checked := Computation.mapError_eq_ok.mp found
      exact schema.instantiate.judged_of_check catalog.account _ message ⟨problems, checked⟩
  | execute =>
      rw [ContractSchema.Judged]
      simp only [Catalog.problems, executeProblems, Catalog.schema, known] at found
      cases given : oneVariant? message with
      | none =>
          rw [given] at found
          exact quotable_of_refuseForm (Computation.mapError_eq_ok.mp found)
      | some named =>
          obtain ⟨variant, body⟩ := named
          rw [given] at found
          intro type declared
          have checked := Computation.mapError_eq_ok.mp found
          simp only [ContractSchema.variantProblems, declared] at checked
          exact type.judged_of_check catalog.account variant body ⟨problems, checked⟩

private theorem problems_eq_unwritable {stray : Value → Prop} {fault : Fault}
    (known : catalog.find? name = some schema)
    (judged : schema.Judged catalog.account stray kind message)
    (failed : catalog.problems kind name message = .error fault) :
    fault = .wire (.number .unwritable) := by
  cases kind with
  | instantiate =>
      simp only [Catalog.problems, instantiateProblems, Catalog.schema, known] at failed
      obtain ⟨cause, stopped, rfl⟩ := Computation.mapError_eq_error.mp failed
      exact congrArg Fault.wire
        (schema.instantiate.check_eq_error catalog.account _ message judged stopped)
  | execute =>
      rw [ContractSchema.Judged] at judged
      simp only [Catalog.problems, executeProblems, Catalog.schema, known] at failed
      cases given : oneVariant? message with
      | none =>
          rw [given] at failed
          obtain ⟨cause, stopped, rfl⟩ := Computation.mapError_eq_error.mp failed
          exact congrArg Fault.wire (refuseForm_eq_error stopped)
      | some named =>
          obtain ⟨variant, body⟩ := named
          rw [given] at judged failed
          obtain ⟨cause, stopped, rfl⟩ := Computation.mapError_eq_error.mp failed
          unfold ContractSchema.variantProblems at stopped
          split at stopped
          · next type declared =>
              exact congrArg Fault.wire
                (type.check_eq_error catalog.account variant body (judged type declared) stopped)
          · cases stopped

private theorem problems_find_or_break {stray : Value → Prop} (known : catalog.find? name = some schema)
    (judged : schema.Judged catalog.account stray kind message) :
    Finds (catalog.problems kind name message) (schema.Conforms catalog.account kind message)
        (schema.violations catalog.account kind message) ∨
      ¬ message.Quotable ∧
        catalog.problems kind name message = .error (.wire (.number .unwritable)) := by
  refine finds_or_breaks ?ends ?breaks ?quoted
  case ends =>
    intro problems found
    exact problems_find known (judged_of_problems known found)
  case breaks =>
    intro fault failed
    exact problems_eq_unwritable known judged failed
  case quoted =>
    intro quotable
    exact problems_find known (ContractSchema.judged_of_quotable quotable judged)

end Catalog

/-- Checking is sound and complete where every leaf can be judged. The problems that are told of a
value are as many as its violations, and a message is accepted just if it conforms. Only a stray
integer that is too long to be quoted breaks a check off, and no document gives one. -/
theorem messages_checked :
    (∀ (document : String) (value : Value), Json.read document = .ok value → value.Quotable) ∧
      (∀ (account : String) (type : FieldType) (path : String) (value : Value),
        type.Judged account (fun _ => True) value →
          Finds (type.check account path value) (type.Conforms account value)
              (type.violations account value) ∨
            ¬ value.Quotable ∧
              type.check account path value = .error (.number .unwritable)) ∧
      ∀ (catalog : Catalog) (kind : MessageKind) (name : Scalar) (schema : ContractSchema)
        (message : Value),
        catalog.find? name = some schema →
          schema.Judged catalog.account (fun _ => True) kind message →
            (Finds (catalog.problems kind name message)
                (schema.Conforms catalog.account kind message)
                (schema.violations catalog.account kind message) ∨
              ¬ message.Quotable ∧
                catalog.problems kind name message = .error (.wire (.number .unwritable))) ∧
            (catalog.validate kind (.scalar name) message = .ok () ↔
              schema.Conforms catalog.account kind message) := by
  refine ⟨?_, ?_, ?_⟩
  · intro document value found
    exact Json.quotable_of_read found
  · intro account type path value judged
    exact type.check_finds_or_breaks path judged
  · intro catalog kind name schema message known judged
    refine ⟨Catalog.problems_find_or_break known judged, ?_⟩
    rw [Catalog.validate_eq_ok_iff_conforms, known]
    simp

/-- A type with a list of structures, one of whose fields may be missing. -/
def votes : FieldType :=
  .struct [("votes", .list (.struct [("voter", .leaf .text)] [("weight", .leaf .u8)]))] []

/-- Votes of which the second has no voter, too great a weight, and something else besides. -/
def spoiltVotes : Value :=
  .object [("votes", .list
    [.object [("voter", .text "first"), ("weight", .null)],
      .object [("weight", .int 300), ("proxy", .bool true)]])]

def ballot : ContractSchema := ⟨"ballot", .struct [] [], [("tally", votes)]⟩

private theorem spoiltVotes_judged : votes.Judged "terra" (fun _ => True) spoiltVotes := by
  have voter : ∃ verdict, Kind.text.check "terra" (.text "first") = .ok verdict := ⟨_, rfl⟩
  have weight : ∃ verdict, Kind.u8.check "terra" (.int 300) = .ok verdict := ⟨_, rfl⟩
  simpa [votes, spoiltVotes, FieldType.Judged, FieldType.RequiredJudged, FieldType.OptionalJudged,
    List.lookup_cons, List.lookup_nil] using And.intro voter weight

private theorem spoiltVotes_quotable : spoiltVotes.Quotable :=
  Value.isQuotable_iff.mp (by decide)

theorem spoiltVotes_checked :
    (∃ problems, votes.check "terra" "instantiate" spoiltVotes = .ok problems ∧
        problems.length = 3 ∧ ¬ votes.Conforms "terra" spoiltVotes) ∧
      Catalog.validate ⟨"terra", [ballot]⟩ .execute (.text "ballot")
          (.object [("tally", spoiltVotes)]) ≠ .ok () ∧
        ¬ ballot.Conforms "terra" .execute (.object [("tally", spoiltVotes)]) := by
  obtain ⟨_, types, catalogs⟩ := messages_checked
  have wrong : ¬ votes.Conforms "terra" spoiltVotes ∧
      ∃ problems, votes.check "terra" "instantiate" spoiltVotes = .ok problems ∧
        problems.length = 3 := by
    rcases types "terra" votes "instantiate" spoiltVotes spoiltVotes_judged with
      ⟨problems, found, conforms, counted⟩ | ⟨long, _⟩
    · have three : votes.violations "terra" spoiltVotes = 3 := rfl
      rw [three] at counted
      refine ⟨fun conforming => ?_, problems, found, counted⟩
      rw [conforms.mpr conforming] at counted
      cases counted
    · exact absurd spoiltVotes_quotable long
  obtain ⟨differs, problems, found, counted⟩ := wrong
  have known : Catalog.find? ⟨"terra", [ballot]⟩ (.text "ballot") = some ballot := rfl
  have judged : ballot.Judged "terra" (fun _ => True) .execute
      (.object [("tally", spoiltVotes)]) := by
    intro type declared
    cases declared
    exact spoiltVotes_judged
  obtain ⟨_, accepted⟩ := catalogs ⟨"terra", [ballot]⟩ .execute (.text "ballot") ballot
    (.object [("tally", spoiltVotes)]) known judged
  have spoilt : ¬ ballot.Conforms "terra" .execute (.object [("tally", spoiltVotes)]) := by
    rintro ⟨variant, body, type, shape, declared, conforms⟩
    cases shape
    cases declared
    exact differs conforms
  exact ⟨⟨problems, found, counted, differs⟩, mt accepted.mp spoilt, spoilt⟩

end Rollout.Schema
