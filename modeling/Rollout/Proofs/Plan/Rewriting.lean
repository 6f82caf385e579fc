import Mathlib.Data.List.Forall2
import Rollout.Plan.Document
import Rollout.Proofs.Path
import Rollout.Proofs.Template.Encoding

/-!
# Plans written and read again

A plan that was read from a document is read again from its own document. All comes back but where
its artifacts lie: of their paths only the names are written.
-/

set_option autoImplicit false

namespace Rollout.Plan

variable {artifacts : Path} {plan : Plan} {descriptor : Descriptor} {update : ConfigUpdate}

/-- A descriptor whose artifact lies in a directory under the name that it has. -/
def relocate (artifacts : Path) (descriptor : Descriptor) : Descriptor :=
  { descriptor with bytecode := artifacts.child descriptor.bytecode.name }

/-!
## Optional fields
-/

section

variable {key other : String} {rest : List (String × Value)} (value : Value)

private theorem fieldOrNull_presentField (absent : rest.lookup key = none) :
    Value.fieldOrNull (presentField key value ++ rest) key = value := by
  unfold presentField Value.fieldOrNull Value.field
  split
  · next none =>
      rw [List.nil_append, absent]
      cases value with
      | scalar value =>
          cases value with
          | null => rfl
          | bool | int | float | text => cases none
      | list | object => cases none
  · simp

private theorem lookup_presentField_of_ne (apart : key ≠ other) :
    (presentField other value ++ rest).lookup key = rest.lookup key := by
  unfold presentField
  split
  · rfl
  · simp [List.lookup_cons, beq_eq_false_iff_ne.mpr apart]

private theorem fieldOrNull_presentField_of_ne (apart : key ≠ other) :
    Value.fieldOrNull (presentField other value ++ rest) key = Value.fieldOrNull rest key := by
  unfold Value.fieldOrNull Value.field
  rw [lookup_presentField_of_ne value apart]

end

/-- The optional fields of a descriptor's document. -/
def optionFields (descriptor : Descriptor) : List (String × Value) :=
  presentField "admin" descriptor.admin ++ (presentField "init_coins" descriptor.coins ++
    (presentField "schema" descriptor.schema ++ []))

private theorem descriptorValue_eq (descriptor : Descriptor) :
    descriptorValue descriptor = .object (("name", .scalar descriptor.name) ::
      ("wasm", .text descriptor.bytecode.name) :: ("init_msg", descriptor.message.encode) ::
      optionFields descriptor) := by
  simp [descriptorValue, optionFields]

private theorem fieldOrNull_optionFields (descriptor : Descriptor) :
    Value.fieldOrNull (optionFields descriptor) "admin" = descriptor.admin ∧
      Value.fieldOrNull (optionFields descriptor) "init_coins" = descriptor.coins ∧
      Value.fieldOrNull (optionFields descriptor) "schema" = descriptor.schema := by
  unfold optionFields
  refine ⟨?_, ?_, ?_⟩
  · apply fieldOrNull_presentField
    rw [lookup_presentField_of_ne _ (by decide), lookup_presentField_of_ne _ (by decide)]
    rfl
  · rw [fieldOrNull_presentField_of_ne _ (by decide)]
    apply fieldOrNull_presentField
    rw [lookup_presentField_of_ne _ (by decide)]
    rfl
  · rw [fieldOrNull_presentField_of_ne _ (by decide), fieldOrNull_presentField_of_ne _ (by decide)]
    exact fieldOrNull_presentField _ rfl

/-!
## Entries
-/

private theorem readDescriptor_descriptorValue
    (decoded : Template.decode descriptor.message.encode = .ok descriptor.message) (index : Nat) :
    readDescriptor artifacts index (descriptorValue descriptor) =
      .ok (relocate artifacts descriptor) := by
  obtain ⟨admin, coins, schema⟩ := fieldOrNull_optionFields descriptor
  have read : readDescriptor artifacts index (descriptorValue descriptor) =
      ((Template.decode descriptor.message.encode).mapError .marker).map fun template =>
        { name := descriptor.name
          bytecode := artifacts.child descriptor.bytecode.name
          message := template
          admin := Value.fieldOrNull (optionFields descriptor) "admin"
          coins := Value.fieldOrNull (optionFields descriptor) "init_coins"
          schema := Value.fieldOrNull (optionFields descriptor) "schema" } := by
    rw [descriptorValue_eq]
    rfl
  rw [read, decoded, admin, coins, schema]
  rfl

private theorem decoded_of_readDescriptor {index : Nat} {entry : Value}
    (read : readDescriptor artifacts index entry = .ok descriptor) :
    Template.decode descriptor.message.encode = .ok descriptor.message := by
  obtain ⟨fields, _, afterFields⟩ := Computation.bind_eq_ok read
  obtain ⟨named, _, afterNamed⟩ := Computation.bind_eq_ok afterFields
  obtain ⟨name, _, afterName⟩ := Computation.bind_eq_ok afterNamed
  obtain ⟨bytecode, _, afterBytecode⟩ := Computation.bind_eq_ok afterName
  obtain ⟨message, _, afterMessage⟩ := Computation.bind_eq_ok afterBytecode
  obtain ⟨template, decoded, same⟩ := Computation.bind_eq_ok afterMessage
  cases same
  exact Template.decode_encode message (Computation.mapError_eq_ok.mp decoded)

private theorem readUpdate_updateValue
    (decoded : Template.decode update.message.encode = .ok update.message) (index : Nat) :
    readUpdate index (updateValue update) = .ok update := by
  have schema : Value.fieldOrNull (presentField "schema" update.schema ++ []) "schema" =
      update.schema := fieldOrNull_presentField _ rfl
  have read : readUpdate index (updateValue update) =
      ((Template.decode update.message.encode).mapError .marker).map fun template =>
        { target := update.target
          message := template
          schema := Value.fieldOrNull (presentField "schema" update.schema) "schema" } := rfl
  rw [read, decoded, ← List.append_nil (presentField _ _), schema]
  rfl

private theorem decoded_of_readUpdate {index : Nat} {entry : Value}
    (read : readUpdate index entry = .ok update) :
    Template.decode update.message.encode = .ok update.message := by
  obtain ⟨fields, _, afterFields⟩ := Computation.bind_eq_ok read
  obtain ⟨target, _, afterTarget⟩ := Computation.bind_eq_ok afterFields
  obtain ⟨message, _, afterMessage⟩ := Computation.bind_eq_ok afterTarget
  obtain ⟨template, decoded, same⟩ := Computation.bind_eq_ok afterMessage
  cases same
  exact Template.decode_encode message (Computation.mapError_eq_ok.mp decoded)

private theorem readEach_map {α : Type} {read : Nat → Value → Except Fault α} {write : α → Value}
    {again : α → α}
    (each : ∀ index entry value, read index entry = .ok value →
      ∀ other, read other (write value) = .ok (again value))
    {entries : List Value} {values : List α} {index : Nat}
    (given : readEach read index entries = .ok values) (other : Nat) :
    readEach read other (values.map write) = .ok (values.map again) := by
  induction entries generalizing index values other with
  | nil =>
      cases given
      rfl
  | cons entry rest ih =>
      obtain ⟨first, here, continued⟩ := Computation.bind_eq_ok given
      obtain ⟨others, there, same⟩ := Computation.bind_eq_ok continued
      cases same
      rw [List.map_cons, readEach, each index entry first here other, ih there (other + 1)]
      rfl

/-- A plan that was read is read again, with its artifacts in the directory itself. -/
theorem ofValue_toValue {document : Value} (given : ofValue document artifacts = .ok plan) :
    ofValue plan.toValue artifacts =
      .ok ⟨plan.descriptors.map (relocate artifacts), plan.updates⟩ := by
  obtain ⟨fields, _, afterFields⟩ := Computation.bind_eq_ok given
  obtain ⟨contracts, _, afterContracts⟩ := Computation.bind_eq_ok afterFields
  obtain ⟨descriptors, described, afterDescriptors⟩ := Computation.bind_eq_ok afterContracts
  obtain ⟨entries, _, afterEntries⟩ := Computation.bind_eq_ok afterDescriptors
  obtain ⟨updates, updated, same⟩ := Computation.bind_eq_ok afterEntries
  cases same
  have descriptorsAgain : readEach (readDescriptor artifacts) 0 (descriptors.map descriptorValue) =
      .ok (descriptors.map (relocate artifacts)) := by
    apply readEach_map _ described 0
    intro index entry descriptor read other
    exact readDescriptor_descriptorValue (decoded_of_readDescriptor read) other
  have updatesAgain : readEach readUpdate 0 (updates.map updateValue) =
      .ok (updates.map id) := by
    apply readEach_map _ updated 0
    intro index entry update read other
    exact readUpdate_updateValue (decoded_of_readUpdate read) other
  have read : ofValue (toValue ⟨descriptors, updates⟩) artifacts =
      (readEach (readDescriptor artifacts) 0 (descriptors.map descriptorValue) >>=
        fun first => readEach readUpdate 0 (updates.map updateValue) >>=
          fun second => .ok ⟨first, second⟩) := rfl
  rw [read, descriptorsAgain, updatesAgain, List.map_id]
  rfl

/-- Two descriptors that differ at most in where their artifacts lie. -/
structure Matches (descriptor again : Descriptor) : Prop where
  name : again.name = descriptor.name
  message : again.message = descriptor.message
  admin : again.admin = descriptor.admin
  coins : again.coins = descriptor.coins
  schema : again.schema = descriptor.schema

private theorem matches_relocate (artifacts : Path) (descriptors : List Descriptor) :
    List.Forall₂ Matches descriptors (descriptors.map (relocate artifacts)) := by
  rw [List.forall₂_map_right_iff, List.forall₂_same]
  intro descriptor _
  exact ⟨rfl, rfl, rfl, rfl, rfl⟩

/-- A plan comes back from its own document with its contracts and its updates in their order, and
with all that they say. -/
theorem rewritten_plan_matches (document : Value) (artifacts : Path) (plan : Plan)
    (given : ofValue document artifacts = .ok plan) :
    ∃ again, ofValue plan.toValue artifacts = .ok again ∧
      List.Forall₂ Matches plan.descriptors again.descriptors ∧ again.updates = plan.updates :=
  ⟨_, ofValue_toValue given, matches_relocate artifacts plan.descriptors, rfl⟩

/-- A document with all that a message may hold at some depth, and with the options of a contract
given and left out. -/
def variedDocument : Value :=
  .object
    [("config_updates", .list [.object [("msg", .object [("note", .null),
        ("to", .object [("$ref", .text "hub"), ("attr", .text "address")])]),
        ("target", .text "hub")]]),
      ("contracts", .list
        [.object [("init_msg", .list [.object [], .object [("$placeholder", .int 1)]]),
          ("name", .text "hub"), ("admin", .text "terra1"), ("schema", .null)],
        .object [("name", .int 7), ("wasm", .text "sub/hub.wasm"), ("init_coins", .list []),
          ("init_msg", .object [("attr", .object [("code", .list
            [.object [("attr", .text "code_id"), ("$ref", .text "hub")]])])])]])]

def artifactDirectory : Path :=
  ⟨"", ["artifacts"]⟩

/-- What the document is read as. -/
def variedPlan : Plan :=
  ⟨[⟨.text "hub", artifactDirectory.child "hub.wasm", .list [.object [], .placeholder],
      .text "terra1", .null, .null⟩,
    ⟨.int 7, artifactDirectory.child "sub/hub.wasm",
      .object [("attr", .object [("code", .list [.reference ⟨"hub", .codeId⟩])])], .null,
      .list [], .null⟩],
    [⟨.text "hub", .object [("note", .scalar .null), ("to", .reference ⟨"hub", .address⟩)],
      .null⟩]⟩

private theorem ofValue_variedDocument :
    ofValue variedDocument artifactDirectory = .ok variedPlan :=
  rfl

theorem variedPlan_matches :
    ∃ again, ofValue variedPlan.toValue artifactDirectory = .ok again ∧
      List.Forall₂ Matches variedPlan.descriptors again.descriptors ∧
      again.updates = variedPlan.updates :=
  rewritten_plan_matches variedDocument artifactDirectory variedPlan ofValue_variedDocument

/-!
## Artifacts
-/

private theorem regular_of_readDescriptor {index : Nat} {entry : Value}
    (regular : artifacts.Regular) (read : readDescriptor artifacts index entry = .ok descriptor) :
    descriptor.bytecode.Regular := by
  obtain ⟨fields, _, afterFields⟩ := Computation.bind_eq_ok read
  obtain ⟨named, _, afterNamed⟩ := Computation.bind_eq_ok afterFields
  obtain ⟨name, _, afterName⟩ := Computation.bind_eq_ok afterNamed
  obtain ⟨bytecode, found, afterBytecode⟩ := Computation.bind_eq_ok afterName
  obtain ⟨message, _, afterMessage⟩ := Computation.bind_eq_ok afterBytecode
  obtain ⟨template, _, same⟩ := Computation.bind_eq_ok afterMessage
  cases same
  unfold artifactPath at found
  split at found
  · cases found
    exact regular.child _
  · cases found

private theorem holds_of_readEach {α : Type} {read : Nat → Value → Except Fault α}
    {property : α → Prop}
    (each : ∀ index entry value, read index entry = .ok value → property value)
    {entries : List Value} {values : List α} {index : Nat}
    (given : readEach read index entries = .ok values) : ∀ value ∈ values, property value := by
  induction entries generalizing index values with
  | nil =>
      cases given
      simp
  | cons entry rest ih =>
      obtain ⟨first, here, continued⟩ := Computation.bind_eq_ok given
      obtain ⟨others, there, same⟩ := Computation.bind_eq_ok continued
      cases same
      rw [List.forall_mem_cons]
      exact ⟨each index entry first here, ih there⟩

private theorem regular_of_ofValue {document : Value} (regular : artifacts.Regular)
    (given : ofValue document artifacts = .ok plan) :
    ∀ descriptor ∈ plan.descriptors, descriptor.bytecode.Regular := by
  obtain ⟨fields, _, afterFields⟩ := Computation.bind_eq_ok given
  obtain ⟨contracts, _, afterContracts⟩ := Computation.bind_eq_ok afterFields
  obtain ⟨descriptors, described, afterDescriptors⟩ := Computation.bind_eq_ok afterContracts
  obtain ⟨entries, _, afterEntries⟩ := Computation.bind_eq_ok afterDescriptors
  obtain ⟨updates, _, same⟩ := Computation.bind_eq_ok afterEntries
  cases same
  exact holds_of_readEach (fun _ _ _ read => regular_of_readDescriptor regular read) described

/-- An artifact is found again under its name in the directory itself, so that its path comes back
just if nothing lies between the two. -/
theorem rewritten_artifact_kept_iff (document : Value) (place : String) (plan : Plan)
    (given : ofValue document (Path.ofString place) = .ok plan) :
    ∃ again, ofValue plan.toValue (Path.ofString place) = .ok again ∧
      List.Forall₂ (fun descriptor rewritten =>
          rewritten.bytecode = (Path.ofString place).child descriptor.bytecode.name ∧
            (rewritten.bytecode = descriptor.bytecode ↔
              descriptor.bytecode.parent = Path.ofString place))
        plan.descriptors again.descriptors := by
  refine ⟨_, ofValue_toValue given, ?_⟩
  have regular := regular_of_ofValue (Path.regular_ofString place) given
  rw [List.forall₂_map_right_iff, List.forall₂_same]
  intro descriptor member
  exact ⟨rfl, Path.child_name_eq_iff (regular descriptor member)⟩

/-- A document whose artifact lies below the directory. -/
def nestedDocument : Value :=
  .object [("contracts", .list [.object
    [("name", .text "hub"), ("wasm", .text "sub/hub.wasm"), ("init_msg", .object [])]])]

/-- What the document is read as. -/
def nestedPlan : Plan :=
  ⟨[⟨.text "hub", ⟨"", ["artifacts", "sub", "hub.wasm"]⟩, .object [], .null, .null, .null⟩], []⟩

private theorem ofString_artifacts : Path.ofString "artifacts" = artifactDirectory :=
  Path.ofString_of_proper ⟨by decide, by decide, by decide⟩

private theorem ofValue_nestedDocument :
    ofValue nestedDocument (Path.ofString "artifacts") = .ok nestedPlan := by
  have nested : artifactDirectory.child "sub/hub.wasm" =
      ⟨"", ["artifacts", "sub", "hub.wasm"]⟩ := by
    simp only [Path.child, Path.ofString, Path.splitParts, Path.splitOn_slash]
    decide +kernel
  have read : ofValue nestedDocument artifactDirectory = .ok
      ⟨[⟨.text "hub", artifactDirectory.child "sub/hub.wasm", .object [], .null, .null, .null⟩],
        []⟩ := rfl
  rw [ofString_artifacts, read, nested]
  rfl

theorem nestedPlan_rewritten :
    ∃ again, ofValue nestedPlan.toValue (Path.ofString "artifacts") = .ok again ∧
      List.Forall₂ (fun descriptor rewritten =>
          rewritten.bytecode = (Path.ofString "artifacts").child descriptor.bytecode.name ∧
            (rewritten.bytecode = descriptor.bytecode ↔
              descriptor.bytecode.parent = Path.ofString "artifacts"))
        nestedPlan.descriptors again.descriptors :=
  rewritten_artifact_kept_iff nestedDocument "artifacts" nestedPlan ofValue_nestedDocument

/-- The directory between is lost: another file is named by the plan that is read again. -/
theorem nested_artifact_moved :
    ofValue nestedDocument (Path.ofString "artifacts") = .ok nestedPlan ∧
      ∃ again, ofValue nestedPlan.toValue (Path.ofString "artifacts") = .ok again ∧
        again.descriptors.map (·.bytecode) = [⟨"", ["artifacts", "hub.wasm"]⟩] ∧
        nestedPlan.descriptors.map (·.bytecode) = [⟨"", ["artifacts", "sub", "hub.wasm"]⟩] := by
  have moved : artifactDirectory.child "hub.wasm" = ⟨"", ["artifacts", "hub.wasm"]⟩ :=
    Path.child_of_proper _ ⟨by decide, by decide, by decide⟩
  refine ⟨ofValue_nestedDocument, _, ofValue_toValue ofValue_nestedDocument, ?_, rfl⟩
  rw [ofString_artifacts]
  exact congrArg (fun bytecode => [bytecode]) moved

end Rollout.Plan
