import Rollout.Plan.Standard
import Rollout.Proofs.Deployment.Success
import Rollout.Proofs.Path
import Rollout.Proofs.Wire.Units

/-!
# The standard deployment

The standard plan can be made of all parameters that the contracts can hold. Its order is right, and
a client that refuses nothing completes it, whatever part of it was there before. The updates then
put the address of staking in the place of the placeholder, and tell staking of its token.
-/

set_option autoImplicit false

namespace Rollout

open Rollout.Chain Rollout.Number Rollout.Wire

/-- An integer from zero up to a limit. -/
def Value.UpTo (limit : Nat) (value : Value) : Prop :=
  ∃ number : Nat, value = .int number ∧ number ≤ limit

/-- A decimal without a sign that is a whole number of units of at most 128 bits. How many zeros it
may end in is limited by memory alone. -/
def Wire.Quantity.Payable (memory : Memory) (quantity : Quantity) : Prop :=
  ∃ (coefficient units : Nat) (exponent : Int),
    quantity = .decimal (.finite false coefficient exponent) ∧
      Decimal.magnitude coefficient exponent * 10 ^ places = units ∧ units ≤ maxUint128 ∧
      -(memory.places : Int) ≤ exponent

/-- Null, or an address of the network. -/
def Value.OptionalAddress (value : Value) : Prop :=
  value = .null ∨ ∃ text, value = .text text ∧ isAddress accountPart text = true

/-- Parameters that the contracts can hold. -/
structure StakingParameters.Proper (memory : Memory) (parameters : StakingParameters) : Prop where
  minDeposit : parameters.minDeposit.UpTo maxUint128
  maxDeposit : parameters.maxDeposit.UpTo maxUint128
  rewardFee : parameters.rewardFee.Payable memory
  depositFee : parameters.depositFee.Payable memory
  withdrawFee : parameters.withdrawFee.Payable memory
  unbondingPeriod : parameters.unbondingPeriod.UpTo maxUint64
  undelegationCooldown : parameters.undelegationCooldown.UpTo maxUint64
  feeContract : parameters.feeContract.OptionalAddress
  withdrawalContract : parameters.withdrawalContract.OptionalAddress
  rewardDenom : ∃ text, parameters.rewardDenom = .text text
  tokenName : ∃ text, parameters.tokenName = .text text
  tokenSymbol : ∃ text, parameters.tokenSymbol = .text text
  tokenDecimals : parameters.tokenDecimals.UpTo 255

namespace Schema

variable {account : String} {records : List Record} {stand : Option String} {value : Value}

private theorem Suits.integer {kind : Kind} (word : kind ∈ [Kind.u8, .u32, .u64])
    (fits : value.UpTo kind.limit) :
    Suits account records stand (.leaf kind) (.ofValue value) := by
  obtain ⟨number, rfl, bounded⟩ := fits
  refine .of_check ?_
  simp only [List.mem_cons, List.not_mem_nil, or_false] at word
  rcases word with rfl | rfl | rfl <;> simp [Kind.check, bounded]

private theorem Suits.text (given : ∃ text, value = .text text) :
    Suits account records stand (.leaf .text) (.ofValue value) := by
  obtain ⟨text, rfl⟩ := given
  exact .of_check rfl

private theorem Suits.orPlaceholder {address : String} (given : value.OptionalAddress)
    (placed : isAddress accountPart address = true) :
    Suits accountPart records (some address) (.leaf .address) (Plan.orPlaceholder value) := by
  rcases given with rfl | ⟨text, rfl, formed⟩
  · exact .placeholder placed
  · unfold Plan.orPlaceholder
    split
    · exact .of_check (check_address formed)
    · exact .placeholder placed

end Schema

namespace Plan

open Rollout.Schema

variable {memory : Memory} {parameters : StakingParameters}

@[simp] theorem references_orPlaceholder (value : Value) :
    (orPlaceholder value).references = [] := by
  unfold orPlaceholder
  split
  · exact Template.references_ofValue value
  · rfl

private theorem encodeUint128_of_upTo {value : Value} (fits : value.UpTo maxUint128) :
    ∃ text, encodeUint128 value = .ok text ∧
      ∀ account, Kind.uint128.check account (.text text) = .ok none := by
  obtain ⟨number, rfl, bounded⟩ := fits
  exact encodeUint128_of_natural bounded

private theorem encodeDecimal_of_payable {quantity : Quantity} (payable : quantity.Payable memory) :
    ∃ text, encodeDecimal memory quantity = .ok text ∧
      ∀ account, Kind.decimal.check account (.text text) = .ok none := by
  obtain ⟨coefficient, units, exponent, rfl, whole, bounded, written⟩ := payable
  exact encodeDecimal_of_units whole bounded written

/-- What the message of staking refers to, in order. -/
def stakingReferences : List Reference :=
  [⟨rewardName, .address⟩, ⟨airdropsRegistryName, .address⟩]

/-- The message of staking can be made, and suits its schema once its references are recorded. -/
theorem stakingFields_suit (proper : parameters.Proper memory) :
    ∃ fields, stakingFields memory parameters = .ok fields ∧
      Template.fieldReferences fields = stakingReferences ∧
      ∀ (address : String) (registry : Registry), isAddress accountPart address = true →
        registry.Addressed accountPart →
        (∀ reference ∈ stakingReferences, registry.contains (.text reference.name) = true) →
        Suits accountPart registry.records (some address) staking.instantiate (.object fields) := by
  obtain ⟨minDeposit, minEncoded, minAccepted⟩ := encodeUint128_of_upTo proper.minDeposit
  obtain ⟨maxDeposit, maxEncoded, maxAccepted⟩ := encodeUint128_of_upTo proper.maxDeposit
  obtain ⟨rewardFee, rewardEncoded, rewardAccepted⟩ := encodeDecimal_of_payable proper.rewardFee
  obtain ⟨depositFee, depositEncoded, depositAccepted⟩ := encodeDecimal_of_payable proper.depositFee
  obtain ⟨withdrawFee, withdrawEncoded, withdrawAccepted⟩ :=
    encodeDecimal_of_payable proper.withdrawFee
  simp only [stakingFields, minEncoded, maxEncoded, rewardEncoded, depositEncoded,
    withdrawEncoded, Except.mapError, bind, Except.bind, pure, Except.pure]
  refine ⟨_, rfl, ?_, ?_⟩
  · simp [Template.fieldReferences, Template.references, addressOf, stakingReferences]
  · intro address registry placed addressed recorded
    have reward := recorded ⟨rewardName, .address⟩ (by decide)
    have registrar := recorded ⟨airdropsRegistryName, .address⟩ (by decide)
    refine .struct [] (List.Sublist.refl []) (by decide) ?_
    refine .cons ⟨rfl, .of_check (minAccepted _)⟩ ?_
    refine .cons ⟨rfl, .of_check (maxAccepted _)⟩ ?_
    refine .cons ⟨rfl, .address addressed reward⟩ ?_
    refine .cons ⟨rfl, .address addressed registrar⟩ ?_
    refine .cons ⟨rfl, .orPlaceholder proper.withdrawalContract placed⟩ ?_
    refine .cons ⟨rfl, .orPlaceholder proper.feeContract placed⟩ ?_
    refine .cons ⟨rfl, .of_check (rewardAccepted _)⟩ ?_
    refine .cons ⟨rfl, .of_check (depositAccepted _)⟩ ?_
    refine .cons ⟨rfl, .of_check (withdrawAccepted _)⟩ ?_
    refine .cons ⟨rfl, .integer (by decide) proper.unbondingPeriod⟩ ?_
    exact .cons ⟨rfl, .integer (by decide) proper.undelegationCooldown⟩ .nil

/-- A contract can be deployed if its message suits its schema wherever those before it are
recorded. -/
theorem deployable_of_suits {artifacts : Path} {name : String} {before : List Descriptor}
    {fields : List (String × Template)} {schema : ContractSchema}
    (known : (standardCatalog accountPart).find? (.text name) = some schema)
    (references : ∀ reference ∈ Template.fieldReferences fields,
      ∃ earlier ∈ before, earlier.name = .text reference.name)
    (suits : ∀ (address : String) (registry : Registry), isAddress accountPart address = true →
      registry.Addressed accountPart →
      (∀ reference ∈ Template.fieldReferences fields,
        registry.contains (.text reference.name) = true) →
      Suits accountPart registry.records (some address) schema.instantiate (.object fields)) :
    Deployment.Deployable (standardCatalog accountPart) before
      (standardDescriptor artifacts name fields) where
  references reference member := by
    obtain ⟨earlier, among, same⟩ := references reference member
    exact ⟨earlier, among, Scalar.key_eq_text_iff.mpr same⟩
  message address registry placed addressed recorded := by
    have present : ∀ reference ∈ Template.fieldReferences fields,
        registry.contains (.text reference.name) = true := by
      intro reference member
      obtain ⟨earlier, among, same⟩ := references reference member
      rw [← same]
      exact recorded earlier among
    obtain ⟨message, fills, conforms⟩ := suits address registry placed addressed present
    refine ⟨message, fills, Catalog.validate_eq_ok_iff_conforms.mpr ?_⟩
    intro found declared
    cases known.symm.trans declared
    exact conforms
  coins := rfl

/-- The contracts of the standard plan, of which each can be deployed behind those before it. -/
theorem standardDescriptors_sequence (proper : parameters.Proper memory) (artifacts : Path) :
    ∃ descriptors, standardDescriptors memory parameters artifacts = .ok descriptors ∧
      descriptors.map (fun descriptor => (descriptor.name, descriptor.bytecode)) =
        standardArtifacts.map (fun file => (.text file.1, artifacts.child file.2)) ∧
      Deployment.Sequence (standardCatalog accountPart) [] descriptors := by
  obtain ⟨fields, made, refers, stakingSuits⟩ := stakingFields_suit proper
  simp only [standardDescriptors, made, bind, Except.bind, pure, Except.pure]
  refine ⟨_, rfl, rfl, ?_⟩
  -- the registry of airdrops, reward, staking and the token, each with what it refers to first
  refine .cons (deployable_of_suits rfl ?_ ?_) (.cons (deployable_of_suits rfl ?_ ?_)
    (.cons (deployable_of_suits rfl ?_ ?_) (.cons (deployable_of_suits rfl ?_ ?_) .nil)))
  · simp [Template.fieldReferences]
  · intro _ _ _ _ _
    exact .struct [] (List.Sublist.refl []) (by decide) .nil
  · simp [Template.fieldReferences, Template.references]
  · intro address registry placed _ _
    refine .struct [] (List.Sublist.refl []) (by decide) ?_
    exact .cons ⟨rfl, .text proper.rewardDenom⟩ (.cons ⟨rfl, .placeholder placed⟩ .nil)
  · simp [refers, stakingReferences, standardDescriptor]
  · intro address registry placed addressed recorded
    rw [refers] at recorded
    exact stakingSuits address registry placed addressed recorded
  · simp [Template.fieldReferences, Template.references, Template.itemReferences, addressOf,
      standardDescriptor]
  · intro _ registry _ addressed recorded
    have minter : registry.contains (.text stakingName) = true :=
      recorded ⟨stakingName, .address⟩ (by simp [Template.fieldReferences, Template.references,
        addressOf])
    refine .struct _ (List.Sublist.refl _) (by decide) ?_
    refine .cons ⟨rfl, .text proper.tokenName⟩ ?_
    refine .cons ⟨rfl, .text proper.tokenSymbol⟩ ?_
    refine .cons ⟨rfl, .integer (by decide) proper.tokenDecimals⟩ ?_
    refine .cons ⟨rfl, .list (by simp)⟩ ?_
    refine .cons ⟨rfl, ?_⟩ .nil
    refine .struct [] (List.nil_sublist _) (by decide) ?_
    exact .cons ⟨rfl, .address addressed minter⟩ .nil

private theorem standardParameters_proper (memory : Memory) : StakingParameters.standard.Proper memory := by
  have enough : (18 : Int) ≤ memory.places := Int.ofNat_le.mpr memory.enough
  constructor
  case minDeposit => exact ⟨10000, rfl, by decide⟩
  case maxDeposit => exact ⟨15000000, rfl, by decide⟩
  case rewardFee =>
    refine ⟨1, 10 ^ 16, -2, rfl, ?_, by decide, by omega⟩
    norm_num [Decimal.magnitude, places]
  case depositFee =>
    refine ⟨0, 0, 0, rfl, ?_, by decide, by omega⟩
    norm_num [Decimal.magnitude, places]
  case withdrawFee =>
    refine ⟨0, 0, 0, rfl, ?_, by decide, by omega⟩
    norm_num [Decimal.magnitude, places]
  case unbondingPeriod => exact ⟨1818000, rfl, by decide⟩
  case undelegationCooldown => exact ⟨259200, rfl, by decide⟩
  case feeContract => exact .inl rfl
  case withdrawalContract => exact .inl rfl
  case rewardDenom => exact ⟨_, rfl⟩
  case tokenName => exact ⟨_, rfl⟩
  case tokenSymbol => exact ⟨_, rfl⟩
  case tokenDecimals => exact ⟨6, rfl, by decide⟩

theorem standard_isOk (memory : Memory) (artifacts : Path) :
    ∃ plan, standard memory .standard artifacts = .ok plan := by
  obtain ⟨descriptors, made, _⟩ :=
    standardDescriptors_sequence (standardParameters_proper memory) artifacts
  refine ⟨⟨descriptors, standardUpdates⟩, ?_⟩
  rw [standard, made]
  rfl

section

variable {registry : Registry} {reward staking token : Record}

private theorem ready_of_fills {name variant : String} {record : Record} {template : Template}
    {body : Value} {schema : ContractSchema} {type : FieldType}
    (known : (standardCatalog accountPart).find? (.text name) = some schema)
    (declared : schema.execute.lookup variant = some type)
    (found : registry.find? (.text name) = some record)
    (fills : Template.Fills registry.records none template body)
    (conforms : type.Conforms accountPart body) :
    Deployment.Ready (standardCatalog accountPart) registry
      ⟨.text name, .object [(variant, template)], .null⟩ record (.object [(variant, body)]) where
  target := ⟨.text name, rfl, Registry.find?_eq_some_iff.mp found⟩
  filled := .object (.cons fills .nil)
  conforms := by
    refine ⟨.text name, rfl, fun other again => ?_⟩
    cases known.symm.trans again
    exact ⟨variant, body, type, rfl, declared, conforms⟩

/-- The message that tells reward where staking is. -/
def stakingContractMessage (staking : Value) : Value :=
  .object [("update_config", .object [("staking_contract", staking)])]

/-- The message that tells staking where its token is. -/
def tokenContractMessage (token : Value) : Value :=
  .object [("update_config", .object [("config_request", .object [("cw20_token_contract", token)])])]

private theorem fills_addressOf {name : String} {record : Record}
    (found : registry.find? (.text name) = some record) :
    Template.Fills registry.records none (addressOf name) record.address := by
  obtain ⟨member, same⟩ := Registry.find?_eq_some_iff.mp found
  exact .reference member (Scalar.key_eq_text_iff.mp same)

private theorem standardUpdates_ready (addressed : registry.Addressed accountPart)
    (rewardFound : registry.find? (.text rewardName) = some reward)
    (stakingFound : registry.find? (.text stakingName) = some staking)
    (tokenFound : registry.find? (.text tokenName) = some token) :
    List.Forall₂
      (fun update each =>
        Deployment.Ready (standardCatalog accountPart) registry update each.1 each.2)
      standardUpdates
      [(reward, stakingContractMessage staking.address),
        (staking, tokenContractMessage token.address)] := by
  have stakingPlaced := addressed staking (Registry.find?_eq_some_iff.mp stakingFound).1
  have tokenPlaced := addressed token (Registry.find?_eq_some_iff.mp tokenFound).1
  have change : stakingChanges.Conforms accountPart
      (.object [("cw20_token_contract", token.address)]) := by
    refine FieldType.conforms_struct [("cw20_token_contract", .leaf .address)]
      (.cons ⟨rfl, tokenPlaced⟩ .nil) ?_ (by decide)
    simp
  refine .cons ?_ (.cons ?_ .nil)
  · refine ready_of_fills rfl rfl rewardFound
      (.object (.cons (fills_addressOf stakingFound) .nil)) ?_
    exact FieldType.conforms_struct [("staking_contract", .leaf .address)]
      (.cons ⟨rfl, stakingPlaced⟩ .nil) (List.Sublist.refl _) (by decide)
  · refine ready_of_fills rfl rfl stakingFound
      (.object (.cons (.object (.cons (fills_addressOf tokenFound) .nil)) .nil)) ?_
    exact FieldType.conforms_struct [] (.cons ⟨rfl, change⟩ .nil) (List.Sublist.refl _) (by decide)

end

/-- The standard deployment wires itself. Parameters that the contracts can hold make a plan that is
in order, whatever is recorded. A client that refuses nothing completes it from any part of it, and
the updates that follow are two: reward is told where staking was recorded, and staking where its
token was. -/
theorem standard_wires_itself {memory : Memory} {parameters : StakingParameters}
    (proper : parameters.Proper memory) (artifacts : Path) :
    ∃ plan, standard memory parameters artifacts = .ok plan ∧
      plan.descriptors.map (fun descriptor => (descriptor.name, descriptor.bytecode)) =
        standardArtifacts.map (fun file => (.text file.1, artifacts.child file.2)) ∧
      (∀ recorded, checkOrder plan.descriptors recorded = .ok ()) ∧
      ∀ (σ : Type) (client : Client σ) (path : Option Path) (registry : Registry)
        (session : Session σ),
        Deployment.Obliging accountPart client → registry.Addressed accountPart →
        Deployment.Serves path plan.descriptors session.files →
        Deployment.Keepable client path registry →
        ∃ final after,
          (Deployment.run client (standardCatalog accountPart) path registry
              plan.descriptors).run session = ((final, .ok ()), after) ∧
            registry.records <+: final.records ∧
            ∃ registrar reward staking token,
              final.find? (.text airdropsRegistryName) = some registrar ∧
              final.find? (.text rewardName) = some reward ∧
              final.find? (.text stakingName) = some staking ∧
              final.find? (.text tokenName) = some token ∧
              ∀ later : Session σ, ∃ results,
                Action.Conducts client
                    (Deployment.configure client (standardCatalog accountPart) final plan.updates)
                    later
                    [[.execute client.address reward.address
                        (stakingContractMessage staking.address)],
                      [.execute client.address staking.address
                        (tokenContractMessage token.address)]]
                    (.ok results) ∧
                  Deployment.requireSuccess results = .ok () := by
  obtain ⟨descriptors, made, files, sequence⟩ := standardDescriptors_sequence proper artifacts
  have names : descriptors.map (·.name) = standardArtifacts.map fun file => .text file.1 := by
    have firsts := congrArg (List.map (·.1)) files
    rwa [List.map_map, List.map_map] at firsts
  have distinct : (descriptors.map (·.name.key)).Nodup := by
    have keys : descriptors.map (·.name.key) = (descriptors.map (·.name)).map Scalar.key := by
      rw [List.map_map]
      rfl
    rw [keys, names]
    decide
  refine ⟨⟨descriptors, standardUpdates⟩, ?_, files, ?_, ?_⟩
  · rw [standard, made]
    rfl
  · intro recorded
    exact sequence.checkFrom fun _ absurdly => absurd absurdly List.not_mem_nil
  · intro σ client path registry session obliging addressed serves keepable
    obtain ⟨final, after, completed, kept, placed, recorded⟩ :=
      Deployment.run_succeeds obliging sequence distinct session addressed serves keepable
    have found : ∀ name ∈ standardArtifacts.map (·.1), ∃ record,
        final.find? (.text name) = some record := by
      intro name member
      obtain ⟨file, among, rfl⟩ := List.mem_map.mp member
      have named : Scalar.text file.1 ∈ descriptors.map (·.name) := by
        rw [names]
        exact List.mem_map_of_mem among
      obtain ⟨descriptor, present, same⟩ := List.mem_map.mp named
      exact Option.isSome_iff_exists.mp (same ▸ recorded descriptor present)
    obtain ⟨registrar, registrarFound⟩ := found airdropsRegistryName (by decide)
    obtain ⟨reward, rewardFound⟩ := found rewardName (by decide)
    obtain ⟨staking, stakingFound⟩ := found stakingName (by decide)
    obtain ⟨token, tokenFound⟩ := found tokenName (by decide)
    refine ⟨final, after, completed, kept, registrar, reward, staking, token, registrarFound,
      rewardFound, stakingFound, tokenFound, fun later => ?_⟩
    have ready := standardUpdates_ready placed rewardFound stakingFound tokenFound
    refine Deployment.configure_succeeds obliging ?_ ready later
    simp [standardUpdates]

def deployerAddress : String := "terra1x46rqay4d3cssq8gxxvqz8xt6nwlz4td20k38v"

def tokenAddress : String := "terra1khmttxmtsmt0983ggwcufalxkn07l4yj5thu3h"

/-- The largest of everything. One fee has 39 digits, and another ends in a zero behind the places
that a contract can hold. -/
def largestParameters : StakingParameters where
  minDeposit := .int 0
  maxDeposit := .int 340282366920938463463374607431768211455
  rewardFee := .decimal (.finite false 340282366920938463463374607431768211455 (-18))
  depositFee := .decimal (.finite false 0 0)
  withdrawFee := .decimal (.finite false 10 (-19))
  unbondingPeriod := .int 18446744073709551615
  undelegationCooldown := .int 0
  feeContract := .null
  withdrawalContract := .text deployerAddress
  rewardDenom := .text ""
  tokenName := .text "Token"
  tokenSymbol := .text "TOKEN"
  tokenDecimals := .int 255

/-- Refuses nothing, and gives every contract the same address. -/
def yielding : Client Unit where
  address := deployerAddress
  readCoins := Coins.ofValue
  broadcast _ _ :=
    (.ok { Outcome.plain false with codeId := .int 7, contractAddress := .text deployerAddress }, ())

def tokenRecorded : Registry :=
  ⟨.null, [⟨.text tokenName, .int 3, .text tokenAddress⟩], List.nodup_singleton _⟩

def artifactFiles : Files :=
  ⟨⟨"/", []⟩, (⟨"/", ["artifacts"]⟩, .directory) ::
    standardArtifacts.map fun file => (⟨"/", ["artifacts", file.2]⟩, .octets [0])⟩

private theorem largestParameters_proper : largestParameters.Proper .usual where
  minDeposit := ⟨0, rfl, by decide⟩
  maxDeposit := ⟨340282366920938463463374607431768211455, rfl, by decide⟩
  rewardFee := by
    refine ⟨_, 340282366920938463463374607431768211455, _, rfl, ?_, by decide, by decide⟩
    norm_num [Decimal.magnitude, places]
  depositFee := by
    refine ⟨_, 0, _, rfl, ?_, by decide, by decide⟩
    norm_num [Decimal.magnitude, places]
  withdrawFee := by
    refine ⟨_, 1, _, rfl, ?_, by decide, by decide⟩
    norm_num [Decimal.magnitude, places]
  unbondingPeriod := ⟨18446744073709551615, rfl, by decide⟩
  undelegationCooldown := ⟨0, rfl, by decide⟩
  feeContract := .inl rfl
  withdrawalContract := .inr ⟨deployerAddress, rfl, by decide⟩
  rewardDenom := ⟨_, rfl⟩
  tokenName := ⟨_, rfl⟩
  tokenSymbol := ⟨_, rfl⟩
  tokenDecimals := ⟨255, rfl, by decide⟩

private theorem yielding_obliging : Deployment.Obliging accountPart yielding where
  address := by decide
  coins := ⟨[], rfl⟩
  succeeds _ _ := ⟨_, rfl, rfl⟩
  numbers := by
    rintro _ _ _ _ ⟨⟩
    exact ⟨7, rfl⟩
  places := by
    rintro _ _ _ _ _ _ _ ⟨⟩
    exact check_address (by decide)

private theorem tokenRecorded_addressed : tokenRecorded.Addressed accountPart := by
  intro record member
  obtain rfl := List.mem_singleton.mp member
  exact check_address (by decide)

private theorem tokenRecorded_keepable (path : Option Path) :
    Deployment.Keepable yielding path tokenRecorded := by
  refine .inr ⟨⟨trivial, fun record member => ?_⟩, ?_⟩
  · obtain rfl := List.mem_singleton.mp member
    exact ⟨Number.oneDigit_bounded (by decide), trivial⟩
  · rintro _ _ _ _ ⟨⟩
    exact Number.oneDigit_bounded (by decide)

private theorem artifact_found : ∀ file ∈ standardArtifacts,
    artifactFiles.locate (Path.child ⟨"", ["artifacts"]⟩ file.2) =
        .ok ⟨"/", ["artifacts", file.2]⟩ ∧
      artifactFiles.node? ⟨"/", ["artifacts", file.2]⟩ = some (.octets [0]) := by
  have named : ∀ file ∈ standardArtifacts, '/' ∉ file.2.toList ∧ file.2 ≠ "" ∧ file.2 ≠ "." := by
    decide
  intro file member
  obtain ⟨slash, filled, moves⟩ := named file member
  rw [Path.child_of_proper _ ⟨slash, filled, moves⟩]
  revert file
  decide

private theorem artifactFiles_serve {descriptors : List Descriptor}
    (files : descriptors.map (fun descriptor => (descriptor.name, descriptor.bytecode)) =
      standardArtifacts.map fun file => (.text file.1, Path.child ⟨"", ["artifacts"]⟩ file.2)) :
    Deployment.Serves (some ⟨"", ["registry.json"]⟩) descriptors artifactFiles := by
  have placed : ∀ descriptor ∈ descriptors, ∃ file ∈ standardArtifacts,
      descriptor.bytecode = Path.child ⟨"", ["artifacts"]⟩ file.2 := by
    intro descriptor member
    have among : (descriptor.name, descriptor.bytecode) ∈
        descriptors.map fun descriptor => (descriptor.name, descriptor.bytecode) :=
      List.mem_map.mpr ⟨descriptor, member, rfl⟩
    rw [files] at among
    obtain ⟨file, known, same⟩ := List.mem_map.mp among
    exact ⟨file, known, (congrArg Prod.snd same).symm⟩
  have apart : Files.Apart artifactFiles ⟨"", ["registry.json"]⟩ ⟨"/", ["registry.json"]⟩
      (descriptors.map (·.bytecode)) := by
    refine ⟨rfl, rfl, by decide, ?_⟩
    intro other member
    obtain ⟨descriptor, among, rfl⟩ := List.mem_map.mp member
    obtain ⟨file, known, same⟩ := placed descriptor among
    exact ⟨_, same ▸ (artifact_found file known).1, by simp⟩
  refine Deployment.serves_of_apart apart ?_
  intro descriptor member
  obtain ⟨file, known, same⟩ := placed descriptor member
  have found := Files.find_eq_ok_iff.mpr ⟨_, artifact_found file known⟩
  refine ⟨[0], ?_⟩
  rw [Deployment.readBytecode, same, found]

/-- A run with the largest parameters that keeps its registry in a file. It is begun where only the
token is recorded, and this is the token that staking is told of. -/
theorem largestParameters_wired :
    largestParameters.Proper .usual ∧ Deployment.Obliging accountPart yielding ∧
      tokenRecorded.Addressed accountPart ∧
      Deployment.Keepable yielding (some ⟨"", ["registry.json"]⟩) tokenRecorded ∧
      ∃ plan, standard .usual largestParameters ⟨"", ["artifacts"]⟩ = .ok plan ∧
        Deployment.Serves (some ⟨"", ["registry.json"]⟩) plan.descriptors artifactFiles ∧
        checkOrder plan.descriptors tokenRecorded.names = .ok () ∧
        ∃ final after,
          (Deployment.run yielding (standardCatalog accountPart) (some ⟨"", ["registry.json"]⟩)
              tokenRecorded plan.descriptors).run (.start () artifactFiles "") =
            ((final, .ok ()), after) ∧
          ∃ reward staking results,
            Action.Conducts yielding
              (Deployment.configure yielding (standardCatalog accountPart) final plan.updates) after
              [[.execute deployerAddress reward (stakingContractMessage staking)],
                [.execute deployerAddress staking (tokenContractMessage (.text tokenAddress))]]
              (.ok results) ∧
            Deployment.requireSuccess results = .ok () := by
  obtain ⟨plan, made, files, ordered, wired⟩ :=
    standard_wires_itself largestParameters_proper ⟨"", ["artifacts"]⟩
  have serves := artifactFiles_serve files
  obtain ⟨final, after, completed, kept, _, reward, staking, token, _, _, _, found, configured⟩ :=
    wired Unit yielding (some ⟨"", ["registry.json"]⟩) tokenRecorded (.start () artifactFiles "")
      yielding_obliging tokenRecorded_addressed serves (tokenRecorded_keepable _)
  have known := Registry.find?_eq_some_iff.mpr ⟨kept.subset (List.mem_singleton.mpr rfl), rfl⟩
  obtain rfl := Option.some.inj (found.symm.trans known)
  obtain ⟨results, conducts, succeeded⟩ := configured after
  exact ⟨largestParameters_proper, yielding_obliging, tokenRecorded_addressed,
    tokenRecorded_keepable _, plan, made, serves, ordered _, final, after, completed,
    reward.address, staking.address, results, conducts, succeeded⟩

end Plan

end Rollout
