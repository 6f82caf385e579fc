import Rollout.Proofs.Deployment.Course
import Rollout.Proofs.Registry.Saving
import Rollout.Proofs.Wire.Address

/-!
# Building registries

What deploying contracts one after another makes of a registry. The answers of the client decide
everything: where they are the same, the same transactions are sent and the same records made.
-/

set_option autoImplicit false

namespace Rollout.Chain.Exchange

/-- Whether a transaction was answered by a success. -/
def succeeded (exchange : Exchange) : Bool :=
  match exchange.answer with
  | .ok outcome => !outcome.isError
  | .error _ => false

/-- Whether a transaction was answered by an address of the network. -/
def assigned (account : String) (exchange : Exchange) : Bool :=
  match exchange.answer with
  | .ok outcome =>
      match Schema.Kind.address.check account outcome.contractAddress with
      | .ok none => true
      | _ => false
  | .error _ => false

end Rollout.Chain.Exchange

namespace Rollout.Deployment

open Rollout.Chain

variable {σ : Type}

/-- A registry is built from another by deployments in order, every contract with its references
resolved against those before it and with its code from the artifacts. -/
inductive Builds (signer : Signer) (catalog : Schema.Catalog) (artifacts : Files) :
    Registry → List Descriptor → List Exchange → Registry → Prop where
  | done {registry : Registry} : Builds signer catalog artifacts registry [] [] registry
  | deploy {registry extended final : Registry} {descriptor : Descriptor}
      {rest : List Descriptor} {first others : List Exchange} {record : Record} :
      registry.contains descriptor.name = false →
      Attempt signer catalog registry artifacts descriptor first (.ok record) →
      extended.records = registry.records ++ [record] → extended.chainId = registry.chainId →
      Builds signer catalog artifacts extended rest others final →
      Builds signer catalog artifacts registry (descriptor :: rest) (first ++ others) final

/-- The exchanges that records were made of, one after another. -/
inductive Recorded (account : String) : List Record → List Exchange → Prop where
  | nil : Recorded account [] []
  | cons {record : Record} {records : List Record} {first others : List Exchange} :
      Traffic account record.name first (some record) → Recorded account records others →
      Recorded account (record :: records) (first ++ others)

/-- The exchanges of a run that records were made of: a store and an instantiation that both
succeeded, pair by pair up to the first that did not. -/
def landed (account : String) : List Exchange → List Exchange
  | stored :: instantiated :: rest =>
      if stored.succeeded && instantiated.succeeded && instantiated.assigned account then
        stored :: instantiated :: landed account rest
      else []
  | _ => []

/-- Whatever code was stored has an integer for its code id, with no more digits than a numeral may
have. -/
def Numbered (exchanges : List Exchange) : Prop :=
  ∀ sender code outcome, ⟨[.store sender code], .ok outcome⟩ ∈ exchanges →
    outcome.isError = false →
    ∃ number : Int, outcome.codeId = .int number ∧ number.natAbs < 10 ^ Number.digitLimit

private theorem assigned_eq_false {account : String} {transaction : Transaction} {outcome : Outcome}
    (unassigned : ¬ assigns account outcome) :
    Exchange.assigned account ⟨transaction, .ok outcome⟩ = false := by
  unfold Exchange.assigned
  dsimp only
  split
  · next assigned => exact absurd assigned unassigned
  · rfl

section

variable {signer : Signer} {catalog : Schema.Catalog} {artifacts files : Files}
  {registry extended middle final : Registry} {descriptor : Descriptor}
  {exchanges others : List Exchange} {record : Record}

/-- An attempt depends on the registry and the files by what they settle for the contract. -/
theorem Attempt.congr {other : Registry} {answer : Except Fault Record}
    (attempt : Attempt signer catalog registry files descriptor exchanges answer)
    (same : ready signer.address catalog registry files descriptor =
      ready signer.address catalog other artifacts descriptor) :
    Attempt signer catalog other artifacts descriptor exchanges answer := by
  cases attempt with
  | unready unsettled => exact .unready (same ▸ unsettled)
  | storeLost found => exact .storeLost (same ▸ found)
  | storeRejected found rejected => exact .storeRejected (same ▸ found) rejected
  | unbuilt found kept unbuilt => exact .unbuilt (same ▸ found) kept unbuilt
  | instantiateLost found kept built => exact .instantiateLost (same ▸ found) kept built
  | instantiateRejected found kept built rejected =>
      exact .instantiateRejected (same ▸ found) kept built rejected
  | addressless found kept built accepted refused =>
      exact .addressless (same ▸ found) kept built accepted refused
  | deployed found kept built accepted assigned =>
      exact .deployed (same ▸ found) kept built accepted assigned

theorem Attempt.of_files {answer : Except Fault Record}
    (attempt : Attempt signer catalog registry files descriptor exchanges answer)
    (same : readBytecode files descriptor = readBytecode artifacts descriptor) :
    Attempt signer catalog registry artifacts descriptor exchanges answer :=
  attempt.congr (by rw [ready, ready, same])

theorem Attempt.landed_append
    (attempt : Attempt signer catalog registry files descriptor exchanges (.ok record))
    (others : List Exchange) :
    landed catalog.account (exchanges ++ others) = exchanges ++ landed catalog.account others := by
  cases attempt with
  | deployed _ kept _ accepted assigned =>
      rw [assigns] at assigned
      simp [landed, Exchange.succeeded, Exchange.assigned, kept, accepted, assigned]

theorem Attempt.landed_error {fault : Fault}
    (attempt : Attempt signer catalog registry files descriptor exchanges (.error fault)) :
    landed catalog.account exchanges = [] := by
  cases attempt with
  | unready => rfl
  | storeLost => rfl
  | storeRejected => rfl
  | unbuilt => rfl
  | instantiateLost => simp [landed, Exchange.succeeded]
  | instantiateRejected _ _ _ rejected => simp [landed, Exchange.succeeded, rejected]
  | addressless _ _ _ _ refused =>
      simp [landed, assigned_eq_false (not_assigns_of_error refused)]

theorem mem_of_mem_landed {account : String} {exchange : Exchange} :
    ∀ {exchanges : List Exchange}, exchange ∈ landed account exchanges → exchange ∈ exchanges
  | [], member => absurd member List.not_mem_nil
  | [_], member => absurd member List.not_mem_nil
  | first :: second :: rest, member => by
      rw [landed] at member
      split at member
      · simp only [List.mem_cons] at member ⊢
        obtain here | here | later := member
        · exact .inl here
        · exact .inr (.inl here)
        · exact .inr (.inr (mem_of_mem_landed later))
      · cases member

theorem Builds.trans {done todo : List Descriptor}
    (first : Builds signer catalog artifacts registry done exchanges middle)
    (second : Builds signer catalog artifacts middle todo others final) :
    Builds signer catalog artifacts registry (done ++ todo) (exchanges ++ others) final := by
  induction first with
  | done => exact second
  | deploy absent attempt records chainId _ ih =>
      rw [List.cons_append, List.append_assoc]
      exact .deploy absent attempt records chainId (ih second)

theorem Builds.contains_iff {descriptors : List Descriptor}
    (builds : Builds signer catalog artifacts registry descriptors exchanges final)
    (name : Scalar) :
    final.contains name = true ↔
      registry.contains name = true ∨
        ∃ descriptor ∈ descriptors, descriptor.name.key = name.key := by
  induction builds with
  | done => simp
  | deploy _ attempt records _ _ ih =>
      rw [ih, Registry.contains_iff, Registry.contains_iff, records]
      simp [attempt.name_eq, or_assoc]

theorem Builds.recorded {descriptors : List Descriptor}
    (builds : Builds signer catalog artifacts registry descriptors exchanges final) :
    ∃ added, final.records = registry.records ++ added ∧
      added.map (·.name) = descriptors.map (·.name) ∧
      Recorded catalog.account added exchanges := by
  induction builds with
  | done => exact ⟨[], (List.append_nil _).symm, rfl, .nil⟩
  | @deploy _ _ _ _ _ _ _ record _ attempt records _ _ ih =>
      obtain ⟨added, grown, names, recorded⟩ := ih
      refine ⟨record :: added, ?_, ?_, .cons ?_ recorded⟩
      · rw [grown, records, List.append_assoc, List.singleton_append]
      · rw [List.map_cons, List.map_cons, names, attempt.name_eq]
      · rw [attempt.name_eq]
        exact attempt.traffic

private theorem kept_of_assigns {account : String} {outcome : Outcome}
    (assigned : assigns account outcome) : Json.Kept outcome.contractAddress := by
  obtain ⟨text, _, given, _⟩ := (Schema.Kind.check_eq_none_iff_divides (.inl rfl)).mp assigned
  rw [given]
  trivial

theorem Numbered.left {first others : List Exchange} (numbered : Numbered (first ++ others)) :
    Numbered first :=
  fun sender code outcome member =>
    numbered sender code outcome (List.mem_append_left _ member)

theorem Numbered.right {first others : List Exchange} (numbered : Numbered (first ++ others)) :
    Numbered others :=
  fun sender code outcome member =>
    numbered sender code outcome (List.mem_append_right _ member)

theorem Numbered.nil : Numbered [] :=
  fun _ _ _ member => absurd member List.not_mem_nil

theorem Numbered.stored {sender code : String} {outcome : Outcome} {number : Int}
    (coded : outcome.codeId = .int number) (bounded : number.natAbs < 10 ^ Number.digitLimit)
    (rest : Numbered others) : Numbered (⟨[.store sender code], .ok outcome⟩ :: others) := by
  intro _ _ _ member kept
  obtain same | later := List.mem_cons.mp member
  · cases same
    exact ⟨number, coded, bounded⟩
  · exact rest _ _ _ later kept

theorem Numbered.lost {transaction : Transaction} {failure : Failure} (rest : Numbered others) :
    Numbered (⟨transaction, .error failure⟩ :: others) := by
  intro _ _ _ member kept
  obtain same | later := List.mem_cons.mp member
  · cases same
  · exact rest _ _ _ later kept

theorem Numbered.instantiated {sender : String} {admin message : Value} {number : Int}
    {coins : Coins} {answer : Except Failure Outcome} (rest : Numbered others) :
    Numbered (⟨[.instantiate sender admin number message coins], answer⟩ :: others) := by
  intro _ _ _ member kept
  obtain same | later := List.mem_cons.mp member
  · cases same
  · exact rest _ _ _ later kept

theorem Traffic.storable {account : String} {name : Scalar} {made : Record}
    (traffic : Traffic account name exchanges (some made)) (named : ∃ text, name = .text text)
    (numbered : Numbered exchanges) : made.Storable := by
  cases traffic with
  | recorded kept _ _ assigned =>
      exact ⟨named, numbered _ _ _ List.mem_cons_self kept, kept_of_assigns assigned⟩

theorem Builds.storable {descriptors : List Descriptor}
    (builds : Builds signer catalog artifacts registry descriptors exchanges final)
    (named : ∀ descriptor ∈ descriptors, ∃ text, descriptor.name = .text text)
    (numbered : Numbered exchanges) (storable : registry.Storable) : final.Storable := by
  induction builds with
  | done => exact storable
  | deploy _ attempt records chainId _ ih =>
      refine ih (fun other member => named other (List.mem_cons_of_mem _ member)) numbered.right
        ⟨?_, ?_⟩
      · rw [chainId]
        exact storable.chainId
      · intro record member
        rw [records] at member
        obtain old | new := List.mem_append.mp member
        · exact storable.records record old
        · obtain rfl := List.mem_singleton.mp new
          exact attempt.traffic.storable (named _ List.mem_cons_self) numbered.left

/-- A deployment is repeated by whoever gives the same answers to its transactions. -/
theorem Attempt.repeats {client : Client σ} {state : σ} {transactions : List Transaction}
    {answer : Except Fault Record}
    (attempt : Attempt signer catalog registry files descriptor exchanges (.ok record))
    (answers : client.exchanges state (exchanges.map (·.transaction)) = exchanges)
    (other : Attempt signer catalog registry files descriptor
      (client.exchanges state transactions) answer) :
    transactions = exchanges.map (·.transaction) ∧ answer = .ok record := by
  cases attempt with
  | deployed settled kept built accepted assigned =>
      rename_i message bytecode stored request outcome
      obtain ⟨_, same, stores, behind⟩ := Client.exchanges_eq_cons answers
      cases same
      obtain ⟨_, same, instantiates, _⟩ := Client.exchanges_eq_cons behind
      cases same
      dsimp only at stores instantiates
      generalize made : client.exchanges state transactions = exchanged at other
      -- the other attempt settles the same message and code, and can go no other way
      cases other with
      | unready unsettled =>
          rw [settled] at unsettled
          cases unsettled
      | storeLost found =>
          cases settled.symm.trans found
          obtain ⟨impossible, _⟩ := Client.exchanges_head stores made
          cases impossible
      | storeRejected found rejected =>
          cases settled.symm.trans found
          obtain ⟨same, _⟩ := Client.exchanges_head stores made
          cases same
          rw [kept] at rejected
          cases rejected
      | unbuilt found _ unbuilt =>
          cases settled.symm.trans found
          obtain ⟨same, _⟩ := Client.exchanges_head stores made
          cases same
          rw [built] at unbuilt
          cases unbuilt
      | instantiateLost found _ builtAlso =>
          cases settled.symm.trans found
          obtain ⟨same, others, _, continued⟩ := Client.exchanges_head stores made
          cases same
          cases built.symm.trans builtAlso
          obtain ⟨impossible, _⟩ := Client.exchanges_head instantiates continued
          cases impossible
      | instantiateRejected found _ builtAlso rejected =>
          cases settled.symm.trans found
          obtain ⟨same, others, _, continued⟩ := Client.exchanges_head stores made
          cases same
          cases built.symm.trans builtAlso
          obtain ⟨same, _⟩ := Client.exchanges_head instantiates continued
          cases same
          rw [accepted] at rejected
          cases rejected
      | addressless found _ builtAlso _ refused =>
          cases settled.symm.trans found
          obtain ⟨same, others, _, continued⟩ := Client.exchanges_head stores made
          cases same
          cases built.symm.trans builtAlso
          obtain ⟨same, _⟩ := Client.exchanges_head instantiates continued
          cases same
          exact absurd assigned (not_assigns_of_error refused)
      | deployed found _ builtAlso =>
          cases settled.symm.trans found
          obtain ⟨same, others, asked, continued⟩ := Client.exchanges_head stores made
          cases same
          cases built.symm.trans builtAlso
          obtain ⟨same, more, askedAlso, ended⟩ := Client.exchanges_head instantiates continued
          cases same
          obtain rfl := Client.exchanges_eq_nil ended
          exact ⟨by rw [asked, askedAlso]; rfl, rfl⟩

end

end Rollout.Deployment
