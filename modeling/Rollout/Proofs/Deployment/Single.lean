import Rollout.Proofs.Deployment.Building
import Rollout.Proofs.Deployment.Messages
import Rollout.Proofs.Schema.Acceptance
import Rollout.Proofs.Template.Places

/-!
# Single contracts

What the deployment of one contract comes to by itself, with no run around it. Before anything is
sent its message must be finished and accepted and its code read; its coins are only read once the
code is stored. What is recorded of it is what the chain answered, of which the address is judged and
the code id is not.
-/

set_option autoImplicit false

namespace Rollout.Deployment

open Rollout.Chain

variable {σ : Type} {client : Client σ} {catalog : Schema.Catalog} {descriptor : Descriptor}
  {files : Files} {message : Value} {code : List UInt8}

/-- A contract is in order as far as that is looked at before anything is sent: its message has no
markers and conforms to its schema, if the catalog has one, and its code can be read. -/
structure InOrder (catalog : Schema.Catalog) (files : Files) (descriptor : Descriptor)
    (message : Value) (code : List UInt8) : Prop where
  finished : Template.Fills [] none descriptor.message message
  conforms : ∃ name, descriptor.schemaName = .scalar name ∧
    ∀ schema, catalog.find? name = some schema →
      schema.Conforms catalog.account .instantiate message
  code : readBytecode files descriptor = .ok code

/-- A contract whose message is the value that it is finished as. -/
def finishedAs (descriptor : Descriptor) (message : Value) : Descriptor :=
  { descriptor with message := .ofValue message }

theorem finishedMessage_eq_ok_iff :
    finishedMessage descriptor = .ok message ↔
      Template.Fills [] none descriptor.message message := by
  rw [finishedMessage, Computation.mapError_eq_ok, Template.value_eq_ok_iff]

private theorem finishedMessage_finishedAs (descriptor : Descriptor) (message : Value) :
    finishedMessage (finishedAs descriptor message) = .ok message := by
  rw [finishedMessage, finishedAs, Template.value_ofValue]
  rfl

/-- What is settled for a finished contract does not depend on who signs or what is recorded. -/
theorem ready_finishedAs_iff (address : String) (registry : Registry) {settled : Value}
    (finished : finishedMessage descriptor = .ok message) :
    ready address catalog registry files (finishedAs descriptor message) = .ok (settled, code) ↔
      settled = message ∧ InOrder catalog files descriptor message code := by
  have resolved : registry.resolve (finishedAs descriptor message).message (some address)
      (some descriptor.name) = .ok message :=
    Template.resolve_eq_ok_iff.mpr (Template.fills_ofValue message)
  rw [ready_eq_ok_iff]
  constructor
  · rintro ⟨same, valid, read⟩
    obtain rfl := Except.ok.inj (resolved.symm.trans same)
    exact ⟨rfl, finishedMessage_eq_ok_iff.mp finished,
      Schema.Catalog.validate_isOk_iff.mp valid, read⟩
  · rintro ⟨rfl, order⟩
    exact ⟨resolved, Schema.Catalog.validate_isOk_iff.mpr order.conforms, order.code⟩

/-- By itself a contract is deployed as in a run where nothing is recorded. -/
theorem deploy_eq_deployResolved (client : Client σ) (catalog : Schema.Catalog)
    (registry : Registry) (finished : finishedMessage descriptor = .ok message) :
    deploy client catalog descriptor =
      deployResolved client catalog registry (finishedAs descriptor message) := by
  have resolved : registry.resolve (finishedAs descriptor message).message (some client.address)
      (some (finishedAs descriptor message).name) = .ok message :=
    Template.resolve_eq_ok_iff.mpr (Template.fills_ofValue message)
  have again := finishedMessage_finishedAs (finishedAs descriptor message) message
  rw [finishedAs] at again
  rw [deployResolved, resolved]
  change _ = deploy client catalog (finishedAs (finishedAs descriptor message) message)
  rw [deploy, deploy, finished, finishedAs, again]
  rfl

private theorem deploy_attempt (client : Client σ) (catalog : Schema.Catalog) (session : Session σ)
    (finished : finishedMessage descriptor = .ok message) :
    ∃ transactions answer,
      Action.Conducts client (deploy client catalog descriptor) session transactions answer ∧
        Attempt client.toSigner catalog (.empty .null) session.files
          (finishedAs descriptor message) (client.exchanges session.chain transactions) answer := by
  rw [deploy_eq_deployResolved client catalog (.empty .null) finished]
  exact deployResolved_attempt client catalog (.empty .null) _ session

private theorem deploy_unfinished (client : Client σ) (catalog : Schema.Catalog)
    (session : Session σ) {fault : Fault} (unfinished : finishedMessage descriptor = .error fault) :
    Action.Conducts client (deploy client catalog descriptor) session [] (.error fault) :=
  .bind_error (.except client session unfinished)

/-!
## What a failure costs
-/

/-- A client that refuses nothing. Code gets an integer for its code id and a contract an address of
the network; its own address may be any. -/
structure Compliant (account : String) (client : Client σ) : Prop where
  succeeds : ∀ transaction chain, ∃ outcome,
    (client.broadcast transaction chain).1 = .ok outcome ∧ outcome.isError = false
  numbers : ∀ sender code chain outcome,
    (client.broadcast [.store sender code] chain).1 = .ok outcome →
      ∃ number : Int, outcome.codeId = .int number
  places : ∀ sender admin number message coins chain outcome,
    (client.broadcast [.instantiate sender admin number message coins] chain).1 = .ok outcome →
      assigns account outcome

private theorem Attempt.of_unready {signer : Signer} {registry : Registry}
    {exchanges : List Exchange} {answer : Except Fault Record} {fault : Fault}
    (unsettled : ready signer.address catalog registry files descriptor = .error fault)
    (attempt : Attempt signer catalog registry files descriptor exchanges answer) :
    exchanges = [] ∧ answer = .error fault := by
  cases attempt with
  | unready again =>
      obtain rfl := Except.error.inj (unsettled.symm.trans again)
      exact ⟨rfl, rfl⟩
  | storeLost settled => cases unsettled.symm.trans settled
  | storeRejected settled => cases unsettled.symm.trans settled
  | unbuilt settled => cases unsettled.symm.trans settled
  | instantiateLost settled => cases unsettled.symm.trans settled
  | instantiateRejected settled => cases unsettled.symm.trans settled
  | addressless settled => cases unsettled.symm.trans settled
  | deployed settled => cases unsettled.symm.trans settled

/-- A transaction is answered as by a client that refuses nothing. -/
structure Complies (account : String) (exchange : Exchange) : Prop where
  succeeds : exchange.succeeded = true
  number : ∀ sender code outcome, exchange = ⟨[.store sender code], .ok outcome⟩ →
    ∃ number : Int, outcome.codeId = .int number
  place : ∀ sender admin number message coins outcome,
    exchange = ⟨[.instantiate sender admin number message coins], .ok outcome⟩ →
      assigns account outcome

theorem Compliant.complies {account : String} (compliant : Compliant account client) {chain : σ}
    {transactions : List Transaction} :
    ∀ exchange ∈ client.exchanges chain transactions, Complies account exchange := by
  intro exchange member
  obtain ⟨state, answered⟩ := Client.broadcast_of_mem_exchanges member
  constructor
  · obtain ⟨outcome, given, kept⟩ := compliant.succeeds exchange.transaction state
    rw [answered] at given
    simp [Exchange.succeeded, given, kept]
  · intro sender code outcome same
    subst same
    exact compliant.numbers sender code state outcome answered
  · intro sender admin number message coins outcome same
    subst same
    exact compliant.places sender admin number message coins state outcome answered

private theorem Complies.not_lost {account : String} {transaction : Transaction}
    {failure : Failure} :
    ¬Complies account ⟨transaction, .error failure⟩ := by
  intro complies
  cases complies.succeeds

private theorem Complies.not_rejected {account : String} {transaction : Transaction}
    {outcome : Outcome}
    (rejected : outcome.isError = true) : ¬Complies account ⟨transaction, .ok outcome⟩ := by
  intro complies
  simpa [Exchange.succeeded, rejected] using complies.succeeds

/-- An attempt that is ready and meets no refusal depends on the coins alone. They are read when the
code is already stored. -/
theorem Attempt.of_complies {signer : Signer} {registry : Registry} {exchanges : List Exchange}
    {answer : Except Fault Record}
    (settled : ready signer.address catalog registry files descriptor = .ok (message, code))
    (complies : ∀ exchange ∈ exchanges, Complies catalog.account exchange)
    (attempt : Attempt signer catalog registry files descriptor exchanges answer) :
    (∃ coins record, coinsOf signer descriptor = .ok coins ∧ answer = .ok record ∧
        Schema.Kind.address.check catalog.account record.address = .ok none) ∨
      ∃ cause, coinsOf signer descriptor = .error cause ∧
        exchanges.map (·.transaction) = [storeOf signer.address code] ∧
          answer = .error (.coins cause) := by
  -- apart from the coins, every way to fail has an answer that does not comply
  cases attempt with
  | unready unsettled => cases settled.symm.trans unsettled
  | storeLost => exact absurd (complies _ List.mem_cons_self) Complies.not_lost
  | storeRejected _ rejected =>
      exact absurd (complies _ List.mem_cons_self) (Complies.not_rejected rejected)
  | unbuilt again _ unbuilt =>
      cases settled.symm.trans again
      obtain ⟨number, counted⟩ := (complies _ List.mem_cons_self).number _ _ _ rfl
      rw [counted, instantiateMessage, ← coinsOf] at unbuilt
      cases read : coinsOf signer descriptor with
      | ok coins =>
          rw [read] at unbuilt
          cases unbuilt
      | error cause =>
          rw [read] at unbuilt
          cases unbuilt
          exact .inr ⟨cause, rfl, rfl, rfl⟩
  | instantiateLost =>
      exact absurd (complies _ (List.mem_cons_of_mem _ List.mem_cons_self)) Complies.not_lost
  | instantiateRejected _ _ _ rejected =>
      exact absurd (complies _ (List.mem_cons_of_mem _ List.mem_cons_self))
        (Complies.not_rejected rejected)
  | addressless _ _ built _ refused =>
      obtain ⟨_, _, _, _, rfl⟩ := instantiateMessage_eq_ok built
      have assigned :=
        (complies _ (List.mem_cons_of_mem _ List.mem_cons_self)).place _ _ _ _ _ _ rfl
      exact absurd assigned (not_assigns_of_error refused)
  | deployed _ _ built _ assigned =>
      obtain ⟨_, coins, _, read, _⟩ := instantiateMessage_eq_ok built
      exact .inl ⟨coins, _, read, rfl, assigned⟩

/-- Where nothing is refused, the deployment of a contract fails before anything is sent unless it is
its coins that cannot be read: these cost the upload of code that no contract is made from. -/
theorem only_coins_cost_upload (catalog : Schema.Catalog)
    (compliant : Compliant catalog.account client) (descriptor : Descriptor) (session : Session σ) :
    ∃ transactions answer,
      Action.Conducts client (deploy client catalog descriptor) session transactions answer ∧
        ((¬∃ message code, InOrder catalog session.files descriptor message code) →
          transactions = [] ∧ ∃ fault, answer = .error fault) ∧
        ∀ message code, InOrder catalog session.files descriptor message code →
          (∀ coins, coinsOf client.toSigner descriptor = .ok coins → ∃ record, answer = .ok record) ∧
            ∀ cause, coinsOf client.toSigner descriptor = .error cause →
              transactions = [storeOf client.address code] ∧ answer = .error (.coins cause) := by
  cases finished : finishedMessage descriptor with
  | error fault =>
      refine ⟨[], _, deploy_unfinished client catalog session finished,
        fun _ => ⟨rfl, fault, rfl⟩, ?_⟩
      intro message code order
      rw [finishedMessage_eq_ok_iff.mpr order.finished] at finished
      cases finished
  | ok message =>
      obtain ⟨transactions, answer, conducts, attempt⟩ :=
        deploy_attempt client catalog session finished
      refine ⟨transactions, answer, conducts, ?_, ?_⟩
      · intro disorder
        cases settled : ready client.address catalog (.empty .null) session.files
            (finishedAs descriptor message) with
        | ok each =>
            obtain ⟨rfl, order⟩ := (ready_finishedAs_iff _ _ finished).mp settled
            exact absurd ⟨_, _, order⟩ disorder
        | error fault =>
            obtain ⟨silent, failed⟩ := attempt.of_unready settled
            exact ⟨Client.exchanges_eq_nil silent, fault, failed⟩
      · intro other code order
        have same := (finishedMessage_eq_ok_iff.mpr order.finished).symm.trans finished
        obtain rfl := Except.ok.inj same
        have settled :=
          (ready_finishedAs_iff client.address (.empty .null) finished).mpr ⟨rfl, order⟩
        rcases attempt.of_complies settled compliant.complies with
          ⟨coins, record, read, rfl, _⟩ | ⟨cause, read, sent, rfl⟩
        · have read : coinsOf client.toSigner descriptor = .ok coins := read
          simp [read]
        · have read : coinsOf client.toSigner descriptor = .error cause := read
          rw [Client.exchanges_transactions] at sent
          simp [read, sent]

/-- A contract without settings or schema that is given some coins. -/
def hubWith (coins : Value) : Descriptor :=
  ⟨.text "hub", ⟨"/", ["hub.wasm"]⟩, .object [], .null, coins, .null⟩

def hubArtifact : Files :=
  ⟨⟨"/", []⟩, [(⟨"/", ["hub.wasm"]⟩, .octets [0])]⟩

def hubAddress : String := "terra10lm49e6ufm8cfpwcmcltvxkv3s6cqeunyjhaj5"

/-- Refuses nothing, though its own address is none of the network. -/
def agreeable : Client Unit where
  address := "deployer"
  readCoins := Coins.ofValue
  broadcast _ _ :=
    (.ok { Outcome.plain false with codeId := .int 7, contractAddress := .text hubAddress }, ())

private theorem agreeable_compliant : Compliant "terra" agreeable where
  succeeds _ _ := ⟨_, rfl, rfl⟩
  numbers := by
    rintro _ _ _ _ ⟨⟩
    exact ⟨7, rfl⟩
  places := by
    rintro _ _ _ _ _ _ _ ⟨⟩
    rfl

/-- Ten of a denomination, in words. -/
theorem wordedCoins_cost_upload :
    Compliant "terra" agreeable ∧
      ∃ fault, Action.Conducts agreeable
        (deploy agreeable ⟨"terra", []⟩ (hubWith (.object [("uluna", .text "ten")])))
        (.start () hubArtifact "") [storeOf "deployer" [0]] (.error fault) :=
  ⟨agreeable_compliant, _, rfl, ⟨⟨rfl, rfl⟩, rfl, rfl, rfl, rfl, rfl⟩⟩

/-- A number is no coins. It is found out when the code is stored, while a reference that is left in
the message is found out before. -/
theorem numberedCoins_cost_upload :
    Compliant "terra" agreeable ∧
      (∃ cause, Action.Conducts agreeable (deploy agreeable ⟨"terra", []⟩ (hubWith (.int 5)))
        (.start () hubArtifact "") [storeOf "deployer" [0]] (.error (.coins cause))) ∧
      ∃ fault, Action.Conducts agreeable
        (deploy agreeable ⟨"terra", []⟩
          { hubWith (.int 5) with message := .list [.reference ⟨"vault", .address⟩] })
        (.start () hubArtifact "") [] (.error fault) := by
  refine ⟨agreeable_compliant, ?_, ?_⟩
  · obtain ⟨transactions, answer, conducts, _, costs⟩ :=
      only_coins_cost_upload ⟨"terra", []⟩ agreeable_compliant (hubWith (.int 5))
        (.start () hubArtifact "")
    have order : InOrder ⟨"terra", []⟩ hubArtifact (hubWith (.int 5)) (.object []) [0] :=
      ⟨.object .nil, ⟨.text "hub", rfl, nofun⟩, rfl⟩
    obtain ⟨rfl, rfl⟩ := (costs _ _ order).2 _ rfl
    exact ⟨_, conducts⟩
  · obtain ⟨transactions, answer, conducts, spared, _⟩ :=
      only_coins_cost_upload ⟨"terra", []⟩ agreeable_compliant
        { hubWith (.int 5) with message := .list [.reference ⟨"vault", .address⟩] }
        (.start () hubArtifact "")
    have disorder : ¬∃ message code, InOrder ⟨"terra", []⟩ hubArtifact
        { hubWith (.int 5) with message := .list [.reference ⟨"vault", .address⟩] } message code := by
      rintro ⟨_, _, finished, _, _⟩
      cases finished with
      | list items =>
          cases items with
          | cons first _ =>
              cases first with
              | reference member _ => cases member
    obtain ⟨rfl, fault, rfl⟩ := spared disorder
    exact ⟨fault, conducts⟩

/-!
## What is recorded
-/

/-- The transaction that makes a contract from its code. -/
def instantiateOf (address : String) (descriptor : Descriptor) (message : Value) (number : Int)
    (coins : Coins) : Transaction :=
  [.instantiate address (descriptor.admin.orElse (.text address)) number message coins]

private theorem instantiateMessage_eq (signer : Signer) (descriptor : Descriptor) (message : Value)
    {codeId : Value} {number : Int} {coins : Coins} (read : coinsOf signer descriptor = .ok coins)
    (taken : codeId.toInteger = .ok number) :
    instantiateMessage signer descriptor message codeId =
      .ok (.instantiate signer.address (descriptor.admin.orElse (.text signer.address)) number
        message coins) := by
  rw [coinsOf] at read
  rw [instantiateMessage, read, taken]
  rfl

private theorem answered_eq {chain : σ} {first second : Transaction}
    {firstAnswer secondAnswer : Except Failure Outcome}
    (answers : (client.exchanges chain [first, second]).map (·.answer) =
      [firstAnswer, secondAnswer]) :
    client.exchanges chain [first, second] = [⟨first, firstAnswer⟩, ⟨second, secondAnswer⟩] := by
  simp only [Client.exchanges, List.map_cons, List.map_nil, List.cons.injEq, and_true] at answers
  obtain ⟨rfl, rfl⟩ := answers
  rfl

/-- A record tells the name of its contract, an address of the network and the code id that the
store was answered with. The address is judged; the code id is not, and is recorded whenever it can
be taken for an integer at all. -/
theorem deploy_eq_ok_iff (client : Client σ) (catalog : Schema.Catalog) (descriptor : Descriptor)
    (session : Session σ) (record : Record) :
    ((deploy client catalog descriptor).run.run session).1 = .ok record ↔
      record.name = descriptor.name ∧
        Schema.Kind.address.check catalog.account record.address = .ok none ∧
        ∃ message code number coins stored placed,
          InOrder catalog session.files descriptor message code ∧
            coinsOf client.toSigner descriptor = .ok coins ∧ record.codeId.toInteger = .ok number ∧
            (client.exchanges session.chain
                [storeOf client.address code,
                  instantiateOf client.address descriptor message number coins]).map (·.answer) =
              [.ok stored, .ok placed] ∧
            stored.isError = false ∧ stored.codeId = record.codeId ∧
            placed.isError = false ∧ placed.contractAddress = record.address := by
  constructor
  · intro returned
    cases finished : finishedMessage descriptor with
    | error fault =>
        have failed := (deploy_unfinished client catalog session finished).answered
        cases failed.symm.trans returned
    | ok message =>
        obtain ⟨transactions, answer, conducts, attempt⟩ :=
          deploy_attempt client catalog session finished
        obtain rfl := conducts.answered.symm.trans returned
        generalize made : client.exchanges session.chain transactions = exchanged at attempt
        cases attempt with
        | @deployed _ code stored _ placed settled kept built accepted assigned =>
            obtain ⟨rfl, order⟩ := (ready_finishedAs_iff _ _ finished).mp settled
            obtain ⟨number, coins, taken, read, rfl⟩ := instantiateMessage_eq_ok built
            refine ⟨rfl, assigned, _, code, number, coins, stored, placed, order, read, taken, ?_,
              kept, rfl, accepted, rfl⟩
            obtain ⟨_, rfl, stores, behind⟩ := Client.exchanges_eq_cons made
            obtain ⟨_, rfl, instantiates, ended⟩ := Client.exchanges_eq_cons behind
            simp only [Client.exchanges, List.map_cons, List.map_nil]
            exact congrArg₂ _ stores (congrArg₂ _ instantiates rfl)
  · obtain ⟨name, codeId, address⟩ := record
    rintro ⟨rfl, assigned, message, code, number, coins, stored, placed, order, read, taken,
      answers, kept, rfl, accepted, rfl⟩
    have finished := finishedMessage_eq_ok_iff.mpr order.finished
    have settled :=
      (ready_finishedAs_iff client.address (.empty .null) finished).mpr ⟨rfl, order⟩
    have built := instantiateMessage_eq client.toSigner (finishedAs descriptor message) message
      read taken
    have attempt := Attempt.deployed settled kept built accepted assigned
    obtain ⟨transactions, answer, conducts, other⟩ :=
      deploy_attempt client catalog session finished
    obtain ⟨_, rfl⟩ := attempt.repeats (answered_eq answers) other
    exact conducts.answered

/-- The store is answered with a code id that no chain assigns. -/
def negativeSession : Session (List CommandLine.ChainAnswer) :=
  .start [.ok { Outcome.plain false with codeId := .int (-1) },
      .ok { Outcome.plain false with contractAddress := .text hubAddress }] hubArtifact ""

theorem negativeCodeId_recorded :
    ∃ record,
      ((deploy storesOnce ⟨"terra", []⟩ (hubWith .null)).run.run negativeSession).1 = .ok record ∧
        ¬∃ number : Nat, record.codeId = .int number := by
  refine ⟨⟨.text "hub", .int (-1), .text hubAddress⟩, rfl, ?_⟩
  rintro ⟨number, same⟩
  injection same with same
  injection same with same
  omega

end Rollout.Deployment
