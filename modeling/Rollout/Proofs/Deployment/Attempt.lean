import Rollout.Deployment.Run
import Rollout.Proofs.Session
import Rollout.Proofs.Template.Filling

/-!
# Attempts to deploy a contract

How far the deployment of one contract can get. A message that cannot be resolved or is not
accepted and code that cannot be read are found before anything is sent; from then on the answers
of the client decide. Every action on a contract makes one of these attempts.
-/

set_option autoImplicit false

namespace Rollout.Deployment

open Rollout.Chain

variable {σ : Type}

/-- What is settled for a contract before anything is sent: its message and its code. -/
def ready (address : String) (catalog : Schema.Catalog) (registry : Registry) (files : Files)
    (descriptor : Descriptor) : Except Fault (Value × List UInt8) := do
  let message ← registry.resolve descriptor.message (some address) (some descriptor.name)
  catalog.validate .instantiate descriptor.schemaName message
  let bytecode ← readBytecode files descriptor
  return (message, bytecode)

theorem ready_eq_ok_iff {address : String} {catalog : Schema.Catalog} {registry : Registry}
    {files : Files} {descriptor : Descriptor} {message : Value} {bytecode : List UInt8} :
    ready address catalog registry files descriptor = .ok (message, bytecode) ↔
      registry.resolve descriptor.message (some address) (some descriptor.name) = .ok message ∧
        catalog.validate .instantiate descriptor.schemaName message = .ok () ∧
        readBytecode files descriptor = .ok bytecode := by
  rw [ready]
  cases registry.resolve descriptor.message (some address) (some descriptor.name) with
  | error fault => simp [bind, Except.bind]
  | ok resolved =>
      cases valid : catalog.validate .instantiate descriptor.schemaName resolved with
      | error fault =>
          simp only [bind, Except.bind, valid, Except.ok.injEq]
          constructor
          · intro settled; cases settled
          · rintro ⟨rfl, accepted, _⟩
            rw [valid] at accepted
            cases accepted
      | ok judged =>
          cases readBytecode files descriptor with
          | error fault => simp [bind, Except.bind, valid]
          | ok code =>
              simp only [bind, Except.bind, valid, pure, Except.pure, Except.ok.injEq,
                Prod.mk.injEq]
              constructor
              · rintro ⟨rfl, rfl⟩
                exact ⟨rfl, valid, rfl⟩
              · rintro ⟨rfl, _, rfl⟩
                exact ⟨rfl, rfl⟩

/-- The transaction that stores code. -/
def storeOf (address : String) (bytecode : List UInt8) : Transaction :=
  [.store address (Wire.encodeOctets bytecode)]

/-- Whether the chain gave a contract an address of the network with an outcome. -/
def assigns (account : String) (outcome : Outcome) : Prop :=
  Schema.Kind.address.check account outcome.contractAddress = .ok none

theorem assignedAddress_eq_ok_iff {account : String} {descriptor : Descriptor}
    {codeId address : Value} {outcome : Outcome} :
    assignedAddress account descriptor codeId outcome = .ok address ↔
      assigns account outcome ∧ address = outcome.contractAddress := by
  rw [assignedAddress, assigns]
  cases Schema.Kind.address.check account outcome.contractAddress with
  | error fault => simp [Except.mapError, bind, Except.bind]
  | ok verdict =>
      cases verdict <;> simp [Except.mapError, bind, Except.bind, pure, Except.pure, eq_comm]

theorem not_assigns_of_error {account : String} {descriptor : Descriptor} {codeId : Value}
    {outcome : Outcome} {fault : Fault}
    (refused : assignedAddress account descriptor codeId outcome = .error fault) :
    ¬ assigns account outcome := by
  intro assigned
  have given : assignedAddress account descriptor codeId outcome = .ok outcome.contractAddress :=
    assignedAddress_eq_ok_iff.mpr ⟨assigned, rfl⟩
  rw [refused] at given
  cases given

/-- The exchanges of an attempt to deploy a contract, and the record or the fault it ends in. -/
inductive Attempt (signer : Signer) (catalog : Schema.Catalog) (registry : Registry)
    (files : Files) (descriptor : Descriptor) : List Exchange → Except Fault Record → Prop where
  | unready {fault : Fault} :
      ready signer.address catalog registry files descriptor = .error fault →
      Attempt signer catalog registry files descriptor [] (.error fault)
  | storeLost {message : Value} {bytecode : List UInt8} {failure : Failure} :
      ready signer.address catalog registry files descriptor = .ok (message, bytecode) →
      Attempt signer catalog registry files descriptor
        [⟨storeOf signer.address bytecode, .error failure⟩] (.error (.client failure))
  | storeRejected {message : Value} {bytecode : List UInt8} {stored : Outcome} :
      ready signer.address catalog registry files descriptor = .ok (message, bytecode) →
      stored.isError = true →
      Attempt signer catalog registry files descriptor
        [⟨storeOf signer.address bytecode, .ok stored⟩] (.error (.uploadFailed descriptor.name stored))
  | unbuilt {message : Value} {bytecode : List UInt8} {stored : Outcome} {fault : Fault} :
      ready signer.address catalog registry files descriptor = .ok (message, bytecode) →
      stored.isError = false →
      instantiateMessage signer descriptor message stored.codeId = .error fault →
      Attempt signer catalog registry files descriptor
        [⟨storeOf signer.address bytecode, .ok stored⟩] (.error fault)
  | instantiateLost {message : Value} {bytecode : List UInt8} {stored : Outcome}
      {request : Message} {failure : Failure} :
      ready signer.address catalog registry files descriptor = .ok (message, bytecode) →
      stored.isError = false →
      instantiateMessage signer descriptor message stored.codeId = .ok request →
      Attempt signer catalog registry files descriptor
        [⟨storeOf signer.address bytecode, .ok stored⟩, ⟨[request], .error failure⟩]
        (.error (.client failure))
  | instantiateRejected {message : Value} {bytecode : List UInt8} {stored : Outcome}
      {request : Message} {outcome : Outcome} :
      ready signer.address catalog registry files descriptor = .ok (message, bytecode) →
      stored.isError = false →
      instantiateMessage signer descriptor message stored.codeId = .ok request →
      outcome.isError = true →
      Attempt signer catalog registry files descriptor
        [⟨storeOf signer.address bytecode, .ok stored⟩, ⟨[request], .ok outcome⟩]
        (.error (.instantiationFailed descriptor.name outcome stored.codeId))
  | addressless {message : Value} {bytecode : List UInt8} {stored : Outcome}
      {request : Message} {outcome : Outcome} {fault : Fault} :
      ready signer.address catalog registry files descriptor = .ok (message, bytecode) →
      stored.isError = false →
      instantiateMessage signer descriptor message stored.codeId = .ok request →
      outcome.isError = false →
      assignedAddress catalog.account descriptor stored.codeId outcome = .error fault →
      Attempt signer catalog registry files descriptor
        [⟨storeOf signer.address bytecode, .ok stored⟩, ⟨[request], .ok outcome⟩] (.error fault)
  | deployed {message : Value} {bytecode : List UInt8} {stored : Outcome} {request : Message}
      {outcome : Outcome} :
      ready signer.address catalog registry files descriptor = .ok (message, bytecode) →
      stored.isError = false →
      instantiateMessage signer descriptor message stored.codeId = .ok request →
      outcome.isError = false → assigns catalog.account outcome →
      Attempt signer catalog registry files descriptor
        [⟨storeOf signer.address bytecode, .ok stored⟩, ⟨[request], .ok outcome⟩]
        (.ok ⟨descriptor.name, stored.codeId, outcome.contractAddress⟩)

/-- What is taken for the coins of a contract. -/
def coinsOf (signer : Signer) (descriptor : Descriptor) : Except CoinsFault Coins :=
  signer.readCoins (descriptor.coins.orElse (.object []))

theorem instantiateMessage_eq_ok {signer : Signer} {descriptor : Descriptor}
    {message codeId : Value} {request : Message}
    (built : instantiateMessage signer descriptor message codeId = .ok request) :
    ∃ number coins, codeId.toInteger = .ok number ∧ coinsOf signer descriptor = .ok coins ∧
      request = .instantiate signer.address (descriptor.admin.orElse (.text signer.address)) number
        message coins := by
  rw [instantiateMessage, ← coinsOf] at built
  cases counted : coinsOf signer descriptor with
  | error fault => rw [counted] at built; cases built
  | ok coins =>
      cases read : codeId.toInteger with
      | error fault => rw [counted, read] at built; cases built
      | ok number =>
          rw [counted, read] at built
          cases built
          exact ⟨number, coins, rfl, rfl, rfl⟩

/-- What a store comes to, by its answer. -/
def storeVerdict (descriptor : Descriptor) : Except Failure Outcome → Except Fault Value
  | .error failure => .error (.client failure)
  | .ok outcome =>
      if outcome.isError then .error (.uploadFailed descriptor.name outcome)
      else .ok outcome.codeId

/-- What an instantiation comes to, by its answer. -/
def instantiateVerdict (account : String) (descriptor : Descriptor) (codeId : Value) :
    Except Failure Outcome → Except Fault Value
  | .error failure => .error (.client failure)
  | .ok outcome =>
      if outcome.isError then .error (.instantiationFailed descriptor.name outcome codeId)
      else assignedAddress account descriptor codeId outcome

open Rollout.Action (Conducts)

private theorem say_conducts (client : Client σ) (session : Session σ) (text : String) :
    Conducts client (say text) session [] (.ok ()) :=
  .report client session _

private theorem send_conducts (client : Client σ) {session middle : Session σ}
    (quiet : Session.Sends client [] session middle) (message : Message) :
    Conducts client (send client message) middle [[message]]
      ((client.broadcast [message] session.chain).1.mapError Fault.client) := by
  have chain : middle.chain = session.chain := quiet.chain
  rw [← chain]
  refine (Conducts.broadcast client middle [message]).bind_ok fun last _ => ?_
  cases (client.broadcast [message] middle.chain).1 with
  | error failure => exact .throw client last _
  | ok outcome => exact .pure client last outcome

private theorem store_conducts (client : Client σ) (session : Session σ) (descriptor : Descriptor)
    (bytecode : List UInt8) :
    Conducts client (store client descriptor bytecode) session [storeOf client.address bytecode]
      (storeVerdict descriptor
        (client.broadcast (storeOf client.address bytecode) session.chain).1) := by
  refine (say_conducts client session _).bind_ok fun middle quiet => ?_
  have sent := send_conducts client quiet (.store client.address (Wire.encodeOctets bytecode))
  rw [← storeOf] at sent
  cases answer : (client.broadcast (storeOf client.address bytecode) session.chain).1 with
  | error failure =>
      rw [answer] at sent
      exact sent.bind_error
  | ok outcome =>
      rw [answer] at sent
      refine sent.bind_ok fun last _ => ?_
      cases rejected : outcome.isError with
      | true =>
          rw [storeVerdict, rejected]
          exact (Conducts.throw client last _).bind_error
      | false =>
          rw [storeVerdict, rejected]
          refine (say_conducts client last _).bind_ok fun final _ => ?_
          exact .pure client final outcome.codeId

private theorem instantiate_conducts (client : Client σ) (session : Session σ) (account : String)
    (descriptor : Descriptor) (message codeId : Value) {request : Message}
    (built : instantiateMessage client.toSigner descriptor message codeId = .ok request) :
    Conducts client (instantiate client account descriptor message codeId) session [[request]]
      (instantiateVerdict account descriptor codeId
        (client.broadcast [request] session.chain).1) := by
  refine (Conducts.except client session built).bind_ok fun start quiet => ?_
  refine (say_conducts client start _).bind_ok fun middle silent => ?_
  have sent := send_conducts client (quiet.trans silent) request
  cases answer : (client.broadcast [request] session.chain).1 with
  | error failure =>
      rw [answer] at sent
      exact sent.bind_error
  | ok outcome =>
      rw [answer] at sent
      refine sent.bind_ok fun last _ => ?_
      cases rejected : outcome.isError with
      | true =>
          rw [instantiateVerdict, rejected]
          exact (Conducts.throw client last _).bind_error
      | false =>
          rw [instantiateVerdict, rejected]
          exact .except client last rfl

private theorem instantiate_attempt {client : Client σ} {catalog : Schema.Catalog}
    {registry : Registry} {files : Files} {descriptor : Descriptor} {message : Value}
    {bytecode : List UInt8} {stored : Outcome} (session : Session σ)
    (settled : ready client.address catalog registry files descriptor = .ok (message, bytecode))
    (kept : stored.isError = false) {finish : Value → Action σ Record}
    (recorded : ∀ address middle, Conducts client (finish address) middle []
      (.ok ⟨descriptor.name, stored.codeId, address⟩)) :
    ∃ transactions answer,
      Conducts client
        (instantiate client catalog.account descriptor message stored.codeId >>= finish)
        session transactions answer ∧
      Attempt client.toSigner catalog registry files descriptor
        (⟨storeOf client.address bytecode, .ok stored⟩ ::
          client.exchanges session.chain transactions) answer := by
  cases built : instantiateMessage client.toSigner descriptor message stored.codeId with
  | error fault =>
      have failed : Conducts client
          (instantiate client catalog.account descriptor message stored.codeId) session []
          (.error fault) :=
        (Conducts.except client session built).bind_error
      exact ⟨_, _, failed.bind_error, .unbuilt settled kept built⟩
  | ok request =>
      have made := instantiate_conducts client session catalog.account descriptor message
        stored.codeId built
      cases answer : (client.broadcast [request] session.chain).1 with
      | error failure =>
          rw [answer] at made
          refine ⟨_, _, made.bind_error, ?_⟩
          rw [Client.exchanges, answer]
          exact .instantiateLost settled kept built
      | ok outcome =>
          rw [answer, instantiateVerdict] at made
          cases rejected : outcome.isError with
          | true =>
              rw [rejected] at made
              refine ⟨_, _, made.bind_error, ?_⟩
              rw [Client.exchanges, answer]
              exact .instantiateRejected settled kept built rejected
          | false =>
              rw [rejected] at made
              simp only [Bool.false_eq_true, ↓reduceIte] at made
              cases given : assignedAddress catalog.account descriptor stored.codeId outcome with
              | error fault =>
                  rw [given] at made
                  refine ⟨_, _, made.bind_error, ?_⟩
                  rw [Client.exchanges, answer]
                  exact .addressless settled kept built rejected given
              | ok address =>
                  rw [given] at made
                  obtain ⟨assigned, rfl⟩ := assignedAddress_eq_ok_iff.mp given
                  refine ⟨_, _, made.bind_ok fun middle _ => recorded _ middle, ?_⟩
                  rw [List.append_nil, Client.exchanges, answer]
                  exact .deployed settled kept built rejected assigned

private theorem store_attempt {client : Client σ} {catalog : Schema.Catalog}
    {registry : Registry} {files : Files} {descriptor : Descriptor} {message : Value}
    {bytecode : List UInt8} (session : Session σ)
    (settled : ready client.address catalog registry files descriptor = .ok (message, bytecode))
    {finish : Value → Value → Action σ Record}
    (recorded : ∀ codeId address middle, Conducts client (finish codeId address) middle []
      (.ok ⟨descriptor.name, codeId, address⟩)) :
    ∃ transactions answer,
      Conducts client
        (store client descriptor bytecode >>= fun codeId =>
          instantiate client catalog.account descriptor message codeId >>= finish codeId)
        session transactions answer ∧
      Attempt client.toSigner catalog registry files descriptor
        (client.exchanges session.chain transactions) answer := by
  have made := store_conducts client session descriptor bytecode
  cases answer : (client.broadcast (storeOf client.address bytecode) session.chain).1 with
  | error failure =>
      rw [answer] at made
      refine ⟨_, _, made.bind_error, ?_⟩
      rw [Client.exchanges, answer]
      exact .storeLost settled
  | ok stored =>
      rw [answer, storeVerdict] at made
      cases rejected : stored.isError with
      | true =>
          rw [rejected] at made
          refine ⟨_, _, made.bind_error, ?_⟩
          rw [Client.exchanges, answer]
          exact .storeRejected settled rejected
      | false =>
          rw [rejected] at made
          obtain ⟨transactions, ending, instantiated, attempt⟩ :=
            instantiate_attempt ((store client descriptor bytecode).run.run session).2 settled
              rejected (recorded stored.codeId)
          refine ⟨_, _, made.andThen instantiated, ?_⟩
          rw [made.sends.toBroadcasts.exchanges_append, Client.exchanges, answer]
          exact attempt

private def announce (descriptor : Descriptor) (codeId address : Value) : Action σ Record := do
  say s!"Instantiated {descriptor.name.display} at {address.display}"
  return ⟨descriptor.name, codeId, address⟩

private theorem announce_conducts (client : Client σ) (descriptor : Descriptor)
    (codeId address : Value) (session : Session σ) :
    Conducts client (announce descriptor codeId address) session []
      (.ok ⟨descriptor.name, codeId, address⟩) := by
  refine (say_conducts client session _).bind_ok fun last _ => ?_
  exact .pure client last _

/-- Deploying a contract is an attempt: what it sends and how it ends is one of the ways that an
attempt can go, and besides broadcasts and the log it changes nothing. -/
theorem deployResolved_attempt (client : Client σ) (catalog : Schema.Catalog)
    (registry : Registry) (descriptor : Descriptor) (session : Session σ) :
    ∃ transactions answer,
      Conducts client (deployResolved client catalog registry descriptor) session transactions
        answer ∧
      Attempt client.toSigner catalog registry session.files descriptor
        (client.exchanges session.chain transactions) answer := by
  cases resolved : registry.resolve descriptor.message (some client.address)
      (some descriptor.name) with
  | error fault =>
      have settled : ready client.address catalog registry session.files descriptor =
          .error fault := by rw [ready, resolved]; rfl
      exact ⟨_, _, (Conducts.except client session resolved).bind_error, .unready settled⟩
  | ok message =>
      have finished : finishedMessage { descriptor with message := .ofValue message } =
          .ok message := by rw [finishedMessage, Template.value_ofValue]; rfl
      cases valid : catalog.validate .instantiate descriptor.schemaName message with
      | error fault =>
          have settled : ready client.address catalog registry session.files descriptor =
              .error fault := by simp only [ready, resolved, valid, bind, Except.bind]
          refine ⟨[], _, (Conducts.except client session resolved).andThen ?_, .unready settled⟩
          refine (Conducts.except client session finished).andThen ?_
          exact (Conducts.except client session valid).bind_error
      | ok judged =>
          cases found : readBytecode session.files descriptor with
          | error fault =>
              have settled : ready client.address catalog registry session.files descriptor =
                  .error fault := by
                simp only [ready, resolved, valid, found, bind, Except.bind]
              refine ⟨[], _, (Conducts.except client session resolved).andThen ?_,
                .unready settled⟩
              refine (Conducts.except client session finished).andThen ?_
              refine (Conducts.except client session valid).andThen ?_
              refine (Conducts.get client session).andThen ?_
              exact (Conducts.except client session found).bind_error
          | ok bytecode =>
              have settled : ready client.address catalog registry session.files descriptor =
                  .ok (message, bytecode) := ready_eq_ok_iff.mpr ⟨resolved, valid, found⟩
              obtain ⟨transactions, answer, conducted, attempt⟩ :=
                store_attempt session settled (announce_conducts client descriptor)
              refine ⟨_, _, (Conducts.except client session resolved).andThen ?_, attempt⟩
              refine (Conducts.except client session finished).andThen ?_
              refine (Conducts.except client session valid).andThen ?_
              refine (Conducts.get client session).andThen ?_
              exact (Conducts.except client session found).andThen conducted

end Rollout.Deployment
