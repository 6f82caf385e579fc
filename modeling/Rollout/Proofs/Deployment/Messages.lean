import Rollout.CommandLine.Rehearsal
import Rollout.Proofs.Deployment.Turn

/-!
# Messages of runs

What stands in the transactions of a run. A contract is stored and instantiated only once its
message is finished: filled from what is recorded when its turn comes, and accepted.
-/

set_option autoImplicit false

namespace Rollout.Deployment

open Rollout.Chain

variable {σ : Type}

/-- A message is accepted under the schema name of a contract: if the catalog knows the name, it
finds no problem. -/
def Accepted (catalog : Schema.Catalog) (schemaName message : Value) : Prop :=
  ∀ key, schemaName = .scalar key → catalog.contains key = true →
    catalog.instantiateProblems key message = .ok []

/-- The message of a contract is finished: filled from records, free of markers and accepted. -/
structure Finished (address : String) (catalog : Schema.Catalog) (known : Registry)
    (descriptor : Descriptor) (message : Value) : Prop where
  filled : Template.Fills known.records (some address) descriptor.message message
  only : ∀ other, Template.Fills known.records (some address) descriptor.message other →
    other = message
  unmarked : (Template.ofValue message).hasMarkers = false
  accepted : Accepted catalog descriptor.schemaName message

private theorem accepted_of_validate {catalog : Schema.Catalog} {schemaName message : Value}
    (valid : catalog.validate .instantiate schemaName message = .ok ()) :
    Accepted catalog schemaName message := by
  rintro key rfl present
  have checked : (do
      let found ← catalog.instantiateProblems key message
      if found.isEmpty then .ok () else .error (.invalidMessage key .instantiate found)) =
        Except.ok () := by
    simpa only [Schema.Catalog.validate, Schema.Catalog.problems, Value.toKey, bind, Except.bind,
      present, if_true] using valid
  cases judged : catalog.instantiateProblems key message with
  | error fault => rw [judged] at checked; cases checked
  | ok problems =>
      rw [judged] at checked
      cases problems with
      | nil => rfl
      | cons problem rest => cases checked

private theorem finished_of_ready {address : String} {catalog : Schema.Catalog} {known : Registry}
    {files : Files} {descriptor : Descriptor} {message : Value} {bytecode : List UInt8}
    (settled : ready address catalog known files descriptor = .ok (message, bytecode)) :
    Finished address catalog known descriptor message := by
  obtain ⟨resolved, valid, _⟩ := ready_eq_ok_iff.mp settled
  have filled := Template.resolve_eq_ok_iff.mp resolved
  exact ⟨filled, fun _ other => other.unique filled, Template.hasMarkers_ofValue message,
    accepted_of_validate valid⟩

private theorem split_single {α : Type} {value element : α} {first last : List α}
    (split : [value] = first ++ element :: last) : first = [] ∧ element = value ∧ last = [] := by
  cases first with
  | nil =>
      cases split
      exact ⟨rfl, rfl, rfl⟩
  | cons head tail => simp at split

private theorem split_pair {α : Type} {one two element : α} {first last : List α}
    (split : [one, two] = first ++ element :: last) :
    (first = [] ∧ element = one) ∨ (first = [one] ∧ element = two ∧ last = []) := by
  cases first with
  | nil =>
      cases split
      exact .inl ⟨rfl, rfl⟩
  | cons head tail =>
      rw [List.cons_append, List.cons.injEq] at split
      obtain ⟨rfl, rest⟩ := split
      obtain ⟨rfl, same, ended⟩ := split_single rest
      exact .inr ⟨rfl, same, ended⟩

private theorem Attempt.transactions_eq {signer : Signer} {catalog : Schema.Catalog}
    {registry : Registry} {files : Files} {descriptor : Descriptor} {exchanges : List Exchange}
    {answer : Except Fault Record}
    (attempt : Attempt signer catalog registry files descriptor exchanges answer) :
    exchanges.map (·.transaction) = [] ∨ ∃ message bytecode,
      ready signer.address catalog registry files descriptor = .ok (message, bytecode) ∧
        (exchanges.map (·.transaction) = [storeOf signer.address bytecode] ∨ ∃ codeId request,
          instantiateMessage signer descriptor message codeId = .ok request ∧
            exchanges.map (·.transaction) = [storeOf signer.address bytecode, [request]]) := by
  cases attempt with
  | unready => exact .inl rfl
  | storeLost settled => exact .inr ⟨_, _, settled, .inl rfl⟩
  | storeRejected settled => exact .inr ⟨_, _, settled, .inl rfl⟩
  | unbuilt settled => exact .inr ⟨_, _, settled, .inl rfl⟩
  | instantiateLost settled _ built => exact .inr ⟨_, _, settled, .inr ⟨_, _, built, rfl⟩⟩
  | instantiateRejected settled _ built => exact .inr ⟨_, _, settled, .inr ⟨_, _, built, rfl⟩⟩
  | addressless settled _ built => exact .inr ⟨_, _, settled, .inr ⟨_, _, built, rfl⟩⟩
  | deployed settled _ built => exact .inr ⟨_, _, settled, .inr ⟨_, _, built, rfl⟩⟩

private theorem Attempt.split {signer : Signer} {catalog : Schema.Catalog} {registry : Registry}
    {files : Files} {descriptor : Descriptor} {exchanges : List Exchange}
    {answer : Except Fault Record} {transaction : Transaction} {first last : List Transaction}
    (attempt : Attempt signer catalog registry files descriptor exchanges answer)
    (split : exchanges.map (·.transaction) = first ++ transaction :: last) :
    ∃ message bytecode,
      ready signer.address catalog registry files descriptor = .ok (message, bytecode) ∧
        ((first = [] ∧ transaction = storeOf signer.address bytecode) ∨
          (first = [storeOf signer.address bytecode] ∧ ∃ codeId request,
            instantiateMessage signer descriptor message codeId = .ok request ∧
              transaction = [request])) := by
  obtain silent | ⟨message, bytecode, settled, alone | ⟨codeId, request, built, both⟩⟩ :=
    attempt.transactions_eq
  · rw [silent] at split
    simp at split
  · rw [alone] at split
    obtain ⟨first, same, _⟩ := split_single split
    exact ⟨message, bytecode, settled, .inl ⟨first, same⟩⟩
  · rw [both] at split
    obtain stored | ⟨first, same, _⟩ := split_pair split
    · exact ⟨message, bytecode, settled, .inl stored⟩
    · exact ⟨message, bytecode, settled, .inr ⟨first, codeId, request, built, same⟩⟩

private theorem Turn.broadcasts {client : Client σ} {catalog : Schema.Catalog} {path : Option Path}
    {registry extended : Registry} {descriptor : Descriptor} {session after : Session σ}
    {ending : Except Halt Unit}
    (turn : Turn client catalog path registry descriptor session extended ending after) :
    ∃ transactions, Session.Broadcasts client transactions session after ∧
      (transactions = [] ∨ ∃ answer, Attempt client.toSigner catalog registry session.files
        descriptor (client.exchanges session.chain transactions) answer) := by
  cases turn with
  | skipped _ quiet => exact ⟨[], quiet.toBroadcasts, .inl rfl⟩
  | halted _ sends attempt => exact ⟨_, sends.toBroadcasts, .inr ⟨_, attempt⟩⟩
  | recorded _ sends attempt _ _ keeping =>
      have asked := sends.toBroadcasts.trans (keeping.broadcasts client)
      rw [List.append_nil] at asked
      exact ⟨_, asked, .inr ⟨_, attempt⟩⟩

private theorem Turn.grown {client : Client σ} {catalog : Schema.Catalog} {path : Option Path}
    {registry extended : Registry} {descriptor : Descriptor} {session after : Session σ}
    {ending : Except Halt Unit}
    (turn : Turn client catalog path registry descriptor session extended ending after) :
    ∃ added, extended.records = registry.records ++ added ∧
      ∀ record ∈ added, record.name = descriptor.name := by
  cases turn with
  | skipped => exact ⟨[], (List.append_nil _).symm, fun _ member => by cases member⟩
  | halted => exact ⟨[], (List.append_nil _).symm, fun _ member => by cases member⟩
  | recorded _ _ attempt records =>
      refine ⟨_, records, fun record member => ?_⟩
      rw [List.mem_singleton.mp member]
      exact attempt.name_eq

theorem advance_grown (client : Client σ) (catalog : Schema.Catalog) (path : Option Path)
    (descriptors : List Descriptor) :
    ∀ (registry : Registry) (session : Session σ), ∃ transactions added,
      ((advance client catalog path registry descriptors).run session).2.sent =
          session.sent ++ transactions ∧
        ((advance client catalog path registry descriptors).run session).1.1.records =
          registry.records ++ added ∧
        ∀ record ∈ added, ∃ descriptor ∈ descriptors, record.name = descriptor.name := by
  induction descriptors with
  | nil =>
      intro registry session
      exact ⟨[], [], (List.append_nil _).symm, (List.append_nil _).symm,
        fun _ member => by cases member⟩
  | cons descriptor rest ih =>
      intro registry session
      obtain ⟨extended, ending, after, ran, turn⟩ :=
        step_turn client catalog path registry descriptor session
      obtain ⟨transactions, asked, _⟩ := turn.broadcasts
      obtain ⟨added, records, named⟩ := turn.grown
      cases ending with
      | error halt =>
          rw [advance_cons_error ran]
          refine ⟨transactions, added, asked.sent, records, fun record member => ?_⟩
          exact ⟨descriptor, List.mem_cons_self, named record member⟩
      | ok _ =>
          rw [advance_cons_ok ran]
          obtain ⟨more, others, sent, grown, namedRest⟩ := ih extended after
          refine ⟨transactions ++ more, added ++ others, ?_, ?_, ?_⟩
          · rw [sent, asked.sent, List.append_assoc]
          · rw [grown, records, List.append_assoc]
          · intro record member
            obtain here | later := List.mem_append.mp member
            · exact ⟨descriptor, List.mem_cons_self, named record here⟩
            · obtain ⟨other, among, same⟩ := namedRest record later
              exact ⟨other, List.mem_cons_of_mem _ among, same⟩

/-- Every transaction belongs to an attempt that is made when all contracts before it are done. -/
theorem advance_split (client : Client σ) (catalog : Schema.Catalog) (path : Option Path)
    (transaction : Transaction) (later : List Transaction) (descriptors : List Descriptor) :
    ∀ (registry : Registry) (session : Session σ) (earlier : List Transaction),
      ((advance client catalog path registry descriptors).run session).2.sent =
          session.sent ++ (earlier ++ transaction :: later) →
        ∃ before descriptor rest known middle first last answer,
          descriptors = before ++ descriptor :: rest ∧
          (advance client catalog path registry before).run session = ((known, .ok ()), middle) ∧
          middle.sent ++ first = session.sent ++ earlier ∧
          Attempt client.toSigner catalog known middle.files descriptor
            (client.exchanges middle.chain (first ++ transaction :: last)) answer := by
  induction descriptors with
  | nil =>
      intro registry session earlier sent
      have nothing : session.sent = session.sent ++ (earlier ++ transaction :: later) := sent
      simp at nothing
  | cons descriptor rest ih =>
      intro registry session earlier sent
      obtain ⟨extended, ending, after, ran, turn⟩ :=
        step_turn client catalog path registry descriptor session
      obtain ⟨transactions, asked, attempted⟩ := turn.broadcasts
      -- the turn of the first contract sent the transaction, or a later turn did
      have here : ∀ last, transactions = earlier ++ transaction :: last →
          ∃ before candidate rest' known middle first last answer,
            descriptor :: rest = before ++ candidate :: rest' ∧
            (advance client catalog path registry before).run session =
              ((known, .ok ()), middle) ∧
            middle.sent ++ first = session.sent ++ earlier ∧
            Attempt client.toSigner catalog known middle.files candidate
              (client.exchanges middle.chain (first ++ transaction :: last)) answer := by
        rintro last rfl
        obtain nothing | ⟨answer, attempt⟩ := attempted
        · simp at nothing
        · exact ⟨[], descriptor, rest, registry, session, earlier, last, answer, rfl, rfl, rfl,
            attempt⟩
      cases ending with
      | error halt =>
          rw [advance_cons_error ran, asked.sent] at sent
          exact here later (List.append_cancel_left sent)
      | ok _ =>
          rw [advance_cons_ok ran] at sent
          obtain ⟨more, _, sentRest, _⟩ := advance_grown client catalog path rest extended after
          have divided : transactions ++ more = earlier ++ transaction :: later := by
            rw [sentRest, asked.sent, List.append_assoc] at sent
            exact List.append_cancel_left sent
          have behind : ∀ skipped, earlier = transactions ++ skipped →
              ∃ before candidate rest' known middle first last answer,
                descriptor :: rest = before ++ candidate :: rest' ∧
                (advance client catalog path registry before).run session =
                  ((known, .ok ()), middle) ∧
                middle.sent ++ first = session.sent ++ earlier ∧
                Attempt client.toSigner catalog known middle.files candidate
                  (client.exchanges middle.chain (first ++ transaction :: last)) answer := by
            rintro skipped rfl
            have sentLater : ((advance client catalog path extended rest).run after).2.sent =
                after.sent ++ (skipped ++ transaction :: later) := by
              rw [sent, asked.sent, List.append_assoc, List.append_assoc]
            obtain ⟨before, candidate, rest', known, middle, first, last, answer, rfl, advanced,
              position, attempt⟩ := ih extended after skipped sentLater
            refine ⟨descriptor :: before, candidate, rest', known, middle, first, last, answer,
              rfl, ?_, ?_, attempt⟩
            · rw [advance_cons_ok ran, advanced]
            · rw [position, asked.sent, List.append_assoc]
          obtain ⟨skipped, first, _⟩ | ⟨remaining, first, rest⟩ :=
            List.append_eq_append_iff.mp divided
          · exact behind skipped first
          · cases remaining with
            | nil => exact behind [] (by rw [first, List.append_nil, List.append_nil])
            | cons head last =>
                rw [List.cons_append, List.cons.injEq] at rest
                obtain ⟨rfl, _⟩ := rest
                exact here last first

/-- The turn of a contract comes in a run: the contracts before it are done, and `known` is what is
recorded by then. -/
def TurnOf (client : Client σ) (catalog : Schema.Catalog) (path : Option Path)
    (registry : Registry) (descriptors : List Descriptor) (session : Session σ)
    (descriptor : Descriptor) (known : Registry) (middle : Session σ) : Prop :=
  ∃ before rest added,
    descriptors = before ++ descriptor :: rest ∧
      (advance client catalog path registry before).run session = ((known, .ok ()), middle) ∧
      known.records = registry.records ++ added ∧
      ∀ record ∈ added, ∃ earlier ∈ before, record.name = earlier.name

/-- Whatever a run sends was ready to be sent when the turn of its contract came. -/
theorem run_sends_ready (client : Client σ) (catalog : Schema.Catalog) (path : Option Path)
    (registry : Registry) (descriptors : List Descriptor) (session : Session σ)
    {earlier later : List Transaction} {transaction : Transaction}
    (sent : ((run client catalog path registry descriptors).run session).2.sent =
      session.sent ++ (earlier ++ transaction :: later)) :
    ∃ descriptor known middle message bytecode,
      TurnOf client catalog path registry descriptors session descriptor known middle ∧
        ready client.address catalog known middle.files descriptor = .ok (message, bytecode) ∧
        ((session.sent ++ earlier = middle.sent ∧
            transaction = storeOf client.address bytecode) ∨
          (session.sent ++ earlier = middle.sent ++ [storeOf client.address bytecode] ∧
            ∃ codeId request,
              instantiateMessage client.toSigner descriptor message codeId = .ok request ∧
                transaction = [request])) := by
  by_cases distinct : (descriptors.map (·.name.key)).Nodup
  · obtain ⟨_, quiet⟩ := run_of_distinct client catalog path registry session distinct
    rw [quiet.sent, List.append_nil] at sent
    obtain ⟨before, descriptor, rest, known, middle, first, last, answer, divided, advanced,
      position, attempt⟩ := advance_split client catalog path transaction later descriptors
        registry session earlier sent
    obtain ⟨_, added, _, grown, named⟩ := advance_grown client catalog path before registry session
    rw [advanced] at grown
    obtain ⟨message, bytecode, settled, ⟨rfl, stored⟩ | ⟨rfl, instantiated⟩⟩ :=
      attempt.split (Client.exchanges_transactions client middle.chain _)
    · refine ⟨descriptor, known, middle, message, bytecode,
        ⟨before, rest, added, divided, advanced, grown, named⟩, settled, .inl ⟨?_, stored⟩⟩
      rw [← position, List.append_nil]
    · exact ⟨descriptor, known, middle, message, bytecode,
        ⟨before, rest, added, divided, advanced, grown, named⟩, settled,
        .inr ⟨position.symm, instantiated⟩⟩
  · obtain ⟨name, _, halted⟩ := run_of_repeated client catalog path registry session distinct
    rw [halted] at sent
    simp at sent

/-- A run instantiates a contract with its finished message and right behind its code, and it
stores no code of a contract whose message cannot be finished. -/
theorem run_sends_finished (client : Client σ) (catalog : Schema.Catalog) (path : Option Path)
    (registry : Registry) (descriptors : List Descriptor) (session : Session σ)
    (earlier later : List Transaction) (transaction : Transaction)
    (sent : ((run client catalog path registry descriptors).run session).2.sent =
      session.sent ++ (earlier ++ transaction :: later)) :
    (∀ sender admin number message coins,
      .instantiate sender admin number message coins ∈ transaction →
        ∃ descriptor known middle bytecode codeId,
          TurnOf client catalog path registry descriptors session descriptor known middle ∧
            session.sent ++ earlier = middle.sent ++ [storeOf client.address bytecode] ∧
            readBytecode middle.files descriptor = .ok bytecode ∧
            instantiateMessage client.toSigner descriptor message codeId =
              .ok (.instantiate sender admin number message coins) ∧
            Finished client.address catalog known descriptor message) ∧
      ∀ sender code, .store sender code ∈ transaction →
        ∃ descriptor known middle bytecode message,
          TurnOf client catalog path registry descriptors session descriptor known middle ∧
            session.sent ++ earlier = middle.sent ∧
            readBytecode middle.files descriptor = .ok bytecode ∧
            transaction = storeOf client.address bytecode ∧
            Finished client.address catalog known descriptor message := by
  obtain ⟨descriptor, known, middle, message, bytecode, turn, settled, sending⟩ :=
    run_sends_ready client catalog path registry descriptors session sent
  have finished := finished_of_ready settled
  obtain ⟨_, _, read⟩ := ready_eq_ok_iff.mp settled
  constructor
  · intro sender admin number content coins member
    obtain ⟨_, rfl⟩ | ⟨position, codeId, request, built, rfl⟩ := sending
    · simp [storeOf] at member
    · obtain rfl := List.mem_singleton.mp member
      obtain ⟨_, _, _, _, shape⟩ := instantiateMessage_eq_ok built
      cases shape
      exact ⟨descriptor, known, middle, bytecode, codeId, turn, position, read, built, finished⟩
  · intro sender code member
    obtain ⟨position, stored⟩ | ⟨_, codeId, request, built, rfl⟩ := sending
    · exact ⟨descriptor, known, middle, bytecode, message, turn, position, read, stored, finished⟩
    · obtain ⟨_, _, _, _, rfl⟩ := instantiateMessage_eq_ok built
      simp at member

def hubOnly : Registry :=
  ⟨.null, [⟨.text "hub", .int 3, .text "terra1hub"⟩], List.nodup_singleton _⟩

/-- A contract that is owned by the deployer and told of the one that is recorded. -/
def vault : Descriptor where
  name := .text "vault"
  bytecode := ⟨"/", ["vault.wasm"]⟩
  message := .object
    [("owner", .placeholder), ("peers", .tuple [.reference ⟨"hub", .address⟩])]
  admin := .null
  coins := .null
  schema := .null

def vaultMessage : Value :=
  .object [("owner", .text "deployer"), ("peers", .list [.text "terra1hub"])]

def storesOnce : Client (List CommandLine.ChainAnswer) :=
  CommandLine.Rehearsal.client ⟨"deployer", "", .failed "", []⟩

def vaultSession : Session (List CommandLine.ChainAnswer) :=
  .start [.ok { Outcome.plain false with codeId := .int 7 }]
    ⟨⟨"/", []⟩, [(⟨"/", ["vault.wasm"]⟩, .octets [0])]⟩ ""

theorem vault_instantiated_with_finished_message :
    ((run storesOnce ⟨"terra", []⟩ none hubOnly [vault]).run vaultSession).2.sent =
        [storeOf "deployer" [0], [.instantiate "deployer" (.text "deployer") 7 vaultMessage []]] ∧
      ∃ descriptor known middle,
        TurnOf storesOnce ⟨"terra", []⟩ none hubOnly [vault] vaultSession descriptor known middle ∧
          Finished "deployer" ⟨"terra", []⟩ known descriptor vaultMessage := by
  refine ⟨rfl, ?_⟩
  obtain ⟨descriptor, known, middle, _, _, turn, _, _, _, finished⟩ :=
    (run_sends_finished storesOnce ⟨"terra", []⟩ none hubOnly [vault] vaultSession
      [storeOf "deployer" [0]] [] _ rfl).1 _ _ _ _ _ (List.mem_singleton_self _)
  exact ⟨descriptor, known, middle, turn, finished⟩

end Rollout.Deployment
