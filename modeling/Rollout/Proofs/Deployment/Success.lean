import Rollout.Proofs.Deployment.Resaving
import Rollout.Proofs.Deployment.Single
import Rollout.Proofs.Deployment.Updates
import Rollout.Proofs.Plan.Completion
import Rollout.Proofs.Schema.Suiting

/-!
# Successful deployments

A client that refuses nothing, files that have the code of every contract, and contracts of which
each can be deployed behind those before it: such a run completes, whatever of it was recorded when
it began, and updates that are fit are all carried out.
-/

set_option autoImplicit false

namespace Rollout

open Rollout.Chain

variable {σ : Type}

namespace Deployment

/-- A client with an address of the network to which no transaction is refused, not for want of coins
either. Code gets an integer for its code id and a contract an address of the network. -/
structure Obliging (account : String) (client : Client σ) : Prop where
  address : Wire.isAddress account client.address = true
  coins : ∃ coins, client.readCoins (.object []) = .ok coins
  succeeds : ∀ transaction chain, ∃ outcome,
    (client.broadcast transaction chain).1 = .ok outcome ∧ outcome.isError = false
  numbers : ∀ sender code chain outcome,
    (client.broadcast [.store sender code] chain).1 = .ok outcome →
      ∃ number : Int, outcome.codeId = .int number
  places : ∀ sender admin number message coins chain outcome,
    (client.broadcast [.instantiate sender admin number message coins] chain).1 = .ok outcome →
      assigns account outcome

/-- Files that serve a run: the code of the contracts can be read, and where the registry is to be
kept in a file it can be, any time that it can be written at all, and the files still serve. -/
def Serves (path : Option Path) (descriptors : List Descriptor) (files : Files) : Prop :=
  ∃ sound : Files → Prop, sound files ∧ ∀ files, sound files →
    (∀ descriptor ∈ descriptors, ∃ code, readBytecode files descriptor = .ok code) ∧
      ∀ place, path = some place → ∀ (registry : Registry) (clock : String), registry.Writable →
        ∃ after, (registry.save place clock).run.run files = (.ok (), after) ∧ sound after

/-- A registry is kept in no file, or it can be written and still can be with the code ids that the
client gives. -/
def Keepable (client : Client σ) (path : Option Path) (registry : Registry) : Prop :=
  path = none ∨ registry.Writable ∧ ∀ sender code chain outcome,
    (client.broadcast [.store sender code] chain).1 = .ok outcome → outcome.codeId.Quotable

/-- A contract that can be deployed behind others: it refers to no others, and once they are
recorded its message can be filled so that it conforms to its schema, whoever signs. It gets no
coins. -/
structure Deployable (catalog : Schema.Catalog) (before : List Descriptor)
    (descriptor : Descriptor) : Prop where
  references : ∀ reference ∈ descriptor.message.references,
    ∃ earlier ∈ before, earlier.name.key = .text reference.name
  message : ∀ (address : String) (registry : Registry),
    Wire.isAddress catalog.account address = true → registry.Addressed catalog.account →
    (∀ earlier ∈ before, registry.contains earlier.name = true) →
      ∃ message, Template.Fills registry.records (some address) descriptor.message message ∧
        catalog.validate .instantiate descriptor.schemaName message = .ok ()
  coins : descriptor.coins.orElse (.object []) = .object []

/-- Contracts of which each can be deployed behind those before it. -/
inductive Sequence (catalog : Schema.Catalog) : List Descriptor → List Descriptor → Prop where
  | nil {before : List Descriptor} : Sequence catalog before []
  | cons {before rest : List Descriptor} {descriptor : Descriptor} :
      Deployable catalog before descriptor → Sequence catalog (before ++ [descriptor]) rest →
      Sequence catalog before (descriptor :: rest)

section

variable {path : Option Path} {descriptors rest : List Descriptor} {descriptor : Descriptor}
  {files : Files}

private theorem Serves.code (serves : Serves path descriptors files)
    (member : descriptor ∈ descriptors) :
    ∃ code, readBytecode files descriptor = .ok code := by
  obtain ⟨sound, here, each⟩ := serves
  exact (each files here).1 descriptor member

private theorem Serves.saved {place : Path} (serves : Serves (some place) descriptors files)
    {registry : Registry} (writable : registry.Writable) (clock : String) :
    ∃ after, (registry.save place clock).run.run files = (.ok (), after) ∧
      Serves (some place) descriptors after := by
  obtain ⟨sound, here, each⟩ := serves
  obtain ⟨after, saved, there⟩ := (each files here).2 place rfl registry clock writable
  exact ⟨after, saved, sound, there, each⟩

theorem Serves.tail (serves : Serves path (descriptor :: rest) files) : Serves path rest files := by
  obtain ⟨sound, here, each⟩ := serves
  refine ⟨sound, here, fun files still => ?_⟩
  obtain ⟨code, kept⟩ := each files still
  exact ⟨fun other member => code other (List.mem_cons_of_mem _ member), kept⟩

/-- A registry may be kept where it can be saved once, and where that leaves the code as it is. -/
theorem serves_of_keepsCode (keeps : KeepsCode path descriptors files)
    (code : ∀ descriptor ∈ descriptors, ∃ code, readBytecode files descriptor = .ok code)
    (saves : ∀ registry : Registry, registry.Writable → Saves path registry files) :
    Serves path descriptors files := by
  refine ⟨files.Resaved path, .refl, fun now resaved => ⟨?_, ?_⟩⟩
  · intro descriptor member
    obtain ⟨content, read⟩ := code descriptor member
    exact ⟨content, (keeps now resaved descriptor member).trans read⟩
  · rintro place rfl registry clock writable
    obtain ⟨after, saved⟩ := ((saves registry writable).resaved resaved).save clock
    exact ⟨after, saved, .saved rfl resaved saved⟩

/-- Where the registry is not kept in a file, nothing is asked of the files but the code. -/
theorem serves_none_iff :
    Serves none descriptors files ↔
      ∀ descriptor ∈ descriptors, ∃ code, readBytecode files descriptor = .ok code := by
  constructor
  · intro serves descriptor member
    exact serves.code member
  · intro code
    exact serves_of_keepsCode (keepsCode_none descriptors files) code fun _ _ _ kept => nomatch kept

/-- A registry may be kept in a file that is apart from the code. -/
theorem serves_of_apart {place target : Path}
    (apart : Files.Apart files place target (descriptors.map (·.bytecode)))
    (code : ∀ descriptor ∈ descriptors, ∃ code, readBytecode files descriptor = .ok code) :
    Serves (some place) descriptors files := by
  refine serves_of_keepsCode (keepsCode_of_apart apart) code ?_
  rintro registry writable _ ⟨⟩
  exact ⟨writable, .text "", _,
    Files.install_of_isDirectory apart.parent apart.located apart.free⟩

end

section

variable {client : Client σ} {catalog : Schema.Catalog} {path : Option Path}
  {registry extended : Registry} {before rest : List Descriptor} {descriptor : Descriptor}

private theorem Obliging.compliant {account : String} (obliging : Obliging account client) :
    Compliant account client :=
  ⟨obliging.succeeds, obliging.numbers, obliging.places⟩

private theorem Attempt.recorded {chain : σ} {files : Files} {transactions : List Transaction}
    {answer : Except Fault Record} {message : Value} {code : List UInt8}
    (obliging : Obliging catalog.account client)
    (settled : ready client.address catalog registry files descriptor = .ok (message, code))
    (coins : descriptor.coins.orElse (.object []) = .object [])
    (attempt : Attempt client.toSigner catalog registry files descriptor
      (client.exchanges chain transactions) answer) :
    ∃ record, answer = .ok record ∧
      Schema.Kind.address.check catalog.account record.address = .ok none := by
  rcases attempt.of_complies settled obliging.compliant.complies with
    ⟨_, record, _, same, placed⟩ | ⟨_, unread, _⟩
  · exact ⟨record, same, placed⟩
  · obtain ⟨_, read⟩ := obliging.coins
    rw [coinsOf, coins] at unread
    cases read.symm.trans unread

/-- What is recorded of a contract can be written if its code id and its address can be. -/
theorem Keepable.append {chain : σ} {files : Files} {transactions : List Transaction}
    {record : Record} (keepable : Keepable client path registry)
    (attempt : Attempt client.toSigner catalog registry files descriptor
      (client.exchanges chain transactions) (.ok record))
    (placed : Schema.Kind.address.check catalog.account record.address = .ok none)
    (records : extended.records = registry.records ++ [record])
    (chainId : extended.chainId = registry.chainId) : Keepable client path extended := by
  rcases keepable with kept | ⟨writable, numbers⟩
  · exact .inl kept
  refine .inr ⟨⟨chainId ▸ writable.chainId, fun other member => ?_⟩, numbers⟩
  rw [records, List.mem_append, List.mem_singleton] at member
  rcases member with old | rfl
  · exact writable.records other old
  · obtain ⟨text, _, same, _⟩ := (Schema.Kind.check_eq_none_iff_divides (.inl rfl)).mp placed
    refine ⟨?_, same ▸ trivial⟩
    generalize asked : client.exchanges chain transactions = exchanges at attempt
    cases attempt with
    | deployed =>
        obtain ⟨_, answered⟩ :=
          Client.broadcast_of_mem_exchanges (asked ▸ List.mem_cons_self)
        exact numbers _ _ _ _ answered

private theorem step_succeeds (obliging : Obliging catalog.account client)
    (deployable : Deployable catalog before descriptor) {session : Session σ}
    (addressed : registry.Addressed catalog.account)
    (recorded : ∀ earlier ∈ before, registry.contains earlier.name = true)
    (serves : Serves path (descriptor :: rest) session.files)
    (keepable : Keepable client path registry) :
    ∃ extended middle,
      (step client catalog path registry descriptor).run session = ((extended, .ok ()), middle) ∧
        extended.Addressed catalog.account ∧ Serves path rest middle.files ∧
        Keepable client path extended := by
  obtain ⟨message, fills, valid⟩ :=
    deployable.message client.address registry obliging.address addressed recorded
  obtain ⟨code, found⟩ := serves.code List.mem_cons_self
  have settled : ready client.address catalog registry session.files descriptor =
      .ok (message, code) :=
    ready_eq_ok_iff.mpr ⟨Template.resolve_eq_ok_iff.mpr fills, valid, found⟩
  obtain ⟨extended, ending, after, stepped, turn⟩ :=
    step_turn client catalog path registry descriptor session
  cases turn with
  | skipped _ quiet =>
      exact ⟨registry, after, stepped, addressed, quiet.files ▸ serves.tail, keepable⟩
  | halted _ _ attempt =>
      obtain ⟨_, impossible, _⟩ := attempt.recorded obliging settled deployable.coins
      cases impossible
  | recorded _ sends attempt records chainId keeping =>
      obtain ⟨_, same, placed⟩ := attempt.recorded obliging settled deployable.coins
      cases same
      have stays := keepable.append attempt placed records chainId
      have still := addressed.append placed records
      have left := serves.tail
      rw [← sends.files] at left
      cases keeping with
      | unasked => exact ⟨extended, after, stepped, still, left, stays⟩
      | saved written =>
          obtain ⟨⟨⟩⟩ | ⟨writable, numbers⟩ := stays
          obtain ⟨_, saved, kept⟩ := left.saved writable _
          cases saved.symm.trans written
          exact ⟨extended, _, stepped, still, kept, .inr ⟨writable, numbers⟩⟩
      | failed unwritten =>
          obtain ⟨⟨⟩⟩ | ⟨writable, _⟩ := stays
          obtain ⟨_, saved, _⟩ := left.saved writable _
          cases saved.symm.trans unwritten

/-- By induction on the contracts that are left: those before them are recorded, and wherever a
record came from it gives an address. -/
theorem advance_succeeds (obliging : Obliging catalog.account client) {todo : List Descriptor}
    (sequence : Sequence catalog before todo) :
    ∀ (registry : Registry) (session : Session σ), registry.Addressed catalog.account →
      (∀ earlier ∈ before, registry.contains earlier.name = true) →
      Serves path todo session.files → Keepable client path registry →
      ∃ final after,
        (advance client catalog path registry todo).run session = ((final, .ok ()), after) ∧
          final.Addressed catalog.account := by
  induction sequence with
  | nil =>
      intro registry session addressed _ _ _
      exact ⟨registry, session, rfl, addressed⟩
  | @cons before rest descriptor deployable _ ih =>
      intro registry session addressed recorded serves keepable
      obtain ⟨extended, middle, stepped, still, left, stays⟩ :=
        step_succeeds obliging deployable addressed recorded serves keepable
      have alone : (advance client catalog path registry [descriptor]).run session =
          ((extended, .ok ()), middle) := by rw [advance_cons_ok stepped]; rfl
      rw [advance_cons_ok stepped]
      refine ih extended middle still ?_ left stays
      intro earlier member
      rw [advance_contains_iff alone]
      rcases List.mem_append.mp member with old | new
      · exact .inl (recorded earlier old)
      · obtain rfl := List.mem_singleton.mp new
        exact .inr ⟨earlier, List.mem_cons_self, rfl⟩

/-- A run completes and has all its contracts recorded, besides what was recorded when it began. -/
theorem run_succeeds (obliging : Obliging catalog.account client) {descriptors : List Descriptor}
    (sequence : Sequence catalog [] descriptors)
    (distinct : (descriptors.map (·.name.key)).Nodup) (session : Session σ)
    (addressed : registry.Addressed catalog.account)
    (serves : Serves path descriptors session.files)
    (keepable : Keepable client path registry) :
    ∃ final after,
      (run client catalog path registry descriptors).run session = ((final, .ok ()), after) ∧
        registry.records <+: final.records ∧ final.Addressed catalog.account ∧
        ∀ descriptor ∈ descriptors, final.contains descriptor.name = true := by
  obtain ⟨final, after, advanced, still⟩ :=
    advance_succeeds obliging sequence registry session addressed
      (fun _ absurdly => absurd absurdly List.not_mem_nil) serves keepable
  obtain ⟨outcome, _⟩ := run_of_distinct client catalog path registry session distinct
  obtain ⟨_, added, _, grown, _⟩ := advance_course client catalog path registry.contains descriptors
    registry session distinct fun _ _ => rfl
  rw [advanced] at outcome grown
  refine ⟨final, ((run client catalog path registry descriptors).run session).2, ?_, ?_, still, ?_⟩
  · exact Prod.ext outcome rfl
  · exact ⟨added, grown.symm⟩
  · intro descriptor member
    exact (advance_contains_iff advanced _).mpr (.inr ⟨descriptor, member, rfl⟩)

theorem Sequence.checkFrom {todo : List Descriptor} {available : List Scalar}
    (sequence : Sequence catalog before todo)
    (done : ∀ earlier ∈ before, earlier.name.key ∈ available) :
    Plan.checkFrom available todo = .ok () := by
  induction sequence generalizing available with
  | nil => rfl
  | @cons before rest descriptor deployable _ ih =>
      have complete : Plan.checkReferences available descriptor.name
          descriptor.message.references = .ok () := by
        rw [Plan.checkReferences_eq]
        split
        · next missing found =>
            obtain ⟨earlier, member, same⟩ :=
              deployable.references missing (List.mem_of_find?_eq_some found)
            have absent := List.find?_some found
            have present := done earlier member
            rw [same] at present
            simp [present] at absent
        · rfl
      rw [Plan.checkFrom, complete]
      refine ih ?_
      intro earlier member
      rcases List.mem_append.mp member with old | new
      · exact List.mem_cons_of_mem _ (done earlier old)
      · obtain rfl := List.mem_singleton.mp new
        exact List.mem_cons_self

end

section

variable {client : Client σ} {catalog : Schema.Catalog} {registry : Registry}
  {update : ConfigUpdate} {updates : List ConfigUpdate}

private theorem Ready.executes_eq {sender : String} {record : Record} {message : Value}
    {transaction : Transaction} (ready : Ready catalog registry update record message)
    (executes : Executes sender catalog registry update transaction) :
    transaction = [.execute sender record.address message] := by
  obtain ⟨other, found, again, rfl⟩ := executes
  obtain ⟨name, targets, recorded⟩ := ready.target
  obtain ⟨name', targetsAgain, recordedAgain⟩ := again.target
  obtain rfl : name = name' := by
    rw [targets] at targetsAgain
    cases targetsAgain
    rfl
  have first := Registry.find?_eq_some_iff.mpr recorded
  have second := Registry.find?_eq_some_iff.mpr recordedAgain
  rw [first] at second
  cases second
  rw [again.filled.unique ready.filled]

private theorem Obliging.noted {account : String} (obliging : Obliging account client)
    {transactions : List Transaction} {chain : σ} {outcomes : List Outcome}
    (noted : List.Forall₂ Noted ((client.exchanges chain transactions).map (·.answer)) outcomes) :
    ∀ outcome ∈ outcomes, outcome.isError = false := by
  have succeeded : ∀ exchange ∈ client.exchanges chain transactions, exchange.succeeded = true :=
    fun exchange member => (obliging.compliant.complies exchange member).succeeds
  exact (Computation.forall_mem_iff (List.forall₂_map_left_iff.mp noted)
    fun _ _ => Noted.succeeded_iff).mp succeeded

private theorem executed_eq {sender : String} {sent : List (Record × Value)}
    {transactions : List Transaction}
    (ready : List.Forall₂ (fun update each => Ready catalog registry update each.1 each.2) updates
      sent)
    (executed : List.Forall₂ (Executes sender catalog registry) updates transactions) :
    transactions = sent.map fun each => [.execute sender each.1.address each.2] := by
  induction ready generalizing transactions with
  | nil =>
      cases executed
      rfl
  | cons here _ ih =>
      cases executed with
      | cons first others => rw [List.map_cons, here.executes_eq first, ih others]

/-- Updates that are ready are carried out, each in its own transaction and none in vain. -/
theorem configure_succeeds {account : String} (obliging : Obliging account client)
    (objects : ∀ update ∈ updates, ∃ fields, update.message = .object fields)
    {sent : List (Record × Value)}
    (ready : List.Forall₂ (fun update each => Ready catalog registry update each.1 each.2) updates
      sent) (session : Session σ) :
    ∃ results,
      Action.Conducts client (configure client catalog registry updates) session
          (sent.map fun each => [.execute client.address each.1.address each.2]) (.ok results) ∧
        requireSuccess results = .ok () := by
  have fit : ∀ update ∈ updates, Fit catalog registry update := by
    intro update member
    obtain ⟨_, here⟩ := Computation.exists_of_mem_left ready update member
    exact ⟨_, _, here⟩
  obtain ⟨transactions, results, conducts, executed, _, noted⟩ :=
    configure_sent client session
      (fun update member => callable_of_object (objects update member) (fit update member)) fit
  refine ⟨results, executed_eq ready executed ▸ conducts, ?_⟩
  have none : failures results = [] := by
    refine List.filter_eq_nil_iff.mpr fun result member => ?_
    have kept := obliging.noted noted _ (List.mem_map_of_mem member)
    simp [kept]
  rw [requireSuccess, none]

end

end Deployment

end Rollout
