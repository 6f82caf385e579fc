import Rollout.Proofs.Deployment.Turn

/-!
# Courses of runs

What a run exchanges with its client, contract by contract, and what it records. Recorded contracts
are passed over; for each other one code is stored and a contract instantiated from it, and the
first failure is the last thing that happens.
-/

set_option autoImplicit false

namespace Rollout.Deployment

open Rollout.Chain

variable {σ : Type}

/-- The exchanges for one contract, and its record if there is one. Instantiation follows only a
store that was no error and uses its code id; a record is made exactly of two successes of which
the second gives an address of the network. -/
inductive Traffic (account : String) (name : Scalar) : List Exchange → Option Record → Prop where
  | silent : Traffic account name [] none
  | storeAlone {sender bytecode : String} {answer : Except Failure Outcome} :
      Traffic account name [⟨[.store sender bytecode], answer⟩] none
  | unrecorded {sender bytecode : String} {stored : Outcome} {admin message : Value}
      {number : Int} {coins : Coins} {answer : Except Failure Outcome} :
      stored.isError = false → stored.codeId.toInteger = .ok number →
      (∀ outcome, answer = .ok outcome → outcome.isError = true ∨ ¬ assigns account outcome) →
      Traffic account name
        [⟨[.store sender bytecode], .ok stored⟩,
          ⟨[.instantiate sender admin number message coins], answer⟩] none
  | recorded {sender bytecode : String} {stored outcome : Outcome} {admin message : Value}
      {number : Int} {coins : Coins} :
      stored.isError = false → stored.codeId.toInteger = .ok number →
      outcome.isError = false → assigns account outcome →
      Traffic account name
        [⟨[.store sender bytecode], .ok stored⟩,
          ⟨[.instantiate sender admin number message coins], .ok outcome⟩]
        (some ⟨name, stored.codeId, outcome.contractAddress⟩)

/-- The exchanges of a run over contracts in order, the records it makes, and its ending. Nothing
comes behind a contract that is not recorded, nor behind a registry that cannot be kept. -/
inductive Course (account : String) (path : Option Path) (recorded : Scalar → Bool) :
    List Descriptor → List Exchange → List Record → Except Halt Unit → Prop where
  | complete : Course account path recorded [] [] [] (.ok ())
  | skipped {descriptor : Descriptor} {rest : List Descriptor} {exchanges : List Exchange}
      {added : List Record} {ending : Except Halt Unit} :
      recorded descriptor.name = true →
      Course account path recorded rest exchanges added ending →
      Course account path recorded (descriptor :: rest) exchanges added ending
  | deployed {descriptor : Descriptor} {rest : List Descriptor} {first others : List Exchange}
      {record : Record} {added : List Record} {ending : Except Halt Unit} :
      recorded descriptor.name = false →
      Traffic account descriptor.name first (some record) →
      Course account path recorded rest others added ending →
      Course account path recorded (descriptor :: rest) (first ++ others) (record :: added) ending
  | halted {descriptor : Descriptor} {rest : List Descriptor} {exchanges : List Exchange}
      {halt : Halt} :
      recorded descriptor.name = false →
      Traffic account descriptor.name exchanges none →
      Course account path recorded (descriptor :: rest) exchanges [] (.error halt)
  | unkept {descriptor : Descriptor} {rest : List Descriptor} {exchanges : List Exchange}
      {record : Record} {fault : FileFault} :
      recorded descriptor.name = false → path.isSome = true →
      Traffic account descriptor.name exchanges (some record) →
      Course account path recorded (descriptor :: rest) exchanges [record]
        (.error (.bare (.file fault)))

theorem Attempt.traffic {signer : Signer} {catalog : Schema.Catalog} {registry : Registry}
    {files : Files} {descriptor : Descriptor} {exchanges : List Exchange}
    {answer : Except Fault Record}
    (attempt : Attempt signer catalog registry files descriptor exchanges answer) :
    Traffic catalog.account descriptor.name exchanges answer.toOption := by
  cases attempt with
  | unready => exact .silent
  | storeLost => exact .storeAlone
  | storeRejected => exact .storeAlone
  | unbuilt => exact .storeAlone
  | instantiateLost _ kept built =>
      obtain ⟨number, coins, read, _, rfl⟩ := instantiateMessage_eq_ok built
      exact .unrecorded kept read fun outcome answered => by cases answered
  | instantiateRejected _ kept built rejected =>
      obtain ⟨number, coins, read, _, rfl⟩ := instantiateMessage_eq_ok built
      refine .unrecorded kept read fun outcome answered => ?_
      cases answered
      exact .inl rejected
  | addressless _ kept built _ refused =>
      obtain ⟨number, coins, read, _, rfl⟩ := instantiateMessage_eq_ok built
      refine .unrecorded kept read fun outcome answered => .inr ?_
      cases answered
      exact not_assigns_of_error refused
  | deployed _ kept built accepted assigned =>
      obtain ⟨number, coins, read, _, rfl⟩ := instantiateMessage_eq_ok built
      exact .recorded kept read accepted assigned

/-- The record of a contract makes none of those behind it known. -/
theorem contains_extended {registry extended : Registry} {record : Record}
    {descriptor : Descriptor} {rest : List Descriptor}
    (distinct : ((descriptor :: rest).map (·.name.key)).Nodup)
    (records : extended.records = registry.records ++ [record])
    (named : record.name = descriptor.name) :
    ∀ other ∈ rest, extended.contains other.name = registry.contains other.name := by
  intro other member
  have fresh := (List.nodup_cons.mp distinct).1
  have differs : record.name.sameName other.name = false := by
    rw [Bool.eq_false_iff, ne_eq, Scalar.sameName_iff, named]
    exact fun same => fresh (List.mem_map.mpr ⟨other, member, same.symm⟩)
  simp [Registry.contains, Registry.find?, records, List.find?_append, differs]

/-- Contracts with distinct names make a course, whatever the registry already holds. -/
theorem advance_course (client : Client σ) (catalog : Schema.Catalog) (path : Option Path)
    (recorded : Scalar → Bool) (descriptors : List Descriptor) :
    ∀ (registry : Registry) (session : Session σ),
      (descriptors.map (·.name.key)).Nodup →
      (∀ descriptor ∈ descriptors,
        registry.contains descriptor.name = recorded descriptor.name) →
      ∃ transactions added,
        Session.Broadcasts client transactions session
            ((advance client catalog path registry descriptors).run session).2 ∧
          ((advance client catalog path registry descriptors).run session).1.1.records =
            registry.records ++ added ∧
          ((advance client catalog path registry descriptors).run session).1.1.chainId =
            registry.chainId ∧
          Course catalog.account path recorded descriptors
            (client.exchanges session.chain transactions) added
            ((advance client catalog path registry descriptors).run session).1.2 := by
  induction descriptors with
  | nil =>
      intro registry session _ _
      exact ⟨[], [], ⟨rfl, (List.append_nil _).symm⟩, (List.append_nil _).symm, rfl, .complete⟩
  | cons descriptor rest ih =>
      intro registry session distinct agrees
      have distinctRest := (List.nodup_cons.mp distinct).2
      have agreesHere := agrees descriptor List.mem_cons_self
      have agreesRest : ∀ other ∈ rest, registry.contains other.name = recorded other.name :=
        fun other member => agrees other (List.mem_cons_of_mem _ member)
      obtain ⟨extended, ending, after, ran, turn⟩ :=
        step_turn client catalog path registry descriptor session
      cases turn with
      | skipped present quiet =>
          rw [advance_cons_ok ran]
          obtain ⟨transactions, added, asked, grown, kept, course⟩ :=
            ih _ after distinctRest agreesRest
          refine ⟨transactions, added, quiet.toBroadcasts.trans asked, grown, kept, ?_⟩
          have chain : after.chain = session.chain := quiet.chain
          rw [chain] at course
          exact .skipped (agreesHere.symm.trans present) course
      | halted absent sends attempt =>
          rw [advance_cons_error ran]
          exact ⟨_, [], sends.toBroadcasts, (List.append_nil _).symm, rfl,
            .halted (agreesHere.symm.trans absent) attempt.traffic⟩
      | recorded absent sends attempt records chainId keeping =>
          rename_i record middle
          have asked := sends.toBroadcasts.trans (keeping.broadcasts client)
          rw [List.append_nil] at asked
          obtain rfl | ⟨fault, given, rfl⟩ := keeping.ending_eq
          · rw [advance_cons_ok ran]
            have agreesNow : ∀ other ∈ rest,
                extended.contains other.name = recorded other.name := by
              intro other member
              rw [← agreesRest other member]
              exact contains_extended distinct records attempt.name_eq other member
            obtain ⟨transactions, added, askedRest, grown, kept, course⟩ :=
              ih extended after distinctRest agreesNow
            refine ⟨_, record :: added, asked.trans askedRest, ?_, kept.trans chainId, ?_⟩
            · rw [grown, records, List.append_assoc, List.singleton_append]
            · rw [asked.exchanges_append]
              exact .deployed (agreesHere.symm.trans absent) attempt.traffic course
          · rw [advance_cons_error ran]
            exact ⟨_, [record], asked, records, chainId,
              .unkept (agreesHere.symm.trans absent) given attempt.traffic⟩

/-- A resumable halt hands out the very registry that the run got to. -/
theorem advance_resumable (client : Client σ) (catalog : Schema.Catalog) (path : Option Path)
    (descriptors : List Descriptor) :
    ∀ (registry : Registry) (session : Session σ) (fault : Fault) (contract : Scalar)
      (held : Registry),
      ((advance client catalog path registry descriptors).run session).1.2 =
        .error (.resumable fault contract held) →
      held = ((advance client catalog path registry descriptors).run session).1.1 := by
  induction descriptors with
  | nil =>
      intro registry session fault contract held halted
      cases halted
  | cons descriptor rest ih =>
      intro registry session fault contract held halted
      obtain ⟨extended, ending, after, ran, turn⟩ :=
        step_turn client catalog path registry descriptor session
      cases ending with
      | ok _ =>
          rw [advance_cons_ok ran] at halted ⊢
          exact ih extended after fault contract held halted
      | error halt =>
          rw [advance_cons_error ran] at halted ⊢
          dsimp only at halted
          cases halted
          cases turn with
          | halted => rfl
          | recorded _ _ _ _ _ keeping =>
              obtain impossible | ⟨_, _, impossible⟩ := keeping.ending_eq <;> cases impossible

/-- A run follows its course: the starting records stay in place, and behind them comes one record
for each contract that was stored and instantiated, in the order of the contracts. -/
theorem run_follows_course (client : Client σ) (catalog : Schema.Catalog) (path : Option Path)
    (registry : Registry) (descriptors : List Descriptor) (session : Session σ) :
    ∃ transactions added,
      let finished := (run client catalog path registry descriptors).run session
      finished.2.sent = session.sent ++ transactions ∧
        finished.1.1.records = registry.records ++ added ∧
        finished.1.1.chainId = registry.chainId ∧
        (∀ fault contract held,
          finished.1.2 = .error (.resumable fault contract held) → held = finished.1.1) ∧
        if (descriptors.map (·.name.key)).Nodup then
          Course catalog.account path registry.contains descriptors
            (client.exchanges session.chain transactions) added finished.1.2
        else
          transactions = [] ∧ added = [] ∧ ∃ name ∈ descriptors.map (·.name),
            finished.1.2 = .error (.bare (.duplicateContract name)) := by
  by_cases distinct : (descriptors.map (·.name.key)).Nodup
  · obtain ⟨outcome, quiet⟩ :=
      run_of_distinct client catalog path registry session distinct
    obtain ⟨transactions, added, asked, grown, kept, course⟩ :=
      advance_course client catalog path registry.contains descriptors registry session distinct
        fun _ _ => rfl
    have sent := (asked.trans quiet.toBroadcasts).sent
    rw [List.append_nil] at sent
    refine ⟨transactions, added, sent, ?_⟩
    simp only [if_pos distinct, outcome]
    exact ⟨grown, kept, advance_resumable client catalog path descriptors registry session, course⟩
  · obtain ⟨name, member, halted⟩ :=
      run_of_repeated client catalog path registry session distinct
    refine ⟨[], [], ?_⟩
    simp only [if_neg distinct, halted]
    refine ⟨(List.append_nil _).symm, (List.append_nil _).symm, trivial, ?_, trivial, trivial,
      name, member, rfl⟩
    intro fault contract held impossible
    cases impossible

end Rollout.Deployment
