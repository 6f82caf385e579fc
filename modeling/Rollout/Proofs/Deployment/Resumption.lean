import Rollout.CommandLine.Rehearsal
import Rollout.Proofs.Deployment.Building

/-!
# Resumed runs

Halting and resuming come to the same as not halting. Each run takes up where the one before
halted, since what is recorded is skipped and what is not is resolved from the same records. A
registry may be handed on in memory or by its file.
-/

set_option autoImplicit false

namespace Rollout.Deployment

open Rollout.Chain

variable {σ τ : Type}

/-- Whenever a run gets to a contract, the code of the contract is that of the artifacts. -/
def ReadsFrom (artifacts : Files) (client : Client σ) (catalog : Schema.Catalog)
    (path : Option Path) (registry : Registry) (descriptors : List Descriptor)
    (session : Session σ) : Prop :=
  ∀ before descriptor rest known middle, descriptors = before ++ descriptor :: rest →
    (advance client catalog path registry before).run session = ((known, .ok ()), middle) →
    readBytecode middle.files descriptor = readBytecode artifacts descriptor

/-- Whenever a run gets to a contract, something holds of the contract, of the registry that it is
deployed from and of the session. -/
def EachTurn (client : Client σ) (catalog : Schema.Catalog) (path : Option Path)
    (registry : Registry) (descriptors : List Descriptor) (session : Session σ)
    (met : Descriptor → Registry → Session σ → Prop) : Prop :=
  ∀ before descriptor rest known middle, descriptors = before ++ descriptor :: rest →
    (advance client catalog path registry before).run session = ((known, .ok ()), middle) →
    met descriptor known middle

/-- One of several runs: its client, where it keeps the registry, and what it starts from. -/
structure Sitting (σ : Type) where
  client : Client σ
  path : Option Path
  registry : Registry
  session : Session σ

namespace Sitting

variable (catalog : Schema.Catalog) (descriptors : List Descriptor) (sitting : Sitting σ)

def finished : (Registry × Except Halt Unit) × Session σ :=
  (run sitting.client catalog sitting.path sitting.registry descriptors).run sitting.session

def exchanges : List Exchange :=
  sitting.client.exchanges sitting.session.chain
    ((sitting.finished catalog descriptors).2.sent.drop sitting.session.sent.length)

/-- A run for a deployer, with the code of the artifacts and integers for code ids. -/
structure Faithful (signer : Signer) (artifacts : Files) : Prop where
  deployer : sitting.client.toSigner = signer
  artifacts : ReadsFrom artifacts sitting.client catalog sitting.path sitting.registry descriptors
    sitting.session
  numbered : Numbered (sitting.exchanges catalog descriptors)

/-- A run leaves a registry behind, in memory and in the file that it keeps it in. A run that
records nothing writes no file: the registry is there only if it was there before, and otherwise it
is still the one in memory that goes on. -/
inductive Leaves : Registry → Prop where
  | inMemory : Leaves (sitting.finished catalog descriptors).1.1
  | reloaded {path : Path} {loaded : Registry} :
      sitting.path = some path →
      Registry.load (sitting.finished catalog descriptors).2.files path = .ok loaded →
      ((sitting.finished catalog descriptors).1.1.records = sitting.registry.records →
        Registry.load sitting.session.files path = .ok sitting.registry) →
      Leaves loaded

end Sitting

def successes (catalog : Schema.Catalog) (descriptors : List Descriptor)
    (sittings : List (Sitting σ)) : List Exchange :=
  sittings.flatMap fun sitting => landed catalog.account (sitting.exchanges catalog descriptors)

/-- Runs one after another from a registry to a final one: each but the last halts at a contract and
leaves its registry to the next, and the last completes. -/
inductive Resumed (signer : Signer) (catalog : Schema.Catalog) (artifacts : Files)
    (descriptors : List Descriptor) : Registry → List (Sitting σ) → Registry → Prop where
  | completed {sitting : Sitting σ} {final : Registry} :
      sitting.Faithful catalog descriptors signer artifacts →
      (sitting.finished catalog descriptors).1 = (final, .ok ()) →
      Resumed signer catalog artifacts descriptors sitting.registry [sitting] final
  | halted {sitting : Sitting σ} {others : List (Sitting σ)} {fault : Fault} {contract : Scalar}
      {held next final : Registry} :
      sitting.Faithful catalog descriptors signer artifacts →
      (sitting.finished catalog descriptors).1.2 = .error (.resumable fault contract held) →
      sitting.Leaves catalog descriptors next →
      Resumed signer catalog artifacts descriptors next others final →
      Resumed signer catalog artifacts descriptors sitting.registry (sitting :: others) final

section

variable {client : Client σ} {catalog : Schema.Catalog} {path : Option Path}
  {registry known : Registry} {first rest : List Descriptor} {session middle : Session σ}
  {artifacts : Files}

theorem advance_append
    (ran : (advance client catalog path registry first).run session = ((known, .ok ()), middle)) :
    (advance client catalog path registry (first ++ rest)).run session =
      (advance client catalog path known rest).run middle := by
  induction first generalizing registry session with
  | nil =>
      cases ran
      rfl
  | cons descriptor others ih =>
      rcases stepped : (step client catalog path registry descriptor).run session with
        ⟨⟨extended, ending⟩, after⟩
      cases ending with
      | ok _ =>
          rw [advance_cons_ok stepped] at ran
          rw [List.cons_append, advance_cons_ok stepped]
          exact ih ran
      | error halt =>
          rw [advance_cons_error stepped] at ran
          cases ran

namespace EachTurn

variable {met : Descriptor → Registry → Session σ → Prop} {descriptor : Descriptor}

theorem append (each : EachTurn client catalog path registry (first ++ rest) session met)
    (ran : (advance client catalog path registry first).run session = ((known, .ok ()), middle)) :
    EachTurn client catalog path known rest middle met := by
  intro before descriptor others reached last divided advanced
  refine each (first ++ before) descriptor others reached last ?_ ?_
  · rw [divided, List.append_assoc]
  · rw [advance_append ran, advanced]

theorem nil : EachTurn client catalog path registry [] session met := by
  intro before _ _ _ _ divided
  simp at divided

theorem head (each : EachTurn client catalog path registry (descriptor :: rest) session met) :
    met descriptor registry session :=
  each [] descriptor rest registry session rfl rfl

theorem cons (here : met descriptor registry session)
    (others : EachTurn client catalog path
      ((step client catalog path registry descriptor).run session).1.1 rest
      ((step client catalog path registry descriptor).run session).2 met) :
    EachTurn client catalog path registry (descriptor :: rest) session met := by
  intro before candidate behind reached last divided advanced
  cases before with
  | nil =>
      cases divided
      cases advanced
      exact here
  | cons first more =>
      obtain ⟨rfl, dividedRest⟩ := List.cons.inj divided
      rcases ran : (step client catalog path registry descriptor).run session with
        ⟨⟨extended, ending⟩, after⟩
      rw [ran] at others
      cases ending with
      | ok _ =>
          rw [advance_cons_ok ran] at advanced
          exact others more candidate behind reached last dividedRest advanced
      | error halt =>
          rw [advance_cons_error ran] at advanced
          cases advanced

theorem tail (each : EachTurn client catalog path registry (descriptor :: rest) session met)
    (ran : (step client catalog path registry descriptor).run session =
      ((known, .ok ()), middle)) :
    EachTurn client catalog path known rest middle met := by
  have both : EachTurn client catalog path registry ([descriptor] ++ rest) session met := each
  refine both.append ?_
  rw [advance_cons_ok ran]
  rfl

end EachTurn

theorem readsFrom_iff :
    ReadsFrom artifacts client catalog path registry first session ↔
      EachTurn client catalog path registry first session fun descriptor _ middle =>
        readBytecode middle.files descriptor = readBytecode artifacts descriptor :=
  Iff.rfl

theorem ReadsFrom.append
    (reads : ReadsFrom artifacts client catalog path registry (first ++ rest) session)
    (ran : (advance client catalog path registry first).run session = ((known, .ok ()), middle)) :
    ReadsFrom artifacts client catalog path known rest middle :=
  readsFrom_iff.mpr (EachTurn.append (readsFrom_iff.mp reads) ran)

theorem ReadsFrom.head {descriptor : Descriptor}
    (reads : ReadsFrom artifacts client catalog path registry (descriptor :: rest) session) :
    readBytecode session.files descriptor = readBytecode artifacts descriptor :=
  EachTurn.head (readsFrom_iff.mp reads)

theorem ReadsFrom.cons {descriptor : Descriptor}
    (here : readBytecode session.files descriptor = readBytecode artifacts descriptor)
    (others : ReadsFrom artifacts client catalog path
      ((step client catalog path registry descriptor).run session).1.1 rest
      ((step client catalog path registry descriptor).run session).2) :
    ReadsFrom artifacts client catalog path registry (descriptor :: rest) session :=
  readsFrom_iff.mpr (EachTurn.cons here (readsFrom_iff.mp others))

theorem ReadsFrom.tail {descriptor : Descriptor}
    (reads : ReadsFrom artifacts client catalog path registry (descriptor :: rest) session)
    (ran : (step client catalog path registry descriptor).run session =
      ((known, .ok ()), middle)) :
    ReadsFrom artifacts client catalog path known rest middle :=
  readsFrom_iff.mpr (EachTurn.tail (readsFrom_iff.mp reads) ran)

private theorem advance_skips (client : Client σ) (catalog : Schema.Catalog) (path : Option Path)
    (recorded : ∀ descriptor ∈ first, registry.contains descriptor.name = true) :
    ∀ session : Session σ, ∃ middle,
      (advance client catalog path registry first).run session = ((registry, .ok ()), middle) ∧
        Session.Sends client [] session middle := by
  induction first with
  | nil =>
      intro session
      exact ⟨session, rfl, .refl client session⟩
  | cons descriptor others ih =>
      intro session
      have present := recorded descriptor List.mem_cons_self
      obtain ⟨extended, ending, after, stepped, turn⟩ :=
        step_turn client catalog path registry descriptor session
      cases turn with
      | skipped _ quiet =>
          rw [advance_cons_ok stepped]
          obtain ⟨middle, advanced, silent⟩ :=
            ih (fun other member => recorded other (List.mem_cons_of_mem _ member)) after
          exact ⟨middle, advanced, quiet.trans silent⟩
      | halted absent => rw [present] at absent; cases absent
      | recorded absent => rw [present] at absent; cases absent

end

/-- Contracts that are not recorded are deployed one after another, up to the first that fails. -/
theorem advance_builds {client : Client σ} {catalog : Schema.Catalog} {path : Option Path}
    {artifacts : Files} (todo : List Descriptor) :
    ∀ (registry : Registry) (session : Session σ),
      (todo.map (·.name.key)).Nodup →
      (∀ descriptor ∈ todo, registry.contains descriptor.name = false) →
      ReadsFrom artifacts client catalog path registry todo session →
      (∀ fault, ((advance client catalog path registry todo).run session).1.2 ≠
        .error (.bare fault)) →
      ∃ transactions deployed remaining,
        Session.Broadcasts client transactions session
            ((advance client catalog path registry todo).run session).2 ∧
          todo = deployed ++ remaining ∧
          Builds client.toSigner catalog artifacts registry deployed
            (landed catalog.account (client.exchanges session.chain transactions))
            ((advance client catalog path registry todo).run session).1.1 ∧
          (((advance client catalog path registry todo).run session).1.2 = .ok () →
            remaining = []) := by
  induction todo with
  | nil =>
      intro registry session _ _ _ _
      exact ⟨[], [], [], ⟨rfl, (List.append_nil _).symm⟩, rfl, .done, fun _ => rfl⟩
  | cons descriptor rest ih =>
      intro registry session distinct absent reads kept
      have distinctRest := (List.nodup_cons.mp distinct).2
      obtain ⟨extended, ending, after, ran, turn⟩ :=
        step_turn client catalog path registry descriptor session
      cases turn with
      | skipped present =>
          rw [absent descriptor List.mem_cons_self] at present
          cases present
      | halted _ sends attempt =>
          rw [advance_cons_error ran]
          refine ⟨_, [], descriptor :: rest, sends.toBroadcasts, rfl, ?_, fun completed => ?_⟩
          · rw [attempt.landed_error]
            exact .done
          · cases completed
      | recorded new sends attempt records chainId keeping =>
          rename_i record middle
          have asked := sends.toBroadcasts.trans (keeping.broadcasts client)
          rw [List.append_nil] at asked
          obtain rfl | ⟨fault, _, rfl⟩ := keeping.ending_eq
          · have absentRest : ∀ other ∈ rest, extended.contains other.name = false := by
              intro other member
              rw [contains_extended distinct records attempt.name_eq other member]
              exact absent other (List.mem_cons_of_mem _ member)
            rw [advance_cons_ok ran] at kept ⊢
            obtain ⟨transactions, deployed, remaining, askedRest, rfl, builds, completes⟩ :=
              ih extended after distinctRest absentRest (reads.tail ran) kept
            refine ⟨_, descriptor :: deployed, remaining, asked.trans askedRest, rfl, ?_, completes⟩
            have read := attempt.of_files reads.head
            rw [asked.exchanges_append, read.landed_append]
            exact .deploy new read records chainId builds
          · rw [advance_cons_error ran] at kept
            exact absurd rfl (kept _)

/-- What a registry that a run has in memory has to do with the file: it was written there last, or
nothing was recorded and no file was touched. -/
def Kept (path : Path) (registry reached : Registry) (before after : Files) : Prop :=
  (reached = registry ∧ after = before) ∨
    ∃ clock earlier, (reached.save path clock).run.run earlier = (.ok (), after)

theorem advance_kept {client : Client σ} {catalog : Schema.Catalog} {path : Path}
    (descriptors : List Descriptor) :
    ∀ (registry : Registry) (session : Session σ),
      (∀ fault, ((advance client catalog (some path) registry descriptors).run session).1.2 ≠
        .error (.bare fault)) →
      Kept path registry
        ((advance client catalog (some path) registry descriptors).run session).1.1 session.files
        ((advance client catalog (some path) registry descriptors).run session).2.files := by
  induction descriptors with
  | nil =>
      intro registry session _
      exact .inl ⟨rfl, rfl⟩
  | cons descriptor rest ih =>
      intro registry session kept
      obtain ⟨extended, ending, after, ran, turn⟩ :=
        step_turn client catalog (some path) registry descriptor session
      cases turn with
      | skipped _ quiet =>
          rw [advance_cons_ok ran] at kept ⊢
          have files : after.files = session.files := quiet.files
          rw [← files]
          exact ih _ after kept
      | halted _ sends =>
          rw [advance_cons_error ran]
          exact .inl ⟨rfl, sends.files⟩
      | recorded _ _ _ _ _ keeping =>
          cases keeping with
          | failed =>
              rw [advance_cons_error ran] at kept
              exact absurd rfl (kept _)
          | saved saved =>
              rw [advance_cons_ok ran] at kept ⊢
              obtain ⟨same, files⟩ | later := ih extended _ kept
              · rw [same, files]
                exact .inr ⟨_, _, saved⟩
              · exact .inr later

/-- What was recorded can be loaded from the file. -/
theorem advance_saved {client : Client σ} {catalog : Schema.Catalog} {path : Path}
    (descriptors : List Descriptor) (registry : Registry) (session : Session σ)
    (kept : ∀ fault, ((advance client catalog (some path) registry descriptors).run session).1.2 ≠
      .error (.bare fault))
    (storable :
      ((advance client catalog (some path) registry descriptors).run session).1.1.Storable) :
    (((advance client catalog (some path) registry descriptors).run session).1.1 = registry ∧
        ((advance client catalog (some path) registry descriptors).run session).2.files =
          session.files) ∨
      Registry.load
          ((advance client catalog (some path) registry descriptors).run session).2.files path =
        .ok ((advance client catalog (some path) registry descriptors).run session).1.1 := by
  refine (advance_kept descriptors registry session kept).imp_right ?_
  rintro ⟨clock, before, saved⟩
  exact Registry.load_of_save storable saved

/-- Whoever answers as it was answered before builds the same registry by the same exchanges. -/
theorem Builds.advance_eq {client : Client σ} {catalog : Schema.Catalog} {path : Option Path}
    {artifacts : Files} {registry final : Registry} {todo : List Descriptor}
    {exchanges : List Exchange}
    (builds : Builds client.toSigner catalog artifacts registry todo exchanges final) :
    ∀ session : Session σ,
      ReadsFrom artifacts client catalog path registry todo session →
      client.exchanges session.chain (exchanges.map (·.transaction)) = exchanges →
      (∀ fault, ((advance client catalog path registry todo).run session).1.2 ≠
        .error (.bare (.file fault))) →
      ∃ after, (advance client catalog path registry todo).run session = ((final, .ok ()), after) ∧
        Session.Broadcasts client (exchanges.map (·.transaction)) session after := by
  induction builds with
  | done =>
      intro session _ _ _
      exact ⟨session, rfl, rfl, (List.append_nil _).symm⟩
  | @deploy registry extended final descriptor rest first others record absent attempt records
      chainId _ ih =>
      intro session reads answers kept
      rw [List.map_append, Client.exchanges_append] at answers
      have length : (client.exchanges session.chain (first.map (·.transaction))).length =
          first.length := by
        rw [← List.length_map (·.transaction), Client.exchanges_transactions, List.length_map]
      obtain ⟨answersHere, answersRest⟩ := List.append_inj answers length
      obtain ⟨reached, ending, after, ran, turn⟩ :=
        step_turn client catalog path registry descriptor session
      cases turn with
      | skipped present =>
          rw [absent] at present
          cases present
      | halted _ _ failed =>
          obtain ⟨_, impossible⟩ := attempt.repeats answersHere (failed.of_files reads.head)
          cases impossible
      | recorded _ sends deployed recordsNow chainIdNow keeping =>
          obtain ⟨rfl, same⟩ := attempt.repeats answersHere (deployed.of_files reads.head)
          cases same
          obtain rfl : reached = extended :=
            Registry.eq_of_records (chainIdNow.trans chainId.symm) (recordsNow.trans records.symm)
          have asked := sends.toBroadcasts.trans (keeping.broadcasts client)
          rw [List.append_nil] at asked
          obtain rfl | ⟨fault, _, rfl⟩ := keeping.ending_eq
          · rw [advance_cons_ok ran] at kept ⊢
            rw [← asked.chain] at answersRest
            obtain ⟨last, advanced, askedRest⟩ := ih after (reads.tail ran) answersRest kept
            refine ⟨last, advanced, ?_⟩
            rw [List.map_append]
            exact asked.trans askedRest
          · rw [advance_cons_error ran] at kept
            exact absurd rfl (kept fault)

namespace Sitting

variable {catalog : Schema.Catalog} {descriptors : List Descriptor} {sitting : Sitting σ}

private theorem exchanges_eq (distinct : (descriptors.map (·.name.key)).Nodup)
    {transactions : List Transaction}
    (asked : Session.Broadcasts sitting.client transactions sitting.session
      ((advance sitting.client catalog sitting.path sitting.registry descriptors).run
        sitting.session).2) :
    sitting.exchanges catalog descriptors =
      sitting.client.exchanges sitting.session.chain transactions := by
  obtain ⟨_, quiet⟩ := run_of_distinct sitting.client catalog sitting.path sitting.registry
    sitting.session distinct
  rw [exchanges, finished, quiet.sent, asked.sent, List.append_nil, List.drop_left]

private theorem finished_eq (distinct : (descriptors.map (·.name.key)).Nodup) :
    (sitting.finished catalog descriptors).1 =
      ((advance sitting.client catalog sitting.path sitting.registry descriptors).run
        sitting.session).1 :=
  (run_of_distinct sitting.client catalog sitting.path sitting.registry sitting.session
    distinct).1

/-- A run that finds the first contracts recorded deploys those after them, as far as it gets. -/
theorem Faithful.builds {signer : Signer} {artifacts : Files} {done todo : List Descriptor}
    (faithful : sitting.Faithful catalog (done ++ todo) signer artifacts)
    (distinct : ((done ++ todo).map (·.name.key)).Nodup)
    (present : ∀ descriptor ∈ done, sitting.registry.contains descriptor.name = true)
    (absent : ∀ descriptor ∈ todo, sitting.registry.contains descriptor.name = false)
    (kept : ∀ fault, (sitting.finished catalog (done ++ todo)).1.2 ≠ .error (.bare fault)) :
    ∃ deployed remaining, todo = deployed ++ remaining ∧
      Builds signer catalog artifacts sitting.registry deployed
        (landed catalog.account (sitting.exchanges catalog (done ++ todo)))
        (sitting.finished catalog (done ++ todo)).1.1 ∧
      ((sitting.finished catalog (done ++ todo)).1.2 = .ok () → remaining = []) := by
  obtain ⟨rfl, reads, _⟩ := faithful
  obtain ⟨middle, skipped, quiet⟩ :=
    advance_skips sitting.client catalog sitting.path present sitting.session
  have distinctTodo : (todo.map (·.name.key)).Nodup := by
    rw [List.map_append, List.nodup_append] at distinct
    exact distinct.2.1
  have whole : (advance sitting.client catalog sitting.path sitting.registry (done ++ todo)).run
      sitting.session =
        (advance sitting.client catalog sitting.path sitting.registry todo).run middle :=
    advance_append skipped
  rw [finished_eq distinct, whole] at kept ⊢
  obtain ⟨transactions, deployed, remaining, asked, divided, builds, completes⟩ :=
    advance_builds todo sitting.registry middle distinctTodo absent (reads.append skipped) kept
  have askedAll := quiet.toBroadcasts.trans asked
  rw [List.nil_append, ← whole] at askedAll
  have chain : middle.chain = sitting.session.chain := quiet.chain
  rw [exchanges_eq distinct askedAll, ← chain]
  exact ⟨deployed, remaining, divided, builds, completes⟩

private theorem saved {path : Path} (placed : sitting.path = some path)
    (distinct : (descriptors.map (·.name.key)).Nodup)
    (storable : (sitting.finished catalog descriptors).1.1.Storable)
    (kept : ∀ fault, (sitting.finished catalog descriptors).1.2 ≠ .error (.bare fault)) :
    ((sitting.finished catalog descriptors).1.1 = sitting.registry ∧
        (sitting.finished catalog descriptors).2.files = sitting.session.files) ∨
      Registry.load (sitting.finished catalog descriptors).2.files path =
        .ok (sitting.finished catalog descriptors).1.1 := by
  obtain ⟨_, quiet⟩ := run_of_distinct sitting.client catalog sitting.path
    sitting.registry sitting.session distinct
  have files : (sitting.finished catalog descriptors).2.files =
      ((advance sitting.client catalog sitting.path sitting.registry descriptors).run
        sitting.session).2.files := quiet.files
  rw [finished_eq distinct] at storable kept ⊢
  rw [files]
  rw [placed] at storable kept ⊢
  exact advance_saved descriptors sitting.registry sitting.session kept storable

/-- The registry that a run leaves is the one that it got to, also if it is loaded from its file. -/
theorem Leaves.eq {next : Registry} (left : sitting.Leaves catalog descriptors next)
    (distinct : (descriptors.map (·.name.key)).Nodup)
    (storable : (sitting.finished catalog descriptors).1.1.Storable)
    (kept : ∀ fault, (sitting.finished catalog descriptors).1.2 ≠ .error (.bare fault)) :
    next = (sitting.finished catalog descriptors).1.1 := by
  cases left with
  | inMemory => rfl
  | reloaded placed loaded untouched =>
      obtain ⟨same, files⟩ | saved := saved placed distinct storable kept
      · have before := untouched (by rw [same])
        rw [files, before] at loaded
        cases loaded
        exact same.symm
      · rw [saved] at loaded
        cases loaded
        rfl

end Sitting

/-- Runs one after another build the final registry by what has landed of their exchanges. -/
theorem Resumed.builds {signer : Signer} {catalog : Schema.Catalog} {artifacts : Files}
    {descriptors : List Descriptor} {registry final : Registry} {sittings : List (Sitting σ)}
    (resumed : Resumed signer catalog artifacts descriptors registry sittings final)
    (named : ∀ descriptor ∈ descriptors, ∃ text, descriptor.name = .text text)
    (distinct : (descriptors.map (·.name.key)).Nodup) :
    ∀ done todo, descriptors = done ++ todo →
      (∀ descriptor ∈ done, registry.contains descriptor.name = true) →
      (∀ descriptor ∈ todo, registry.contains descriptor.name = false) → registry.Storable →
      Builds signer catalog artifacts registry todo (successes catalog descriptors sittings)
        final := by
  induction resumed with
  | @completed sitting final faithful completed =>
      rintro done todo rfl present absent _
      have kept : ∀ fault,
          (sitting.finished catalog (done ++ todo)).1.2 ≠ .error (.bare fault) := by
        intro fault halted
        rw [completed] at halted
        cases halted
      obtain ⟨deployed, remaining, rfl, builds, completes⟩ :=
        faithful.builds distinct present absent kept
      obtain rfl := completes (by rw [completed])
      rw [completed] at builds
      rw [successes, List.flatMap_cons, List.flatMap_nil, List.append_nil, List.append_nil]
      rw [List.append_nil] at builds
      exact builds
  | @halted sitting others fault contract held next final faithful halted left _ ih =>
      rintro done todo rfl present absent storable
      have kept : ∀ fault,
          (sitting.finished catalog (done ++ todo)).1.2 ≠ .error (.bare fault) := by
        intro fault bare
        rw [halted] at bare
        cases bare
      obtain ⟨deployed, remaining, rfl, builds, _⟩ :=
        faithful.builds distinct present absent kept
      have storableNow := builds.storable
        (fun descriptor member => named descriptor
          (List.mem_append_right _ (List.mem_append_left _ member)))
        (fun sender code outcome member =>
          faithful.numbered sender code outcome (mem_of_mem_landed member)) storable
      obtain rfl := left.eq distinct storableNow kept
      have presentNow : ∀ descriptor ∈ done ++ deployed,
          (sitting.finished catalog (done ++ (deployed ++ remaining))).1.1.contains
            descriptor.name = true := by
        intro descriptor member
        rw [builds.contains_iff]
        obtain old | new := List.mem_append.mp member
        · exact .inl (present descriptor old)
        · exact .inr ⟨descriptor, new, rfl⟩
      have absentNow : ∀ descriptor ∈ remaining,
          (sitting.finished catalog (done ++ (deployed ++ remaining))).1.1.contains
            descriptor.name = false := by
        intro descriptor member
        rw [Bool.eq_false_iff, ne_eq, builds.contains_iff]
        rintro (old | ⟨other, among, same⟩)
        · rw [absent descriptor (List.mem_append_right _ member)] at old
          cases old
        · rw [List.map_append, List.map_append, List.nodup_append, List.nodup_append] at distinct
          exact distinct.2.1.2.2 _ (List.mem_map.mpr ⟨other, among, rfl⟩) _
            (List.mem_map.mpr ⟨descriptor, member, rfl⟩) same
      rw [successes, List.flatMap_cons]
      exact builds.trans (ih (done ++ deployed) remaining
        (List.append_assoc _ _ _).symm presentNow absentNow storableNow)

/-- Runs that halt and are resumed come to the same registry as one run that is not interrupted, to
which every transaction that made a record is answered in the same way: it sends these
transactions, with the same messages, admins and coins, and no others. The chain id is one that a
document gives back, as it does every text. -/
theorem resumed_eq_uninterrupted {signer : Signer} {catalog : Schema.Catalog} {artifacts : Files}
    {descriptors : List Descriptor} {chainId : Value} {final : Registry}
    {sittings : List (Sitting σ)} {whole : Sitting τ}
    (named : ∀ descriptor ∈ descriptors, ∃ text, descriptor.name = .text text)
    (distinct : (descriptors.map (·.name)).Nodup) (kept : Json.Kept chainId)
    (resumed : Resumed signer catalog artifacts descriptors (.empty chainId) sittings final)
    (fresh : whole.registry = .empty chainId) (deployer : whole.client.toSigner = signer)
    (reads : ReadsFrom artifacts whole.client catalog whole.path whole.registry descriptors
      whole.session)
    (saves : ∀ fault, (whole.finished catalog descriptors).1.2 ≠ .error (.bare (.file fault)))
    (answers : whole.client.exchanges whole.session.chain
        ((successes catalog descriptors sittings).map (·.transaction)) =
      successes catalog descriptors sittings) :
    (whole.finished catalog descriptors).1 = (final, .ok ()) ∧
      whole.exchanges catalog descriptors = successes catalog descriptors sittings ∧
      final.records.map (·.name) = descriptors.map (·.name) ∧
      Recorded catalog.account final.records (whole.exchanges catalog descriptors) := by
  have keys : descriptors.map (·.name.key) = descriptors.map (·.name) := by
    refine List.map_congr_left fun descriptor member => ?_
    obtain ⟨text, textual⟩ := named descriptor member
    rw [textual]
    rfl
  have distinctKeys : (descriptors.map (·.name.key)).Nodup := keys ▸ distinct
  have storable : (Registry.empty chainId).Storable := ⟨kept, fun _ member => by cases member⟩
  have builds := resumed.builds named distinctKeys [] descriptors rfl
    (fun _ member => by cases member) (fun _ _ => rfl) storable
  subst deployer
  rw [← fresh] at builds
  rw [Sitting.finished_eq distinctKeys] at saves ⊢
  obtain ⟨after, advanced, asked⟩ := builds.advance_eq whole.session reads answers saves
  have exchanged : whole.exchanges catalog descriptors =
      successes catalog descriptors sittings := by
    rw [Sitting.exchanges_eq distinctKeys (by rw [advanced]; exact asked)]
    exact answers
  obtain ⟨added, grown, names, recorded⟩ := builds.recorded
  rw [fresh] at grown
  have all : final.records = added := grown
  rw [advanced, exchanged, all]
  exact ⟨rfl, rfl, names, recorded⟩

/-- A contract and one that is told of it. -/
def pair : List Descriptor :=
  [⟨.text "hub", ⟨"/", ["hub.wasm"]⟩, .object [], .null, .null, .null⟩,
    ⟨.text "vault", ⟨"/", ["vault.wasm"]⟩, .object [("hub", .reference ⟨"hub", .address⟩)], .null,
      .null, .null⟩]

def pairFiles : Files :=
  ⟨⟨"/", []⟩, [(⟨"/", ["hub.wasm"]⟩, .octets [0]), (⟨"/", ["vault.wasm"]⟩, .octets [1])]⟩

def pairAddress : Value :=
  .text "terra1x46rqay4d3cssq8gxxvqz8xt6nwlz4td20k38v"

def pairCatalog : Schema.Catalog := ⟨"terra", []⟩

def storedAs (number : Int) : CommandLine.ChainAnswer :=
  .ok { Outcome.plain false with codeId := .int number }

def instantiatedAt : CommandLine.ChainAnswer :=
  .ok { Outcome.plain false with contractAddress := pairAddress }

/-- A run for which the answers of the client are known. -/
def rehearsed (path : Option Path) (registry : Registry)
    (answers : List CommandLine.ChainAnswer) : Sitting (List CommandLine.ChainAnswer) :=
  ⟨CommandLine.Rehearsal.client ⟨"deployer", "", .failed "", []⟩, path, registry,
    .start answers pairFiles ""⟩

def deployer : Signer := ⟨"deployer", Coins.ofValue⟩

def hubRecorded : Registry :=
  ⟨.null, [⟨.text "hub", .int 7, pairAddress⟩], List.nodup_singleton _⟩

def pairRecorded : Registry :=
  ⟨.null, [⟨.text "hub", .int 7, pairAddress⟩, ⟨.text "vault", .int 9, pairAddress⟩], by decide⟩

/-- A run that keeps its registry in a file and halts at the second contract. -/
def interrupted : Sitting (List CommandLine.ChainAnswer) :=
  rehearsed (some ⟨"/", ["registry.json"]⟩) (.empty .null)
    [storedAs 7, instantiatedAt, .error ⟨.timeout, "late"⟩]

/-- A run that takes up what was left. -/
def continued : Sitting (List CommandLine.ChainAnswer) :=
  rehearsed none hubRecorded [storedAs 9, instantiatedAt]

def uninterrupted : Sitting (List CommandLine.ChainAnswer) :=
  rehearsed none (.empty .null) [storedAs 7, instantiatedAt, storedAs 9, instantiatedAt]

private theorem readsFrom_nil {client : Client σ} {catalog : Schema.Catalog} {path : Option Path}
    {registry : Registry} {session : Session σ} {artifacts : Files} :
    ReadsFrom artifacts client catalog path registry [] session :=
  readsFrom_iff.mpr .nil

theorem interrupted_faithful :
    interrupted.Faithful pairCatalog pair deployer pairFiles where
  deployer := rfl
  artifacts := .cons rfl (.cons rfl readsFrom_nil)
  numbered := by
    have made : interrupted.exchanges pairCatalog pair =
        [⟨[.store "deployer" "AA=="], storedAs 7⟩,
          ⟨[.instantiate "deployer" (.text "deployer") 7 (.object []) []], instantiatedAt⟩,
          ⟨[.store "deployer" "AQ=="], .error ⟨.timeout, "late"⟩⟩] := rfl
    rw [made]
    exact .stored rfl (Number.oneDigit_bounded (by decide)) (.instantiated (.lost .nil))

private theorem continued_faithful :
    continued.Faithful pairCatalog pair deployer pairFiles where
  deployer := rfl
  artifacts := .cons rfl (.cons rfl readsFrom_nil)
  numbered := by
    have made : continued.exchanges pairCatalog pair =
        [⟨[.store "deployer" "AQ=="], storedAs 9⟩,
          ⟨[.instantiate "deployer" (.text "deployer") 9 (.object [("hub", pairAddress)]) []],
            instantiatedAt⟩] := rfl
    rw [made]
    exact .stored rfl (Number.oneDigit_bounded (by decide)) (.instantiated .nil)

private theorem interrupted_halted :
    (interrupted.finished pairCatalog pair).1.2 = .error (.resumable
      (.aborted (.text "vault") (.client ⟨.timeout, "late"⟩)) (.text "vault") hubRecorded) := rfl

theorem hubRecorded_storable : hubRecorded.Storable := by
  refine ⟨trivial, fun record member => ?_⟩
  obtain rfl := List.mem_singleton.mp member
  exact ⟨⟨_, rfl⟩, ⟨7, rfl, Number.oneDigit_bounded (by decide)⟩, trivial⟩

private theorem interrupted_leaves : interrupted.Leaves pairCatalog pair hubRecorded := by
  have distinct : (pair.map (·.name.key)).Nodup := by decide
  have reached : (interrupted.finished pairCatalog pair).1.1 = hubRecorded := by
    have halted := interrupted_halted
    rw [Sitting.finished_eq distinct] at halted ⊢
    exact (advance_resumable _ _ _ _ _ _ _ _ _ halted).symm
  have kept : ∀ fault, (interrupted.finished pairCatalog pair).1.2 ≠ .error (.bare fault) := by
    intro fault bare
    rw [interrupted_halted] at bare
    cases bare
  have grown : hubRecorded.records ≠ interrupted.registry.records := by
    intro same
    cases same
  have saved := interrupted.saved rfl distinct (reached ▸ hubRecorded_storable) kept
  rw [reached] at saved
  obtain ⟨same, _⟩ | loaded := saved
  · exact absurd (congrArg Registry.records same) grown
  · refine .reloaded rfl loaded fun same => ?_
    rw [reached] at same
    exact absurd same grown

theorem interrupted_pair_resumed :
    (uninterrupted.finished pairCatalog pair).1 = (pairRecorded, .ok ()) ∧
      uninterrupted.exchanges pairCatalog pair =
        successes pairCatalog pair [interrupted, continued] := by
  have resumed : Resumed deployer pairCatalog pairFiles pair (.empty .null)
      [interrupted, continued] pairRecorded :=
    .halted interrupted_faithful interrupted_halted interrupted_leaves
      (.completed continued_faithful rfl)
  have named : ∀ descriptor ∈ pair, ∃ text, descriptor.name = .text text := by simp [pair]
  have kept : Json.Kept .null := trivial
  have fresh : uninterrupted.registry = .empty .null := rfl
  have saves : ∀ fault,
      (uninterrupted.finished pairCatalog pair).1.2 ≠ .error (.bare (.file fault)) := by
    intro fault failed
    cases failed
  obtain ⟨finished, exchanged, _⟩ := resumed_eq_uninterrupted named (by decide) kept resumed
    fresh rfl (.cons rfl (.cons rfl readsFrom_nil)) saves rfl
  exact ⟨finished, exchanged⟩

end Rollout.Deployment
