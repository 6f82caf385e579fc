import Rollout.Proofs.Deployment.Resaving
import Rollout.Proofs.Plan.Completion

/-!
# Contracts in another order

What is sent for a contract depends on what the contracts that it refers to were given, and on
neither when they were deployed nor what else was. Where every contract is given the same in both
runs, contracts in two orders that respect their references are deployed alike.
-/

set_option autoImplicit false

namespace Rollout.Deployment

open Rollout.Chain

variable {σ τ : Type}

/-- What a chain gives a contract. -/
structure Allotment where
  codeId : Value
  address : Value

/-- The record of a contract that was given its allotment. -/
def Allotment.record (allotment : Allotment) (name : Scalar) : Record :=
  ⟨name, allotment.codeId, allotment.address⟩

/-- A transaction is accepted, and its answer gives what is allotted. -/
structure Grants (allotment : Allotment) (exchange : Exchange) : Prop where
  accepted : ∃ outcome, exchange.answer = .ok outcome ∧ outcome.isError = false
  codeId : ∀ sender code outcome, exchange = ⟨[.store sender code], .ok outcome⟩ →
    outcome.codeId = allotment.codeId
  address : ∀ sender admin number message coins outcome,
    exchange = ⟨[.instantiate sender admin number message coins], .ok outcome⟩ →
      outcome.contractAddress = allotment.address

/-- All that is sent for a contract is accepted, and the contract gets what is allotted to it,
whenever a run gets to one. -/
def Allots (allotted : Scalar → Allotment) (client : Client σ) (catalog : Schema.Catalog)
    (path : Option Path) (registry : Registry) (descriptors : List Descriptor)
    (session : Session σ) : Prop :=
  EachTurn client catalog path registry descriptors session fun descriptor known middle =>
    ∀ exchange ∈ client.exchanges middle.chain
        (((step client catalog path known descriptor).run middle).2.sent.drop middle.sent.length),
      Grants (allotted descriptor.name) exchange

/-- The transactions for a contract with an allotment: its code is stored and it is instantiated,
with the message that the registry settles. -/
inductive Bundle (signer : Signer) (catalog : Schema.Catalog) (registry : Registry)
    (artifacts : Files) (allotment : Allotment) (descriptor : Descriptor) :
    List Transaction → Prop where
  | intro {message : Value} {code : List UInt8} {request : Message} :
      ready signer.address catalog registry artifacts descriptor = .ok (message, code) →
      instantiateMessage signer descriptor message allotment.codeId = .ok request →
      Schema.Kind.address.check catalog.account allotment.address = .ok none →
      Bundle signer catalog registry artifacts allotment descriptor
        [storeOf signer.address code, [request]]

section

variable {signer : Signer} {catalog : Schema.Catalog} {registry : Registry} {artifacts : Files}
  {allotment : Allotment} {descriptor : Descriptor} {exchanges : List Exchange}

theorem Bundle.unique {transactions others : List Transaction}
    (bundle : Bundle signer catalog registry artifacts allotment descriptor transactions)
    (other : Bundle signer catalog registry artifacts allotment descriptor others) :
    others = transactions := by
  obtain ⟨settled, built, _⟩ := bundle
  obtain ⟨settledAgain, builtAgain, _⟩ := other
  cases settled.symm.trans settledAgain
  cases built.symm.trans builtAgain
  rfl

private theorem Bundle.eq {transactions : List Transaction}
    (bundle : Bundle signer catalog registry artifacts allotment descriptor transactions) :
    ∃ message code number coins,
      Template.Fills registry.records (some signer.address) descriptor.message message ∧
        transactions = [storeOf signer.address code,
          [.instantiate signer.address (descriptor.admin.orElse (.text signer.address)) number
            message coins]] := by
  obtain ⟨settled, built, _⟩ := bundle
  obtain ⟨resolved, _, _⟩ := ready_eq_ok_iff.mp settled
  obtain ⟨number, coins, _, _, rfl⟩ := instantiateMessage_eq_ok built
  exact ⟨_, _, number, coins, Template.resolve_eq_ok_iff.mp resolved, rfl⟩

private theorem Grants.not_lost {transaction : Transaction} {failure : Failure} :
    ¬Grants allotment ⟨transaction, .error failure⟩ := by
  rintro ⟨⟨_, ⟨⟩, _⟩, _, _⟩

private theorem Grants.not_rejected {transaction : Transaction} {outcome : Outcome}
    (rejected : outcome.isError = true) : ¬Grants allotment ⟨transaction, .ok outcome⟩ := by
  rintro ⟨⟨_, ⟨⟩, kept⟩, _, _⟩
  rw [rejected] at kept
  cases kept

private theorem Grants.placed {request : Message} {message codeId : Value} {outcome : Outcome}
    (grants : Grants allotment ⟨[request], .ok outcome⟩)
    (built : instantiateMessage signer descriptor message codeId = .ok request) :
    outcome.contractAddress = allotment.address := by
  obtain ⟨_, _, _, _, rfl⟩ := instantiateMessage_eq_ok built
  exact grants.address _ _ _ _ _ _ rfl

/-- An attempt in which all is granted deploys the contract with its bundle. -/
theorem Attempt.bundle {record : Record}
    (attempt : Attempt signer catalog registry artifacts descriptor exchanges (.ok record))
    (granted : ∀ exchange ∈ exchanges, Grants allotment exchange) :
    Bundle signer catalog registry artifacts allotment descriptor
        (exchanges.map (·.transaction)) ∧
      record = allotment.record descriptor.name := by
  cases attempt with
  | deployed settled _ built _ assigned =>
      have coded := (granted _ List.mem_cons_self).codeId _ _ _ rfl
      have placed := (granted _ (List.mem_cons_of_mem _ List.mem_cons_self)).placed built
      rw [assigns, placed] at assigned
      rw [coded] at built ⊢
      rw [placed]
      exact ⟨⟨settled, built, assigned⟩, rfl⟩

/-- An attempt in which all is granted fails only if the contract has no bundle. -/
theorem Attempt.no_bundle {fault : Fault}
    (attempt : Attempt signer catalog registry artifacts descriptor exchanges (.error fault))
    (granted : ∀ exchange ∈ exchanges, Grants allotment exchange)
    (transactions : List Transaction) :
    ¬Bundle signer catalog registry artifacts allotment descriptor transactions := by
  rintro ⟨settled, built, placed⟩
  cases attempt with
  | unready unsettled =>
      rw [settled] at unsettled
      cases unsettled
  | storeLost => exact (granted _ List.mem_cons_self).not_lost
  | storeRejected _ rejected => exact (granted _ List.mem_cons_self).not_rejected rejected
  | unbuilt found _ unbuilt =>
      cases settled.symm.trans found
      rw [(granted _ List.mem_cons_self).codeId _ _ _ rfl, built] at unbuilt
      cases unbuilt
  | instantiateLost =>
      exact (granted _ (List.mem_cons_of_mem _ List.mem_cons_self)).not_lost
  | instantiateRejected _ _ _ rejected =>
      exact (granted _ (List.mem_cons_of_mem _ List.mem_cons_self)).not_rejected rejected
  | addressless _ _ built _ unassigned =>
      have same := (granted _ (List.mem_cons_of_mem _ List.mem_cons_self)).placed built
      rw [← same] at placed
      exact not_assigns_of_error unassigned placed

/-- Once all that a contract refers to is recorded, more records change nothing for it. -/
theorem ready_of_subset (address : String) (catalog : Schema.Catalog) {larger : Registry}
    {files : Files}
    (within : registry.records ⊆ larger.records)
    (known : ∀ reference ∈ descriptor.message.references,
      registry.contains (.text reference.name) = true)
    (code : readBytecode files descriptor = readBytecode artifacts descriptor) :
    ready address catalog registry files descriptor =
      ready address catalog larger artifacts descriptor := by
  have resolved : larger.resolve descriptor.message (some address) (some descriptor.name) =
      registry.resolve descriptor.message (some address) (some descriptor.name) := by
    have agree : ∀ reference ∈ descriptor.message.references,
        larger.lookUp reference = registry.lookUp reference := by
      intro reference member
      rw [Registry.lookUp, Registry.lookUp,
        Registry.find?_of_subset within (known reference member)]
    rw [Registry.resolve, Registry.resolve, Template.resolve_congr descriptor.message agree]
  rw [ready, ready, code, resolved]

end

/-!
## Runs
-/

section

variable {client : Client σ} {catalog : Schema.Catalog} {path : Option Path}
  {registry extended larger : Registry} {artifacts : Files} {allotment : Allotment}
  {allotted : Scalar → Allotment} {descriptor : Descriptor} {session : Session σ}

private theorem known_of_extended {before : List Descriptor} {record : Record}
    {reference : Reference} (records : extended.records = registry.records ++ [record])
    (named : record.name = descriptor.name)
    (known : Plan.Known registry (descriptor :: before) reference) :
    Plan.Known extended before reference := by
  have grown : ∀ other ∈ registry.records ++ [record],
      other.name.key = .text reference.name → Plan.Known extended before reference := by
    intro other member same
    exact .inl (Registry.contains_iff.mpr ⟨other, records ▸ member, same⟩)
  rcases known with recorded | ⟨earlier, member, same⟩
  · obtain ⟨other, among, same⟩ := Registry.contains_iff.mp recorded
    exact grown other (List.mem_append_left _ among) same
  · rcases List.mem_cons.mp member with rfl | later
    · refine grown record (List.mem_append_right _ List.mem_cons_self) ?_
      rw [named, same]
    · exact .inr ⟨earlier, later, same⟩

/-- The turn of a contract to which all is granted: it is deployed with its bundle, unless it has
none or the registry cannot be saved. -/
inductive Granted (client : Client σ) (catalog : Schema.Catalog) (path : Option Path)
    (registry larger : Registry) (artifacts : Files) (allotment : Allotment)
    (descriptor : Descriptor) (session : Session σ) :
    Registry → Except Halt Unit → Session σ → Prop where
  | bundleless {extended : Registry} {halt : Halt} {after : Session σ} :
      (∀ transactions,
        ¬Bundle client.toSigner catalog larger artifacts allotment descriptor transactions) →
      Granted client catalog path registry larger artifacts allotment descriptor session extended
        (.error halt) after
  | unsaved {extended : Registry} {halt : Halt} {after : Session σ} :
      extended.records = registry.records ++ [allotment.record descriptor.name] →
      extended.chainId = registry.chainId → ¬Saves path extended session.files →
      Granted client catalog path registry larger artifacts allotment descriptor session extended
        (.error halt) after
  | deployed {extended : Registry} {transactions : List Transaction} {after : Session σ} :
      extended.records = registry.records ++ [allotment.record descriptor.name] →
      extended.chainId = registry.chainId → Saves path extended session.files →
      Bundle client.toSigner catalog larger artifacts allotment descriptor transactions →
      Session.Broadcasts client transactions session after →
      Granted client catalog path registry larger artifacts allotment descriptor session extended
        (.ok ()) after

private theorem step_granted (absent : registry.contains descriptor.name = false)
    (within : registry.records ⊆ larger.records)
    (known : ∀ reference ∈ descriptor.message.references,
      registry.contains (.text reference.name) = true)
    (code : readBytecode session.files descriptor = readBytecode artifacts descriptor)
    (granted : ∀ exchange ∈ client.exchanges session.chain
        (((step client catalog path registry descriptor).run session).2.sent.drop
          session.sent.length), Grants allotment exchange) :
    ∃ extended ending after,
      (step client catalog path registry descriptor).run session = ((extended, ending), after) ∧
        Granted client catalog path registry larger artifacts allotment descriptor session extended
          ending after := by
  have settled := ready_of_subset client.address catalog within known code
  obtain ⟨extended, ending, after, ran, turn⟩ :=
    step_turn client catalog path registry descriptor session
  rw [ran] at granted
  refine ⟨extended, ending, after, ran, ?_⟩
  cases turn with
  | skipped present =>
      rw [absent] at present
      cases present
  | halted _ sends attempt =>
      rw [sends.sent, List.drop_left] at granted
      exact .bundleless ((attempt.congr settled).no_bundle granted)
  | recorded _ sends attempt records chainId keeping =>
      have asked := sends.toBroadcasts.trans (keeping.broadcasts client)
      rw [List.append_nil] at asked
      rw [asked.sent, List.drop_left] at granted
      obtain ⟨bundle, rfl⟩ := (attempt.congr settled).bundle granted
      rw [Client.exchanges_transactions] at bundle
      have kept := keeping.saves
      rw [sends.files] at kept
      obtain ⟨rfl, saves⟩ | ⟨⟨_, rfl⟩, unsaved⟩ := kept
      · exact .deployed records chainId saves bundle asked
      · exact .unsaved records chainId unsaved

/-- What is recorded stays part of what will be, and has all that the next contract refers to. So
the run completes if every contract has its bundle and the registry can be saved, and halts if not. -/
theorem advance_granted {todo : List Descriptor} (distinct : (todo.map (·.name.key)).Nodup)
    (absent : ∀ descriptor ∈ todo, registry.contains descriptor.name = false)
    (within : registry.records ⊆ larger.records) (chainId : registry.chainId = larger.chainId)
    (others : ∀ descriptor ∈ todo,
      (allotted descriptor.name).record descriptor.name ∈ larger.records)
    (known : ∀ before descriptor rest, todo = before ++ descriptor :: rest →
      ∀ reference ∈ descriptor.message.references, Plan.Known registry before reference)
    (reads : ReadsFrom artifacts client catalog path registry todo session)
    (allots : Allots allotted client catalog path registry todo session) :
    (∃ final after bundles,
      (advance client catalog path registry todo).run session = ((final, .ok ()), after) ∧
        final.records = registry.records ++
          todo.map (fun descriptor => (allotted descriptor.name).record descriptor.name) ∧
        final.chainId = registry.chainId ∧
        List.Forall₂ (fun descriptor => Bundle client.toSigner catalog larger artifacts
          (allotted descriptor.name) descriptor) todo bundles ∧
        Session.Broadcasts client bundles.flatten session after ∧
        (todo = [] ∨ Saves path final session.files)) ∨
      ∃ halt, ((advance client catalog path registry todo).run session).1.2 = .error halt ∧
        (todo ≠ [] ∧ ¬Saves path larger session.files ∨
          ∃ descriptor ∈ todo, ∀ transactions, ¬Bundle client.toSigner catalog larger artifacts
            (allotted descriptor.name) descriptor transactions) := by
  induction todo generalizing registry session with
  | nil =>
      exact .inl ⟨registry, session, [], rfl, (List.append_nil _).symm, rfl, .nil,
        ⟨rfl, (List.append_nil _).symm⟩, .inl rfl⟩
  | cons descriptor rest ih =>
      have distinctRest := (List.nodup_cons.mp distinct).2
      have here : ∀ reference ∈ descriptor.message.references,
          registry.contains (.text reference.name) = true := by
        intro reference member
        rcases known [] descriptor rest rfl reference member with recorded | ⟨_, ⟨⟩, _⟩
        exact recorded
      have grown : ∀ {extended : Registry}, extended.records = registry.records ++
            [(allotted descriptor.name).record descriptor.name] →
          extended.records ⊆ larger.records := by
        intro extended records
        rw [records]
        exact List.append_subset.mpr
          ⟨within, List.cons_subset.mpr ⟨others descriptor List.mem_cons_self, List.nil_subset _⟩⟩
      obtain ⟨extended, ending, after, ran, came⟩ :=
        step_granted (absent descriptor List.mem_cons_self) within here reads.head allots.head
      cases came with
      | bundleless none =>
          rw [advance_cons_error ran]
          exact .inr ⟨_, rfl, .inr ⟨descriptor, List.mem_cons_self, none⟩⟩
      | unsaved records sameChain unsaved =>
          rw [advance_cons_error ran]
          exact .inr ⟨_, rfl, .inl ⟨List.cons_ne_nil _ _,
            fun could => unsaved (could.of_subset (grown records) (sameChain.trans chainId))⟩⟩
      | deployed records sameChain saves bundle asked =>
          have absentRest : ∀ other ∈ rest, extended.contains other.name = false := by
            intro other member
            rw [contains_extended distinct records rfl other member]
            exact absent other (List.mem_cons_of_mem _ member)
          rw [advance_cons_ok ran]
          rcases ih distinctRest absentRest (grown records) (sameChain.trans chainId)
            (fun other member => others other (List.mem_cons_of_mem _ member))
            (fun before other behind split reference member => known_of_extended records rfl
              (known (descriptor :: before) other behind (by rw [split]; rfl) reference member))
            (reads.tail ran) (allots.tail ran) with
            ⟨final, last, bundles, advanced, appended, sameLast, each, askedRest, kept⟩ |
            ⟨halt, ended, reason⟩
          · refine .inl ⟨final, last, _ :: bundles, advanced, ?_, sameLast.trans sameChain,
              .cons bundle each, asked.trans askedRest, .inr ?_⟩
            · rw [appended, records, List.append_assoc]
              rfl
            · obtain rfl | kept := kept
              · cases advanced
                exact saves
              · exact saves.of_writable fun place given => (kept place given).1
          · refine .inr ⟨halt, ended, reason.imp ?_ ?_⟩
            · rintro ⟨_, unsaved⟩
              exact ⟨List.cons_ne_nil _ _, fun could => unsaved (could.resaved (step_resaved ran))⟩
            · rintro ⟨other, member, none⟩
              exact ⟨other, List.mem_cons_of_mem _ member, none⟩

/-- Contracts that are not recorded are all recorded in some registry, with their allotments. -/
theorem exists_allotted {descriptors : List Descriptor}
    (distinct : (descriptors.map (·.name.key)).Nodup)
    (absent : ∀ descriptor ∈ descriptors, registry.contains descriptor.name = false) :
    ∃ larger : Registry, larger.chainId = registry.chainId ∧ larger.records = registry.records ++
      descriptors.map fun descriptor => (allotted descriptor.name).record descriptor.name := by
  have names : ((registry.records ++ descriptors.map fun descriptor =>
      (allotted descriptor.name).record descriptor.name).map (·.name.key)) =
        registry.records.map (·.name.key) ++ descriptors.map (·.name.key) := by
    rw [List.map_append, List.map_map]
    rfl
  refine ⟨⟨registry.chainId, registry.records ++ descriptors.map fun descriptor =>
    (allotted descriptor.name).record descriptor.name, ?_⟩, rfl, rfl⟩
  rw [names, List.nodup_append]
  refine ⟨registry.distinct, distinct, ?_⟩
  rintro _ recorded _ listed rfl
  obtain ⟨descriptor, member, same⟩ := List.mem_map.mp listed
  have missing := Registry.contains_eq_false_iff.mp (absent descriptor member)
  rw [← same] at recorded
  exact Registry.key_notMem_of_find?_eq_none missing recorded

private theorem flatten_bundles {signer : Signer} {descriptors : List Descriptor}
    {bundles : List (List Transaction)} {bundle : Descriptor → List Transaction}
    (each : List.Forall₂ (fun descriptor => Bundle signer catalog larger artifacts
      (allotted descriptor.name) descriptor) descriptors bundles)
    (chosen : ∀ descriptor ∈ descriptors, Bundle signer catalog larger artifacts
      (allotted descriptor.name) descriptor (bundle descriptor)) :
    bundles.flatten = descriptors.flatMap bundle := by
  induction each with
  | nil => rfl
  | cons here _ ih =>
      obtain ⟨first, others⟩ := List.forall_mem_cons.mp chosen
      rw [List.flatten_cons, List.flatMap_cons, ih others, first.unique here]

end

/-- Two runs begin alike: with the same registry and files, and for one signer. -/
structure Sitting.Alike (first : Sitting σ) (second : Sitting τ) : Prop where
  signer : second.client.toSigner = first.client.toSigner
  path : second.path = first.path
  registry : second.registry = first.registry
  files : second.session.files = first.session.files

/-- Contracts that can all be deployed: each has its bundle, and the registry can be saved in the
end. -/
structure Deliverable (signer : Signer) (catalog : Schema.Catalog) (path : Option Path)
    (artifacts : Files) (allotted : Scalar → Allotment) (larger : Registry)
    (descriptors : List Descriptor) : Prop where
  bundled : ∀ descriptor ∈ descriptors, ∃ transactions,
    Bundle signer catalog larger artifacts (allotted descriptor.name) descriptor transactions
  saves : descriptors = [] ∨ Saves path larger artifacts

/-- A run that completed: what it recorded is what is allotted to its contracts, and it sent the
transactions of one contract after those of the other. -/
structure Sitting.Delivers (catalog : Schema.Catalog) (descriptors : List Descriptor)
    (sitting : Sitting σ) (allotted : Scalar → Allotment) (larger final : Registry)
    (bundles : List (List Transaction)) : Prop where
  ended : (sitting.finished catalog descriptors).1 = (final, .ok ())
  records : final.records = sitting.registry.records ++
    descriptors.map fun descriptor => (allotted descriptor.name).record descriptor.name
  each : List.Forall₂ (fun descriptor => Bundle sitting.client.toSigner catalog larger
    sitting.session.files (allotted descriptor.name) descriptor) descriptors bundles
  sent : (sitting.finished catalog descriptors).2.sent = sitting.session.sent ++ bundles.flatten

section

variable {catalog : Schema.Catalog} {allotted : Scalar → Allotment}
  {descriptors reordered : List Descriptor} {larger : Registry}

private theorem Deliverable.perm {signer : Signer} {path : Option Path} {artifacts : Files}
    (deliverable : Deliverable signer catalog path artifacts allotted larger descriptors)
    (permuted : descriptors.Perm reordered) :
    Deliverable signer catalog path artifacts allotted larger reordered where
  bundled descriptor member := deliverable.bundled descriptor (permuted.mem_iff.mpr member)
  saves := by
    refine deliverable.saves.imp_left ?_
    rintro rfl
    exact List.nil_perm.mp permuted

/-- A run in which all is granted completes just if its contracts can all be deployed. -/
theorem Sitting.finished_cases {sitting : Sitting σ}
    (distinct : (descriptors.map (·.name.key)).Nodup)
    (absent : ∀ descriptor ∈ descriptors, sitting.registry.contains descriptor.name = false)
    (ordered : Plan.checkOrder descriptors sitting.registry.names = .ok ())
    (keeps : KeepsCode sitting.path descriptors sitting.session.files)
    (allots : Allots allotted sitting.client catalog sitting.path sitting.registry descriptors
      sitting.session)
    (all : larger.records.Perm (sitting.registry.records ++
      descriptors.map fun descriptor => (allotted descriptor.name).record descriptor.name))
    (chainId : larger.chainId = sitting.registry.chainId) :
    (∃ final bundles, sitting.Delivers catalog descriptors allotted larger final bundles ∧
        Deliverable sitting.client.toSigner catalog sitting.path sitting.session.files allotted
          larger descriptors) ∨
      (∃ halt, (sitting.finished catalog descriptors).1.2 = .error halt) ∧
        ¬Deliverable sitting.client.toSigner catalog sitting.path sitting.session.files allotted
          larger descriptors := by
  obtain ⟨outcome, quiet⟩ := run_of_distinct sitting.client catalog sitting.path sitting.registry
    sitting.session distinct
  have within : sitting.registry.records ⊆ larger.records := by
    intro record member
    exact all.mem_iff.mpr (List.mem_append_left _ member)
  have others : ∀ descriptor ∈ descriptors,
      (allotted descriptor.name).record descriptor.name ∈ larger.records := by
    intro descriptor member
    exact all.mem_iff.mpr (List.mem_append_right _ (List.mem_map.mpr ⟨descriptor, member, rfl⟩))
  have known : ∀ before descriptor rest, descriptors = before ++ descriptor :: rest →
      ∀ reference ∈ descriptor.message.references,
        Plan.Known sitting.registry before reference := by
    intro before descriptor rest split
    exact Plan.checkReferences_eq_ok_iff.mp
      (Plan.checkFrom_eq_ok_iff.mp ordered before descriptor rest split)
  rcases advance_granted distinct absent within chainId.symm others known keeps.readsFrom allots with
    ⟨final, after, bundles, advanced, records, same, each, asked, saves⟩ | ⟨halt, ended, reason⟩
  · rw [advanced] at outcome quiet
    refine .inl ⟨final, bundles, ⟨outcome, records, each, ?_⟩,
      Computation.exists_of_mem_left each, saves.imp_right ?_⟩
    · rw [Sitting.finished, quiet.sent, asked.sent, List.append_nil]
    · intro could
      refine could.of_subset ?_ (chainId.trans same.symm)
      rw [records]
      exact all.subset
  · refine .inr ⟨⟨halt, by rw [Sitting.finished, outcome, ended]⟩, ?_⟩
    rintro ⟨bundled, saves⟩
    rcases reason with ⟨some, unsaved⟩ | ⟨descriptor, member, bundleless⟩
    · exact saves.elim some unsaved
    · obtain ⟨transactions, bundle⟩ := bundled descriptor member
      exact bundleless transactions bundle

/-- Contracts in two orders that both respect references, deployed from the same registry and files
on a chain that gives each contract the same in both: either both runs complete, with the same
records and the same transactions for each contract, or both fail. It takes that saving the registry
leaves the code of the contracts as it is. -/
theorem reordered_runs_agree {first : Sitting σ} {second : Sitting τ}
    (permuted : descriptors.Perm reordered) (distinct : (descriptors.map (·.name.key)).Nodup)
    (alike : first.Alike second)
    (absent : ∀ descriptor ∈ descriptors, first.registry.contains descriptor.name = false)
    (ordered : Plan.checkOrder descriptors first.registry.names = .ok ())
    (orderedToo : Plan.checkOrder reordered first.registry.names = .ok ())
    (allots : Allots allotted first.client catalog first.path first.registry descriptors
      first.session)
    (allotsToo : Allots allotted second.client catalog second.path second.registry reordered
      second.session)
    (keeps : KeepsCode first.path descriptors first.session.files) :
    (∃ final other bundle,
      (first.finished catalog descriptors).1 = (final, .ok ()) ∧
        (second.finished catalog reordered).1 = (other, .ok ()) ∧
        (∀ name, final.find? name = other.find? name) ∧
        (first.finished catalog descriptors).2.sent =
          first.session.sent ++ descriptors.flatMap bundle ∧
        (second.finished catalog reordered).2.sent =
          second.session.sent ++ reordered.flatMap bundle ∧
        ∀ descriptor ∈ descriptors,
          final.find? descriptor.name =
              some ((allotted descriptor.name).record descriptor.name) ∧
            ∃ message code number coins,
              Template.Fills final.records (some first.client.address) descriptor.message
                  message ∧
                bundle descriptor = [storeOf first.client.address code,
                  [.instantiate first.client.address
                    (descriptor.admin.orElse (.text first.client.address)) number message
                    coins]]) ∨
      (∃ halt, (first.finished catalog descriptors).1.2 = .error halt) ∧
        ∃ halt, (second.finished catalog reordered).1.2 = .error halt := by
  obtain ⟨larger, chainId, all⟩ : ∃ larger : Registry,
      larger.chainId = first.registry.chainId ∧ larger.records = first.registry.records ++
        descriptors.map fun descriptor => (allotted descriptor.name).record descriptor.name :=
    exists_allotted distinct absent
  have distinctToo := (permuted.map fun descriptor => descriptor.name.key).nodup_iff.mp distinct
  have absentToo : ∀ descriptor ∈ reordered, second.registry.contains descriptor.name = false :=
    fun descriptor member => alike.registry ▸ absent descriptor (permuted.mem_iff.mpr member)
  have keepsToo : KeepsCode second.path reordered second.session.files := by
    rw [alike.path, alike.files]
    exact fun now resaved descriptor member =>
      keeps now resaved descriptor (permuted.mem_iff.mpr member)
  have allToo : larger.records.Perm (second.registry.records ++
      reordered.map fun descriptor => (allotted descriptor.name).record descriptor.name) := by
    rw [all, alike.registry]
    exact (permuted.map _).append_left _
  have came := Sitting.finished_cases distinct absent ordered keeps allots (.of_eq all) chainId
  have cameToo := Sitting.finished_cases distinctToo absentToo (alike.registry ▸ orderedToo)
    keepsToo allotsToo allToo (alike.registry ▸ chainId)
  rw [alike.signer, alike.path, alike.files] at cameToo
  rcases came with ⟨final, bundles, delivers, deliverable⟩ | ⟨halted, undeliverable⟩
  · rcases cameToo with ⟨other, more, deliversToo, _⟩ | ⟨_, undeliverable⟩
    · -- a contract has one bundle, and so both runs send the same for it
      have bundled := deliverable.bundled
      have eachToo := deliversToo.each
      rw [alike.signer, alike.files] at eachToo
      choose! bundle chosen using bundled
      have chosenToo := fun descriptor member => chosen descriptor (permuted.mem_iff.mpr member)
      have permutedRecords : final.records.Perm other.records := by
        rw [delivers.records, deliversToo.records, ← all]
        exact allToo
      refine .inl ⟨final, other, bundle, delivers.ended, deliversToo.ended,
        Registry.find?_perm permutedRecords, ?_, ?_, fun descriptor member => ⟨?_, ?_⟩⟩
      · rw [delivers.sent, flatten_bundles delivers.each chosen]
      · rw [deliversToo.sent, flatten_bundles eachToo chosenToo]
      · rw [Registry.find?_eq_some_iff, delivers.records]
        exact ⟨List.mem_append_right _ (List.mem_map.mpr ⟨descriptor, member, rfl⟩), rfl⟩
      · rw [delivers.records, ← all]
        exact (chosen descriptor member).eq
    · exact absurd (deliverable.perm permuted) undeliverable
  · rcases cameToo with ⟨_, _, _, deliverable⟩ | ⟨haltedToo, _⟩
    · exact absurd (deliverable.perm permuted.symm) undeliverable
    · exact .inr ⟨halted, haltedToo⟩

end

/-- A contract that neither refers to the pair nor is referred to. -/
def mirror : Descriptor :=
  ⟨.text "mirror", ⟨"/", ["hub.wasm"]⟩, .object [], .null, .null, .null⟩

/-- Numbers code by what it is, and gives every contract the same address. -/
def numbering : Client Unit where
  address := "deployer"
  readCoins := Coins.ofValue
  broadcast transaction _ :=
    match transaction with
    | [.store _ code] => (storedAs (if code = "AA==" then 7 else 9), ())
    | _ => (instantiatedAt, ())

def numbered : Scalar → Allotment
  | .text "vault" => ⟨.int 9, pairAddress⟩
  | .text "detour" => ⟨.int 9, pairAddress⟩
  | _ => ⟨.int 7, pairAddress⟩

/-- A run from nothing that keeps its registry under a path. -/
def keeping (path : Path) : Sitting Unit :=
  ⟨numbering, some path, .empty .null, .start () pairFiles ""⟩

private theorem numbering_grants (number : Int) {sender code : String} {admin message : Value}
    {asked : Int} {coins : Coins} {exchanges : List Exchange}
    (made : exchanges = [⟨[.store sender code], storedAs number⟩,
      ⟨[.instantiate sender admin asked message coins], instantiatedAt⟩]) :
    ∀ exchange ∈ exchanges, Grants ⟨.int number, pairAddress⟩ exchange := by
  subst made
  refine List.forall_mem_cons.mpr ⟨?_, List.forall_mem_singleton.mpr ?_⟩
  · refine ⟨⟨_, rfl, rfl⟩, ?_, ?_⟩
    · rintro _ _ _ ⟨⟩
      rfl
    · rintro _ _ _ _ _ _ ⟨⟩
  · refine ⟨⟨_, rfl, rfl⟩, ?_, ?_⟩
    · rintro _ _ _ ⟨⟩
    · rintro _ _ _ _ _ _ ⟨⟩
      rfl

def trioPlace : Path := ⟨"/", ["registry.json"]⟩

private theorem trio_apart :
    Files.Apart pairFiles trioPlace trioPlace ((pair ++ [mirror]).map (·.bytecode)) := by
  refine ⟨rfl, rfl, by decide, ?_⟩
  intro other member
  simp only [pair, mirror, List.map_cons, List.map_nil, List.cons_append, List.nil_append,
    List.mem_cons, List.not_mem_nil, or_false] at member
  rcases member with rfl | rfl | rfl <;> exact ⟨_, rfl, by decide⟩

/-- The mirror may be deployed behind the pair or before it. -/
theorem mirror_placed_freely :
    ∃ final other,
      ((keeping trioPlace).finished pairCatalog (pair ++ [mirror])).1 = (final, .ok ()) ∧
        ((keeping trioPlace).finished pairCatalog (mirror :: pair)).1 = (other, .ok ()) ∧
        ∀ name, final.find? name = other.find? name := by
  have completed :
      ((keeping trioPlace).finished pairCatalog (pair ++ [mirror])).1.2.isOk = true := by
    decide +kernel
  have alike : (keeping trioPlace).Alike (keeping trioPlace) := ⟨rfl, rfl, rfl, rfl⟩
  have allots : Allots numbered numbering pairCatalog (some trioPlace) (.empty .null)
      (pair ++ [mirror]) (.start () pairFiles "") :=
    .cons (numbering_grants 7 rfl) (.cons (numbering_grants 9 rfl)
      (.cons (numbering_grants 7 rfl) .nil))
  have allotsToo : Allots numbered numbering pairCatalog (some trioPlace) (.empty .null)
      (mirror :: pair) (.start () pairFiles "") :=
    .cons (numbering_grants 7 rfl) (.cons (numbering_grants 7 rfl)
      (.cons (numbering_grants 9 rfl) .nil))
  rcases reordered_runs_agree (List.perm_append_singleton mirror pair) (by decide) alike
    (fun _ _ => rfl) rfl rfl allots allotsToo (keepsCode_of_apart trio_apart) with
    ⟨final, other, _, ended, endedToo, same, _⟩ | ⟨⟨halt, failed⟩, _⟩
  · exact ⟨final, other, ended, endedToo, same⟩
  · rw [failed] at completed
    cases completed

/-- A contract whose code is found on a way through a directory. -/
def detour : Descriptor :=
  ⟨.text "detour", ⟨"/", ["state", "..", "vault.wasm"]⟩, .object [], .null, .null, .null⟩

def detourPlace : Path := ⟨"/", ["state", "registry.json"]⟩

/-- The directory on the way is only there once the registry was saved in it, behind another
contract. -/
theorem detour_not_first :
    [mirror, detour].Perm [detour, mirror] ∧ ([mirror, detour].map (·.name.key)).Nodup ∧
      (∀ descriptor ∈ [mirror, detour],
        (keeping detourPlace).registry.contains descriptor.name = false) ∧
      Plan.checkOrder [mirror, detour] (keeping detourPlace).registry.names = .ok () ∧
      Plan.checkOrder [detour, mirror] (keeping detourPlace).registry.names = .ok () ∧
      Allots numbered numbering pairCatalog (some detourPlace) (.empty .null) [mirror, detour]
        (.start () pairFiles "") ∧
      Allots numbered numbering pairCatalog (some detourPlace) (.empty .null) [detour, mirror]
        (.start () pairFiles "") ∧
      ((keeping detourPlace).finished pairCatalog [mirror, detour]).1.2.isOk = true ∧
      ((keeping detourPlace).finished pairCatalog [detour, mirror]).1.2.isOk = false := by
  refine ⟨.swap _ _ _, by decide, fun _ _ => rfl, rfl, rfl, ?_, ?_, ?_, ?_⟩
  · exact .cons (numbering_grants 7 rfl) (.cons (numbering_grants 9 rfl) .nil)
  · exact .cons (List.forall_mem_nil _) (.cons (numbering_grants 7 rfl) .nil)
  · decide +kernel
  · decide +kernel

end Rollout.Deployment
