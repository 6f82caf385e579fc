import Rollout.Proofs.CommandLine.Invocation
import Rollout.Proofs.Path
import Rollout.Proofs.Registry.Loading

/-!
# Histories of invocations

What becomes of the file of a registry from one invocation to the next. The records in it are only
ever appended to, and whatever is in it is not deployed again.
-/

set_option autoImplicit false

namespace Rollout

open Rollout.Chain Rollout.Deployment

variable {σ : Type}

/-- The records in the file of a registry: none if no registry can be loaded from it. -/
def recordsIn (files : Files) (path : Path) : List Record :=
  match Registry.load files path with
  | .ok registry => registry.records
  | .error _ => []

/-- Whatever registry is in a file can be stored again. -/
def Stored (files : Files) (path : Path) : Prop :=
  ∀ registry, Registry.load files path = .ok registry → registry.Storable

section

variable {files other : Files} {path : Path} {registry : Registry}

private theorem Registry.load_congr (same : other.find path = files.find path) :
    Registry.load other path = Registry.load files path := by
  simp only [load, readDocument, Files.isThere, Files.leadsTo, Files.readText, same]

theorem recordsIn_of_load (loaded : Registry.load files path = .ok registry) :
    recordsIn files path = registry.records := by
  rw [recordsIn, loaded]

theorem Stored.congr (stored : Stored files path) (same : other.find path = files.find path) :
    Stored other path := by
  intro registry loaded
  rw [Registry.load_congr same] at loaded
  exact stored registry loaded

theorem Registry.forChain_eq_ok {given : Registry} {place chainId : String}
    (agreed : given.forChain place chainId = .ok registry) :
    registry = { given with chainId := .text chainId } ∧
      (given.chainId = .null ∨ given.chainId = .text chainId) := by
  rw [forChain] at agreed
  split at agreed
  · next unclaimed =>
      cases agreed
      exact ⟨rfl, .inl unclaimed⟩
  · split at agreed
    · next same =>
        have claimed : given.chainId = .text chainId := by
          unfold Value.text? at same
          split at same
          · next shown =>
              cases same
              exact shown
          · cases same
        cases agreed
        exact ⟨by rw [← claimed], .inr claimed⟩
    · cases agreed

/-- The registry that a deployment starts from has the records in the file. -/
theorem Registry.loadOrCreate_eq_ok {place chainId : String}
    (found : Registry.loadOrCreate files path place chainId = .ok registry) :
    registry.records = recordsIn files path ∧ (Stored files path → registry.Storable) := by
  rw [Registry.loadOrCreate] at found
  split at found
  · next known loaded =>
      obtain ⟨rfl, _⟩ := forChain_eq_ok found
      refine ⟨(recordsIn_of_load loaded).symm, ?_⟩
      intro stored
      exact ⟨trivial, (stored known loaded).records⟩
  · next missing =>
      cases found
      rw [recordsIn, missing]
      exact ⟨rfl, fun _ => storable_empty trivial⟩
  · cases found

theorem Registry.legible_of_loadOrCreate {place chainId : String}
    (found : loadOrCreate files path place chainId = .ok registry) : registry.Legible := by
  rw [loadOrCreate] at found
  split at found
  · next loaded =>
      obtain ⟨rfl, _⟩ := forChain_eq_ok found
      exact ⟨trivial, (legible_of_load loaded).records⟩
  · cases found
    exact ⟨trivial, List.forall_mem_nil _⟩
  · cases found

private theorem Deployment.Persisted.recordsIn_eq {reached : Registry}
    (persisted : Persisted path registry reached files other)
    (start : registry.records = recordsIn files path) : recordsIn other path = reached.records := by
  obtain ⟨rfl, rfl⟩ | loaded := persisted
  · exact start.symm
  · exact recordsIn_of_load loaded

private theorem Deployment.Persisted.stored {reached : Registry}
    (persisted : Persisted path registry reached files other) (stored : Stored files path)
    (storable : reached.Storable) : Stored other path := by
  obtain ⟨_, rfl⟩ | loaded := persisted
  · exact stored
  · intro registry again
    rw [loaded] at again
    cases again
    exact storable

end

/-- A deployment appends to the records in the file, and whenever it sends something for a contract,
the file does not record the contract. -/
theorem Deployment.run_appends {client : Client σ} {catalog : Schema.Catalog} {path : Path}
    {registry : Registry} {descriptors : List Descriptor} {session : Session σ}
    {transactions : List Transaction} (storable : registry.Storable)
    (recorded : registry.records = recordsIn session.files path)
    (named : ∀ descriptor ∈ descriptors, ∃ text, descriptor.name = .text text)
    (sent : ((run client catalog (some path) registry descriptors).run session).2.sent =
      session.sent ++ transactions)
    (numbered : Numbered (client.exchanges session.chain transactions))
    (saves : ∀ fault, ((run client catalog (some path) registry descriptors).run session).1.2 ≠
      .error (.bare (.file fault))) :
    (Stored session.files path →
        Stored ((run client catalog (some path) registry descriptors).run session).2.files path) ∧
      recordsIn session.files path <+:
        recordsIn ((run client catalog (some path) registry descriptors).run session).2.files
          path ∧
      ∀ count < transactions.length, ∃ descriptor known middle,
        TurnOf client catalog (some path) registry descriptors session descriptor known middle ∧
          SentIn client catalog (some path) known descriptor middle
            (session.sent.length + count) ∧
          ∀ record ∈ recordsIn middle.files path, record.name.key ≠ descriptor.name.key := by
  have persistedEnd := run_persisted storable named sent numbered saves
  refine ⟨fun stored => ?_, ?_, fun count within => ?_⟩
  · exact persistedEnd.stored stored (run_storable storable named sent numbered)
  · rw [persistedEnd.recordsIn_eq recorded, ← recorded]
    exact (run_grown client catalog (some path) registry descriptors session).2
  · obtain ⟨descriptor, known, middle, _, _, turn, sentIn, _⟩ :=
      run_interrupted ⟨.run, ""⟩ sent within
    have persisted := turn.persisted (distinct_of_sent sent within) storable named sent numbered
    refine ⟨descriptor, known, middle, turn, sentIn, ?_⟩
    rw [persisted.recordsIn_eq recorded]
    exact Registry.find?_eq_none_iff.mp sentIn.absent

/-- A plan that a file holds is the one of its document. -/
theorem Plan.load_of_find {layout : Json.Layout} (regular : layout.Regular) (plain : layout.Plain)
    {document : Value} (kept : Json.Kept document) {files : Files} {path artifacts : Path}
    (found : files.find path = .ok (.text (Json.print layout document))) :
    Plan.load files path artifacts = Plan.ofValue document artifacts := by
  have text := Files.readText_of_find found (Json.carriageReturn_notMem_print plain document)
  have read := Json.read_print regular kept
  rw [Plan.load, text]
  simp only [Except.mapError, bind, Except.bind, read]

private theorem Session.Wires.executesOnly {before after : Session σ} {place : Nat}
    {transaction : Transaction} (wires : Session.Wires before after)
    (found : after.sent[place]? = some transaction) (late : before.sent.length ≤ place) :
    ExecutesOnly transaction := by
  obtain ⟨transactions, sent, executes⟩ := wires.sent
  rw [sent, List.getElem?_append_right late] at found
  exact executes transaction (List.mem_of_getElem? found)

private theorem Session.Wires.getElem? {before after : Session σ} {place : Nat}
    (wires : Session.Wires before after) (early : place < before.sent.length) :
    after.sent[place]? = before.sent[place]? := by
  obtain ⟨transactions, sent, _⟩ := wires.sent
  rw [sent, List.getElem?_append_left early]

namespace CommandLine

/-- An invocation for which contracts have texts for names, the chain gives integers for code ids,
and files can be written. -/
structure Invocation.Regular (invocation : Invocation σ) : Prop where
  named : ∀ plan sitting, invocation.Begins plan sitting →
    ∀ descriptor ∈ plan.descriptors, ∃ text, descriptor.name = .text text
  numbered : ∀ plan sitting, invocation.Begins plan sitting →
    Numbered (sitting.exchanges standardCatalog plan.descriptors)
  saves : ∀ plan sitting, invocation.Begins plan sitting → ∀ fault,
    (sitting.finished standardCatalog plan.descriptors).1.2 ≠ .error (.bare (.file fault))

/-- A transaction, told by its place among all that are sent, is sent in the turn of a contract
whose name the file does not record. A turn writes the file only when all for its contract is
sent. -/
def Invocation.Deploys (invocation : Invocation σ) (place : Nat) : Prop :=
  ∃ plan sitting descriptor known middle, invocation.Begins plan sitting ∧
    TurnOf sitting.client standardCatalog sitting.path sitting.registry plan.descriptors
      sitting.session descriptor known middle ∧
    SentIn sitting.client standardCatalog sitting.path known descriptor middle place ∧
    ∀ record ∈ recordsIn middle.files invocation.path, record.name.key ≠ descriptor.name.key

/-- Invocations one after another, all with the same file for the registry. What lies there is left
alone between them; anything else may change. -/
inductive History (path : Path) : Files → List (Invocation σ) → Prop where
  | done {files : Files} : History path files []
  | invoke {files : Files} {invocation : Invocation σ} {rest : List (Invocation σ)} :
      invocation.path = path → invocation.session.files.find path = files.find path →
      invocation.Regular → History path invocation.finished.2.files rest →
      History path files (invocation :: rest)

namespace Invocation

variable {invocation : Invocation σ} {plan : Plan} {sitting : Sitting σ}

private theorem Begins.regular (begins : invocation.Begins plan sitting)
    (named : ∀ descriptor ∈ plan.descriptors, ∃ text, descriptor.name = .text text)
    (numbered : Numbered (sitting.exchanges standardCatalog plan.descriptors))
    (saves : ∀ fault, (sitting.finished standardCatalog plan.descriptors).1.2 ≠
      .error (.bare (.file fault))) : invocation.Regular := by
  refine ⟨fun other another again => ?_, fun other another again => ?_,
    fun other another again => ?_⟩
  all_goals obtain ⟨rfl, rfl⟩ := begins.unique again
  · exact named
  · exact numbered
  · exact saves

private theorem Begins.appends (begins : invocation.Begins plan sitting)
    (regular : invocation.Regular) (starting : Session.Wires invocation.session sitting.session)
    (stored : Stored invocation.session.files invocation.path) :
    Stored (sitting.finished standardCatalog plan.descriptors).2.files invocation.path ∧
      recordsIn invocation.session.files invocation.path <+:
        recordsIn (sitting.finished standardCatalog plan.descriptors).2.files invocation.path ∧
      ∃ transactions,
        (sitting.finished standardCatalog plan.descriptors).2.sent =
            sitting.session.sent ++ transactions ∧
          ∀ count < transactions.length,
            invocation.Deploys (sitting.session.sent.length + count) := by
  have named := regular.named plan sitting begins
  have numbered := regular.numbered plan sitting begins
  have saves := regular.saves plan sitting begins
  obtain ⟨recorded, storable⟩ := Registry.loadOrCreate_eq_ok begins.found
  have files : sitting.session.files = invocation.session.files := starting.files
  rw [← files] at recorded stored ⊢
  have storable := storable (files ▸ stored)
  have placed := begins.placed
  rw [Sitting.exchanges, Sitting.finished, placed] at numbered
  rw [Sitting.finished, placed] at saves ⊢
  obtain ⟨transactions, sent⟩ := (run_grown sitting.client standardCatalog (some invocation.path)
    sitting.registry plan.descriptors sitting.session).1
  rw [← sent, List.drop_left] at numbered
  obtain ⟨keeps, appended, turns⟩ := run_appends storable recorded named sent.symm numbered saves
  refine ⟨keeps stored, appended, transactions, sent.symm, fun count within => ?_⟩
  obtain ⟨descriptor, known, middle, turn, sentIn, unrecorded⟩ := turns count within
  rw [← placed] at turn sentIn
  exact ⟨plan, sitting, descriptor, known, middle, begins, turn, sentIn, unrecorded⟩

/-- One invocation appends to the records in the file, and whatever it sends besides messages to
contracts is sent for a contract that the file does not record. -/
theorem appends (regular : invocation.Regular)
    (stored : Stored invocation.session.files invocation.path) :
    Stored invocation.finished.2.files invocation.path ∧
      recordsIn invocation.session.files invocation.path <+:
        recordsIn invocation.finished.2.files invocation.path ∧
      ∀ place transaction, invocation.session.sent.length ≤ place →
        invocation.finished.2.sent[place]? = some transaction → ¬ ExecutesOnly transaction →
        invocation.Deploys place := by
  obtain wires | ⟨plan, sitting, begins, starting, ending⟩ := invocation.finished_cases
  · rw [wires.files]
    refine ⟨stored, List.prefix_rfl, fun place transaction late found deploys => ?_⟩
    exact absurd (wires.executesOnly found late) deploys
  · obtain ⟨storedAfter, appended, transactions, sent, turns⟩ :=
      begins.appends regular starting stored
    rw [ending.files]
    refine ⟨storedAfter, appended, fun place transaction late found deploys => ?_⟩
    -- what is sent before or after the deployment executes messages
    have early : place < (sitting.finished standardCatalog plan.descriptors).2.sent.length := by
      by_contra beyond
      exact deploys (ending.executesOnly found (Nat.le_of_not_lt beyond))
    have begun : sitting.session.sent.length ≤ place := by
      by_contra before
      have before := Nat.lt_of_not_le before
      rw [ending.getElem? early, sent, List.getElem?_append_left before] at found
      exact deploys (starting.executesOnly found late)
    rw [sent, List.length_append] at early
    have deployed := turns (place - sitting.session.sent.length) (by omega)
    rw [Nat.add_sub_cancel' begun] at deployed
    exact deployed

end Invocation

section

variable {path : Path} {files : Files} {invocations : List (Invocation σ)}

/-- Whatever the invocations are and whatever the chain answers, each only appends to the records in
the file, and stores and instantiates nothing for a contract that the file records. -/
theorem history_appends (absent : ∀ registry, Registry.load files path ≠ .ok registry)
    (history : History path files invocations) :
    ∀ invocation ∈ invocations,
      recordsIn invocation.session.files path <+: recordsIn invocation.finished.2.files path ∧
        ∀ place transaction, invocation.session.sent.length ≤ place →
          invocation.finished.2.sent[place]? = some transaction → ¬ ExecutesOnly transaction →
          invocation.Deploys place := by
  have stored : Stored files path := fun registry loaded => absurd loaded (absent registry)
  clear absent
  induction history with
  | done => exact fun _ member => absurd member List.not_mem_nil
  | invoke placed same regular _ ih =>
      subst placed
      obtain ⟨storedAfter, appended, deploys⟩ := Invocation.appends regular (stored.congr same)
      intro invocation member
      obtain rfl | later := List.mem_cons.mp member
      · exact ⟨appended, deploys⟩
      · exact ih storedAfter invocation later

end

/-- A contract and one that is told of it, with their code in one file. -/
def pairPlan : Plan :=
  ⟨[⟨.text "hub", ⟨"/", ["a"]⟩, .object [], .null, .null, .null⟩,
    ⟨.text "vault", ⟨"/", ["a"]⟩, .object [("hub", .reference ⟨"hub", .address⟩)], .null, .null,
      .null⟩], []⟩

def registryPlace : Path := ⟨"/", ["registry.json"]⟩

def planPlace : Path := ⟨"/", ["plan.json"]⟩

def deployPair : Options where
  chainId := some "localterra"
  lcdUrl := none
  registry := some registryPlace
  fetchGasPrices := false
  verbose := false
  command := .deploy
  artifacts := some ⟨"/", []⟩
  plan := some planPlace

def rehearsalHost : Host (List ChainAnswer) where
  environment := [("TERRA_MNEMONIC", "words")]
  answer _ := .failed noAnswer
  memory := .usual
  library := ⟨Coins.ofValue, fun _ => .ok (Rehearsal.client ⟨"deployer", "", .failed noAnswer, []⟩)⟩

def pairPlanFiles : Files :=
  ⟨⟨"/", []⟩, [(⟨"/", ["a"]⟩, .octets [0]),
    (planPlace, .text (Json.print .compact pairPlan.toValue))]⟩

def hubOnChain : Registry :=
  { hubRecorded with chainId := .text "localterra" }

def hubFiles : Files :=
  pairPlanFiles.put registryPlace (.text (hubOnChain.print ""))

/-- The client fails at the second contract. -/
def haltedPair : Invocation (List ChainAnswer) :=
  ⟨rehearsalHost, deployPair,
    .start [storedAs 7, instantiatedAt, .error ⟨.timeout, "late"⟩] pairPlanFiles ""⟩

/-- The deployment is taken up at the second contract. -/
def resumedPair : Invocation (List ChainAnswer) :=
  ⟨rehearsalHost, deployPair, .start [storedAs 9, instantiatedAt] hubFiles ""⟩

/-- The deployment that an invocation of the pair comes to from a registry. -/
def pairSitting (invocation : Invocation (List ChainAnswer)) (registry : Registry) :
    Sitting (List ChainAnswer) :=
  ⟨Rehearsal.client ⟨"deployer", "", .failed noAnswer, []⟩, some registryPlace, registry,
    ((say .info "Deploying from deployer to localterra").run
      ((connectClient invocation.host invocation.options).run.run invocation.session).2).2⟩

private theorem pairPlan_kept : Json.Kept pairPlan.toValue := by
  simp [pairPlan, Plan.toValue, Plan.descriptorValue, Plan.presentField, Json.Kept,
    Json.KeptItems, Json.KeptFields, Json.KeptScalar, Value.text, Value.isNull, Template.encode,
    Template.encodeFields, Template.encodeReference]

private theorem child_a : (⟨"/", []⟩ : Path).child "a" = ⟨"/", ["a"]⟩ :=
  Path.child_of_proper _ ⟨by decide, by decide, by decide⟩

private theorem ofValue_pairPlan : Plan.ofValue pairPlan.toValue ⟨"/", []⟩ = .ok pairPlan := by
  have read : Plan.ofValue pairPlan.toValue ⟨"/", []⟩ = .ok
      ⟨[⟨.text "hub", (⟨"/", []⟩ : Path).child "a", .object [], .null, .null, .null⟩,
        ⟨.text "vault", (⟨"/", []⟩ : Path).child "a",
          .object [("hub", .reference ⟨"hub", .address⟩)], .null, .null, .null⟩], []⟩ := rfl
  rw [read, child_a]
  rfl

private theorem planOf_deployPair {files : Files}
    (found : files.find planPlace = .ok (.text (Json.print .compact pairPlan.toValue))) :
    planOf .usual deployPair files = .ok pairPlan := by
  have given : planOf .usual deployPair files = Plan.load files planPlace ⟨"/", []⟩ := rfl
  rw [given, Plan.load_of_find Json.regular_compact Json.plain_compact pairPlan_kept found]
  exact ofValue_pairPlan

private theorem load_hubFiles : Registry.load hubFiles registryPlace = .ok hubOnChain := by
  have storable : hubOnChain.Storable := ⟨trivial, hubRecorded_storable.records⟩
  have saved : (hubOnChain.save registryPlace "").run.run pairPlanFiles = (.ok (), hubFiles) := rfl
  exact Registry.load_of_save storable saved

private theorem haltedPair_begins :
    haltedPair.Begins pairPlan (pairSitting haltedPair (.empty (.text "localterra"))) where
  asked := rfl
  connected := ⟨_, rfl, rfl⟩
  planned := planOf_deployPair rfl
  found := rfl
  placed := rfl
  ordered := rfl

private theorem resumedPair_begins :
    resumedPair.Begins pairPlan (pairSitting resumedPair hubOnChain) where
  asked := rfl
  connected := ⟨_, rfl, rfl⟩
  planned := planOf_deployPair rfl
  found := by
    have loaded : Registry.load resumedPair.session.files resumedPair.path = .ok hubOnChain :=
      load_hubFiles
    rw [Registry.loadOrCreate, loaded]
    rfl
  placed := rfl
  ordered := rfl

private theorem pairPlan_named :
    ∀ descriptor ∈ pairPlan.descriptors, ∃ text, descriptor.name = .text text := by
  simp [pairPlan]

private theorem haltedPair_regular : haltedPair.Regular := by
  refine haltedPair_begins.regular pairPlan_named ?_ ?_
  · have made : (pairSitting haltedPair (.empty (.text "localterra"))).exchanges standardCatalog
          pairPlan.descriptors =
        [⟨[.store "deployer" "AA=="], storedAs 7⟩,
          ⟨[.instantiate "deployer" (.text "deployer") 7 (.object []) []], instantiatedAt⟩,
          ⟨[.store "deployer" "AA=="], .error ⟨.timeout, "late"⟩⟩] := rfl
    rw [made]
    exact .stored rfl (Number.oneDigit_bounded (by decide)) (.instantiated (.lost .nil))
  · intro fault failed
    cases failed

private theorem resumedPair_regular : resumedPair.Regular := by
  refine resumedPair_begins.regular pairPlan_named ?_ ?_
  · have made : (pairSitting resumedPair hubOnChain).exchanges standardCatalog
          pairPlan.descriptors =
        [⟨[.store "deployer" "AA=="], storedAs 9⟩,
          ⟨[.instantiate "deployer" (.text "deployer") 9 (.object [("hub", pairAddress)]) []],
            instantiatedAt⟩] := rfl
    rw [made]
    exact .stored rfl (Number.oneDigit_bounded (by decide)) (.instantiated .nil)
  · intro fault failed
    cases failed

private theorem pair_history :
    History registryPlace pairPlanFiles [haltedPair, resumedPair] := by
  have leaves : hubFiles.find registryPlace =
      haltedPair.finished.2.files.find registryPlace := by
    rw [haltedPair_begins.finished_wires.files]
    rfl
  exact .invoke rfl rfl haltedPair_regular (.invoke rfl leaves resumedPair_regular .done)

/-- The second invocation finds the first contract in the file, keeps its record, and stores code
for the other one at once. -/
theorem pair_history_appends :
    History registryPlace pairPlanFiles [haltedPair, resumedPair] ∧
      (∀ registry, Registry.load pairPlanFiles registryPlace ≠ .ok registry) ∧
      hubOnChain.records <+: recordsIn resumedPair.finished.2.files registryPlace ∧
      resumedPair.finished.2.sent[0]? = some [.store "deployer" "AA=="] ∧
      resumedPair.Deploys 0 := by
  have absent : ∀ registry, Registry.load pairPlanFiles registryPlace ≠ .ok registry := by
    intro registry loaded
    cases loaded
  obtain ⟨appended, deploys⟩ :=
    history_appends absent pair_history resumedPair (List.mem_cons_of_mem _ List.mem_cons_self)
  have recorded : recordsIn resumedPair.session.files registryPlace = hubOnChain.records :=
    recordsIn_of_load load_hubFiles
  have sent : resumedPair.finished.2.sent[0]? = some [.store "deployer" "AA=="] := by
    rw [resumedPair_begins.finished_wires.getElem? (by decide)]
    rfl
  refine ⟨pair_history, absent, recorded ▸ appended, sent, deploys 0 _ (Nat.zero_le _) sent ?_⟩
  intro executes
  cases executes _ List.mem_cons_self

end CommandLine

end Rollout
