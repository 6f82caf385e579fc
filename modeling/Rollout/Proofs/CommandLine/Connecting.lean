import Rollout.Network.Connection
import Rollout.Proofs.CommandLine.History

/-!
# Chains of invocations

An invocation connects once, and whatever it sends goes through that one client. The registry is
looked at only then: a deployment is refused if the file belongs to another chain than the one that
was asked for, whereas wiring again takes the registry as it is.
-/

set_option autoImplicit false

namespace Rollout

open Rollout.Chain Rollout.Deployment

variable {σ : Type}

/-- One client was asked for all that was sent between two sessions, and nothing was sent but what
is allowed. No other client was connected. -/
structure Session.Served (client : Client σ) (allowed : Transaction → Prop)
    (before after : Session σ) : Prop where
  broadcasts : ∃ transactions, Session.Broadcasts client transactions before after ∧
    ∀ transaction ∈ transactions, allowed transaction
  connected : after.connected = before.connected

namespace Session.Served

variable {client : Client σ} {allowed : Transaction → Prop} {before after : Session σ}

theorem of_sends {transactions : List Transaction}
    (sends : Session.Sends client transactions before after)
    (within : ∀ transaction ∈ transactions, allowed transaction) :
    Served client allowed before after :=
  ⟨⟨transactions, sends.toBroadcasts, within⟩, sends.connected⟩

theorem of_silent (chain : after.chain = before.chain) (sent : after.sent = before.sent)
    (connected : after.connected = before.connected) : Served client allowed before after := by
  refine ⟨⟨[], ⟨chain, ?_⟩, ?_⟩, connected⟩
  · rw [sent, List.append_nil]
  · intro transaction member
    cases member

theorem lenient (client : Client σ) (allowed : Transaction → Prop) :
    Session.Lenient (Served client allowed) where
  refl _ := .of_silent rfl rfl rfl
  trans := by
    intro start middle final first second
    obtain ⟨earlier, begun, allowedFirst⟩ := first.broadcasts
    obtain ⟨later, ended, allowedThen⟩ := second.broadcasts
    refine ⟨⟨earlier ++ later, begun.trans ended, ?_⟩, second.connected.trans first.connected⟩
    intro transaction member
    rcases List.mem_append.mp member with here | there
    · exact allowedFirst transaction here
    · exact allowedThen transaction there
  idles idle := .of_silent idle.chain idle.sent idle.connected

theorem broadcast {transaction : Transaction} (permitted : allowed transaction)
    (session : Session σ) :
    Served client allowed session ((Session.broadcast client transaction).run session).2 := by
  refine .of_sends (.broadcast client transaction session) ?_
  intro other member
  rw [List.mem_singleton.mp member]
  exact permitted

end Session.Served

/-- A transaction that executes a message on a contract whose address a registry supplied. -/
def Registry.Addresses (registry : Registry) (sender : String) (transaction : Transaction) : Prop :=
  ∃ record ∈ registry.records, ∃ message,
    transaction = [.execute sender record.address message]

namespace Deployment

variable (client : Client σ) (catalog : Schema.Catalog)

private theorem Turn.served {client : Client σ} {catalog : Schema.Catalog} {path : Option Path}
    {registry extended : Registry} {descriptor : Descriptor} {session after : Session σ}
    {ending : Except Halt Unit}
    (turn : Turn client catalog path registry descriptor session extended ending after) :
    Session.Served client (fun _ => True) session after := by
  cases turn with
  | skipped _ sends => exact .of_sends sends fun _ _ => trivial
  | halted _ sends _ => exact .of_sends sends fun _ _ => trivial
  | recorded _ sends _ _ _ keeping =>
      have lenient := Session.Served.lenient client fun _ => True
      refine lenient.trans (.of_sends sends fun _ _ => trivial) ?_
      cases keeping with
      | unasked => exact lenient.refl _
      | saved => exact .of_silent rfl rfl rfl
      | failed => exact .of_silent rfl rfl rfl

private theorem advance_served (path : Option Path) (descriptors : List Descriptor)
    (registry : Registry) (session : Session σ) :
    Session.Served client (fun _ => True) session
      ((advance client catalog path registry descriptors).run session).2 := by
  have lenient := Session.Served.lenient client fun _ => True
  induction descriptors generalizing registry session with
  | nil => exact lenient.refl session
  | cons descriptor rest ih =>
      obtain ⟨extended, ending, after, ran, turn⟩ :=
        step_turn client catalog path registry descriptor session
      cases ending with
      | error halt =>
          rw [advance_cons_error ran]
          exact turn.served
      | ok _ =>
          rw [advance_cons_ok ran]
          exact lenient.trans turn.served (ih extended after)

private theorem run_served (path : Option Path) (descriptors : List Descriptor)
    (registry : Registry) (session : Session σ) :
    Session.Served client (fun _ => True) session
      ((run client catalog path registry descriptors).run session).2 := by
  have lenient := Session.Served.lenient client fun _ => True
  by_cases distinct : (descriptors.map (·.name.key)).Nodup
  · have advanced := advance_served client catalog path descriptors registry session
    have quiet := (run_of_distinct client catalog path registry session distinct).2
    exact lenient.trans advanced (.of_sends quiet fun _ _ => trivial)
  · obtain ⟨_, _, halted⟩ := run_of_repeated client catalog path registry session distinct
    rw [halted]
    exact lenient.refl session

end Deployment

namespace CommandLine

open Rollout.Network

private theorem chainId_of_complete {given : Given} {environment : Environment}
    {settings : Settings} (completed : complete given environment = .ok settings) :
    settings.chainId = chosenChainId given.chainId environment := by
  unfold complete at completed
  obtain ⟨_, _, completed⟩ := Computation.bind_eq_ok completed
  obtain ⟨_, _, completed⟩ := Computation.bind_eq_ok completed
  dsimp only at completed
  split at completed
  · cases completed
  · split at completed
    · cases completed
      rfl
    · cases completed
      rfl
    · cases completed

private theorem chainId_of_settingsOf {host : Host σ} {options : Options}
    {session after : Session σ} {settings : Settings}
    (ran : (settingsOf host options).run.run session = (.ok settings, after)) :
    settings.chainId = chosenChainId options.chainId host.environment := by
  unfold settingsOf at ran
  obtain ⟨given, middle, settled, ran⟩ := Computation.run_bind_eq_ok ran
  have completed : complete ⟨options.chainId, options.lcdUrl, none, none, none⟩
      host.environment = .ok given :=
    Computation.mapError_eq_ok.mp (Computation.mapError_eq_ok.mp (congrArg Prod.fst settled))
  have chosen := chainId_of_complete completed
  split at ran
  · split at ran
    · cases ran
    · obtain ⟨prices, _, _, ended⟩ := Computation.run_bind_eq_ok ran
      cases ended
      exact chosen
  · cases ran
    exact chosen

/-- A registry that a deployment takes belongs to its chain, and so does the file unless it belongs
to none. -/
theorem loadOrCreate_chain {files : Files} {path : Path} {place chainId : String}
    {registry : Registry}
    (found : Registry.loadOrCreate files path place chainId = .ok registry) :
    registry.chainId = .text chainId ∧ ∀ loaded, Registry.load files path = .ok loaded →
      loaded.records = registry.records ∧
        (loaded.chainId = .null ∨ loaded.chainId = .text chainId) := by
  rw [Registry.loadOrCreate] at found
  split at found
  · next known given =>
      obtain ⟨rfl, claimed⟩ := Registry.forChain_eq_ok found
      refine ⟨rfl, ?_⟩
      intro loaded again
      rw [given] at again
      cases again
      exact ⟨rfl, claimed⟩
  · next missing =>
      cases found
      refine ⟨rfl, ?_⟩
      intro loaded again
      rw [missing] at again
      cases again
  · cases found

namespace Invocation

/-- An invocation connected a client with settings, and asked it for all that it sent. -/
structure Engages (invocation : Invocation σ) (settings : Settings) (client : Client σ)
    (transactions : List Transaction) (final : Session σ) : Prop where
  chainId : settings.chainId =
    chosenChainId invocation.options.chainId invocation.host.environment
  opened : invocation.host.library.connectWith settings = .ok client
  connected : final.connected = invocation.session.connected ++ [settings]
  broadcasts : Session.Broadcasts client transactions invocation.session final

variable (invocation : Invocation σ)

private theorem engages_of_served {settings : Settings} {client : Client σ}
    {allowed : Transaction → Prop} {middle final : Session σ}
    (chosen : settings.chainId =
      chosenChainId invocation.options.chainId invocation.host.environment)
    (opened : invocation.host.library.connectWith settings = .ok client)
    (idle : Session.Idles invocation.session middle)
    (served : Session.Served client allowed
      { middle with connected := middle.connected ++ [settings] } final) :
    ∃ transactions, invocation.Engages settings client transactions final ∧
      ∀ transaction ∈ transactions, allowed transaction := by
  obtain ⟨transactions, broadcasts, within⟩ := served.broadcasts
  refine ⟨transactions, ⟨chosen, opened, ?_, ?_, ?_⟩, within⟩
  · rw [served.connected, idle.connected]
  · rw [broadcasts.chain, idle.chain]
  · rw [broadcasts.sent, idle.sent]

private theorem deployPlan_engages (asked : invocation.options.command = .deploy)
    {final : Except Halt Unit × Session σ}
    (ran : final = (deployPlan invocation.host invocation.options invocation.chainId
      invocation.path).run.run invocation.session) :
    final.2.sent = invocation.session.sent ∨ ∃ settings transactions plan sitting,
      invocation.Engages settings sitting.client transactions final.2 ∧
        invocation.Begins plan sitting := by
  rcases deployPlan_begins invocation asked ran with ⟨_, _, sent⟩ | ⟨plan, sitting, begins⟩
  · exact .inl sent
  obtain ⟨middle, connected, started⟩ := begins.connected
  rcases connectClient_cases invocation.host invocation.options invocation.session with
    ⟨fault, after, failed, _⟩ | ⟨settings, client, ready, found, idle, opened, connects⟩
  · rw [failed] at connected
    cases connected
  rw [connects] at connected
  obtain ⟨same, rfl⟩ := Prod.mk.inj connected
  obtain rfl : client = sitting.client := Except.ok.inj same
  have lenient := Session.Served.lenient sitting.client fun _ => True
  have advanced := run_served sitting.client standardCatalog sitting.path plan.descriptors
    sitting.registry sitting.session
  have announced : Session.Idles { ready with connected := ready.connected ++ [settings] }
      sitting.session := by
    rw [started]
    exact ⟨rfl, rfl, rfl, rfl⟩
  have served : Session.Served sitting.client (fun _ => True) sitting.session final.2 := by
    rw [ran, deployPlan_eq_of_begins begins]
    refine lenient.trans advanced (leads_finish lenient sitting.client _ ?_ plan _ _)
    exact fun _ _ _ session => .broadcast trivial session
  have served := lenient.trans (lenient.idles announced) served
  obtain ⟨transactions, engages, _⟩ :=
    invocation.engages_of_served (chainId_of_settingsOf found) opened idle served
  exact .inr ⟨settings, transactions, plan, sitting, engages, begins⟩

private theorem wireAgain_eq {client : Client σ} {middle : Session σ} {plan : Plan}
    {registry : Registry}
    (connected : (connectClient invocation.host invocation.options).run.run invocation.session =
      (.ok client, middle))
    (planned : invocation.plan = .ok plan)
    (found : Registry.load invocation.session.files invocation.path = .ok registry) :
    (wireAgain invocation.host invocation.options invocation.path).run.run invocation.session =
      (wire client registry plan.updates).run.run middle := by
  have files := files_of_connectClient connected
  rw [Invocation.plan, ← files] at planned
  rw [← files] at found
  rw [wireAgain, Computation.run_bind_ok connected, run_get_bind, run_settle_ok planned,
    run_get_bind, run_settle_ok found]

private theorem wireAgain_engages {final : Except Halt Unit × Session σ}
    (ran : final = (wireAgain invocation.host invocation.options invocation.path).run.run
      invocation.session) :
    final.2.sent = invocation.session.sent ∨ ∃ settings client transactions registry,
      invocation.Engages settings client transactions final.2 ∧
        Registry.load invocation.session.files invocation.path = .ok registry ∧
        ∀ transaction ∈ transactions, registry.Addresses client.address transaction := by
  rw [wireAgain] at ran
  rcases connectClient_cases invocation.host invocation.options invocation.session with
    ⟨fault, after, failed, idle⟩ | ⟨settings, client, middle, settled, idle, opened, connected⟩
  · rw [Computation.run_bind_error failed] at ran
    rw [ran]
    exact .inl idle.sent
  rw [Computation.run_bind_ok connected, run_get_bind] at ran
  obtain ⟨fault, rfl⟩ | ⟨plan, _, ran⟩ := settle_cases ran
  · exact .inl idle.sent
  rw [run_get_bind] at ran
  obtain ⟨fault, rfl⟩ | ⟨registry, found, ran⟩ := settle_cases ran
  · exact .inl idle.sent
  dsimp only at found
  rw [idle.files] at found
  have served : Session.Served client (registry.Addresses client.address)
      { middle with connected := middle.connected ++ [settings] } final.2 := by
    rw [ran]
    refine leads_wire (Session.Served.lenient client _) client registry ?_ plan.updates _
    intro record recorded message session
    exact .broadcast ⟨record, recorded, message, rfl⟩ session
  obtain ⟨transactions, engages, addressed⟩ :=
    invocation.engages_of_served (chainId_of_settingsOf settled) opened idle served
  exact .inr ⟨settings, client, transactions, registry, engages, found, addressed⟩

private theorem finished_idles {task : Task σ Unit}
    (chosen : taskOf invocation.host invocation.options invocation.chainId invocation.path = task) :
    Session.Idles (task.run.run invocation.session).2 invocation.finished.2 := by
  rw [← chosen]
  exact execute_idles invocation.host invocation.options invocation.session

theorem deploy_idles (asked : invocation.options.command = .deploy) :
    Session.Idles ((deployPlan invocation.host invocation.options invocation.chainId
      invocation.path).run.run invocation.session).2 invocation.finished.2 :=
  invocation.finished_idles (by rw [taskOf, asked])

private theorem configure_idles (asked : invocation.options.command = .configure) :
    Session.Idles ((wireAgain invocation.host invocation.options invocation.path).run.run
      invocation.session).2 invocation.finished.2 :=
  invocation.finished_idles (by rw [taskOf, asked])

private theorem display_idles (asked : invocation.options.command = .display) :
    Session.Idles invocation.session invocation.finished.2 := by
  have told := invocation.finished_idles (show _ = display invocation.path by rw [taskOf, asked])
  exact Session.Idles.lenient.trans (idling_display invocation.path invocation.session) told

private theorem Engages.of_idles {settings : Settings} {client : Client σ}
    {transactions : List Transaction} {middle final : Session σ}
    (engages : invocation.Engages settings client transactions middle)
    (idles : Session.Idles middle final) :
    invocation.Engages settings client transactions final := by
  refine ⟨engages.chainId, engages.opened, idles.connected.trans engages.connected, ?_, ?_⟩
  · rw [idles.chain, engages.broadcasts.chain]
  · rw [idles.sent, engages.broadcasts.sent]

/-- The settings are for the chain that the registry was chosen for, unless an empty name was given
for the chain. -/
theorem Engages.chain_agrees {settings : Settings} {client : Client σ}
    {transactions : List Transaction} {final : Session σ}
    (engages : invocation.Engages settings client transactions final) :
    settings.chainId = invocation.chainId ∨
      invocation.options.chainId = some "" ∧ settings.chainId = "" := by
  have chosen := engages.chainId
  cases given : invocation.options.chainId with
  | none =>
      refine .inl ?_
      rw [chosen, Invocation.chainId, chainIdOf, given]
      rfl
  | some name =>
      rw [given] at chosen
      by_cases empty : name = ""
      · subst empty
        exact .inr ⟨rfl, chosen⟩
      · refine .inl ?_
        rw [chosen, Invocation.chainId, chainIdOf, given]
        simp [Option.filter, empty]

/-- What an invocation sends goes through one client. A deployment takes no registry of another
chain than the one it was asked for, whereas wiring again takes its addresses from whatever registry
is in the file. -/
theorem sent_through_one_client (sends : invocation.finished.2.sent ≠ invocation.session.sent) :
    ∃ settings client transactions,
      invocation.Engages settings client transactions invocation.finished.2 ∧
      (settings.chainId = invocation.chainId ∨
        invocation.options.chainId = some "" ∧ settings.chainId = "") ∧
      ((∃ plan sitting, invocation.Begins plan sitting ∧ sitting.client = client ∧
          sitting.registry.chainId = .text invocation.chainId ∧
          ∀ loaded, Registry.load invocation.session.files invocation.path = .ok loaded →
            loaded.records = sitting.registry.records ∧
              (loaded.chainId = .null ∨ loaded.chainId = .text invocation.chainId)) ∨
        (invocation.options.command = .configure ∧ ∃ registry,
          Registry.load invocation.session.files invocation.path = .ok registry ∧
          ∀ transaction ∈ transactions, registry.Addresses client.address transaction)) := by
  cases asked : invocation.options.command with
  | deploy =>
      have told := invocation.deploy_idles asked
      rcases invocation.deployPlan_engages asked rfl with
        unsent | ⟨settings, transactions, plan, sitting, engages, begins⟩
      · exact absurd (told.sent.trans unsent) sends
      · obtain ⟨claimed, guarded⟩ := loadOrCreate_chain begins.found
        have engaged := engages.of_idles _ told
        exact ⟨settings, sitting.client, transactions, engaged, engaged.chain_agrees,
          .inl ⟨plan, sitting, begins, rfl, claimed, guarded⟩⟩
  | configure =>
      have told := invocation.configure_idles asked
      rcases invocation.wireAgain_engages rfl with
        unsent | ⟨settings, client, transactions, registry, engages, found, addressed⟩
      · exact absurd (told.sent.trans unsent) sends
      · have engaged := engages.of_idles _ told
        exact ⟨settings, client, transactions, engaged, engaged.chain_agrees,
          .inr ⟨rfl, registry, found, addressed⟩⟩
  | display =>
      have told := invocation.display_idles asked
      exact absurd told.sent sends

end Invocation

/-- A single message to a contract that is deployed already. -/
def pingPlan : Plan :=
  ⟨[], [⟨.text "hub", .object [("ping", .object [])], .null⟩]⟩

def pingPlanFiles : Files :=
  ⟨⟨"/", []⟩, [(planPlace, .text (Json.print .compact pingPlan.toValue))]⟩

def hubElsewhere : Registry :=
  { hubRecorded with chainId := .text "bombay-12" }

/-- A command on the plan and the file of a registry, asked for on one chain. -/
def pinging (command : Command) (registry : Registry) : Invocation (List ChainAnswer) :=
  ⟨rehearsalHost, { deployPair with command },
    .start [.ok (Outcome.plain false)]
      (pingPlanFiles.put registryPlace (.text (registry.print ""))) ""⟩

def ping : Transaction :=
  [.execute "deployer" pairAddress (.object [("ping", .object [])])]

private theorem pingPlan_kept : Json.Kept pingPlan.toValue := by
  simp [pingPlan, Plan.toValue, Plan.updateValue, Plan.presentField, Json.Kept, Json.KeptItems,
    Json.KeptFields, Json.KeptScalar, Value.text, Value.isNull, Template.encode,
    Template.encodeFields]

private theorem plan_pinging (command : Command) (registry : Registry) :
    (pinging command registry).plan = .ok pingPlan := by
  have given : (pinging command registry).plan =
      Plan.load (pinging command registry).session.files planPlace ⟨"/", []⟩ := rfl
  have found : (pinging command registry).session.files.find planPlace =
      .ok (.text (Json.print .compact pingPlan.toValue)) := rfl
  rw [given, Plan.load_of_find Json.regular_compact Json.plain_compact pingPlan_kept found]
  rfl

private theorem load_pinging (command : Command) {registry : Registry}
    (storable : registry.Storable) :
    Registry.load (pinging command registry).session.files registryPlace = .ok registry := by
  have saved : (registry.save registryPlace "").run.run pingPlanFiles =
      (.ok (), (pinging command registry).session.files) :=
    Registry.save_eq_ok_iff.mpr ⟨storable.legible.writable, rfl⟩
  exact Registry.load_of_save storable saved

/-- Contracts are wired again from the registry of another chain. -/
theorem elsewhere_pinged :
    (pinging .configure hubElsewhere).finished.2.sent = [ping] ∧
      (∃ settings, (pinging .configure hubElsewhere).finished.2.connected = [settings] ∧
        settings.chainId = "localterra") ∧
      (pinging .configure hubElsewhere).chainId = "localterra" ∧
      Registry.load (pinging .configure hubElsewhere).session.files
          (pinging .configure hubElsewhere).path = .ok hubElsewhere ∧
      hubElsewhere.chainId = .text "bombay-12" := by
  have storable : hubElsewhere.Storable := ⟨trivial, hubRecorded_storable.records⟩
  have loaded : Registry.load (pinging .configure hubElsewhere).session.files
      (pinging .configure hubElsewhere).path = .ok hubElsewhere := load_pinging .configure storable
  have told := Invocation.configure_idles (pinging .configure hubElsewhere) rfl
  have wired := Invocation.wireAgain_eq (pinging .configure hubElsewhere) rfl
    (plan_pinging .configure hubElsewhere) loaded
  refine ⟨?_, ?_, rfl, loaded, rfl⟩
  · rw [told.sent, wired]
    rfl
  · rw [told.connected, wired]
    exact ⟨_, rfl, rfl⟩

private theorem load_hubOnChain :
    Registry.load (pinging .deploy hubOnChain).session.files (pinging .deploy hubOnChain).path =
      .ok hubOnChain :=
  load_pinging .deploy ⟨trivial, hubRecorded_storable.records⟩

private theorem pinging_begins :
    (pinging .deploy hubOnChain).Begins pingPlan
      (pairSitting (pinging .deploy hubOnChain) hubOnChain) where
  asked := rfl
  connected := ⟨_, rfl, rfl⟩
  planned := plan_pinging .deploy hubOnChain
  found := by
    rw [Registry.loadOrCreate, load_hubOnChain]
    rfl
  placed := rfl
  ordered := rfl

/-- A deployment on the chain of the registry sends, on that chain. -/
theorem hub_pinged_on_chain :
    (pinging .deploy hubOnChain).finished.2.sent = [ping] ∧
      ∃ settings client transactions,
        (pinging .deploy hubOnChain).Engages settings client transactions
          (pinging .deploy hubOnChain).finished.2 ∧
        settings.chainId = "localterra" ∧ ∃ plan sitting,
          (pinging .deploy hubOnChain).Begins plan sitting ∧
            hubOnChain.records = sitting.registry.records := by
  have sent : (pinging .deploy hubOnChain).finished.2.sent = [ping] := by
    rw [(Invocation.deploy_idles (pinging .deploy hubOnChain) rfl).sent,
      deployPlan_eq_of_begins pinging_begins]
    rfl
  have sends : (pinging .deploy hubOnChain).finished.2.sent ≠
      (pinging .deploy hubOnChain).session.sent := by
    rw [sent]
    exact List.cons_ne_nil _ _
  obtain ⟨settings, client, transactions, engages, agrees,
      ⟨plan, sitting, begins, _, _, guarded⟩ | ⟨asked, _⟩⟩ :=
    Invocation.sent_through_one_client (pinging .deploy hubOnChain) sends
  · refine ⟨sent, settings, client, transactions, engages, ?_, plan, sitting, begins, ?_⟩
    · rcases agrees with same | ⟨unnamed, _⟩
      · exact same
      · exact absurd (Option.some.inj unnamed) (by decide)
    · exact (guarded hubOnChain load_hubOnChain).1
  · cases asked

end CommandLine

end Rollout
