import Rollout.CommandLine.Run
import Rollout.Proofs.Deployment.Updates

/-!
# What commands do besides deploying

Connecting, wiring contracts and printing leave the files as they are and send nothing but messages
to contracts. Only the deployment of a plan does more.
-/

set_option autoImplicit false

namespace Rollout

open Rollout.Chain

variable {σ ε α β : Type}

/-- Nothing is sent or connected, and the files stay as they are. -/
structure Session.Idles (before after : Session σ) : Prop where
  chain : after.chain = before.chain
  sent : after.sent = before.sent
  files : after.files = before.files
  connected : after.connected = before.connected

/-- A relation that composes, and that holds over whatever idles. -/
structure Session.Lenient (relation : Session σ → Session σ → Prop) : Prop
    extends Computation.Composes relation where
  idles : ∀ {before after : Session σ}, Session.Idles before after → relation before after

theorem Session.Idles.lenient : Session.Lenient (Idles : Session σ → Session σ → Prop) where
  refl _ := ⟨rfl, rfl, rfl, rfl⟩
  trans first second :=
    ⟨second.chain.trans first.chain, second.sent.trans first.sent, second.files.trans first.files,
      second.connected.trans first.connected⟩
  idles := id

/-- A computation that idles, wherever it starts. -/
abbrev Idling (computation : ExceptT ε (StateM (Session σ)) α) : Prop :=
  Computation.Leads Session.Idles computation

theorem Session.Lenient.leads {relation : Session σ → Session σ → Prop}
    (lenient : Session.Lenient relation) {computation : ExceptT ε (StateM (Session σ)) α}
    (idling : Idling computation) : Computation.Leads relation computation :=
  fun session => lenient.idles (idling session)

namespace Idling

theorem bind {first : ExceptT ε (StateM (Session σ)) α}
    {next : α → ExceptT ε (StateM (Session σ)) β} (begun : Idling first)
    (continued : ∀ value, Idling (next value)) : Idling (first >>= next) :=
  Computation.Leads.bind Session.Idles.lenient.toComposes begun continued

theorem pure (value : α) : Idling (Pure.pure value : ExceptT ε (StateM (Session σ)) α) :=
  fun session => Session.Idles.lenient.refl session

theorem throw (fault : ε) : Idling (MonadExcept.throw fault : ExceptT ε (StateM (Session σ)) α) :=
  fun session => Session.Idles.lenient.refl session

theorem get : Idling (MonadState.get : ExceptT ε (StateM (Session σ)) (Session σ)) :=
  fun session => Session.Idles.lenient.refl session

theorem except (computation : Except Fault α) : Idling (liftM computation : Action σ α) :=
  fun session => Session.Idles.lenient.refl session

theorem report (entry : Log.Entry) :
    Idling (ExceptT.lift (Session.report entry) : ExceptT ε (StateM (Session σ)) Unit) :=
  fun _ => ⟨rfl, rfl, rfl, rfl⟩

end Idling

namespace Deployment

variable {relation : Session σ → Session σ → Prop} (lenient : Session.Lenient relation)

include lenient

private theorem leads_sendUpdate (client : Client σ) (prepared : Prepared)
    (sends : ∀ session, relation session
      ((Session.broadcast client (prepared.transaction client.address)).run session).2) :
    Computation.Leads relation (sendUpdate client prepared) := by
  have composes := lenient.toComposes
  refine .bind composes (lenient.leads (.except _)) fun variant => ?_
  refine .bind composes (lenient.leads (.report _)) fun _ => ?_
  refine .bind composes sends fun answer => ?_
  -- the update is told of if its outcome is an error, whether the client gave one or failed
  cases answer with
  | ok outcome =>
      dsimp only
      split
      · exact lenient.leads (.bind (.report _) fun _ => .pure _)
      · exact lenient.leads (.pure _)
  | error failure =>
      dsimp only
      split
      · exact lenient.leads (.bind (.report _) fun _ => .pure _)
      · exact lenient.leads (.pure _)

/-- Updates go to addresses of the registry that they are applied with. -/
theorem leads_configure (client : Client σ) (catalog : Schema.Catalog) (registry : Registry)
    (updates : List ConfigUpdate)
    (sends : ∀ record ∈ registry.records, ∀ message session, relation session
      ((Session.broadcast client [.execute client.address record.address message]).run
        session).2) :
    Computation.Leads relation (configure client catalog registry updates) := by
  intro session
  rcases Computation.mapM_cases (prepare catalog registry) updates with
    ⟨_, _, _, fault, _, _, _, ended⟩ | ⟨prepared, ended, each⟩
  · have failed : (liftM (updates.mapM (prepare catalog registry)) :
        Action σ (List Prepared)).run.run session = (.error fault, session) := by
      rw [ended]
      rfl
    rw [configure, Computation.run_bind_error failed]
    exact lenient.refl session
  · have settled : (liftM (updates.mapM (prepare catalog registry)) :
        Action σ (List Prepared)).run.run session = (.ok prepared, session) := by
      rw [ended]
      rfl
    rw [configure, Computation.run_bind_ok settled]
    refine Computation.Leads.mapM lenient.toComposes ?_ session
    intro item member
    obtain ⟨update, made⟩ := Computation.exists_of_mem_left each.flip item member
    obtain ⟨_, _, recorded, _⟩ := (ready_of_prepare made).1.target
    exact leads_sendUpdate lenient client item (sends item.record recorded item.message)

end Deployment

namespace CommandLine

open Rollout.Deployment Rollout.Network

private theorem idling_settle (result : Except Fault α) : Idling (settle result : Task σ α) :=
  fun session => Session.Idles.lenient.refl session

private theorem idling_printLine (text : String) : Idling (printLine text : Task σ Unit) :=
  fun _ => ⟨rfl, rfl, rfl, rfl⟩

private theorem idling_fetchGasPrices (host : Host σ) (service : String) :
    Idling (fetchGasPrices host service) := by
  refine .bind (fun _ => ⟨rfl, rfl, rfl, rfl⟩) fun _ => ?_
  refine .bind (idling_settle _) fun prices => ?_
  exact .bind (.report _) fun _ => .pure prices

private theorem idling_settingsOf (host : Host σ) (options : Options) :
    Idling (settingsOf host options) := by
  refine .bind (idling_settle _) fun settings => ?_
  split
  · split
    · exact .throw _
    · exact .bind (idling_fetchGasPrices host _) fun prices => .pure _
  · exact .pure settings

theorem idling_printTable (registry : Registry) : Idling (printTable registry : Task σ Unit) :=
  .bind (idling_settle _) fun table => idling_printLine table

theorem idling_printResult (result : UpdateResult) : Idling (printResult result : Task σ Unit) := by
  refine .bind (idling_settle _) fun variant => ?_
  refine .bind (idling_printLine _) fun _ => ?_
  split
  · exact .bind (idling_printLine _) fun _ => idling_printLine _
  · exact .pure _

theorem idling_display (path : Path) : Idling (display path : Task σ Unit) :=
  .bind .get fun _ => .bind (idling_settle _) fun registry => idling_printTable registry

section

variable {relation : Session σ → Session σ → Prop} (lenient : Session.Lenient relation)
  (client : Client σ) (registry : Registry)
  (sends : ∀ record ∈ registry.records, ∀ message session, relation session
    ((Session.broadcast client [.execute client.address record.address message]).run session).2)

include lenient sends

theorem leads_wire (updates : List ConfigUpdate) :
    Computation.Leads relation (wire client registry updates) := by
  have composes := lenient.toComposes
  have configured : Computation.Leads relation (perform
      (configure client (Schema.standardCatalog Wire.accountPart) registry updates)) :=
    fun session => leads_configure lenient client _ registry updates sends session
  refine .bind composes configured fun results => ?_
  refine .bind composes ?_ fun _ => lenient.leads (idling_settle _)
  exact .forM composes (fun result => lenient.leads (idling_printResult result)) results

/-- Whatever a deployment came to, only wiring is left to do. -/
theorem leads_finish (plan : Plan) (ending : Except Halt Unit) :
    Computation.Leads relation (do
      printTable registry
      ExceptT.mk (pure ending)
      wire client registry plan.updates) := by
  have composes := lenient.toComposes
  refine .bind composes (lenient.leads (idling_printTable registry)) fun _ => ?_
  refine .bind composes (fun session => lenient.refl session) fun _ => ?_
  exact leads_wire lenient client registry sends plan.updates

end

end CommandLine

/-- A transaction asks for nothing but the execution of messages. -/
def Chain.ExecutesOnly (transaction : Transaction) : Prop :=
  ∀ message ∈ transaction, message.kind = .execute

/-- The files are as before, and nothing was sent but messages to contracts. -/
structure Session.Wires (before after : Session σ) : Prop where
  files : after.files = before.files
  sent : ∃ transactions, after.sent = before.sent ++ transactions ∧
    ∀ transaction ∈ transactions, ExecutesOnly transaction

namespace Session.Wires

theorem of_unsent {before after : Session σ} (files : after.files = before.files)
    (sent : after.sent = before.sent) : Wires before after :=
  ⟨files, [], by rw [sent, List.append_nil], fun _ member => absurd member List.not_mem_nil⟩

theorem trans {before middle after : Session σ} (first : Wires before middle)
    (second : Wires middle after) : Wires before after := by
  obtain ⟨start, sentStart, executesStart⟩ := first.sent
  obtain ⟨rest, sentRest, executesRest⟩ := second.sent
  refine ⟨second.files.trans first.files, start ++ rest, ?_, fun transaction member => ?_⟩
  · rw [sentRest, sentStart, List.append_assoc]
  · obtain here | later := List.mem_append.mp member
    · exact executesStart transaction here
    · exact executesRest transaction later

theorem lenient : Session.Lenient (Wires : Session σ → Session σ → Prop) where
  refl _ := .of_unsent rfl rfl
  trans := .trans
  idles idle := .of_unsent idle.files idle.sent

theorem execute (client : Client σ) (sender : String) (contract message : Value)
    (session : Session σ) :
    Wires session
      ((Session.broadcast client [.execute sender contract message]).run session).2 := by
  refine ⟨rfl, [[.execute sender contract message]], rfl, fun transaction member => ?_⟩
  obtain rfl := List.mem_singleton.mp member
  intro request among
  obtain rfl := List.mem_singleton.mp among
  rfl

end Session.Wires

/-- A computation that does no more than wiring, wherever it starts. -/
abbrev Wiring (computation : ExceptT ε (StateM (Session σ)) α) : Prop :=
  Computation.Leads Session.Wires computation

namespace CommandLine

open Rollout.Deployment

/-- A client is connected with the settings that are found, or nothing is done. -/
theorem connectClient_cases (host : Host σ) (options : Options) (session : Session σ) :
    (∃ fault after, (connectClient host options).run.run session = (.error fault, after) ∧
        Session.Idles session after) ∨
      ∃ settings client middle,
        (settingsOf host options).run.run session = (.ok settings, middle) ∧
          Session.Idles session middle ∧ host.library.connectWith settings = .ok client ∧
          (connectClient host options).run.run session = (.ok client,
            { middle with connected := middle.connected ++ [settings] }) := by
  have idle := idling_settingsOf host options session
  rcases ran : (settingsOf host options).run.run session with ⟨answer, middle⟩
  rw [ran] at idle
  cases answer with
  | error fault => exact .inl ⟨fault, middle, Computation.run_bind_error ran, idle⟩
  | ok settings =>
      cases opened : host.library.connectWith settings with
      | error fault =>
          refine .inl ⟨.bare fault, middle, ?_, idle⟩
          rw [connectClient, Computation.run_bind_ok ran, opened]
          rfl
      | ok client =>
          refine .inr ⟨settings, client, middle, rfl, idle, opened, ?_⟩
          rw [connectClient, Computation.run_bind_ok ran, opened]
          rfl

theorem wiring_connectClient (host : Host σ) (options : Options) :
    Wiring (connectClient host options) := by
  intro session
  rcases connectClient_cases host options session with
    ⟨fault, after, failed, idle⟩ | ⟨settings, client, middle, _, idle, _, connected⟩
  · rw [failed]
    exact .of_unsent idle.files idle.sent
  · rw [connected]
    exact .of_unsent idle.files idle.sent

theorem files_of_connectClient {host : Host σ} {options : Options} {session middle : Session σ}
    {client : Client σ}
    (connected : (connectClient host options).run.run session = (.ok client, middle)) :
    middle.files = session.files := by
  have connecting := wiring_connectClient host options session
  rw [connected] at connecting
  exact connecting.files

private theorem wiring_wire (client : Client σ) (registry : Registry)
    (updates : List ConfigUpdate) :
    Wiring (wire client registry updates) :=
  leads_wire Session.Wires.lenient client registry
    (fun _ _ message session => .execute client _ _ message session) updates

theorem wiring_finish (client : Client σ) (plan : Plan) (reached : Registry)
    (ending : Except Halt Unit) :
    Wiring (do printTable reached; ExceptT.mk (pure ending); wire client reached plan.updates) :=
  leads_finish Session.Wires.lenient client reached
    (fun _ _ message session => .execute client _ _ message session) plan ending

theorem wiring_wireAgain (host : Host σ) (options : Options) (path : Path) :
    Wiring (wireAgain host options path) := by
  have lenient := Session.Wires.lenient (σ := σ)
  have composes := lenient.toComposes
  refine .bind composes (wiring_connectClient host options) fun client => ?_
  refine .bind composes (lenient.leads .get) fun session => ?_
  refine .bind composes (lenient.leads (idling_settle _)) fun plan => ?_
  refine .bind composes (lenient.leads .get) fun session => ?_
  refine .bind composes (lenient.leads (idling_settle _)) fun registry => ?_
  exact wiring_wire client registry plan.updates

end CommandLine

end Rollout
