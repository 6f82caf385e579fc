import Rollout.Proofs.CommandLine.History
import Rollout.Proofs.Deployment.Completing
import Rollout.Proofs.Deployment.Unexpected
import Rollout.Proofs.Plan.Order
import Rollout.Proofs.Plan.Shape
import Rollout.Proofs.Plan.Standard

/-!
# Commands that crash

Which invocations end in a fault that is not reported, and so without an exit code: those that meet
a document of another shape than it should have, or an update that nobody expects.
-/

set_option autoImplicit false

namespace Rollout.CommandLine

open Rollout.Chain Rollout.Deployment
open Rollout.Computation (Fails FirstRefused)

variable {σ α β : Type}

/-- A task ends with a fault that is not reported. -/
def Crashes (task : Task σ α) (session : Session σ) : Prop :=
  ∃ halt, (task.run.run session).1 = .error halt ∧ halt.fault.Unexpected

section

variable {session after : Session σ} {first : Task σ α} {next : α → Task σ β}

theorem not_crashes_of_ok {task : Task σ α} {value : α}
    (ran : (task.run.run session).1 = .ok value) : ¬Crashes task session := by
  rintro ⟨halt, failed, _⟩
  rw [ran] at failed
  cases failed

private theorem crashes_bind :
    Crashes (first >>= next) session ↔
      Crashes first session ∨
        ∃ value after, first.run.run session = (.ok value, after) ∧ Crashes (next value) after := by
  unfold Crashes
  rw [Computation.run_bind]
  rcases first.run.run session with ⟨answer, middle⟩
  cases answer with
  | error halt =>
      constructor
      · rintro ⟨_, ⟨⟩, unexpected⟩
        exact .inl ⟨halt, rfl, unexpected⟩
      · rintro (⟨_, ⟨⟩, unexpected⟩ | ⟨_, _, ⟨⟩, _⟩)
        exact ⟨halt, rfl, unexpected⟩
  | ok value =>
      refine ⟨fun continued => .inr ⟨value, middle, rfl, continued⟩, ?_⟩
      rintro (⟨_, ⟨⟩, _⟩ | ⟨_, _, ⟨⟩, continued⟩)
      exact continued

private theorem crashes_bind_of_ok {value : α} (ran : first.run.run session = (.ok value, after)) :
    Crashes (first >>= next) session ↔ Crashes (next value) after := by
  rw [Crashes, Crashes, Computation.run_bind_ok ran]

private theorem crashes_settle {result : Except Fault α} :
    Crashes (settle result : Task σ α) session ↔ Fails Fault.Unexpected result := by
  have ran : ((settle result : Task σ α).run.run session).1 = result.mapError .bare := rfl
  rw [Crashes, ran]
  cases result <;> simp [Except.mapError, Halt.fault]

private theorem crashes_settle_bind {result : Except Fault α} :
    Crashes ((settle result : Task σ α) >>= next) session ↔
      Fails Fault.Unexpected result ∨
        ∃ value, result = .ok value ∧ Crashes (next value) session := by
  rw [crashes_bind, crashes_settle]
  refine or_congr_right ⟨?_, ?_⟩
  · rintro ⟨value, after, ran, continued⟩
    cases result with
    | error fault => cases ran
    | ok settled =>
        cases ran
        exact ⟨_, rfl, continued⟩
  · rintro ⟨value, rfl, continued⟩
    exact ⟨value, session, rfl, continued⟩

end

private theorem crashes_get_bind {session : Session σ} {next : Session σ → Task σ α} :
    Crashes ((get : Task σ (Session σ)) >>= next) session ↔ Crashes (next session) session :=
  Iff.rfl

/-!
## Printing
-/

theorem crashes_printTable {registry : Registry} (counted : registry.Counted)
    {session : Session σ} :
    Crashes (printTable registry : Task σ Unit) session ↔
      ∃ record ∈ registry.records, ∀ text, record.name ≠ .text text := by
  rw [printTable, crashes_settle_bind, Registry.table_unexpected_iff counted]
  refine or_iff_left ?_
  rintro ⟨table, _, halt, ⟨⟩, _⟩

private theorem printTable_eq_ok {registry : Registry} (counted : registry.Counted)
    (writable : registry.Writable)
    (named : ∀ record ∈ registry.records, ∃ text, record.name = .text text)
    (session : Session σ) :
    ∃ after, (printTable registry : Task σ Unit).run.run session = (.ok (), after) := by
  obtain ⟨shown, tabled⟩ := Registry.table_isOk counted writable named
  rw [printTable, run_settle_ok tabled]
  exact ⟨_, rfl⟩

private theorem crashes_printResult {result : UpdateResult}
    (partless : ¬result.update.message.HasParts)
    (session : Session σ) : Crashes (printResult result : Task σ Unit) session :=
  crashes_settle_bind.mpr (.inl (Template.firstPart_unexpected partless))

private theorem printResult_eq_ok {result : UpdateResult} (parts : result.update.message.HasParts)
    (session : Session σ) :
    ∃ after, (printResult result : Task σ Unit).run.run session = (.ok (), after) := by
  obtain ⟨part, parted⟩ := Template.firstPart_isOk_iff.mpr parts
  rw [printResult, run_settle_ok parted]
  dsimp only
  split
  · exact ⟨_, rfl⟩
  · exact ⟨_, rfl⟩

private theorem crashes_printResults {results : List UpdateResult}
    (partless : ∃ result ∈ results, ¬result.update.message.HasParts) (session : Session σ) :
    Crashes (results.forM printResult : Task σ Unit) session := by
  induction results generalizing session with
  | nil => simp at partless
  | cons first rest ih =>
      have unfolded : (first :: rest).forM printResult =
          ((printResult first : Task σ Unit) >>= fun _ => rest.forM printResult) := rfl
      rw [unfolded, crashes_bind]
      by_cases parts : first.update.message.HasParts
      · obtain ⟨after, ran⟩ := printResult_eq_ok parts session
        rw [List.exists_mem_cons_iff, or_iff_right (not_not_intro parts)] at partless
        exact .inr ⟨(), after, ran, ih partless after⟩
      · exact .inl (crashes_printResult parts session)

private theorem printResults_eq_ok {results : List UpdateResult}
    (parts : ∀ result ∈ results, result.update.message.HasParts) (session : Session σ) :
    ∃ after, (results.forM printResult : Task σ Unit).run.run session = (.ok (), after) := by
  induction results generalizing session with
  | nil => exact ⟨session, rfl⟩
  | cons first rest ih =>
      obtain ⟨here, others⟩ := List.forall_mem_cons.mp parts
      obtain ⟨middle, ran⟩ := printResult_eq_ok here session
      obtain ⟨after, continued⟩ := ih others middle
      refine ⟨after, ?_⟩
      have unfolded : (first :: rest).forM printResult =
          ((printResult first : Task σ Unit) >>= fun _ => rest.forM printResult) := rfl
      rw [unfolded, Computation.run_bind_ok ran, continued]

/-!
## Wiring
-/

/-- The first update that is not fit is strange, or all are fit and a message has no parts to be
called by. -/
def Miswired (catalog : Schema.Catalog) (registry : Registry) (updates : List ConfigUpdate) :
    Prop :=
  FirstRefused (Fit catalog registry) (Strange catalog registry) updates ∨
    (∀ update ∈ updates, Fit catalog registry update) ∧
      ∃ update ∈ updates, ¬update.message.HasParts

variable {client : Client σ} {catalog : Schema.Catalog} {registry : Registry}
  {updates : List ConfigUpdate} {session : Session σ}

theorem run_perform (action : Action σ α) (session : Session σ) :
    (perform action).run.run session =
      ((action.run.run session).1.mapError .bare, (action.run.run session).2) := rfl

private theorem crashes_perform {action : Action σ α} :
    Crashes (perform action) session ↔ Fails Fault.Unexpected (action.run.run session).1 := by
  rw [Crashes, run_perform]
  cases (action.run.run session).1 <;> simp [Except.mapError, Halt.fault]

private theorem crashes_requireSuccess {results : List UpdateResult} :
    ¬Crashes (settle (requireSuccess results) : Task σ Unit) session := by
  rw [crashes_settle]
  rintro ⟨fault, failed, unexpected⟩
  rw [(requireSuccess_eq results).2 fault failed] at unexpected
  cases unexpected

theorem wire_eq (client : Client σ) (registry : Registry) (updates : List ConfigUpdate) :
    wire client registry updates =
      (perform (configure client standardCatalog registry updates) >>= fun results =>
        results.forM printResult >>= fun _ => settle (requireSuccess results)) := rfl

/-- If an update is not fit, nothing is sent, and the first such update decides. -/
theorem crashes_wire_of_unfit {fault : Fault}
    (failed : updates.mapM (prepare standardCatalog registry) = .error fault) :
    Crashes (wire client registry updates) session ↔
      FirstRefused (Fit standardCatalog registry) (Strange standardCatalog registry) updates := by
  have strange : Fails Fault.Unexpected (updates.mapM (prepare standardCatalog registry)) ↔ _ :=
    Computation.fails_mapM
  simp only [prepare_isOk_iff, prepare_unexpected_iff] at strange
  have ran : (perform (configure client standardCatalog registry updates)).run.run session =
      (.error (.bare fault), session) := by
    rw [run_perform, configure, failed]
    rfl
  rw [← strange, failed, wire_eq, Crashes, Computation.run_bind_error ran]
  simp [Halt.fault]

/-- If all updates are fit, they are sent, and their results are printed. -/
theorem crashes_wire_of_fit (fit : ∀ update ∈ updates, Fit standardCatalog registry update) :
    Crashes (wire client registry updates) session ↔
      ∃ update ∈ updates, ¬update.message.HasParts := by
  rw [wire_eq, crashes_bind, crashes_perform]
  by_cases parts : ∀ update ∈ updates, update.message.HasParts
  · obtain ⟨transactions, results, conducts, _, applied, _⟩ :=
      configure_sent client session
        (fun update member => (fit update member).callable (parts update member)) fit
    have answered := conducts.answered
    refine iff_of_false ?_ (by simpa using parts)
    rw [answered]
    rintro (⟨_, ⟨⟩, _⟩ | ⟨found, after, ran, crashed⟩)
    rw [run_perform, answered] at ran
    cases ran
    have showable : ∀ result ∈ results, result.update.message.HasParts :=
      fun result member => parts _ (applied ▸ List.mem_map_of_mem member)
    obtain ⟨later, printed⟩ := printResults_eq_ok showable _
    rw [crashes_bind_of_ok printed] at crashed
    exact crashes_requireSuccess crashed
  · push Not at parts
    refine iff_of_true ?_ parts
    rcases configure_of_fit client session fit with failed | ⟨results, after, ran, applied⟩
    · exact .inl failed
    · refine .inr ⟨results, after, ?_, crashes_bind.mpr (.inl (crashes_printResults ?_ after))⟩
      · rw [run_perform, ran]
        rfl
      · rw [← applied] at parts
        simpa using parts

private theorem crashes_wire :
    Crashes (wire client registry updates) session ↔
      Miswired standardCatalog registry updates := by
  have exclusive : ∀ update, Fit standardCatalog registry update →
      ¬Strange standardCatalog registry update := by
    intro update fit strange
    obtain ⟨prepared, settled⟩ := prepare_isOk_iff.mpr fit
    obtain ⟨_, failed, _⟩ := prepare_unexpected_iff.mpr strange
    rw [settled] at failed
    cases failed
  rw [Miswired]
  rcases Computation.mapM_cases (prepare standardCatalog registry) updates with
    ⟨_, culprit, _, fault, rfl, _, failed, ended⟩ | ⟨prepared, _, each⟩
  · rw [crashes_wire_of_unfit ended, or_iff_left]
    rintro ⟨fit, _⟩
    obtain ⟨item, settled⟩ := prepare_isOk_iff.mpr (fit culprit (by simp))
    rw [failed] at settled
    cases settled
  · have fit : ∀ update ∈ updates, Fit standardCatalog registry update :=
      fun update member => prepare_isOk_iff.mp (Computation.exists_of_mem_left each update member)
    rw [crashes_wire_of_fit fit, or_iff_right (Computation.not_firstRefused exclusive fit),
      and_iff_right fit]

/-!
## Connecting
-/

private theorem settings_expected {γ δ : Type} (rename : γ → Network.SettingsFault)
    {computation : Except γ δ} :
    ¬Fails Fault.Unexpected (computation.mapError fun fault => .settings (rename fault)) := by
  cases computation <;> simp [Except.mapError, Fault.Unexpected, Fault.isReported]

private theorem not_crashes_settingsOf (host : Host σ) (options : Options) (session : Session σ) :
    ¬Crashes (settingsOf host options) session := by
  intro crashed
  rw [settingsOf, crashes_settle_bind] at crashed
  obtain failed | ⟨settings, _, crashed⟩ := crashed
  · exact settings_expected id failed
  split at crashed
  · split at crashed
    · obtain ⟨_, ⟨⟩, unexpected⟩ := crashed
      cases unexpected
    · next service _ =>
        obtain crashed | ⟨_, _, _, _, ⟨⟩, _⟩ := crashes_bind.mp crashed
        obtain ⟨_, ⟨⟩, _⟩ | ⟨_, _, _, crashed⟩ := crashes_bind.mp crashed
        obtain failed | ⟨_, _, _, ⟨⟩, _⟩ := crashes_settle_bind.mp crashed
        exact settings_expected _ failed
  · exact not_crashes_of_ok rfl crashed

/-- What connecting a client crashes for is up to the library that opens the connection. -/
theorem crashes_connectClient {host : Host σ} {options : Options} {session : Session σ} :
    Crashes (connectClient host options) session ↔
      ∃ settings after, (settingsOf host options).run.run session = (.ok settings, after) ∧
        Fails Fault.Unexpected (host.library.connectWith settings) := by
  rw [connectClient, crashes_bind, or_iff_right (not_crashes_settingsOf _ _ _)]
  refine exists₂_congr fun settings after => and_congr_right fun _ => ?_
  rw [crashes_settle_bind]
  refine or_iff_left ?_
  rintro ⟨_, _, _, ⟨⟩, _⟩

/-!
## Commands
-/

theorem loadOrCreate_unexpected_iff (files : Files) (path : Path) (place chainId : String) :
    Fails Fault.Unexpected (Registry.loadOrCreate files path place chainId) ↔
      Json.FileTells files path Registry.Misshapen := by
  rw [← Registry.load_unexpected_iff, Registry.loadOrCreate]
  split
  · next registry loaded =>
      rw [loaded, Registry.forChain.eq_def]
      split
      · simp
      · split <;> simp [Fault.Unexpected, Fault.isReported]
  · next loaded => simp [loaded, Fault.Unexpected, Fault.isReported]
  · next loaded => simp [loaded]

theorem planOf_unexpected_iff (memory : Wire.Memory) (options : Options) (files : Files) :
    Fails Fault.Unexpected (planOf memory options files) ↔
      ∃ file, options.plan = some file ∧ Json.FileTells files file Plan.Misshapen := by
  rw [planOf]
  cases options.plan with
  | none =>
      obtain ⟨plan, given⟩ := Plan.standard_isOk memory
        (options.artifacts.getD (artifactDirectory files.workingDirectory))
      simp [given, Fails]
  | some file => simp [Plan.load_unexpected_iff]

private theorem checkOrder_expected (descriptors : List Descriptor) (recorded : List Scalar) :
    ¬Fails Fault.Unexpected (Plan.checkOrder descriptors recorded) := by
  rintro ⟨fault, refused, unexpected⟩
  obtain ⟨_, _, _, _, blamed⟩ := Plan.checkFrom_eq_error refused
  obtain ⟨reference, _, rfl⟩ := Plan.firstUnavailable_eq_some blamed
  cases unexpected

namespace Invocation

variable (invocation : Invocation σ)

/-- A client is connected. -/
def Connects : Prop :=
  ∃ client after, (connectClient invocation.host invocation.options).run.run invocation.session =
    (.ok client, after)

/-- The library for the chain meets something in the settings that it does not expect. -/
def Misconnected : Prop :=
  ∃ settings after,
    (settingsOf invocation.host invocation.options).run.run invocation.session =
        (.ok settings, after) ∧
      Fails Fault.Unexpected (invocation.host.library.connectWith settings)

/-- The document in the file of the registry is misshapen. -/
def RegistryMisshapen : Prop :=
  Json.FileTells invocation.session.files invocation.path Registry.Misshapen

/-- The document in the file of the plan is misshapen. -/
def PlanMisshapen : Prop :=
  ∃ file, invocation.options.plan = some file ∧
    Json.FileTells invocation.session.files file Plan.Misshapen

/-- How the task of an invocation ends. -/
def task : Task σ Unit :=
  taskOf invocation.host invocation.options invocation.chainId invocation.path

theorem ending_eq :
    invocation.finished.1 =
      match (invocation.task.run.run invocation.session).1 with
      | .ok _ => .exit 0
      | .error halt => if halt.fault.isReported then .exit 1 else .crash halt.fault := by
  have read : (get : Change σ (Session σ)).run invocation.session =
      (invocation.session, invocation.session) := rfl
  have same : invocation.task = taskOf invocation.host invocation.options
      (chainIdOf invocation.options invocation.host.environment)
      (registryFile invocation.options invocation.host.environment
        invocation.session.files.workingDirectory) := rfl
  rw [finished, execute, Change.run_bind, read, Change.run_bind, ← same]
  rcases invocation.task.run.run invocation.session with ⟨answer, after⟩
  cases answer with
  | ok _ => rfl
  | error halt =>
      dsimp only
      split <;> rfl

theorem answers_iff :
    (invocation.finished.1 = .exit 0 ∨ invocation.finished.1 = .exit 1) ↔
      ¬Crashes invocation.task invocation.session := by
  rw [ending_eq, Crashes]
  cases (invocation.task.run.run invocation.session).1 with
  | ok _ => simp
  | error halt => cases reported : halt.fault.isReported <;> simp [reported, Fault.Unexpected]

private theorem crashes_of_connects {invocation : Invocation σ} {next : Client σ → Task σ Unit} :
    Crashes (connectClient invocation.host invocation.options >>= next) invocation.session ↔
      invocation.Misconnected ∨ ∃ client after,
        (connectClient invocation.host invocation.options).run.run invocation.session =
            (.ok client, after) ∧
          after.files = invocation.session.files ∧ Crashes (next client) after := by
  rw [crashes_bind, crashes_connectClient, ← Misconnected]
  refine or_congr_right ?_
  constructor
  · rintro ⟨client, after, connected, crashed⟩
    exact ⟨client, after, connected, files_of_connectClient connected, crashed⟩
  · rintro ⟨client, after, connected, _, crashed⟩
    exact ⟨client, after, connected, crashed⟩

/-- The document that is looked at first is misshapen, of the plan and the registry. -/
def Misshapen : Prop :=
  invocation.PlanMisshapen ∨
    ∃ plan, invocation.plan = .ok plan ∧ invocation.RegistryMisshapen

/-- An invocation meets something that it does not expect: settings that nothing can be connected
with, a misshapen file, a contract whose name cannot be shown, or updates that contracts cannot be
wired with. -/
def Baffled : Prop :=
  match invocation.options.command with
  | .display => invocation.RegistryMisshapen
  | .configure =>
      invocation.Misconnected ∨ invocation.Connects ∧ (invocation.Misshapen ∨
        ∃ plan registry, invocation.plan = .ok plan ∧
          Registry.load invocation.session.files invocation.path = .ok registry ∧
          Miswired standardCatalog registry plan.updates)
  | .deploy =>
      invocation.Misconnected ∨ invocation.Connects ∧ invocation.Misshapen ∨
        ∃ plan sitting, invocation.Begins plan sitting ∧
          let reached := (sitting.finished standardCatalog plan.descriptors).1
          ((∃ record ∈ reached.1.records, ∀ text, record.name ≠ .text text) ∨
            reached.2 = .ok () ∧ Miswired standardCatalog reached.1 plan.updates)

variable {invocation}

private theorem crashes_display (asked : invocation.options.command = .display) :
    Crashes invocation.task invocation.session ↔ invocation.RegistryMisshapen := by
  have unfolded : invocation.task = (get >>= fun session =>
      settle (Registry.load session.files invocation.path) >>= printTable) := by
    rw [task, taskOf, asked]
    rfl
  rw [unfolded, crashes_get_bind, crashes_settle_bind, Registry.load_unexpected_iff]
  refine or_iff_left ?_
  rintro ⟨registry, loaded, crashed⟩
  have coded := Registry.coded_of_load loaded
  obtain ⟨record, member, textless⟩ := (crashes_printTable coded.counted).mp crashed
  obtain ⟨text, named⟩ := (coded record member).name
  exact textless text named

private theorem crashes_configure (asked : invocation.options.command = .configure) :
    Crashes invocation.task invocation.session ↔
      invocation.Misconnected ∨ invocation.Connects ∧ (invocation.Misshapen ∨
        ∃ plan registry, invocation.plan = .ok plan ∧
          Registry.load invocation.session.files invocation.path = .ok registry ∧
          Miswired standardCatalog registry plan.updates) := by
  have unfolded : invocation.task =
      (connectClient invocation.host invocation.options >>= fun client =>
        get >>= fun session =>
          settle (planOf invocation.host.memory invocation.options session.files) >>= fun plan =>
            get >>= fun session => settle (Registry.load session.files invocation.path) >>=
              fun registry => wire client registry plan.updates) := by
    rw [task, taskOf, asked]
    rfl
  have ended : invocation.Misshapen ∨ (∃ plan registry, invocation.plan = .ok plan ∧
        Registry.load invocation.session.files invocation.path = .ok registry ∧
        Miswired standardCatalog registry plan.updates) ↔
      invocation.PlanMisshapen ∨ ∃ plan, invocation.plan = .ok plan ∧
        (invocation.RegistryMisshapen ∨
          ∃ registry, Registry.load invocation.session.files invocation.path = .ok registry ∧
            Miswired standardCatalog registry plan.updates) := by
    simp only [Misshapen, or_assoc, and_or_left, exists_or, exists_and_left]
  rw [unfolded, crashes_of_connects, ended]
  refine or_congr_right ?_
  simp only [crashes_get_bind, crashes_settle_bind, crashes_wire, Registry.load_unexpected_iff,
    planOf_unexpected_iff]
  constructor
  · rintro ⟨client, after, connected, files, crashed⟩
    rw [files] at crashed
    exact ⟨⟨client, after, connected⟩, crashed⟩
  · rintro ⟨⟨client, after, connected⟩, crashed⟩
    have files := files_of_connectClient connected
    refine ⟨client, after, connected, files, ?_⟩
    rw [files]
    exact crashed

/-- What a run that completes has made can be written, since it was. -/
theorem Begins.writable {plan : Plan} {sitting : Sitting σ}
    (begins : invocation.Begins plan sitting)
    (ended : (sitting.finished standardCatalog plan.descriptors).1.2 = .ok ()) :
    (sitting.finished standardCatalog plan.descriptors).1.1.Writable := by
  rcases finished : sitting.finished standardCatalog plan.descriptors with
    ⟨⟨reached, ending⟩, after⟩
  rw [finished] at ended
  obtain rfl : ending = .ok () := ended
  rw [Sitting.finished, begins.placed] at finished
  obtain ⟨_, completes⟩ := run_completes finished
  rcases completes.kept with ⟨rfl, _⟩ | ⟨_, _, saved⟩
  · exact (Registry.legible_of_loadOrCreate begins.found).writable
  · exact (Registry.save_eq_ok_iff.mp saved).1

/-- A deployment that gets to its contracts crashes by what it makes of them. -/
theorem Begins.crashes_iff {plan : Plan} {sitting : Sitting σ}
    (begins : invocation.Begins plan sitting) :
    Crashes invocation.task invocation.session ↔
      let reached := (sitting.finished standardCatalog plan.descriptors).1
      (∃ record ∈ reached.1.records, ∀ text, record.name ≠ .text text) ∨
        reached.2 = .ok () ∧ Miswired standardCatalog reached.1 plan.updates := by
  have counted : (sitting.finished standardCatalog plan.descriptors).1.1.Counted :=
    run_counted (Registry.legible_of_loadOrCreate begins.found).coded.counted
  have unfolded : invocation.task =
      deployPlan invocation.host invocation.options invocation.chainId invocation.path := by
    rw [task, taskOf, begins.asked]
  rw [unfolded, Crashes, deployPlan_eq_of_begins begins]
  change Crashes _ _ ↔ _
  rw [crashes_bind, crashes_printTable counted]
  constructor
  · rintro (textless | ⟨_, _, _, crashed⟩)
    · exact .inl textless
    · obtain ⟨halt, halted, unexpected⟩ | ⟨_, _, ended, crashed⟩ := crashes_bind.mp crashed
      · exact absurd unexpected (run_halt_reported halted)
      · exact .inr ⟨congrArg Prod.fst ended, crashes_wire.mp crashed⟩
  · rintro (textless | ⟨ended, miswired⟩)
    · exact .inl textless
    · by_cases named : ∀ record ∈ (sitting.finished standardCatalog plan.descriptors).1.1.records,
        ∃ text, record.name = .text text
      · obtain ⟨after, printed⟩ := printTable_eq_ok counted (begins.writable ended) named _
        refine .inr ⟨(), after, printed, crashes_bind.mpr (.inr ⟨(), after, ?_, ?_⟩)⟩
        · rw [ended]
          rfl
        · exact crashes_wire.mpr miswired
      · push Not at named
        exact .inl named

private theorem crashes_deploy (asked : invocation.options.command = .deploy) :
    Crashes invocation.task invocation.session ↔
      invocation.Misconnected ∨ invocation.Connects ∧ invocation.Misshapen ∨
        ∃ plan sitting, invocation.Begins plan sitting ∧
          Crashes invocation.task invocation.session := by
  have unfolded : invocation.task =
      deployPlan invocation.host invocation.options invocation.chainId invocation.path := by
    rw [task, taskOf, asked]
  have reached : Crashes (deployPlan invocation.host invocation.options invocation.chainId
    invocation.path) invocation.session ↔ _ := crashes_of_connects
  rw [← unfolded] at reached
  simp only [crashes_get_bind, crashes_settle_bind, planOf_unexpected_iff,
    loadOrCreate_unexpected_iff] at reached
  constructor
  · intro crashed
    obtain misconnected | ⟨client, after, connected, files, ended⟩ := reached.mp crashed
    · exact .inl misconnected
    refine .inr ?_
    rw [files] at ended
    obtain misshapen | ⟨plan, planned, misshapen | ⟨registry, found, ended⟩⟩ := ended
    · exact .inl ⟨⟨client, after, connected⟩, .inl misshapen⟩
    · exact .inl ⟨⟨client, after, connected⟩, .inr ⟨plan, planned, misshapen⟩⟩
    · let announced :=
        ((say .info s!"Deploying from {client.address} to {invocation.chainId}").run after).2
      rw [Crashes, run_lift_bind] at ended
      change Crashes _ announced at ended
      obtain failed | ⟨_, ordered, _⟩ := crashes_settle_bind.mp ended
      · exact absurd failed (checkOrder_expected _ _)
      · exact .inr ⟨plan, ⟨client, some invocation.path, registry, announced⟩,
          ⟨asked, ⟨after, connected, rfl⟩, planned, found, rfl, ordered⟩, crashed⟩
  · rintro (misconnected | ⟨⟨client, after, connected⟩, ended⟩ | ⟨_, _, _, crashed⟩)
    · exact reached.mpr (.inl misconnected)
    · have files := files_of_connectClient connected
      refine reached.mpr (.inr ⟨client, after, connected, files, ?_⟩)
      rw [files]
      obtain misshapen | ⟨plan, planned, misshapen⟩ := ended
      · exact .inl misshapen
      · exact .inr ⟨plan, planned, .inl misshapen⟩
    · exact crashed

/-- An invocation answers with an exit code, unless it meets something that it does not expect. Files
and answers are read with halves of surrogate pairs replaced. -/
theorem answers_unless_baffled (invocation : Invocation σ) :
    (invocation.finished.1 = .exit 0 ∨ invocation.finished.1 = .exit 1) ↔ ¬invocation.Baffled := by
  rw [answers_iff, not_iff_not, Baffled]
  split
  · next asked => exact crashes_display asked
  · next asked => exact crashes_configure asked
  · next asked =>
      rw [crashes_deploy asked]
      refine or_congr_right (or_congr_right (exists₂_congr fun plan sitting => ?_))
      exact and_congr_right Begins.crashes_iff

end Invocation

/-- A registry is to be shown whose file holds a list. -/
def listShown : Invocation (List ChainAnswer) where
  host := rehearsalHost
  options := { deployPair with command := .display }
  session := .start [] ⟨⟨"/", []⟩, [(registryPlace, .text "[]")]⟩ ""

theorem listShown_crashes :
    listShown.finished.1 = .crash (.notObject "list") ∧
      ¬(listShown.finished.1 = .exit 0 ∨ listShown.finished.1 = .exit 1) := by
  have ended : listShown.finished.1 = .crash (.notObject "list") := rfl
  simp [ended]

end Rollout.CommandLine
