import Rollout.Proofs.CommandLine.Wiring
import Rollout.Proofs.Deployment.Persistence

/-!
# Invocations of the command line

An invocation either does no more than wiring, or it deploys the contracts of a plan from the
registry that it finds in the file and then does no more than wiring.
-/

set_option autoImplicit false

namespace Rollout.CommandLine

open Rollout.Chain Rollout.Deployment

variable {σ α β : Type}

/-- An invocation: what it meets outside, what it is asked for, and the session it starts in. -/
structure Invocation (σ : Type) where
  host : Host σ
  options : Options
  session : Session σ

def standardCatalog : Schema.Catalog := Schema.standardCatalog Wire.accountPart

namespace Invocation

variable (invocation : Invocation σ)

def chainId : String :=
  chainIdOf invocation.options invocation.host.environment

def path : Path :=
  registryFile invocation.options invocation.host.environment
    invocation.session.files.workingDirectory

/-- The plan that is asked for. -/
def plan : Except Fault Plan :=
  planOf invocation.host.memory invocation.options invocation.session.files

def finished : Ending × Session σ :=
  (execute invocation.host invocation.options).run invocation.session

/-- An invocation gets to deploying the contracts of a plan. -/
structure Begins (plan : Plan) (sitting : Sitting σ) : Prop where
  asked : invocation.options.command = .deploy
  connected : ∃ middle,
    (connectClient invocation.host invocation.options).run.run invocation.session =
        (.ok sitting.client, middle) ∧
      sitting.session = ((say .info
        s!"Deploying from {sitting.client.address} to {invocation.chainId}").run middle).2
  planned : invocation.plan = .ok plan
  found : Registry.loadOrCreate invocation.session.files invocation.path
    invocation.path.toString invocation.chainId = .ok sitting.registry
  placed : sitting.path = some invocation.path
  ordered : Plan.checkOrder plan.descriptors sitting.registry.names = .ok ()

end Invocation

/-- What is settled changes nothing, and what cannot be settled ends the command. -/
theorem settle_cases {result : Except Fault α} {next : α → Task σ β} {session : Session σ}
    {final : Except Halt β × Session σ}
    (ran : final = ((settle result : Task σ α) >>= next).run.run session) :
    (∃ fault, final = (.error (.bare fault), session)) ∨
      ∃ value, result = .ok value ∧ final = (next value).run.run session := by
  cases result with
  | error fault => exact .inl ⟨fault, ran⟩
  | ok value => exact .inr ⟨value, rfl, ran⟩

theorem run_get_bind (next : Session σ → Task σ β) (session : Session σ) :
    ((get : Task σ (Session σ)) >>= next).run.run session = (next session).run.run session := rfl

theorem run_lift_bind (change : Change σ α) (next : α → Task σ β) (session : Session σ) :
    ((ExceptT.lift change : Task σ α) >>= next).run.run session =
      (next (change.run session).1).run.run (change.run session).2 := rfl

theorem run_settle_ok {result : Except Fault α} {value : α} {next : α → Task σ β}
    {session : Session σ} (settled : result = .ok value) :
    ((settle result : Task σ α) >>= next).run.run session = (next value).run.run session := by
  rw [settled]
  rfl

/-- A deployment gets to its contracts, or it fails and sends nothing. -/
theorem deployPlan_begins (invocation : Invocation σ)
    (asked : invocation.options.command = .deploy) {final : Except Halt Unit × Session σ}
    (ran : final = (deployPlan invocation.host invocation.options invocation.chainId
      invocation.path).run.run invocation.session) :
    (∃ halt, final.1 = .error halt) ∧ final.2.files = invocation.session.files ∧
        final.2.sent = invocation.session.sent ∨
      ∃ plan sitting, invocation.Begins plan sitting := by
  rw [deployPlan] at ran
  rcases connectClient_cases invocation.host invocation.options invocation.session with
    ⟨fault, after, failed, idle⟩ | ⟨settings, client, middle, _, idle, _, connected⟩
  · rw [Computation.run_bind_error failed] at ran
    rw [ran]
    exact .inl ⟨⟨fault, rfl⟩, idle.files, idle.sent⟩
  rw [Computation.run_bind_ok connected, run_get_bind] at ran
  obtain ⟨fault, rfl⟩ | ⟨plan, planned, ran⟩ := settle_cases ran
  · exact .inl ⟨⟨.bare fault, rfl⟩, idle.files, idle.sent⟩
  rw [run_get_bind] at ran
  obtain ⟨fault, rfl⟩ | ⟨registry, found, ran⟩ := settle_cases ran
  · exact .inl ⟨⟨.bare fault, rfl⟩, idle.files, idle.sent⟩
  rw [run_lift_bind] at ran
  obtain ⟨fault, rfl⟩ | ⟨_, ordered, _⟩ := settle_cases ran
  · exact .inl ⟨⟨.bare fault, rfl⟩, idle.files, idle.sent⟩
  dsimp only at planned found
  rw [idle.files] at planned found
  let connecting := { middle with connected := middle.connected ++ [settings] }
  let announced :=
    ((say .info s!"Deploying from {client.address} to {invocation.chainId}").run connecting).2
  exact .inr ⟨plan, ⟨client, some invocation.path, registry, announced⟩,
    asked, ⟨connecting, connected, rfl⟩, planned, found, rfl, ordered⟩

theorem Invocation.Begins.starts {invocation : Invocation σ} {plan : Plan} {sitting : Sitting σ}
    (begins : invocation.Begins plan sitting) :
    Session.Wires invocation.session sitting.session := by
  obtain ⟨middle, connected, started⟩ := begins.connected
  have connecting := wiring_connectClient invocation.host invocation.options invocation.session
  rw [connected] at connecting
  rw [started]
  exact connecting.trans (.of_unsent rfl rfl)

/-- Whoever gets to deploying deploys, and then prints and wires what the deployment came to. -/
theorem deployPlan_eq_of_begins {invocation : Invocation σ} {plan : Plan} {sitting : Sitting σ}
    (begins : invocation.Begins plan sitting) :
    (deployPlan invocation.host invocation.options invocation.chainId invocation.path).run.run
        invocation.session =
      (do
        printTable (sitting.finished standardCatalog plan.descriptors).1.1
        ExceptT.mk (pure (sitting.finished standardCatalog plan.descriptors).1.2)
        wire sitting.client (sitting.finished standardCatalog plan.descriptors).1.1
          plan.updates).run.run (sitting.finished standardCatalog plan.descriptors).2 := by
  obtain ⟨_, ⟨middle, connected, started⟩, planned, found, placed, ordered⟩ := begins
  have files := files_of_connectClient connected
  rw [Invocation.plan, ← files] at planned
  rw [← files] at found
  rw [deployPlan, Computation.run_bind_ok connected, run_get_bind, run_settle_ok planned,
    run_get_bind, run_settle_ok found, run_lift_bind, run_settle_ok ordered, run_lift_bind,
    Sitting.finished, placed, started]
  rfl

private theorem deployPlan_of_begins {invocation : Invocation σ} {plan : Plan} {sitting : Sitting σ}
    (begins : invocation.Begins plan sitting) :
    Session.Wires (sitting.finished standardCatalog plan.descriptors).2
      ((deployPlan invocation.host invocation.options invocation.chainId invocation.path).run.run
        invocation.session).2 := by
  rw [deployPlan_eq_of_begins begins]
  exact wiring_finish sitting.client plan _ _ _

private theorem explain_idles (path : Path) (halt : Halt) (session : Session σ) :
    Session.Idles session ((explain path halt).run session).2 := by
  cases halt with
  | bare _ => exact ⟨rfl, rfl, rfl, rfl⟩
  | resumable _ _ _ => exact ⟨rfl, rfl, rfl, rfl⟩

/-- Once the task of an invocation is done, only its fault is left to be told. -/
theorem execute_idles (host : Host σ) (options : Options) (session : Session σ) :
    Session.Idles
      ((taskOf host options (chainIdOf options host.environment)
        (registryFile options host.environment session.files.workingDirectory)).run.run session).2
      ((execute host options).run session).2 := by
  have read : ((get : Change σ (Session σ)).run session) = (session, session) := rfl
  rw [execute, Change.run_bind, read, Change.run_bind]
  rcases (taskOf host options (chainIdOf options host.environment)
    (registryFile options host.environment session.files.workingDirectory)).run.run session with
    ⟨answer, after⟩
  cases answer with
  | ok _ => exact Session.Idles.lenient.refl after
  | error halt =>
      dsimp only
      split
      · exact explain_idles _ halt after
      · exact Session.Idles.lenient.refl after

private theorem execute_wires (host : Host σ) (options : Options) (session : Session σ) :
    Session.Wires
      ((taskOf host options (chainIdOf options host.environment)
        (registryFile options host.environment session.files.workingDirectory)).run.run session).2
      ((execute host options).run session).2 := by
  have idles := execute_idles host options session
  exact .of_unsent idles.files idles.sent

namespace Invocation

variable {invocation : Invocation σ} {plan other : Plan} {sitting another : Sitting σ}

/-- An invocation wires only, or it deploys the contracts of a plan and wires only besides. -/
theorem finished_cases (invocation : Invocation σ) :
    Session.Wires invocation.session invocation.finished.2 ∨
      ∃ plan sitting, invocation.Begins plan sitting ∧
        Session.Wires invocation.session sitting.session ∧
        Session.Wires (sitting.finished standardCatalog plan.descriptors).2
          invocation.finished.2 := by
  have ended := execute_wires invocation.host invocation.options invocation.session
  rcases invocation with ⟨host, options, session⟩
  cases asked : options.command with
  | deploy =>
      simp only [taskOf, asked] at ended
      obtain ⟨_, files, sent⟩ | ⟨plan, sitting, begins⟩ :=
        deployPlan_begins ⟨host, options, session⟩ asked rfl
      · exact .inl (Session.Wires.trans (.of_unsent files sent) ended)
      · exact .inr ⟨plan, sitting, begins, begins.starts, (deployPlan_of_begins begins).trans ended⟩
  | configure =>
      simp only [taskOf, asked] at ended
      exact .inl ((wiring_wireAgain host options _ session).trans ended)
  | display =>
      simp only [taskOf, asked] at ended
      exact .inl ((Session.Wires.lenient.leads (idling_display _) session).trans ended)

theorem Begins.finished_wires (begins : invocation.Begins plan sitting) :
    Session.Wires (sitting.finished standardCatalog plan.descriptors).2 invocation.finished.2 := by
  have ended := execute_wires invocation.host invocation.options invocation.session
  simp only [taskOf, begins.asked] at ended
  exact (deployPlan_of_begins begins).trans ended

theorem Begins.unique (begins : invocation.Begins plan sitting)
    (again : invocation.Begins other another) : other = plan ∧ another = sitting := by
  obtain ⟨middle, connected, started⟩ := begins.connected
  obtain ⟨middleAgain, connectedAgain, startedAgain⟩ := again.connected
  have planned := again.planned
  have found := again.found
  rw [begins.planned] at planned
  rw [begins.found] at found
  rw [connected] at connectedAgain
  rcases sitting with ⟨client, path, registry, session⟩
  rcases another with ⟨clientAgain, pathAgain, registryAgain, sessionAgain⟩
  obtain rfl : path = _ := begins.placed
  obtain rfl : pathAgain = _ := again.placed
  cases planned
  cases found
  cases connectedAgain
  obtain rfl : sessionAgain = session := startedAgain.trans started.symm
  exact ⟨rfl, rfl⟩

end Invocation

end Rollout.CommandLine
