import Rollout.CommandLine.Arguments
import Rollout.Deployment.Configuration
import Rollout.Deployment.Run
import Rollout.Network.Connection
import Rollout.Plan.Document
import Rollout.Plan.Order
import Rollout.Registry.Location
import Rollout.Registry.Table
import Rollout.Schema.Standard

/-!
# Command line runs

The commands: to deploy a plan and wire its contracts, to wire deployed contracts again, and to
show what is recorded. Expected faults are logged and end the run with the exit code 1.
-/

set_option autoImplicit false

namespace Rollout.CommandLine

open Rollout.Deployment Rollout.Network

variable {σ : Type}

/-- What the command line meets outside: the environment, a web service, the memory, and a library
that opens chain clients. -/
structure Host (σ : Type) where
  environment : Environment
  answer : String → Answer
  memory : Wire.Memory
  library : Library (Client σ)

/-- How a run ends: with an exit code, or by a fault that is not expected. -/
inductive Ending where
  | exit (code : Nat)
  | crash (fault : Fault)

/-- Runs an action of a command. Its fault ends the command. -/
abbrev Task (σ α : Type) := ExceptT Halt (StateM (Session σ)) α

/-- An action as a task. Its fault has no context to resume from. -/
def perform {α : Type} (action : Action σ α) : Task σ α :=
  ExceptT.adapt Halt.bare action

def settle {α : Type} (result : Except Fault α) : Task σ α :=
  ExceptT.mk (pure (result.mapError Halt.bare))

def say (level : Log.Level) (text : String) : Change σ Unit :=
  Session.report ⟨level, .commandLine, text⟩

/-- The chain that a registry is chosen for. -/
def chainIdOf (options : Options) (environment : Environment) : String :=
  chosenChainId (options.chainId.filter (· != "")) environment

def registryFile (options : Options) (environment : Environment) (workingDirectory : Path) :
    Path :=
  options.registry.getD (registryPath workingDirectory (chainIdOf options environment) none)

/-- The gas prices that the service of a network publishes. -/
def fetchGasPrices (host : Host σ) (service : String) : Task σ GasPrices := do
  let url := gasPricesUrl service
  modify fun session => { session with requests := session.requests ++ [url] }
  let prices ←
    settle ((readAnswer (host.answer url)).mapError fun fault => .settings (.gas fault))
  ExceptT.lift (Session.report (fetchedEntry prices url))
  return prices

/-- The settings of a run. Current gas prices replace all others if they are asked for. -/
def settingsOf (host : Host σ) (options : Options) : Task σ Settings := do
  let given : Given := ⟨options.chainId, options.lcdUrl, none, none, none⟩
  let settings ← settle ((complete given host.environment).mapError .settings)
  if options.fetchGasPrices then
    match settings.fcdUrl with
    | none => throw (.bare (.settings (.noGasSource settings.chainId)))
    | some service =>
        let prices ← fetchGasPrices host service
        return { settings with gasPrices := prices.toValue }
  else return settings

def connectClient (host : Host σ) (options : Options) : Task σ (Client σ) := do
  let settings ← settingsOf host options
  let client ← settle (host.library.connectWith settings)
  modify fun session => { session with connected := session.connected ++ [settings] }
  return client

/-- The plan to deploy: the one of a file, or the standard one. -/
def planOf (memory : Wire.Memory) (options : Options) (files : Files) : Except Fault Plan :=
  let artifacts := options.artifacts.getD (artifactDirectory files.workingDirectory)
  match options.plan with
  | some path => Plan.load files path artifacts
  | none => Plan.standard memory .standard artifacts

def printLine (text : String) : Task σ Unit :=
  ExceptT.lift (Session.print text)

def printTable (registry : Registry) : Task σ Unit := do
  printLine (← settle registry.table)

def printResult (result : UpdateResult) : Task σ Unit := do
  let variant ← settle result.update.message.firstPart
  let status := if result.outcome.isError then "FAILED" else "ok"
  printLine s!"{result.update.target.display}.{variant}: {status}"
  if result.outcome.isError then
    let code := result.outcome.code.display
    printLine s!"  code: {code}, codespace: {result.outcome.codespace.display}"
    printLine s!"  raw_log: {result.outcome.rawLog.display}"

/-- Applies the updates of a plan, prints their results, and refuses errors among them. -/
def wire (client : Client σ) (registry : Registry) (updates : List ConfigUpdate) :
    Task σ Unit := do
  let catalog := Schema.standardCatalog Wire.accountPart
  let results ← perform (configure client catalog registry updates)
  results.forM printResult
  settle (requireSuccess results)

/-- Deploys a plan and wires its contracts. The table is printed however the deployment ends. -/
def deployPlan (host : Host σ) (options : Options) (chainId : String) (path : Path) :
    Task σ Unit := do
  let client ← connectClient host options
  let plan ← settle (planOf host.memory options (← get).files)
  let registry ← settle (Registry.loadOrCreate (← get).files path path.toString chainId)
  ExceptT.lift (say .info s!"Deploying from {client.address} to {chainId}")
  settle (Plan.checkOrder plan.descriptors registry.names)
  let catalog := Schema.standardCatalog Wire.accountPart
  let (extended, ending) ←
    ExceptT.lift (run client catalog (some path) registry plan.descriptors)
  printTable extended
  ExceptT.mk (pure ending)
  wire client extended plan.updates

def wireAgain (host : Host σ) (options : Options) (path : Path) : Task σ Unit := do
  let client ← connectClient host options
  let plan ← settle (planOf host.memory options (← get).files)
  let registry ← settle (Registry.load (← get).files path)
  wire client registry plan.updates

def display (path : Path) : Task σ Unit := do
  printTable (← settle (Registry.load (← get).files path))

def taskOf (host : Host σ) (options : Options) (chainId : String) (path : Path) : Task σ Unit :=
  match options.command with
  | .deploy => deployPlan host options chainId path
  | .configure => wireAgain host options path
  | .display => display path

/-- Logs why a command ended early, and how to resume where that is possible. -/
def explain (path : Path) (halt : Halt) : Change σ Unit := do
  say .error halt.fault.message
  match halt with
  | .bare _ => return ()
  | .resumable _ contract _ =>
      say .error s!"Registry saved to {path}; rerun to resume from '{contract.display}'"

def execute (host : Host σ) (options : Options) : Change σ Ending := do
  let path := registryFile options host.environment (← get).files.workingDirectory
  match ← (taskOf host options (chainIdOf options host.environment) path).run with
  | .ok () => return .exit 0
  | .error halt =>
      if halt.fault.isReported then
        explain path halt
        return .exit 1
      else return .crash halt.fault

/-- The least level that is logged. -/
def logLevel (options : Options) : Log.Level :=
  if options.verbose then .debug else .info

end Rollout.CommandLine
