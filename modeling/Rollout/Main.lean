import Rollout.CommandLine.Rehearsal
import Rollout.CommandLine.Run

/-!
# The program

The outer layer of the command line. Wallets and nodes are outside of this library, so that a
command is rehearsed: the document of the rehearsal comes from standard input. The files that the
command needs are read before it runs, and the registry is written after it.
-/

set_option autoImplicit false

namespace Rollout.CommandLine

/-- The environment variables that settings are taken from. -/
def settingVariables : List String :=
  ["TERRA_CHAIN_ID", "TERRA_LCD_URL", "TERRA_MNEMONIC", "TERRA_GAS_PRICES",
    "TERRA_GAS_ADJUSTMENT"]

def readEnvironment : IO Network.Environment :=
  settingVariables.filterMapM fun name => do
    return (← IO.getEnv name).map fun value => (name, value)

/-- Reads what lies at a path into a tree of files. -/
def readInto (files : Files) (path : Path) : IO Files := do
  try
    let content ← IO.FS.readBinFile path.toString
    return files.after (Files.install path (.octets content.toList))
  catch fault =>
    match fault with
    | .noFileOrDirectory .. => return files
    | .inappropriateType .. => return files.after (Files.ensurePath path)
    | other => return files.after (Files.install path (.locked (toString other)))

/-- Reads the registry and the plan of a command, and the artifacts that the plan names. -/
def readFiles (memory : Wire.Memory) (options : Options) (environment : Network.Environment) :
    IO Files := do
  let here := Path.ofString (← IO.currentDir).toString
  let documents := registryFile options environment here :: options.plan.toList
  let files ← documents.foldlM readInto ⟨here, []⟩
  match planOf memory options files with
  | .ok plan => (plan.descriptors.map (·.bytecode)).foldlM readInto files
  | .error _ => return files

/-- Writes the registry, if the command wrote it. -/
def writeRegistry (files : Files) (path : Path) : IO Unit := do
  match files.find path with
  | .ok (.text content) =>
      IO.FS.createDirAll path.parent.toString
      IO.FS.writeFile path.toString content
  | _ => return ()

/-- Rehearses a command and answers its exit code. -/
def rehearse (options : Options) : IO UInt32 := do
  let environment ← readEnvironment
  let memory := Wire.Memory.usual
  let files ← readFiles memory options environment
  let rehearsal := Rehearsal.read (← (← IO.getStdin).readToEnd)
  let library : Network.Library (Client (List ChainAnswer)) :=
    ⟨Chain.Coins.ofValue, fun _ => .ok rehearsal.client⟩
  let host : Host (List ChainAnswer) :=
    ⟨environment, fun _ => rehearsal.gasPrices, memory, library⟩
  let (ending, after) :=
    (execute host options).run (Session.start rehearsal.answers files rehearsal.clock)
  for entry in Log.atLeast (logLevel options) after.log do
    IO.eprintln entry.line
  for line in after.printed do
    IO.println line
  writeRegistry after.files (registryFile options environment files.workingDirectory)
  match ending with
  | .exit code => return UInt32.ofNat code
  | .crash fault =>
      IO.eprintln fault.message
      return 1

end Rollout.CommandLine

def main (arguments : List String) : IO UInt32 := do
  match Rollout.CommandLine.parse arguments with
  | .ok options => Rollout.CommandLine.rehearse options
  | .error refusal =>
      IO.eprintln "usage: rollout [options] deploy|configure|show [options]"
      return UInt32.ofNat refusal.exitCode
