import Rollout.Path

/-!
# Places of registries and artifacts

Where registries and artifacts are kept unless other places are given: each chain has a file of
its own below the working directory.
-/

set_option autoImplicit false

namespace Rollout

def registryDirectory (workingDirectory : Path) : Path :=
  workingDirectory.child ".stader-deployments"

def artifactDirectory (workingDirectory : Path) : Path :=
  workingDirectory.child "artifacts"

/-- The file of the registry of a chain, in a directory that is relative to the working one if
it is given. -/
def registryPath (workingDirectory : Path) (chainId : String) (directory : Option Path) : Path :=
  let base :=
    match directory with
    | some given => workingDirectory.join given
    | none => registryDirectory workingDirectory
  base.child (chainId ++ ".json")

end Rollout
