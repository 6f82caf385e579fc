/-!
# Paths

A path is a root, empty for a relative path, and the parts below it. Parts that name the place
itself are dropped when a path is read, while the way up stays.
-/

set_option autoImplicit false

namespace Rollout

/-- A path. -/
structure Path where
  root : String
  parts : List String
deriving DecidableEq, Repr

namespace Path

/-- The part that leads up. -/
def up : String := ".."

/-- The parts of a text between its slashes, without empty ones and those for the place
itself. -/
def splitParts (text : String) : List String :=
  (text.splitOn "/").filter fun part => part != "" && part != "."

/-- The root that a text begins with. Exactly two slashes are a root of their own. -/
def rootOf (text : String) : String :=
  match (text.toList.takeWhile (· == '/')).length with
  | 0 => ""
  | 2 => "//"
  | _ => "/"

def ofString (text : String) : Path :=
  ⟨rootOf text, splitParts text⟩

/-- Writes a path; the empty relative path is the place itself. -/
def toString (path : Path) : String :=
  if path.root = "" && path.parts.isEmpty then "."
  else path.root ++ "/".intercalate path.parts

instance : ToString Path := ⟨Path.toString⟩

def isAbsolute (path : Path) : Bool :=
  path.root != ""

/-- The path that a second one leads to from the first: an absolute one replaces it. -/
def join (base path : Path) : Path :=
  if path.isAbsolute then path else ⟨base.root, base.parts ++ path.parts⟩

def child (base : Path) (text : String) : Path :=
  base.join (ofString text)

def name (path : Path) : String :=
  path.parts.getLast?.getD ""

/-- The path without its last part. A path without parts has no other parent. -/
def parent (path : Path) : Path :=
  ⟨path.root, path.parts.dropLast⟩

end Path

end Rollout
