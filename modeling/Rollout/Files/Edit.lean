import Rollout.Files

/-!
# Edits of files

What makes, writes and takes away files and directories. An edit answers a value or a fault, and
what it changed before a fault stays changed: directories that were made for a file are there even
if the file cannot be written.
-/

set_option autoImplicit false

namespace Rollout.Files

/-- What changes files and answers a value or a fault. -/
abbrev Edit (α : Type) := ExceptT FileFault (StateM Files) α

def put (files : Files) (place : Path) (node : Node) : Files :=
  { files with nodes := (place, node) :: files.nodes.filter fun entry => entry.1 != place }

/-- Whether a place is another or lies below it. -/
def isWithin (place other : Path) : Bool :=
  place.root = other.root && other.parts.isPrefixOf place.parts

/-- Takes away what lies at a place and below it. -/
def clear (files : Files) (place : Path) : Files :=
  { files with nodes := files.nodes.filter fun entry => !isWithin entry.1 place }

/-- Writes a file, over an existing one or into an existing directory. -/
def write (path : Path) (node : Node) : Edit Unit := do
  let files ← get
  let place ← files.locate path
  if files.node? place = some .directory then throw (.failed .isDirectory path)
  set (files.put place node)

def makeDirectory (path : Path) : Edit Unit := do
  let files ← get
  let place ← files.locate path
  if (files.node? place).isSome then throw (.failed .alreadyThere path)
  set (files.put place .directory)

/-- Passes a fault on, unless the directory that it is about is there. -/
def unlessDirectory (path : Path) (fault : FileFault) : Edit Unit := do
  if ← (← get).isDirectory path then return ()
  throw fault

def ensureDirectory (path : Path) : Edit Unit :=
  tryCatch (makeDirectory path) (unlessDirectory path)

/-- Makes a directory and the missing ones above it, unless they are there. The number bounds the
way up; that of the parts of the path is enough. -/
def ensureDirectories : Nat → Path → Edit Unit
  | 0, path => ensureDirectory path
  | depth + 1, path =>
      tryCatch (makeDirectory path) fun fault =>
        match fault with
        | .failed .missing _ =>
            if path.parent = path then throw fault
            else do
              ensureDirectories depth path.parent
              ensureDirectory path
        | _ => unlessDirectory path fault

/-- Makes the directory that a path leads to, and those above it. -/
def ensurePath (path : Path) : Edit Unit :=
  ensureDirectories path.parts.length path

/-- Writes a file, making the directories that it lies in. -/
def install (path : Path) (node : Node) : Edit Unit := do
  ensurePath path.parent
  write path node

def remove (path : Path) : Edit Unit := do
  let files ← get
  let place ← files.locate path
  set (files.clear place)

/-- The files after an edit, however it ended. -/
def after (files : Files) (edit : Edit Unit) : Files :=
  (edit.run.run files).2

end Rollout.Files
