import Rollout.Number.Numeral
import Rollout.Path
import Rollout.Text.Quoted
import Rollout.Text.Utf8

/-!
# Files

A tree of files and directories as a finite map from places to nodes. A path is followed part by
part, so that the way up from a directory leads to where it lies, and a file has no way on.
-/

set_option autoImplicit false

namespace Rollout

/-- What lies at a place. The octets of a locked file cannot be read, for a reason. -/
inductive Node where
  | text (content : String)
  | octets (content : List UInt8)
  | locked (reason : String)
  | directory
deriving DecidableEq, Repr

/-- A tree of files: the working directory and the nodes by their places, which are absolute
and without parts that lead up. -/
structure Files where
  workingDirectory : Path
  nodes : List (Path × Node)
deriving DecidableEq, Repr

/-- Why a path does not lead to what an operation needs. -/
inductive FileFaultKind where
  | missing
  | alreadyThere
  | notDirectory
  | isDirectory
  | nameTooLong
deriving DecidableEq, Repr

namespace FileFaultKind

def number : FileFaultKind → Nat
  | missing => 2
  | alreadyThere => 17
  | notDirectory => 20
  | isDirectory => 21
  | nameTooLong => 36

def text : FileFaultKind → String
  | missing => "No such file or directory"
  | alreadyThere => "File exists"
  | notDirectory => "Not a directory"
  | isDirectory => "Is a directory"
  | nameTooLong => "File name too long"

end FileFaultKind

/-- A failed file operation on a path, a path with a null character, which is none, text that is
not well-formed, or a number that breaks the writing of a text off. -/
inductive FileFault where
  | failed (kind : FileFaultKind) (path : Path)
  | nullCharacter
  | malformed (fault : Text.Utf8.Malformed)
  | number (fault : Number.NumeralFault)
deriving DecidableEq, Repr

def FileFault.message : FileFault → String
  | failed kind path =>
      s!"[Errno {kind.number}] {kind.text}: " ++ Text.quoted path.toString
  | nullCharacter => "embedded null byte"
  | malformed fault => fault.message
  | number fault => fault.message

namespace Files

/-- The most octets that a part of a path may have. -/
def nameLimit : Nat := 255

/-- The most octets that a path may have. -/
def pathLimit : Nat := 4095

/-- Whether a place is a root, the working directory or above it: these always exist. -/
def isGiven (files : Files) (place : Path) : Bool :=
  place.parts.isEmpty ||
    (place.root = files.workingDirectory.root &&
      place.parts.isPrefixOf files.workingDirectory.parts)

def node? (files : Files) (place : Path) : Option Node :=
  if files.isGiven place then some .directory else files.nodes.lookup place

/-- Follows parts from a place. Each part needs a directory to start from, so the answer lies in
an existing directory. -/
def follow (files : Files) : Path → List String → Except FileFaultKind Path
  | place, [] => .ok place
  | place, part :: rest =>
      match files.node? place with
      | some .directory =>
          if part = Path.up then files.follow place.parent rest
          else if part.utf8ByteSize > nameLimit then .error .nameTooLong
          else files.follow ⟨place.root, place.parts ++ [part]⟩ rest
      | some _ => .error .notDirectory
      | none => .error .missing

/-- Where a path starts from. -/
def origin (files : Files) (path : Path) : Path :=
  if path.isAbsolute then ⟨if path.root = "//" then "/" else path.root, []⟩
  else files.workingDirectory

/-- The place that a path leads to, where something may or may not lie. -/
def locate (files : Files) (path : Path) : Except FileFault Path :=
  let text := path.toString
  if text.toList.contains '\x00' then .error .nullCharacter
  else if text.utf8ByteSize > pathLimit then .error (.failed .nameTooLong path)
  else (files.follow (files.origin path) path.parts).mapError fun kind => .failed kind path

def find (files : Files) (path : Path) : Except FileFault Node := do
  let place ← files.locate path
  match files.node? place with
  | some node => .ok node
  | none => .error (.failed .missing path)

/-- Whether a path leads to a node that passes a test. A name that is too long leaves that
open. -/
def leadsTo (files : Files) (path : Path) (test : Node → Bool) : Except FileFault Bool :=
  match files.find path with
  | .ok node => .ok (test node)
  | .error (.failed .nameTooLong place) => .error (.failed .nameTooLong place)
  | .error _ => .ok false

def isThere (files : Files) (path : Path) : Except FileFault Bool :=
  files.leadsTo path fun _ => true

def isDirectory (files : Files) (path : Path) : Except FileFault Bool :=
  files.leadsTo path fun node => node = .directory

/-- Replaces the line ends of other systems by the line feed. -/
def plainLines : List Char → List Char
  | [] => []
  | '\r' :: '\n' :: rest => '\n' :: plainLines rest
  | '\r' :: rest => '\n' :: plainLines rest
  | char :: rest => char :: plainLines rest

def readText (files : Files) (path : Path) : Except FileFault String := do
  match ← files.find path with
  | .directory => .error (.failed .isDirectory path)
  | .text content => return String.ofList (plainLines content.toList)
  | .locked _ => return ""
  | .octets content =>
      let decoded ← (Text.Utf8.decode content).mapError .malformed
      return String.ofList (plainLines decoded)

end Files

end Rollout
