import Rollout.Registry

/-!
# Registry tables

A registry as a table for operators: names on the left, code ids on the right of their column.
-/

set_option autoImplicit false

namespace Rollout.Registry

def blanks (count : Nat) : String :=
  String.ofList (List.replicate count ' ')

/-- A text with blanks behind it up to a width. -/
def padRight (width : Nat) (text : String) : String :=
  text ++ blanks (width - text.length)

/-- A text with blanks before it up to a width. -/
def padLeft (width : Nat) (text : String) : String :=
  blanks (width - text.length) ++ text

def nameHeading : String := "contract"

/-- The heading of the column of code ids. -/
def codeHeading : String := "code id"

def row (width : Nat) (name codeId address : String) : String :=
  padRight width name ++ "  " ++ padLeft codeHeading.length codeId ++ "  " ++ address

/-- A name in the table, which must be a text. -/
def nameCell : Scalar → Except Fault String
  | .text name => .ok name
  | name => .error (.wrongKind name.kindName)

/-- A code id in the table. A truth value stands for a number; null and what has parts cannot be
shown, nor a number with too many digits. -/
def codeCell : Value → Except Fault String
  | .bool value => .ok (if value then "1" else "0")
  | .int value =>
      if Number.isWritable value then .ok (toString value)
      else .error (.integer (.numeral .unwritable))
  | .float value => .ok value.print
  | .text value => .ok value
  | value => .error (.wrongKind value.kindName)

def addressCell (address : Value) : Except Fault String :=
  (address.quoting address.display).mapError fun fault => .integer (.numeral fault)

/-- The table of a registry. The names are measured before any row is made. -/
def table (registry : Registry) : Except Fault String := do
  if registry.records.isEmpty then return "No contracts deployed."
  let names ← registry.names.mapM nameCell
  let width := (names.map String.length).foldl max nameHeading.length
  let rows ← registry.records.mapM fun record => do
    let name ← nameCell record.name
    let codeId ← codeCell record.codeId
    let address ← addressCell record.address
    return row width name codeId address
  return "\n".intercalate (row width nameHeading codeHeading "address" :: rows)

end Rollout.Registry
