import Rollout.Template

/-!
# Resolution of templates

A template becomes a value once every reference is looked up and every placeholder is replaced.
The first marker in document order that cannot be replaced is reported.
-/

set_option autoImplicit false

namespace Rollout

/-- A marker that cannot be replaced. -/
inductive Unresolved where
  | reference (name : String)
  | placeholder
deriving DecidableEq, Repr

/-- The name by which a marker is reported. -/
def Unresolved.name : Unresolved → String
  | reference name => name
  | placeholder => "<placeholder>"

namespace Template

mutual

/-- The value of a template, by a look-up of references and an address for placeholders. Tuples
become lists. -/
def resolve (lookUp : Reference → Option Value) (stand : Option String) :
    Template → Except Unresolved Value
  | scalar value => .ok (.scalar value)
  | list items | tuple items => (resolveItems lookUp stand items).map .list
  | object fields => (resolveFields lookUp stand fields).map .object
  | reference found =>
      match lookUp found with
      | some value => .ok value
      | none => .error (.reference found.name)
  | placeholder =>
      match stand with
      | some address => .ok (.text address)
      | none => .error .placeholder
termination_by structural template => template

/-- The values of the items of a list. -/
def resolveItems (lookUp : Reference → Option Value) (stand : Option String) :
    List Template → Except Unresolved (List Value)
  | [] => .ok []
  | item :: rest => do
      let first ← item.resolve lookUp stand
      let others ← resolveItems lookUp stand rest
      return first :: others
termination_by structural items => items

/-- The values of the fields of an object. -/
def resolveFields (lookUp : Reference → Option Value) (stand : Option String) :
    List (String × Template) → Except Unresolved (List (String × Value))
  | [] => .ok []
  | (key, template) :: rest => do
      let first ← template.resolve lookUp stand
      let others ← resolveFields lookUp stand rest
      return (key, first) :: others
termination_by structural fields => fields

end

/-- The value of a template that holds no marker. One that does is reported by its first
reference, or as a placeholder if it has none. -/
def value (template : Template) : Except Unresolved Value :=
  if template.hasMarkers then
    match template.references with
    | first :: _ => .error (.reference first.name)
    | [] => .error .placeholder
  else template.resolve (fun _ => none) none

end Template

end Rollout
