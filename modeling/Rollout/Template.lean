import Rollout.Value

/-!
# Message templates

A message before its contract can be sent: besides values it may hold references to what other
contracts are given when they are deployed, and placeholders for an address that is patched in
later. Tuples are lists that only this stage knows.
-/

set_option autoImplicit false

namespace Rollout

/-- What a reference asks of a deployed contract. -/
inductive Attribute where
  | address
  | codeId
deriving DecidableEq, Repr

/-- The name under which an attribute is written. -/
def Attribute.name : Attribute → String
  | address => "address"
  | codeId => "code_id"

def Attribute.ofName? (name : String) : Option Attribute :=
  if name = Attribute.address.name then some .address
  else if name = Attribute.codeId.name then some .codeId
  else none

/-- A reference to an attribute of a contract, which it names. -/
structure Reference where
  name : String
  asks : Attribute
deriving DecidableEq, Repr

/-- A value that may hold references and placeholders. -/
inductive Template where
  | scalar (value : Scalar)
  | list (items : List Template)
  | tuple (items : List Template)
  | object (fields : List (String × Template))
  | reference (reference : Reference)
  | placeholder
deriving Repr

namespace Template

mutual

/-- A value as a template without markers. -/
def ofValue : Value → Template
  | .scalar value => scalar value
  | .list items => list (ofItems items)
  | .object fields => object (ofFields fields)
termination_by structural value => value

def ofItems : List Value → List Template
  | [] => []
  | item :: rest => ofValue item :: ofItems rest
termination_by structural items => items

def ofFields : List (String × Value) → List (String × Template)
  | [] => []
  | (key, value) :: rest => (key, ofValue value) :: ofFields rest
termination_by structural fields => fields

end

mutual

/-- All references, in document order. -/
def references : Template → List Reference
  | reference found => [found]
  | list items | tuple items => itemReferences items
  | object fields => fieldReferences fields
  | scalar _ | placeholder => []
termination_by structural template => template

/-- The references in the items of a list. -/
def itemReferences : List Template → List Reference
  | [] => []
  | item :: rest => item.references ++ itemReferences rest
termination_by structural items => items

/-- The references in the fields of an object. -/
def fieldReferences : List (String × Template) → List Reference
  | [] => []
  | (_, template) :: rest => template.references ++ fieldReferences rest
termination_by structural fields => fields

end

mutual

/-- Whether a reference or a placeholder is left. -/
def hasMarkers : Template → Bool
  | reference _ | placeholder => true
  | list items | tuple items => itemsHaveMarkers items
  | object fields => fieldsHaveMarkers fields
  | scalar _ => false
termination_by structural template => template

/-- Whether an item of a list holds a marker. -/
def itemsHaveMarkers : List Template → Bool
  | [] => false
  | item :: rest => item.hasMarkers || itemsHaveMarkers rest
termination_by structural items => items

/-- Whether a field of an object holds a marker. -/
def fieldsHaveMarkers : List (String × Template) → Bool
  | [] => false
  | (_, template) :: rest => template.hasMarkers || fieldsHaveMarkers rest
termination_by structural fields => fields

end

mutual

def literal : Template → String
  | scalar value => value.literal
  | list items => "[" ++ ", ".intercalate (itemLiterals items) ++ "]"
  | tuple items =>
      match itemLiterals items with
      | [single] => "(" ++ single ++ ",)"
      | several => "(" ++ ", ".intercalate several ++ ")"
  | object fields => "\x7b" ++ ", ".intercalate (fieldLiterals fields) ++ "\x7d"
  | reference found =>
      "Ref(name=" ++ Text.quoted found.name ++ ", attr=" ++ Text.quoted found.asks.name ++ ")"
  | placeholder => "Placeholder()"
termination_by structural template => template

/-- The literals of the items of a list. -/
def itemLiterals : List Template → List String
  | [] => []
  | item :: rest => item.literal :: itemLiterals rest
termination_by structural items => items

/-- The literals of the fields of an object, each behind its quoted key. -/
def fieldLiterals : List (String × Template) → List String
  | [] => []
  | (key, template) :: rest =>
      (Text.quoted key ++ ": " ++ template.literal) :: fieldLiterals rest
termination_by structural fields => fields

end

/-- A template as running text: only a text differs from its literal. -/
def display : Template → String
  | scalar value => value.display
  | template => template.literal

end Template

end Rollout
