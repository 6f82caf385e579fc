import Rollout.Template
import Rollout.Value.Quoting

/-!
# Markers in plan files

An object with the key `$ref` stands for a reference, and the object whose only field is
`$placeholder` set to true for a placeholder. Reading refuses every other use of the two keys.
-/

set_option autoImplicit false

namespace Rollout

/-- A misused marker and the object that holds it, which may be one that cannot be quoted. -/
inductive MarkerFault where
  | reference (object : List (String × Value))
  | unknownAttribute (asked : Value) (object : List (String × Value))
  | placeholder (object : List (String × Value))
  | unquotable (object : List (String × Value))
deriving Repr

namespace MarkerFault

def message : MarkerFault → String
  | reference object => "Malformed reference: " ++ (Value.object object).literal
  | unknownAttribute asked _ =>
      if asked.isQuotable then s!"Unsupported reference attribute '{asked.display}'"
      else Number.NumeralFault.unwritable.message
  | placeholder object => "Malformed placeholder: " ++ (Value.object object).literal
  | unquotable _ => Number.NumeralFault.unwritable.message

def object : MarkerFault → List (String × Value)
  | reference object | unknownAttribute _ object | placeholder object | unquotable object => object

/-- Whether the fault says what is wrong with its object. -/
def isRefusal : MarkerFault → Bool
  | unquotable _ => false
  | _ => true

/-- The refusal of an object, for which it has to be quoted. -/
def refuse (refusal : List (String × Value) → MarkerFault) (object : List (String × Value)) :
    MarkerFault :=
  if (Value.object object).isQuotable then refusal object else unquotable object

end MarkerFault

namespace Template

def referenceKey : String := "$ref"

/-- The key of the attribute that a reference asks for. -/
def attributeKey : String := "attr"

def placeholderKey : String := "$placeholder"

/-- The reference that an object with the key of one stands for. -/
def decodeReference (fields : List (String × Value)) : Except MarkerFault Template :=
  let foreign := fields.any fun field => field.1 != referenceKey && field.1 != attributeKey
  match fields.lookup referenceKey with
  | some (.text name) =>
      if foreign then .error (.refuse .reference fields)
      else
        let asked := Value.field fields attributeKey (.text Attribute.address.name)
        match asked.text?.bind Attribute.ofName? with
        | some asks => .ok (reference ⟨name, asks⟩)
        | none => .error (.unknownAttribute asked fields)
  | _ => .error (.refuse .reference fields)

/-- The placeholder that an object with the key of one stands for. The number one counts as
true. -/
def decodePlaceholder (fields : List (String × Value)) : Except MarkerFault Template :=
  match fields with
  | [(_, .scalar flag)] =>
      if flag.sameName (.bool true) then .ok placeholder
      else .error (.refuse .placeholder fields)
  | _ => .error (.refuse .placeholder fields)

mutual

/-- Reads the markers of a value. The first fault in document order is reported. -/
def decode : Value → Except MarkerFault Template
  | .scalar value => .ok (scalar value)
  | .list items => (decodeItems items).map list
  | .object fields =>
      if (fields.lookup referenceKey).isSome then decodeReference fields
      else if (fields.lookup placeholderKey).isSome then decodePlaceholder fields
      else (decodeFields fields).map object
termination_by structural value => value

/-- Reads the markers in the items of a list. -/
def decodeItems : List Value → Except MarkerFault (List Template)
  | [] => .ok []
  | item :: rest => do
      let first ← decode item
      let others ← decodeItems rest
      return first :: others
termination_by structural items => items

/-- Reads the markers in the fields of an object. -/
def decodeFields : List (String × Value) → Except MarkerFault (List (String × Template))
  | [] => .ok []
  | (key, value) :: rest => do
      let first ← decode value
      let others ← decodeFields rest
      return (key, first) :: others
termination_by structural fields => fields

end

/-- A reference as it is written: an address is what is asked for unless the object says
otherwise. -/
def encodeReference (found : Reference) : Value :=
  match found.asks with
  | .address => .object [(referenceKey, .text found.name)]
  | .codeId =>
      .object [(referenceKey, .text found.name), (attributeKey, .text found.asks.name)]

mutual

/-- Writes the markers of a template as objects and its tuples as lists. -/
def encode : Template → Value
  | scalar value => .scalar value
  | list items | tuple items => .list (encodeItems items)
  | object fields => .object (encodeFields fields)
  | reference found => encodeReference found
  | placeholder => .object [(placeholderKey, .bool true)]
termination_by structural template => template

def encodeItems : List Template → List Value
  | [] => []
  | item :: rest => item.encode :: encodeItems rest
termination_by structural items => items

def encodeFields : List (String × Template) → List (String × Value)
  | [] => []
  | (key, template) :: rest => (key, template.encode) :: encodeFields rest
termination_by structural fields => fields

end

end Template

end Rollout
