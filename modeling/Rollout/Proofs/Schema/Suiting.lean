import Rollout.Proofs.Lookup
import Rollout.Proofs.Registry.Growth
import Rollout.Proofs.Schema.Conformance
import Rollout.Proofs.Template.Filling

/-!
# Templates that suit a type

A template suits a type if it can be filled from the records so that the outcome conforms. An object
suits a structure if its fields are the required ones and some optional ones, each of which suits.
-/

set_option autoImplicit false

namespace Rollout

/-- Every record gives an address of the network. -/
def Registry.Addressed (account : String) (registry : Registry) : Prop :=
  ∀ record ∈ registry.records, Schema.Kind.address.check account record.address = .ok none

theorem Registry.Addressed.append {account : String} {registry extended : Registry}
    {record : Record} (addressed : registry.Addressed account)
    (placed : Schema.Kind.address.check account record.address = .ok none)
    (records : extended.records = registry.records ++ [record]) : extended.Addressed account := by
  intro other member
  rw [records] at member
  rcases List.mem_append.mp member with old | new
  · exact addressed other old
  · obtain rfl := List.mem_singleton.mp new
    exact placed

namespace Schema

variable {account : String} {records : List Record} {stand : Option String}

namespace FieldType

theorem provides_iff {fields : List (String × Value)} {types : List (String × FieldType)} :
    Provides account fields types ↔
      ∀ typed ∈ types, ∃ value, fields.lookup typed.1 = some value ∧
        typed.2.Conforms account value := by
  induction types with
  | nil => simp [Provides]
  | cons typed rest ih => rw [Provides, ih, List.forall_mem_cons]

theorem permits_iff {fields : List (String × Value)} {types : List (String × FieldType)} :
    Permits account fields types ↔
      ∀ typed ∈ types, ∀ value, fields.lookup typed.1 = some value →
        value = .null ∨ typed.2.Conforms account value := by
  induction types with
  | nil => simp [Permits]
  | cons typed rest ih => rw [Permits, ih, List.forall_mem_cons]

/-- An object conforms if its fields go with the required ones and some of the optional ones. -/
theorem conforms_struct {required optional : List (String × FieldType)}
    (chosen : List (String × FieldType)) {fields : List (String × Value)}
    (each : List.Forall₂ (fun typed field => typed.1 = field.1 ∧
      typed.2.Conforms account field.2) (required ++ chosen) fields)
    (among : chosen.Sublist optional) (distinct : ((required ++ optional).map (·.1)).Nodup) :
    (struct required optional).Conforms account (.object fields) := by
  have part : (required ++ chosen).Sublist (required ++ optional) := among.append_left required
  have distinctPart := distinct.sublist (part.map _)
  refine ⟨fields, rfl, provides_iff.mpr ?_, permits_iff.mpr ?_, ?_⟩
  · intro typed member
    have related := Fields.rel_lookup each typed.1
    rw [Fields.lookup_of_mem distinctPart (List.mem_append_left _ member)] at related
    generalize fields.lookup typed.1 = found at related
    cases related with
    | some conforms => exact ⟨_, rfl, conforms⟩
  · intro typed member value found
    have related := Fields.rel_lookup each typed.1
    rw [found] at related
    generalize given : (required ++ chosen).lookup typed.1 = type at related
    cases related with
    | some conforms =>
        -- the field goes with a type of this key, and there is only one
        have here := Fields.lookup_of_mem distinct (part.subset (Fields.mem_of_lookup given))
        have there := Fields.lookup_of_mem distinct (List.mem_append_right required member)
        rw [here] at there
        cases there
        exact .inr conforms
  · intro field member
    have key : field.1 ∈ (required ++ chosen).map (·.1) := by
      rw [Fields.keys_eq each]
      exact List.mem_map_of_mem member
    rw [Fields.isSome_lookup_iff, Fields.isSome_lookup_iff, ← List.mem_append, ← List.map_append]
    exact (part.map _).subset key

end FieldType

/-- A template can be filled by a value of a type. -/
def Suits (account : String) (records : List Record) (stand : Option String) (type : FieldType)
    (template : Template) : Prop :=
  ∃ value, Template.Fills records stand template value ∧ type.Conforms account value

theorem check_address {text : String} (placed : Wire.isAddress account text = true) :
    Kind.address.check account (.text text) = .ok none := by
  simp [Kind.check, Kind.checkText, Kind.addressPart, placed]

namespace Suits

theorem of_check {kind : Kind} {value : Value} (accepted : kind.check account value = .ok none) :
    Suits account records stand (.leaf kind) (.ofValue value) :=
  ⟨value, Template.fills_ofValue value, accepted⟩

theorem address {registry : Registry} {name : String} (addressed : registry.Addressed account)
    (recorded : registry.contains (.text name) = true) :
    Suits account registry.records stand (.leaf .address) (.reference ⟨name, .address⟩) := by
  obtain ⟨record, member, same⟩ := Registry.contains_iff.mp recorded
  exact ⟨record.address, .reference member (Scalar.key_eq_text_iff.mp same),
    addressed record member⟩

theorem placeholder {address : String} (placed : Wire.isAddress account address = true) :
    Suits account records (some address) (.leaf .address) .placeholder :=
  ⟨.text address, .placeholder rfl, check_address placed⟩

theorem list {item : FieldType} {items : List Template}
    (each : ∀ template ∈ items, Suits account records stand item template) :
    Suits account records stand (.list item) (.list items) := by
  suffices filled : ∃ values, Template.FillsItems records stand items values ∧
      ∀ value ∈ values, item.Conforms account value by
    obtain ⟨values, fills, conform⟩ := filled
    exact ⟨.list values, .list fills, values, rfl, conform⟩
  induction items with
  | nil => exact ⟨[], .nil, fun _ absurdly => absurd absurdly List.not_mem_nil⟩
  | cons template rest ih =>
      obtain ⟨value, fills, conforms⟩ := each template List.mem_cons_self
      obtain ⟨values, others, conform⟩ :=
        ih fun other member => each other (List.mem_cons_of_mem _ member)
      exact ⟨value :: values, .cons fills others, List.forall_mem_cons.mpr ⟨conforms, conform⟩⟩

private theorem fields {types : List (String × FieldType)} {templates : List (String × Template)}
    (each : List.Forall₂ (fun typed field => typed.1 = field.1 ∧
      Suits account records stand typed.2 field.2) types templates) :
    ∃ values, Template.FillsFields records stand templates values ∧
      List.Forall₂ (fun typed field => typed.1 = field.1 ∧ typed.2.Conforms account field.2) types
        values := by
  induction each with
  | nil => exact ⟨[], .nil, .nil⟩
  | @cons typed field _ _ here _ ih =>
      obtain ⟨same, value, fills, conforms⟩ := here
      obtain ⟨values, others, conform⟩ := ih
      exact ⟨(field.1, value) :: values, .cons fills others, .cons ⟨same, conforms⟩ conform⟩

theorem struct {required optional : List (String × FieldType)}
    (chosen : List (String × FieldType)) {templates : List (String × Template)}
    (among : chosen.Sublist optional) (distinct : ((required ++ optional).map (·.1)).Nodup)
    (each : List.Forall₂ (fun typed field => typed.1 = field.1 ∧
      Suits account records stand typed.2 field.2) (required ++ chosen) templates) :
    Suits account records stand (.struct required optional) (.object templates) := by
  obtain ⟨values, fills, conform⟩ := fields each
  exact ⟨.object values, .object fills, FieldType.conforms_struct chosen conform among distinct⟩

end Suits

end Schema

end Rollout
