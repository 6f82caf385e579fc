import Mathlib.Data.List.Forall2
import Rollout.Proofs.Template.Filling

/-!
# Places of markers

A place in a template is the indices that lead down to it, and places are compared as words in a
dictionary are, which is document order. Three walks go through a template: for its references, for
any marker at all, and for its value. They agree on where the markers stand.
-/

set_option autoImplicit false

namespace Rollout

/-- What gives way when a template is resolved. -/
inductive Marker where
  | reference (found : Reference)
  | placeholder
deriving DecidableEq, Repr

namespace Marker

def template : Marker → Template
  | reference found => .reference found
  | placeholder => .placeholder

/-- The marker as it is reported. -/
def unresolved : Marker → Unresolved
  | reference found => .reference found.name
  | placeholder => .placeholder

def reference? : Marker → Option Reference
  | reference found => some found
  | placeholder => none

/-- Nothing is there that a marker could give way to: its contract is not recorded, or no address
stands for placeholders. -/
def Lacking (registry : Registry) (stand : Option String) : Marker → Prop
  | reference found => ∀ record ∈ registry.records, record.name ≠ .text found.name
  | placeholder => stand = none

/-- Whether nothing is found for a marker. -/
def isLacking (lookUp : Reference → Option Value) (stand : Option String) : Marker → Bool
  | reference found => (lookUp found).isNone
  | placeholder => stand.isNone

theorem isLacking_iff {registry : Registry} {stand : Option String} {marker : Marker} :
    marker.isLacking registry.lookUp stand = true ↔ marker.Lacking registry stand := by
  cases marker with
  | placeholder => exact Option.isNone_iff_eq_none
  | reference found =>
      rw [isLacking, Option.isNone_iff_eq_none, Registry.lookUp, Option.map_eq_none_iff,
        Registry.find?_eq_none_iff]
      refine forall₂_congr fun record _ => not_congr ?_
      exact Scalar.key_eq_text_iff

end Marker

namespace Template

/-- The parts that a template is made of, in order. -/
def parts : Template → List Template
  | list items | tuple items => items
  | object fields => fields.map (·.2)
  | scalar _ | reference _ | placeholder => []

/-- The part of a template at a place. -/
def part? : Template → List Nat → Option Template
  | template, [] => some template
  | template, index :: rest =>
      match template.parts[index]? with
      | some part => part.part? rest
      | none => none

/-- A marker stands at a place. -/
def Marks (template : Template) (place : List Nat) (marker : Marker) : Prop :=
  template.part? place = some marker.template

/-- A place under the part with an index. -/
def under (index : Nat) (marked : List Nat × Marker) : List Nat × Marker :=
  (index :: marked.1, marked.2)

mutual

/-- All markers with their places, in document order. -/
def markers : Template → List (List Nat × Marker)
  | reference found => [([], .reference found)]
  | placeholder => [([], .placeholder)]
  | list items | tuple items => itemMarkers 0 items
  | object fields => fieldMarkers 0 fields
  | scalar _ => []
termination_by structural template => template

/-- The markers in the items of a list, from the given index on. -/
def itemMarkers : Nat → List Template → List (List Nat × Marker)
  | _, [] => []
  | index, item :: rest => item.markers.map (under index) ++ itemMarkers (index + 1) rest
termination_by structural _ items => items

/-- The markers in the fields of an object, from the given index on. -/
def fieldMarkers : Nat → List (String × Template) → List (List Nat × Marker)
  | _, [] => []
  | index, (_, template) :: rest =>
      template.markers.map (under index) ++ fieldMarkers (index + 1) rest
termination_by structural _ fields => fields

end

/-- The places of some parts, counted from an index on, and what stands there. -/
def MarksAmong (parts : List Template) (index : Nat) (place : List Nat) (marker : Marker) : Prop :=
  ∃ offset rest part, place = (index + offset) :: rest ∧ parts[offset]? = some part ∧
    part.Marks rest marker

theorem marks_cons_iff {template : Template} {place : List Nat} {marker : Marker} :
    (∃ index rest, place = index :: rest ∧ template.Marks place marker) ↔
      MarksAmong template.parts 0 place marker := by
  constructor
  · rintro ⟨index, rest, rfl, marks⟩
    rw [Marks, part?] at marks
    cases found : template.parts[index]? with
    | none =>
        rw [found] at marks
        cases marks
    | some part =>
        rw [found] at marks
        exact ⟨index, rest, part, by rw [Nat.zero_add], found, marks⟩
  · rintro ⟨offset, rest, part, rfl, found, marks⟩
    refine ⟨0 + offset, rest, rfl, ?_⟩
    rw [Nat.zero_add, Marks, part?, found]
    exact marks

private theorem marksAmong_cons {part : Template} {others : List Template} {index : Nat}
    {place : List Nat} {marker : Marker} :
    MarksAmong (part :: others) index place marker ↔
      (∃ rest, place = index :: rest ∧ part.Marks rest marker) ∨
        MarksAmong others (index + 1) place marker := by
  constructor
  · rintro ⟨offset, rest, item, rfl, found, marks⟩
    cases offset with
    | zero =>
        cases found
        exact .inl ⟨rest, rfl, marks⟩
    | succ offset => exact .inr ⟨offset, rest, item, by rw [Nat.add_right_comm]; rfl, found, marks⟩
  · rintro (⟨rest, rfl, marks⟩ | ⟨offset, rest, item, rfl, found, marks⟩)
    · exact ⟨0, rest, part, rfl, rfl, marks⟩
    · exact ⟨offset + 1, rest, item, by rw [Nat.add_right_comm]; rfl, found, marks⟩

private theorem marks_iff_among {template : Template}
    (plain : ∀ marker : Marker, template ≠ marker.template) {place : List Nat} {marker : Marker} :
    template.Marks place marker ↔ MarksAmong template.parts 0 place marker := by
  rw [← marks_cons_iff]
  cases place with
  | nil =>
      refine iff_of_false ?_ (by simp)
      intro marks
      exact plain marker (Option.some.inj marks)
  | cons index rest => simp

private theorem not_marks_scalar {value : Scalar} {place : List Nat} {marker : Marker} :
    ¬(scalar value).Marks place marker := by
  rw [marks_iff_among (by rintro (_ | _) ⟨⟩)]
  rintro ⟨_, _, _, _, found, _⟩
  cases found

theorem marks_template_iff (marked : Marker) {place : List Nat} {marker : Marker} :
    marked.template.Marks place marker ↔ place = [] ∧ marker = marked := by
  cases place with
  | nil => cases marked <;> cases marker <;> simp [Marks, part?, Marker.template, eq_comm]
  | cons index rest => cases marked <;> simp [Marks, part?, Marker.template, parts]

private theorem mem_under {marked : List (List Nat × Marker)} {index : Nat} {place : List Nat}
    {marker : Marker} :
    (place, marker) ∈ marked.map (under index) ↔
      ∃ rest, place = index :: rest ∧ (rest, marker) ∈ marked := by
  simp only [List.mem_map, Prod.exists, under, Prod.mk.injEq]
  constructor
  · rintro ⟨rest, _, member, rfl, rfl⟩
    exact ⟨rest, rfl, member⟩
  · rintro ⟨rest, rfl, member⟩
    exact ⟨rest, marker, member, rfl, rfl⟩

mutual

theorem mem_markers_iff : ∀ (template : Template) (place : List Nat) (marker : Marker),
    (place, marker) ∈ template.markers ↔ template.Marks place marker
  | .scalar _, _, _ => iff_of_false List.not_mem_nil not_marks_scalar
  | .list items, place, marker => by
      rw [marks_iff_among (by rintro (_ | _) ⟨⟩)]
      exact mem_itemMarkers_iff items 0 place marker
  | .tuple items, place, marker => by
      rw [marks_iff_among (by rintro (_ | _) ⟨⟩)]
      exact mem_itemMarkers_iff items 0 place marker
  | .object fields, place, marker => by
      rw [marks_iff_among (by rintro (_ | _) ⟨⟩)]
      exact mem_fieldMarkers_iff fields 0 place marker
  | .reference found, place, marker => by
      have here : (reference found).Marks place marker ↔ _ := marks_template_iff (.reference found)
      simp [here, markers]
  | .placeholder, place, marker => by
      have here : placeholder.Marks place marker ↔ _ := marks_template_iff .placeholder
      simp [here, markers]

theorem mem_itemMarkers_iff :
    ∀ (items : List Template) (index : Nat) (place : List Nat) (marker : Marker),
      (place, marker) ∈ itemMarkers index items ↔ MarksAmong items index place marker
  | [], _, _, _ => by simp [itemMarkers, MarksAmong]
  | item :: rest, index, place, marker => by
      rw [itemMarkers, List.mem_append, mem_under, marksAmong_cons,
        mem_itemMarkers_iff rest (index + 1) place marker]
      simp only [mem_markers_iff item]

theorem mem_fieldMarkers_iff :
    ∀ (fields : List (String × Template)) (index : Nat) (place : List Nat) (marker : Marker),
      (place, marker) ∈ fieldMarkers index fields ↔
        MarksAmong (fields.map (·.2)) index place marker
  | [], _, _, _ => by simp [fieldMarkers, MarksAmong]
  | (_, template) :: rest, index, place, marker => by
      rw [fieldMarkers, List.mem_append, mem_under, List.map_cons, marksAmong_cons,
        mem_fieldMarkers_iff rest (index + 1) place marker]
      simp only [mem_markers_iff template]

end

/-- Markers in document order: the place of each comes before those of all later ones. -/
def Ordered (marked : List (List Nat × Marker)) : Prop :=
  marked.Pairwise fun earlier later => earlier.1 < later.1

private theorem ordered_append {first others : List (List Nat × Marker)} {parts : List Template}
    {index : Nat} (here : Ordered first) (there : Ordered others)
    (among : ∀ place marker, (place, marker) ∈ others → MarksAmong parts (index + 1) place marker) :
    Ordered (first.map (under index) ++ others) := by
  refine List.pairwise_append.mpr ⟨List.pairwise_map.mpr (here.imp ?_), there, ?_⟩
  · intro earlier later before
    exact List.cons_lt_cons_iff.mpr (.inr ⟨rfl, before⟩)
  · -- the places differ in their first index already
    rintro ⟨earlier, marker⟩ member ⟨later, other⟩ behind
    obtain ⟨rest, rfl, _⟩ := mem_under.mp member
    obtain ⟨offset, rest, _, rfl, _⟩ := among later other behind
    exact List.cons_lt_cons_iff.mpr (.inl (by omega))

mutual

theorem ordered_markers : ∀ template : Template, Ordered template.markers
  | .scalar _ => .nil
  | .list items | .tuple items => ordered_itemMarkers items 0
  | .object fields => ordered_fieldMarkers fields 0
  | .reference _ | .placeholder => List.pairwise_singleton _ _

theorem ordered_itemMarkers : ∀ (items : List Template) (index : Nat),
    Ordered (itemMarkers index items)
  | [], _ => .nil
  | item :: rest, index =>
      ordered_append (ordered_markers item) (ordered_itemMarkers rest (index + 1))
        fun place marker => (mem_itemMarkers_iff rest (index + 1) place marker).mp

theorem ordered_fieldMarkers : ∀ (fields : List (String × Template)) (index : Nat),
    Ordered (fieldMarkers index fields)
  | [], _ => .nil
  | (_, template) :: rest, index =>
      ordered_append (ordered_markers template) (ordered_fieldMarkers rest (index + 1))
        fun place marker => (mem_fieldMarkers_iff rest (index + 1) place marker).mp

end

mutual

theorem references_eq : ∀ template : Template,
    template.references = template.markers.filterMap (·.2.reference?)
  | .scalar _ => rfl
  | .list items | .tuple items => itemReferences_eq items 0
  | .object fields => fieldReferences_eq fields 0
  | .reference _ | .placeholder => rfl

theorem itemReferences_eq : ∀ (items : List Template) (index : Nat),
    itemReferences items = (itemMarkers index items).filterMap (·.2.reference?)
  | [], _ => rfl
  | item :: rest, index => by
      rw [itemReferences, itemMarkers, List.filterMap_append, List.filterMap_map,
        itemReferences_eq rest (index + 1), references_eq item]
      rfl

theorem fieldReferences_eq : ∀ (fields : List (String × Template)) (index : Nat),
    fieldReferences fields = (fieldMarkers index fields).filterMap (·.2.reference?)
  | [], _ => rfl
  | (_, template) :: rest, index => by
      rw [fieldReferences, fieldMarkers, List.filterMap_append, List.filterMap_map,
        fieldReferences_eq rest (index + 1), references_eq template]
      rfl

end

mutual

theorem hasMarkers_eq : ∀ template : Template,
    template.hasMarkers = template.markers.any fun _ => true
  | .scalar _ => rfl
  | .list items | .tuple items => itemsHaveMarkers_eq items 0
  | .object fields => fieldsHaveMarkers_eq fields 0
  | .reference _ | .placeholder => rfl

theorem itemsHaveMarkers_eq : ∀ (items : List Template) (index : Nat),
    itemsHaveMarkers items = (itemMarkers index items).any fun _ => true
  | [], _ => rfl
  | item :: rest, index => by
      rw [itemsHaveMarkers, itemMarkers, List.any_append, List.any_map,
        itemsHaveMarkers_eq rest (index + 1), hasMarkers_eq item]
      rfl

theorem fieldsHaveMarkers_eq : ∀ (fields : List (String × Template)) (index : Nat),
    fieldsHaveMarkers fields = (fieldMarkers index fields).any fun _ => true
  | [], _ => rfl
  | (_, template) :: rest, index => by
      rw [fieldsHaveMarkers, fieldMarkers, List.any_append, List.any_map,
        fieldsHaveMarkers_eq rest (index + 1), hasMarkers_eq template]
      rfl

end

open Rollout.Computation (reason? reason?_map reason?_both)

variable (lookUp : Reference → Option Value) (stand : Option String)

/-- The first marker that is lacking, as it is reported. -/
def firstLacking? (marked : List (List Nat × Marker)) : Option Unresolved :=
  (marked.find? fun each => each.2.isLacking lookUp stand).map (·.2.unresolved)

private theorem firstLacking?_append (first others : List (List Nat × Marker)) (index : Nat) :
    firstLacking? lookUp stand (first.map (under index) ++ others) =
      (firstLacking? lookUp stand first).or (firstLacking? lookUp stand others) := by
  simp only [firstLacking?, List.find?_append, List.find?_map, Option.map_or, Option.map_map]
  rfl

mutual

theorem reason?_resolve : ∀ template : Template,
    reason? (template.resolve lookUp stand) = firstLacking? lookUp stand template.markers
  | .scalar _ => rfl
  | .list items => (reason?_map _ Value.list).trans (reason?_resolveItems items 0)
  | .tuple items => (reason?_map _ Value.list).trans (reason?_resolveItems items 0)
  | .object fields => (reason?_map _ Value.object).trans (reason?_resolveFields fields 0)
  | .reference found => by
      rw [resolve, markers, firstLacking?]
      cases known : lookUp found with
      | none => simp [reason?, Marker.isLacking, known, Marker.unresolved]
      | some value => simp [reason?, Marker.isLacking, known]
  | .placeholder => by
      cases stand with
      | none => rfl
      | some address => rfl

theorem reason?_resolveItems : ∀ (items : List Template) (index : Nat),
    reason? (resolveItems lookUp stand items) =
      firstLacking? lookUp stand (itemMarkers index items)
  | [], _ => rfl
  | item :: rest, index => by
      rw [itemMarkers, firstLacking?_append, ← reason?_resolve item,
        ← reason?_resolveItems rest (index + 1)]
      exact reason?_both _ _ _

theorem reason?_resolveFields : ∀ (fields : List (String × Template)) (index : Nat),
    reason? (resolveFields lookUp stand fields) =
      firstLacking? lookUp stand (fieldMarkers index fields)
  | [], _ => rfl
  | (_, template) :: rest, index => by
      rw [fieldMarkers, firstLacking?_append, ← reason?_resolve template,
        ← reason?_resolveFields rest (index + 1)]
      exact reason?_both _ _ _

end

variable {lookUp stand} {template : Template}

theorem mem_references_iff {reference : Reference} :
    reference ∈ template.references ↔ ∃ place, template.Marks place (.reference reference) := by
  rw [references_eq, List.mem_filterMap]
  constructor
  · rintro ⟨⟨place, marker⟩, member, asked⟩
    cases marker with
    | placeholder => cases asked
    | reference found =>
        cases asked
        exact ⟨place, (mem_markers_iff template place _).mp member⟩
  · rintro ⟨place, marks⟩
    exact ⟨_, (mem_markers_iff template place _).mpr marks, rfl⟩

theorem hasMarkers_iff :
    template.hasMarkers = true ↔ ∃ place marker, template.Marks place marker := by
  simp [hasMarkers_eq, List.any_eq_true, ← mem_markers_iff]

private theorem references_placed (template : Template) :
    ∃ placed : List (List Nat × Reference), placed.map (·.2) = template.references ∧
      placed.Pairwise (fun earlier later => earlier.1 < later.1) ∧
      ∀ place reference, (place, reference) ∈ placed ↔
        template.Marks place (.reference reference) := by
  refine ⟨template.markers.filterMap fun each => each.2.reference?.map (each.1, ·), ?_, ?_, ?_⟩
  · rw [List.map_filterMap, references_eq]
    refine List.filterMap_congr fun each _ => ?_
    cases each.2.reference? <;> rfl
  · refine (ordered_markers template).filterMap _ fun earlier later before => ?_
    intro first found second other
    obtain ⟨_, _, rfl⟩ := Option.map_eq_some_iff.mp found
    obtain ⟨_, _, rfl⟩ := Option.map_eq_some_iff.mp other
    exact before
  · intro place reference
    rw [← mem_markers_iff, List.mem_filterMap]
    constructor
    · rintro ⟨⟨_, marker⟩, member, asked⟩
      obtain ⟨_, found, ⟨⟩⟩ := Option.map_eq_some_iff.mp asked
      cases marker with
      | placeholder => cases found
      | reference =>
          cases found
          exact member
    · intro member
      exact ⟨_, member, rfl⟩

end Template

section

variable {registry : Registry} {stand : Option String} {template : Template}
  {contract : Option Scalar}

/-- Resolution succeeds just if no marker is lacking. -/
theorem Registry.resolve_isOk_iff :
    (∃ value, registry.resolve template stand contract = .ok value) ↔
      ∀ place marker, template.Marks place marker → ¬marker.Lacking registry stand := by
  have resolved : (∃ value, registry.resolve template stand contract = .ok value) ↔
      ∃ value, template.resolve registry.lookUp stand = .ok value := by
    simp only [Registry.resolve, Computation.mapError_eq_ok]
  rw [resolved, ← Computation.reason?_eq_none_iff, Template.reason?_resolve,
    Template.firstLacking?, Option.map_eq_none_iff, List.find?_eq_none]
  simp only [Marker.isLacking_iff, Prod.forall, Template.mem_markers_iff]

/-- A marker that is lacking, with none before it. -/
structure Template.FirstLacking (template : Template) (registry : Registry)
    (stand : Option String) (place : List Nat) (marker : Marker) : Prop where
  marks : template.Marks place marker
  lacking : marker.Lacking registry stand
  first : ∀ earlier other, earlier < place → template.Marks earlier other →
    ¬other.Lacking registry stand

/-- A failure reports the first marker that is lacking. -/
theorem Registry.firstLacking_of_resolve {fault : Fault}
    (failed : registry.resolve template stand contract = .error fault) :
    ∃ place marker, template.FirstLacking registry stand place marker ∧
      fault = .unresolved marker.unresolved.name contract := by
  obtain ⟨reported, stopped, rfl⟩ : ∃ reported,
      template.resolve registry.lookUp stand = .error reported ∧
        fault = .unresolved reported.name contract := by
    rw [Registry.resolve] at failed
    cases resolved : template.resolve registry.lookUp stand with
    | ok value =>
        rw [resolved] at failed
        cases failed
    | error reported =>
        rw [resolved] at failed
        cases failed
        exact ⟨reported, rfl, rfl⟩
  rw [← Computation.reason?_eq_some_iff, Template.reason?_resolve, Template.firstLacking?,
    Option.map_eq_some_iff] at stopped
  obtain ⟨⟨place, marker⟩, first, rfl⟩ := stopped
  obtain ⟨lacking, before, behind, split, passed⟩ := List.find?_eq_some_iff_append.mp first
  have stands : ∀ other found, (other, found) ∈ template.markers ↔ _ :=
    Template.mem_markers_iff template
  have ordered := Template.ordered_markers template
  rw [split] at stands
  rw [split, Template.Ordered, List.pairwise_append, List.pairwise_cons] at ordered
  obtain ⟨_, ⟨later, _⟩, _⟩ := ordered
  refine ⟨place, marker, ⟨(stands _ _).mp (by simp), Marker.isLacking_iff.mp lacking, ?_⟩, rfl⟩
  intro earlier other precedes marks
  -- what precedes the first that is lacking was passed over, and nothing behind it precedes it
  rcases List.mem_append.mp ((stands _ _).mpr marks) with passes | stays
  · rw [← Marker.isLacking_iff]
    simpa using passed _ passes
  · rcases List.mem_cons.mp stays with same | after
    · cases same
      exact absurd precedes (List.lt_irrefl _)
    · exact absurd (List.lt_trans precedes (later _ after)) (List.lt_irrefl _)

/-- A template is a value by itself just if it is filled where nothing is recorded and nothing
stands for a placeholder: then it has no markers. -/
theorem Template.value_eq_ok_iff {message : Value} :
    template.value = .ok message ↔ Template.Fills [] none template message := by
  have lookUp : (Registry.empty .null).lookUp = fun _ => none := rfl
  rw [Template.value, ← lookUp]
  cases marked : template.hasMarkers with
  | false => exact ⟨fills_of_resolve _ template message, Fills.resolve_eq (Registry.empty .null)⟩
  | true =>
      refine iff_of_false ?_ ?_
      · intro accepted
        cases found : template.references <;> simp [found] at accepted
      · intro fills
        obtain ⟨place, marker, marks⟩ := hasMarkers_iff.mp marked
        have resolved : (Registry.empty .null).resolve template none none = .ok message :=
          resolve_eq_ok_iff.mpr fills
        refine Registry.resolve_isOk_iff.mp ⟨message, resolved⟩ place marker marks ?_
        cases marker with
        | placeholder => rfl
        | reference found => exact fun record member => absurd member List.not_mem_nil

/-- The three walks through a template agree. What is called a template with markers holds some,
and its references are listed in document order. It can be resolved just if each of them is recorded
and an address stands for its placeholders, if it has any; it is then filled and no marker is left,
and otherwise the first that is lacking, in document order, is reported. -/
theorem Template.walks_agree (template : Template) (registry : Registry) (stand : Option String)
    (contract : Option Scalar) :
    (template.hasMarkers = true ↔ ∃ place marker, template.Marks place marker) ∧
      (∃ placed : List (List Nat × Reference), placed.map (·.2) = template.references ∧
        placed.Pairwise (fun earlier later => earlier.1 < later.1) ∧
        ∀ place reference, (place, reference) ∈ placed ↔
          template.Marks place (.reference reference)) ∧
      ((∃ value, registry.resolve template stand contract = .ok value) ↔
        (∀ reference ∈ template.references,
          ∃ record ∈ registry.records, record.name = .text reference.name) ∧
        (stand ≠ none ∨ ∀ place, ¬template.Marks place .placeholder)) ∧
      (∀ value, registry.resolve template stand contract = .ok value →
        Template.Fills registry.records stand template value ∧
          (Template.ofValue value).hasMarkers = false) ∧
      ∀ fault, registry.resolve template stand contract = .error fault →
        ∃ place marker, template.Marks place marker ∧ marker.Lacking registry stand ∧
          (∀ earlier other, earlier < place → template.Marks earlier other →
            ¬other.Lacking registry stand) ∧
          fault = .unresolved marker.unresolved.name contract := by
  refine ⟨Template.hasMarkers_iff, Template.references_placed template, ?_, ?_, ?_⟩
  · rw [Registry.resolve_isOk_iff]
    constructor
    · intro complete
      constructor
      · intro reference member
        obtain ⟨place, marks⟩ := Template.mem_references_iff.mp member
        simpa [Marker.Lacking] using complete place _ marks
      · by_contra placeless
        push Not at placeless
        obtain ⟨none, place, marks⟩ := placeless
        exact complete place _ marks none
    · rintro ⟨recorded, placed⟩ place marker marks lacking
      cases marker with
      | reference found =>
          obtain ⟨record, member, named⟩ :=
            recorded found (Template.mem_references_iff.mpr ⟨place, marks⟩)
          exact lacking record member named
      | placeholder =>
          rcases placed with given | absent
          · exact given lacking
          · exact absent place marks
  · intro value resolved
    exact ⟨Template.resolve_eq_ok_iff.mp resolved, Template.hasMarkers_ofValue value⟩
  · intro fault failed
    obtain ⟨place, marker, blamed, reported⟩ := Registry.firstLacking_of_resolve failed
    exact ⟨place, marker, blamed.marks, blamed.lacking, blamed.first, reported⟩

end

end Rollout
