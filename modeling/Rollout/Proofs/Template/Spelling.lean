import Rollout.Proofs.Places
import Rollout.Proofs.Template.Marking
import Rollout.Proofs.Template.Places
import Rollout.Proofs.Value.Integer

/-!
# Spelling of markers

An object that has the key of a marker is read as that marker or refused, and nothing inside it is
looked at. All other objects are read part by part, so the first that is refused in document order
is reported. A marker may be spelt in more than one way, and is written in the plain one.
-/

set_option autoImplicit false

namespace Rollout.Template

open Rollout.Computation

/-!
## Objects that are looked at
-/

/-- Whether an object has the key of a marker. -/
def hasMarkerKey (fields : List (String × Value)) : Bool :=
  (fields.lookup referenceKey).isSome || (fields.lookup placeholderKey).isSome

/-- The parts of a value that are looked at. Nothing inside a marker is. -/
def openParts : Value → List Value
  | .scalar _ => []
  | .list items => items
  | .object fields => if hasMarkerKey fields then [] else fields.map (·.2)

/-- An object stands at a place that is reached without passing through a marker. -/
def Reaches (value : Value) (place : List Nat) (fields : List (String × Value)) : Prop :=
  Places.part? openParts value place = some (.object fields)

/-- An object that has the key of a marker is a marker: that of a reference, or else that of a
placeholder. -/
def MarksRightly (fields : List (String × Value)) : Prop :=
  ((fields.lookup referenceKey).isSome → MarksReference fields) ∧
    (fields.lookup referenceKey = none → (fields.lookup placeholderKey).isSome →
      MarksPlaceholder fields)

/-- Why an object with the key of a marker is refused, if it is. -/
def misuse? : Value → Option MarkerFault
  | .object fields =>
      if (fields.lookup referenceKey).isSome then reason? (decodeReference fields)
      else if (fields.lookup placeholderKey).isSome then reason? (decodePlaceholder fields)
      else none
  | _ => none

private theorem sizeOf_lt_of_mem_openParts (value : Value) :
    ∀ part ∈ openParts value, sizeOf part < sizeOf value := by
  intro part member
  cases value with
  | scalar => cases member
  | list items =>
      have smaller : sizeOf part < sizeOf items := List.sizeOf_lt_of_mem member
      simp only [Value.list.sizeOf_spec]
      omega
  | object fields =>
      rw [openParts] at member
      split at member
      · cases member
      · obtain ⟨⟨key, inside⟩, field, rfl⟩ := List.mem_map.mp member
        have smaller := List.sizeOf_lt_of_mem field
        simp only [Value.object.sizeOf_spec, Prod.mk.sizeOf_spec] at smaller ⊢
        omega

private theorem reason?_decodeItems (items : List Value) :
    reason? (decodeItems items) = items.findSome? fun item => reason? (decode item) := by
  induction items with
  | nil => rfl
  | cons item rest ih =>
      rw [decodeItems, reason?_both, ih, List.findSome?_cons]
      cases reason? (decode item) <;> rfl

private theorem reason?_decodeFields (fields : List (String × Value)) :
    reason? (decodeFields fields) =
      (fields.map (·.2)).findSome? fun part => reason? (decode part) := by
  induction fields with
  | nil => rfl
  | cons field rest ih =>
      rw [decodeFields, reason?_both, ih, List.map_cons, List.findSome?_cons]
      cases reason? (decode field.2) <;> rfl

/-- Reading looks at an object before its parts, and takes these in turn. -/
theorem decode_walks : Places.Walks openParts misuse? fun value => reason? (decode value) := by
  intro value
  cases value with
  | scalar => rfl
  | list items => exact (reason?_map _ Template.list).trans (reason?_decodeItems items)
  | object fields =>
      dsimp only
      rw [decode, misuse?, openParts, hasMarkerKey]
      split
      · next referring => simp [referring]
      · next unreferenced =>
          split
          · next placing => simp [placing]
          · next unplaced =>
              simp only [unreferenced, unplaced, Bool.or_self, Bool.false_eq_true, if_false,
                Option.none_or]
              exact (reason?_map _ Template.object).trans (reason?_decodeFields fields)

/-- A fault blames an object, and says what is wrong with it if it can be quoted. -/
structure Blames (fault : MarkerFault) (fields : List (String × Value)) : Prop where
  object : fault.object = fields
  refuses : (Value.object fields).Quotable → fault.isRefusal = true

private theorem blames_refuse {refusal : List (String × Value) → MarkerFault}
    {fields : List (String × Value)} (blames : Blames (refusal fields) fields) :
    Blames (.refuse refusal fields) fields := by
  rw [MarkerFault.refuse]
  split
  · exact blames
  · next long => exact ⟨rfl, fun quotable => absurd (Value.isQuotable_iff.mpr quotable) long⟩

private theorem blames_of_decodeReference {fields : List (String × Value)} {fault : MarkerFault}
    (refused : decodeReference fields = .error fault) : Blames fault fields := by
  unfold decodeReference at refused
  dsimp only at refused
  split at refused
  · split at refused
    · cases refused
      exact blames_refuse ⟨rfl, fun _ => rfl⟩
    · split at refused
      · cases refused
      · cases refused
        exact ⟨rfl, fun _ => rfl⟩
  · cases refused
    exact blames_refuse ⟨rfl, fun _ => rfl⟩

private theorem blames_of_decodePlaceholder {fields : List (String × Value)} {fault : MarkerFault}
    (refused : decodePlaceholder fields = .error fault) : Blames fault fields := by
  unfold decodePlaceholder at refused
  split at refused
  · split at refused
    · cases refused
    · cases refused
      exact blames_refuse ⟨rfl, fun _ => rfl⟩
  · cases refused
    exact blames_refuse ⟨rfl, fun _ => rfl⟩

theorem misuse?_eq_none_iff {fields : List (String × Value)} :
    misuse? (.object fields) = none ↔ MarksRightly fields := by
  rw [misuse?, MarksRightly]
  cases referring : fields.lookup referenceKey with
  | some =>
      rw [if_pos Option.isSome_some, reason?_eq_none_iff, decodeReference_isOk_iff]
      simp
  | none =>
      rw [if_neg (by simp)]
      split
      · next placing => simp [reason?_eq_none_iff, decodePlaceholder_isOk_iff, placing]
      · next unplaced => simp [unplaced]

private theorem blames_of_misuse? {value : Value} {fault : MarkerFault}
    (misused : misuse? value = some fault) :
    ∃ fields, value = .object fields ∧ Blames fault fields := by
  unfold misuse? at misused
  split at misused
  · next fields =>
      refine ⟨fields, rfl, ?_⟩
      split at misused
      · exact blames_of_decodeReference (reason?_eq_some_iff.mp misused)
      · split at misused
        · exact blames_of_decodePlaceholder (reason?_eq_some_iff.mp misused)
        · cases misused
  · cases misused

private theorem quotable_of_mem_openParts (value : Value) (quotable : value.Quotable) :
    ∀ part ∈ openParts value, part.Quotable := by
  cases value with
  | scalar => exact List.forall_mem_nil _
  | list items => exact Value.itemsHold_iff.mp quotable
  | object fields =>
      rw [openParts]
      split
      · exact List.forall_mem_nil _
      · exact List.forall_mem_map.mpr (Value.fieldsHold_iff.mp quotable)

private theorem quotable_of_reaches {value : Value} {place : List Nat}
    {fields : List (String × Value)}
    (quotable : value.Quotable) (reached : Reaches value place fields) :
    (Value.object fields).Quotable :=
  Places.part?_preserves quotable_of_mem_openParts quotable place reached

/-!
## What objects are read as
-/

private theorem decode_object_cases {fields : List (String × Value)} {template : Template}
    (decoded : decode (.object fields) = .ok template) :
    (∃ found, (fields.lookup referenceKey).isSome ∧
        decodeReference fields = .ok (.reference found) ∧ template = .reference found) ∨
      (fields.lookup referenceKey = none ∧ (fields.lookup placeholderKey).isSome ∧
        template = .placeholder) ∨
      ∃ templates, fields.lookup referenceKey = none ∧ fields.lookup placeholderKey = none ∧
        decodeFields fields = .ok templates ∧ template = .object templates := by
  rw [decode] at decoded
  split at decoded
  · next referring =>
      obtain ⟨found, rfl⟩ := reference_of_decodeReference decoded
      exact .inl ⟨found, referring, decoded, rfl⟩
  · next unreferenced =>
      have none := Option.not_isSome_iff_eq_none.mp unreferenced
      split at decoded
      · next placing =>
          exact .inr (.inl ⟨none, placing, placeholder_of_decodePlaceholder decoded⟩)
      · next unplaced =>
          obtain ⟨templates, each, rfl⟩ := map_eq_ok decoded
          exact .inr (.inr ⟨templates, none, Option.not_isSome_iff_eq_none.mp unplaced, each, rfl⟩)

private theorem exists_of_mem_decodeItems {items : List Value} {templates : List Template}
    (decoded : decodeItems items = .ok templates) :
    ∀ template ∈ templates, ∃ item, decode item = .ok template := by
  induction items generalizing templates with
  | nil =>
      cases decoded
      exact List.forall_mem_nil _
  | cons item rest ih =>
      obtain ⟨first, here, continued⟩ := bind_eq_ok decoded
      obtain ⟨others, there, same⟩ := bind_eq_ok continued
      cases same
      exact List.forall_mem_cons.mpr ⟨⟨item, here⟩, ih there⟩

private theorem exists_of_mem_decodeFields {fields : List (String × Value)}
    {templates : List (String × Template)} (decoded : decodeFields fields = .ok templates) :
    ∀ field ∈ templates, ∃ value, decode value = .ok field.2 := by
  induction fields generalizing templates with
  | nil =>
      cases decoded
      exact List.forall_mem_nil _
  | cons field rest ih =>
      obtain ⟨first, here, continued⟩ := bind_eq_ok decoded
      obtain ⟨others, there, same⟩ := bind_eq_ok continued
      cases same
      exact List.forall_mem_cons.mpr ⟨⟨field.2, here⟩, ih there⟩

private theorem exists_of_mem_parts {value : Value} {template : Template}
    (decoded : decode value = .ok template) :
    ∀ part ∈ template.parts, ∃ source, decode source = .ok part := by
  cases value with
  | scalar =>
      cases decoded
      exact List.forall_mem_nil _
  | list items =>
      obtain ⟨templates, each, rfl⟩ := map_eq_ok decoded
      exact exists_of_mem_decodeItems each
  | object fields =>
      rcases decode_object_cases decoded with
        ⟨found, _, _, rfl⟩ | ⟨_, _, rfl⟩ | ⟨templates, _, _, each, rfl⟩
      · exact List.forall_mem_nil _
      · exact List.forall_mem_nil _
      · intro part member
        obtain ⟨field, inside, rfl⟩ := List.mem_map.mp member
        exact exists_of_mem_decodeFields each field inside

private theorem keys_of_decode_object {value : Value} {fields : List (String × Template)}
    (decoded : decode value = .ok (.object fields)) :
    fields.lookup referenceKey = none ∧ fields.lookup placeholderKey = none := by
  cases value with
  | scalar => cases decoded
  | list items =>
      obtain ⟨_, _, impossible⟩ := map_eq_ok decoded
      cases impossible
  | object given =>
      rcases decode_object_cases decoded with
        ⟨_, _, _, impossible⟩ | ⟨_, _, impossible⟩ | ⟨_, unreferenced, unplaced, each, same⟩
      · cases impossible
      · cases impossible
      · cases same
        have keys := keys_decodeFields each
        exact ⟨(Fields.lookup_eq_none_congr keys).mpr unreferenced,
          (Fields.lookup_eq_none_congr keys).mpr unplaced⟩

private theorem unmarked_of_decode {value : Value} {template : Template}
    (decoded : decode value = .ok template) (place : List Nat) {fields : List (String × Template)}
    (found : template.part? place = some (.object fields)) :
    fields.lookup referenceKey = none ∧ fields.lookup placeholderKey = none := by
  induction place generalizing value template with
  | nil =>
      cases found
      exact keys_of_decode_object decoded
  | cons index rest ih =>
      rw [part?] at found
      split at found
      · next part here =>
          obtain ⟨source, read⟩ := exists_of_mem_parts decoded part (List.mem_of_getElem? here)
          exact ih read found
      · cases found

/-!
## The plain spelling
-/

/-- The fields of a reference without the attribute that it asks for where this is the address. -/
structure LeavesAddressOut (fields plain : List (String × Value)) : Prop where
  distinct : (plain.map (·.1)).Nodup
  kept : ∀ key, key ≠ attributeKey → plain.lookup key = fields.lookup key
  asks : plain.lookup attributeKey =
    (fields.lookup attributeKey).filter fun asked => asked.text? != some Attribute.address.name

mutual

/-- A value with its markers in the plain spelling: references do not say that they ask for the
address, and the flag of placeholders is true. All else is the same, in the same order. -/
inductive Respells : Value → Value → Prop where
  | scalar {value : Scalar} : Respells (.scalar value) (.scalar value)
  | list {items others : List Value} :
      RespellsItems items others → Respells (.list items) (.list others)
  | object {fields others : List (String × Value)} :
      fields.lookup referenceKey = none → fields.lookup placeholderKey = none →
      RespellsFields fields others → Respells (.object fields) (.object others)
  | reference {fields plain : List (String × Value)} :
      (fields.lookup referenceKey).isSome → LeavesAddressOut fields plain →
      Respells (.object fields) (.object plain)
  | placeholder {fields : List (String × Value)} :
      fields.lookup referenceKey = none → (fields.lookup placeholderKey).isSome →
      Respells (.object fields) (.object [(placeholderKey, .bool true)])

inductive RespellsItems : List Value → List Value → Prop where
  | nil : RespellsItems [] []
  | cons {item other : Value} {items others : List Value} :
      Respells item other → RespellsItems items others →
      RespellsItems (item :: items) (other :: others)

inductive RespellsFields : List (String × Value) → List (String × Value) → Prop where
  | nil : RespellsFields [] []
  | cons {key : String} {value other : Value} {fields others : List (String × Value)} :
      Respells value other → RespellsFields fields others →
      RespellsFields ((key, value) :: fields) ((key, other) :: others)

end

private theorem decodeReference_eq_ok {fields : List (String × Value)} {found : Reference}
    (decoded : decodeReference fields = .ok (.reference found)) :
    fields.lookup referenceKey = some (.text found.name) ∧
      (Value.field fields attributeKey (.text Attribute.address.name)).text?.bind
        Attribute.ofName? = some found.asks := by
  unfold decodeReference at decoded
  dsimp only at decoded
  split at decoded
  · next named =>
      split at decoded
      · cases decoded
      · split at decoded
        · next known =>
            cases decoded
            exact ⟨named, known⟩
        · cases decoded
  · cases decoded

private theorem lookup_eq_none_of_alone {fields : List (String × Value)}
    (marks : MarksReference fields)
    {key : String} (named : key ≠ referenceKey) (asks : key ≠ attributeKey) :
    fields.lookup key = none := by
  cases found : fields.lookup key with
  | none => rfl
  | some value =>
      rcases marks.alone _ (Fields.mem_of_lookup found) with same | same
      · exact absurd same named
      · exact absurd same asks

/-- A reference is written without what its object need not say. -/
theorem respells_encodeReference {fields : List (String × Value)} {found : Reference}
    (decoded : decodeReference fields = .ok (.reference found)) :
    Respells (.object fields) (encodeReference found) := by
  have marks := (decodeReference_isOk_iff fields).mp ⟨_, decoded⟩
  obtain ⟨named, known⟩ := decodeReference_eq_ok decoded
  obtain ⟨name, asks⟩ := found
  dsimp only at named known
  have referring : (fields.lookup referenceKey).isSome := by rw [named]; rfl
  have other : ∀ key, key ≠ referenceKey → key ≠ attributeKey → fields.lookup key = none :=
    fun key => lookup_eq_none_of_alone marks
  unfold Value.field at known
  cases asks with
  | address =>
      refine .reference referring ⟨by simp, ?_, ?_⟩
      · intro key apart
        by_cases same : key = referenceKey
        · subst same
          rw [named]
          rfl
        · rw [other key same apart, List.lookup_cons, beq_eq_false_iff_ne.mpr same]
          rfl
      · cases given : fields.lookup attributeKey with
        | none => rfl
        | some asked =>
            obtain ⟨part, rfl⟩ := marks.asks asked given
            rw [given] at known
            cases part with
            | address => rfl
            | codeId => cases known
  | codeId =>
      refine .reference referring ⟨by simp [referenceKey, attributeKey], ?_, ?_⟩
      · intro key apart
        by_cases same : key = referenceKey
        · subst same
          rw [named]
          rfl
        · rw [other key same apart, List.lookup_cons, beq_eq_false_iff_ne.mpr same,
            List.lookup_cons, beq_eq_false_iff_ne.mpr apart]
          rfl
      · cases given : fields.lookup attributeKey with
        | none =>
            rw [given] at known
            cases known
        | some asked =>
            obtain ⟨part, rfl⟩ := marks.asks asked given
            rw [given] at known
            cases part with
            | address => cases known
            | codeId => rfl

mutual

theorem respells_encode : ∀ (value : Value) {template : Template},
    decode value = .ok template → Respells value template.encode
  | .scalar _, _, decoded => by
      cases decoded
      exact .scalar
  | .list items, _, decoded => by
      obtain ⟨templates, each, rfl⟩ := map_eq_ok decoded
      exact .list (respellsItems_encodeItems items each)
  | .object fields, _, decoded => by
      rcases decode_object_cases decoded with
        ⟨found, _, referred, rfl⟩ | ⟨unreferenced, placing, rfl⟩ |
          ⟨templates, unreferenced, unplaced, each, rfl⟩
      · exact respells_encodeReference referred
      · exact .placeholder unreferenced placing
      · exact .object unreferenced unplaced (respellsFields_encodeFields fields each)

theorem respellsItems_encodeItems : ∀ (items : List Value) {templates : List Template},
    decodeItems items = .ok templates → RespellsItems items (encodeItems templates)
  | [], _, decoded => by
      cases decoded
      exact .nil
  | item :: rest, _, decoded => by
      obtain ⟨first, here, continued⟩ := bind_eq_ok decoded
      obtain ⟨others, there, same⟩ := bind_eq_ok continued
      cases same
      exact .cons (respells_encode item here) (respellsItems_encodeItems rest there)

theorem respellsFields_encodeFields :
    ∀ (fields : List (String × Value)) {templates : List (String × Template)},
      decodeFields fields = .ok templates → RespellsFields fields (encodeFields templates)
  | [], _, decoded => by
      cases decoded
      exact .nil
  | (_, value) :: rest, _, decoded => by
      obtain ⟨first, here, continued⟩ := bind_eq_ok decoded
      obtain ⟨others, there, same⟩ := bind_eq_ok continued
      cases same
      exact .cons (respells_encode value here) (respellsFields_encodeFields rest there)

end

/-- What blames an object of a value that can be quoted refuses it. -/
theorem isRefusal_of_decode {value : Value} {fault : MarkerFault} (quotable : value.Quotable)
    (failed : decode value = .error fault) : fault.isRefusal = true := by
  obtain ⟨place, part, found, misused, _⟩ :=
    decode_walks.first_of_eq_some sizeOf_lt_of_mem_openParts (reason?_eq_some_iff.mpr failed)
  obtain ⟨fields, rfl, blames⟩ := blames_of_misuse? misused
  exact blames.refuses (quotable_of_reaches quotable found)

/-- A value is read just if every object that is looked at marks rightly, and else the first that
does not is reported, as a refusal if the value can be quoted, as all that documents give can. What
was read has no key of a marker left, and is written in the plain
spelling, from which it is read again. -/
theorem markers_decoded (value : Value) :
    (∀ document, Json.read document = .ok value → value.Quotable) ∧
      ((∃ template, decode value = .ok template) ↔
        ∀ place fields, Reaches value place fields → MarksRightly fields) ∧
      (∀ fault, decode value = .error fault → (value.Quotable → fault.isRefusal = true) ∧
        ∃ place, Reaches value place fault.object ∧ ¬MarksRightly fault.object ∧
          ∀ earlier fields, earlier < place → Reaches value earlier fields →
            MarksRightly fields) ∧
      ∀ template, decode value = .ok template →
        (∀ place fields, template.part? place = some (.object fields) →
          fields.lookup referenceKey = none ∧ fields.lookup placeholderKey = none) ∧
        decode template.encode = .ok template ∧ Respells value template.encode := by
  refine ⟨fun document found => Json.quotable_of_read found, ?_, ?_, ?_⟩
  · rw [← reason?_eq_none_iff, decode_walks.eq_none_iff_places sizeOf_lt_of_mem_openParts]
    constructor
    · intro sound place fields reached
      exact misuse?_eq_none_iff.mp (sound place _ reached)
    · intro sound place part found
      cases part with
      | scalar | list => rfl
      | object fields => exact misuse?_eq_none_iff.mpr (sound place fields found)
  · intro fault refused
    obtain ⟨place, part, found, misused, first⟩ :=
      decode_walks.first_of_eq_some sizeOf_lt_of_mem_openParts (reason?_eq_some_iff.mpr refused)
    obtain ⟨fields, rfl, rfl, _⟩ := blames_of_misuse? misused
    refine ⟨fun quotable => isRefusal_of_decode quotable refused, place, found, ?_, ?_⟩
    · rw [← misuse?_eq_none_iff, misused]
      simp
    · intro earlier fields before reached
      exact misuse?_eq_none_iff.mp (first earlier _ before reached)
  · intro template decoded
    refine ⟨?_, decode_encode value decoded, respells_encode value decoded⟩
    intro place fields found
    exact unmarked_of_decode decoded place found

end Rollout.Template
