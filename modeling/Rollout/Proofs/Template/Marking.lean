import Rollout.Proofs.Template.Encoding

/-!
# Values with markers

Which values are read as templates: those in which every object that has the key of a marker is
that marker. Which of them make the body of a message: objects that are no marker themselves.
-/

set_option autoImplicit false

namespace Rollout.Template

/-- The fields of an object that stands for a reference. -/
structure MarksReference (fields : List (String × Value)) : Prop where
  named : ∃ name, fields.lookup referenceKey = some (.text name)
  asks : ∀ asked, fields.lookup attributeKey = some asked →
    ∃ part : Attribute, asked = .text part.name
  alone : ∀ field ∈ fields, field.1 = referenceKey ∨ field.1 = attributeKey

/-- The fields of an object that stands for a placeholder. The number one is as good as true. -/
def MarksPlaceholder (fields : List (String × Value)) : Prop :=
  ∃ key flag, fields = [(key, .scalar flag)] ∧ flag.key = .int 1

mutual

/-- The keys of markers are used for markers only. -/
def WellMarked : Value → Prop
  | .scalar _ => True
  | .list items => ItemsWellMarked items
  | .object fields =>
      if (fields.lookup referenceKey).isSome then MarksReference fields
      else if (fields.lookup placeholderKey).isSome then MarksPlaceholder fields
      else FieldsWellMarked fields
termination_by structural value => value

def ItemsWellMarked : List Value → Prop
  | [] => True
  | item :: rest => WellMarked item ∧ ItemsWellMarked rest
termination_by structural items => items

def FieldsWellMarked : List (String × Value) → Prop
  | [] => True
  | (_, value) :: rest => WellMarked value ∧ FieldsWellMarked rest
termination_by structural fields => fields

end

/-- An object that is no marker and uses none in a wrong way. -/
def IsBody (value : Value) : Prop :=
  ∃ fields, value = .object fields ∧ fields.lookup referenceKey = none ∧
    fields.lookup placeholderKey = none ∧ FieldsWellMarked fields

theorem ofName?_isSome_iff {name : String} :
    (∃ part, Attribute.ofName? name = some part) ↔
      ∃ part : Attribute, name = part.name := by
  constructor
  · rintro ⟨part, known⟩
    unfold Attribute.ofName? at known
    split at known
    · next same => exact ⟨.address, same⟩
    · split at known
      · next same => exact ⟨.codeId, same⟩
      · cases known
  · rintro ⟨part, rfl⟩
    exact ⟨part, by cases part <;> decide⟩

theorem decodeReference_isOk_iff (fields : List (String × Value)) :
    (∃ template, decodeReference fields = .ok template) ↔ MarksReference fields := by
  constructor
  · rintro ⟨template, decoded⟩
    unfold decodeReference at decoded
    dsimp only at decoded
    split at decoded
    · next name named =>
        split at decoded
        · cases decoded
        · next unmixed =>
            split at decoded
            · next part known =>
                refine ⟨⟨name, named⟩, ?_, ?_⟩
                · intro asked found
                  rw [Value.field, found, Option.getD_some] at known
                  obtain ⟨text, shown, known⟩ := Option.bind_eq_some_iff.mp known
                  obtain ⟨meant, rfl⟩ := ofName?_isSome_iff.mp ⟨part, known⟩
                  refine ⟨meant, ?_⟩
                  unfold Value.text? at shown
                  split at shown
                  · cases shown
                    rfl
                  · cases shown
                · simpa [or_iff_not_imp_left] using unmixed
            · cases decoded
    · cases decoded
  · intro marks
    obtain ⟨name, named⟩ := marks.named
    have unmixed : (fields.any fun field =>
        field.1 != referenceKey && field.1 != attributeKey) = false := by
      simpa [or_iff_not_imp_left] using marks.alone
    have known : ∃ part, (Value.field fields attributeKey
        (.text Attribute.address.name)).text?.bind Attribute.ofName? = some part := by
      unfold Value.field
      cases found : fields.lookup attributeKey with
      | none => exact ⟨.address, rfl⟩
      | some asked =>
          obtain ⟨part, rfl⟩ := marks.asks asked found
          exact ofName?_isSome_iff.mpr ⟨part, rfl⟩
    obtain ⟨part, known⟩ := known
    refine ⟨.reference ⟨name, part⟩, ?_⟩
    unfold decodeReference
    simp only [named, unmixed, known, Bool.false_eq_true, if_false]

theorem decodePlaceholder_isOk_iff (fields : List (String × Value)) :
    (∃ template, decodePlaceholder fields = .ok template) ↔ MarksPlaceholder fields := by
  constructor
  · rintro ⟨template, decoded⟩
    unfold decodePlaceholder at decoded
    split at decoded
    · next key flag =>
        split at decoded
        · next same => exact ⟨key, flag, rfl, beq_iff_eq.mp same⟩
        · cases decoded
    · cases decoded
  · rintro ⟨key, flag, rfl, same⟩
    exact ⟨.placeholder, if_pos (beq_iff_eq.mpr same)⟩

mutual

theorem decode_isOk_iff :
    ∀ value : Value, (∃ template, decode value = .ok template) ↔ WellMarked value
  | .scalar value => iff_of_true ⟨_, rfl⟩ trivial
  | .list items => by
      rw [WellMarked, ← decodeItems_isOk_iff items, decode]
      cases decodeItems items <;> simp [Except.map]
  | .object fields => by
      rw [WellMarked, decode]
      split
      · exact decodeReference_isOk_iff fields
      · split
        · exact decodePlaceholder_isOk_iff fields
        · rw [← decodeFields_isOk_iff fields]
          cases decodeFields fields <;> simp [Except.map]

theorem decodeItems_isOk_iff :
    ∀ items : List Value, (∃ templates, decodeItems items = .ok templates) ↔ ItemsWellMarked items
  | [] => iff_of_true ⟨_, rfl⟩ trivial
  | item :: rest => by
      rw [ItemsWellMarked, ← decode_isOk_iff item, ← decodeItems_isOk_iff rest, decodeItems]
      cases decode item <;> cases decodeItems rest <;>
        simp [bind, Except.bind, pure, Except.pure]

theorem decodeFields_isOk_iff :
    ∀ fields : List (String × Value),
      (∃ templates, decodeFields fields = .ok templates) ↔ FieldsWellMarked fields
  | [] => iff_of_true ⟨_, rfl⟩ trivial
  | (key, value) :: rest => by
      rw [FieldsWellMarked, ← decode_isOk_iff value, ← decodeFields_isOk_iff rest, decodeFields]
      cases decode value <;> cases decodeFields rest <;>
        simp [bind, Except.bind, pure, Except.pure]

end

/-- Only an object that is no marker is read as an object. -/
theorem decode_object_iff (value : Value) :
    (∃ fields, decode value = .ok (.object fields)) ↔ IsBody value := by
  constructor
  · rintro ⟨templates, decoded⟩
    cases value with
    | scalar value => cases decoded
    | list items =>
        obtain ⟨_, _, same⟩ := Computation.map_eq_ok decoded
        cases same
    | object fields =>
        rw [decode] at decoded
        split at decoded
        · obtain ⟨_, same⟩ := reference_of_decodeReference decoded
          cases same
        · next unreferenced =>
            split at decoded
            · cases placeholder_of_decodePlaceholder decoded
            · next unplaced =>
                obtain ⟨_, each, _⟩ := Computation.map_eq_ok decoded
                exact ⟨fields, rfl, Option.not_isSome_iff_eq_none.mp unreferenced,
                  Option.not_isSome_iff_eq_none.mp unplaced,
                  (decodeFields_isOk_iff fields).mp ⟨_, each⟩⟩
  · rintro ⟨fields, rfl, unreferenced, unplaced, marked⟩
    obtain ⟨templates, each⟩ := (decodeFields_isOk_iff fields).mpr marked
    refine ⟨templates, ?_⟩
    rw [decode, unreferenced, unplaced, each]
    rfl

end Rollout.Template
