import Rollout.Proofs.Computation
import Rollout.Proofs.Lookup
import Rollout.Template.Marker

/-!
# Markers written and read again

A template that was read from a value is read again from the value that it is written to, which may
spell its markers otherwise.
-/

set_option autoImplicit false

namespace Rollout.Template

private theorem decode_encodeReference (found : Reference) :
    decode (encodeReference found) = .ok (reference found) := by
  obtain ⟨name, asks⟩ := found
  cases asks <;> rfl

theorem reference_of_decodeReference {fields : List (String × Value)} {template : Template}
    (decoded : decodeReference fields = .ok template) : ∃ found, template = reference found := by
  unfold decodeReference at decoded
  dsimp only at decoded
  split at decoded
  · split at decoded
    · cases decoded
    · split at decoded
      · cases decoded
        exact ⟨_, rfl⟩
      · cases decoded
  · cases decoded

theorem placeholder_of_decodePlaceholder {fields : List (String × Value)} {template : Template}
    (decoded : decodePlaceholder fields = .ok template) : template = placeholder := by
  unfold decodePlaceholder at decoded
  split at decoded
  · split at decoded
    · cases decoded
      rfl
    · cases decoded
  · cases decoded

theorem keys_decodeFields {fields : List (String × Value)} {templates : List (String × Template)}
    (decoded : decodeFields fields = .ok templates) : templates.map (·.1) = fields.map (·.1) := by
  induction fields generalizing templates with
  | nil =>
      cases decoded
      rfl
  | cons field rest ih =>
      obtain ⟨first, _, continued⟩ := Computation.bind_eq_ok decoded
      obtain ⟨others, decodedRest, same⟩ := Computation.bind_eq_ok continued
      cases same
      rw [List.map_cons, List.map_cons, ih decodedRest]

private theorem keys_encodeFields (templates : List (String × Template)) :
    (encodeFields templates).map (·.1) = templates.map (·.1) := by
  induction templates with
  | nil => rfl
  | cons field rest ih => rw [encodeFields, List.map_cons, List.map_cons, ih]

mutual

/-- No object of a decoded template has the key of a marker, so none turns into one. -/
theorem decode_encode :
    ∀ (value : Value) {template : Template}, decode value = .ok template →
      decode template.encode = .ok template
  | .scalar _, _, decoded => by
      cases decoded
      rfl
  | .list items, _, decoded => by
      obtain ⟨templates, each, rfl⟩ := Computation.map_eq_ok decoded
      rw [encode, decode, decodeItems_encodeItems items each]
      rfl
  | .object fields, _, decoded => by
      rw [decode] at decoded
      split at decoded
      · obtain ⟨found, rfl⟩ := reference_of_decodeReference decoded
        exact decode_encodeReference found
      · next unreferenced =>
          split at decoded
          · obtain rfl := placeholder_of_decodePlaceholder decoded
            rfl
          · next unplaced =>
              obtain ⟨templates, each, rfl⟩ := Computation.map_eq_ok decoded
              have keys := (keys_encodeFields templates).trans (keys_decodeFields each)
              rw [encode, decode, Fields.isSome_lookup_congr keys, if_neg unreferenced,
                Fields.isSome_lookup_congr keys, if_neg unplaced, decodeFields_encodeFields fields each]
              rfl

theorem decodeItems_encodeItems :
    ∀ (items : List Value) {templates : List Template}, decodeItems items = .ok templates →
      decodeItems (encodeItems templates) = .ok templates
  | [], _, decoded => by
      cases decoded
      rfl
  | item :: rest, _, decoded => by
      obtain ⟨first, here, continued⟩ := Computation.bind_eq_ok decoded
      obtain ⟨others, there, same⟩ := Computation.bind_eq_ok continued
      cases same
      rw [encodeItems, decodeItems, decode_encode item here, decodeItems_encodeItems rest there]
      rfl

theorem decodeFields_encodeFields :
    ∀ (fields : List (String × Value)) {templates : List (String × Template)},
      decodeFields fields = .ok templates → decodeFields (encodeFields templates) = .ok templates
  | [], _, decoded => by
      cases decoded
      rfl
  | (key, value) :: rest, _, decoded => by
      obtain ⟨first, here, continued⟩ := Computation.bind_eq_ok decoded
      obtain ⟨others, there, same⟩ := Computation.bind_eq_ok continued
      cases same
      rw [encodeFields, decodeFields, decode_encode value here,
        decodeFields_encodeFields rest there]
      rfl

end

end Rollout.Template
