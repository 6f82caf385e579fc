import Rollout.Files
import Rollout.Json.Reader
import Rollout.Proofs.Computation
import Rollout.Proofs.Value.Parts

/-!
# Values of documents

A value that a document is read as is made of texts and of scalars that were read as such,
whatever it is nested in.
-/

set_option autoImplicit false

namespace Rollout.Json

open Rollout.Value (ItemsHold FieldsHold)

/-- A text is that of a document with a property. -/
def Tells (text : String) (property : Value → Prop) : Prop :=
  ∃ document, read text = .ok document ∧ property document

/-- A file can be read, and its text is that of a document with a property. -/
def FileTells (files : Files) (path : Path) (property : Value → Prop) : Prop :=
  ∃ text, files.readText path = .ok text ∧ Tells text property

/-- The property of a part that is read at the front of a text. -/
def Yields (property : Scalar → Prop) (reading : Except Stop (Value × List Char)) : Prop :=
  ∀ value rest, reading = .ok (value, rest) → value.Holds property

variable {property : Scalar → Prop}

section

variable (texts : ∀ text, property (.text text))
  (plain : ∀ text scalar rest, readPlain text = .ok (scalar, rest) → property scalar)
include texts plain

/-- By induction on the steps: what the parts that are read first have is kept for those behind
them. -/
private theorem reading_yields (fuel : Nat) :
    (∀ text, Yields property (readValue fuel text)) ∧
      (∀ done text, ItemsHold property done → Yields property (readItems fuel done text)) ∧
      ∀ done text, FieldsHold property done → Yields property (readFields fuel done text) := by
  induction fuel with
  | zero =>
      refine ⟨fun text value rest read => ?_, fun done text _ value rest read => ?_,
        fun done text _ value rest read => ?_⟩
      · cases read
      · cases read
      · cases read
  | succ fuel ih =>
      obtain ⟨values, items, fields⟩ := ih
      refine ⟨?_, ?_, ?_⟩
      · intro text value rest read
        unfold readValue at read
        split at read
        · obtain ⟨⟨found, behind⟩, _, same⟩ := Computation.bind_eq_ok read
          cases same
          exact texts found
        · split at read
          · cases read
            trivial
          · exact fields [] _ trivial value rest read
        · split at read
          · cases read
            trivial
          · exact items [] _ trivial value rest read
        · obtain ⟨⟨scalar, behind⟩, found, same⟩ := Computation.bind_eq_ok read
          cases same
          exact plain _ scalar rest found
      · intro done text earlier value rest read
        unfold readItems at read
        obtain ⟨⟨item, behind⟩, found, continued⟩ := Computation.bind_eq_ok read
        have grown := Value.itemsHold_append earlier (values text item behind found)
        dsimp only at continued
        split at continued
        · cases continued
          exact grown
        · exact items _ _ grown value rest continued
        · cases continued
      · intro done text earlier value rest read
        unfold readFields at read
        obtain ⟨⟨key, behindKey⟩, _, continued⟩ := Computation.bind_eq_ok read
        obtain ⟨⟨entry, behind⟩, found, ended⟩ := Computation.bind_eq_ok continued
        have grown := Value.fieldsHold_setField key earlier (values behindKey entry behind found)
        dsimp only at ended
        split at ended
        · cases ended
          exact grown
        · exact fields _ _ grown value rest ended
        · cases ended

/-- A value that a document is read as holds what texts and plain scalars have. -/
theorem holds_of_read {document : String} {value : Value} (found : read document = .ok value) :
    value.Holds property := by
  unfold read at found
  have reached := Computation.mapError_eq_ok.mp found
  unfold readDocument at reached
  split at reached
  · cases reached
  · obtain ⟨⟨top, rest⟩, first, ended⟩ := Computation.bind_eq_ok reached
    dsimp only at ended
    split at ended
    · cases ended
      exact (reading_yields texts plain _).1 _ value rest first
    · cases ended

end

end Rollout.Json
