import Rollout.Proofs.Json.Float
import Rollout.Proofs.Json.Listing
import Rollout.Proofs.Json.Text
import Rollout.Proofs.Value.Quoting

/-!
# Round trips through documents

A value is read back from the document it is written to, in every layout whose separators are a
comma, a colon and blanks. Fields keep their order, and but for floating-point numbers nothing
changes.
-/

set_option autoImplicit false

namespace Rollout.Json

open Rollout.Number
open Rollout.Value (ItemsHold FieldsHold)

/-- A scalar that a document gives back. -/
def KeptScalar : Scalar → Prop
  | .int value => value.natAbs < 10 ^ digitLimit
  | .float _ => False
  | _ => True

mutual

/-- A value that a document gives back: it holds no floating-point number, no integer with too many
digits, and no object with a key that is repeated. -/
def Kept : Value → Prop
  | .scalar value => KeptScalar value
  | .list items => KeptItems items
  | .object fields => (fields.map (·.1)).Nodup ∧ KeptFields fields
termination_by structural value => value

def KeptItems : List Value → Prop
  | [] => True
  | item :: rest => Kept item ∧ KeptItems rest
termination_by structural items => items

def KeptFields : List (String × Value) → Prop
  | [] => True
  | (_, value) :: rest => Kept value ∧ KeptFields rest
termination_by structural fields => fields

end

/-- A scalar as its text is read. -/
def rereadScalar : Scalar → Scalar
  | .float value =>
      match readPlain (writeFloat value) with
      | .ok (found, _) => found
      | .error _ => .float value
  | scalar => scalar

mutual

/-- What the document of a value lists. -/
def reread : Value → Value
  | .scalar value => .scalar (rereadScalar value)
  | .list items => .list (rereadItems items)
  | .object fields => .object (rereadFields fields)
termination_by structural value => value

def rereadItems : List Value → List Value
  | [] => []
  | item :: rest => reread item :: rereadItems rest
termination_by structural items => items

def rereadFields : List (String × Value) → List (String × Value)
  | [] => []
  | (key, value) :: rest => (key, reread value) :: rereadFields rest
termination_by structural fields => fields

end

/-- A value as its document gives it back. -/
def returned (value : Value) : Value :=
  collected (reread value)

def Blanks (text : List Char) : Prop :=
  ∀ char ∈ text, isBlank char = true

/-- A layout whose separators are no more than a comma or a colon and blanks. -/
structure Layout.Regular (layout : Layout) : Prop where
  comma : ∃ blanks, layout.betweenItems = ',' :: blanks ∧ Blanks blanks
  colon : ∃ blanks, layout.afterKey = ':' :: blanks ∧ Blanks blanks

theorem regular_compact : Layout.compact.Regular :=
  ⟨⟨[], rfl, by simp [Blanks]⟩, ⟨[], rfl, by simp [Blanks]⟩⟩

theorem regular_indented : Layout.indented.Regular :=
  ⟨⟨[], rfl, by simp [Blanks]⟩, ⟨[' '], rfl, by simp [Blanks, isBlank]⟩⟩

private theorem blanks_lineBreak (layout : Layout) (depth : Nat) :
    Blanks (layout.lineBreak depth) := by
  intro char member
  rw [Layout.lineBreak] at member
  split at member
  · cases member
  · obtain rfl | replicated := List.mem_cons.mp member
    · rfl
    · rw [List.eq_of_mem_replicate replicated]
      rfl

private theorem skipBlanks_append {blanks : List Char} (blank : Blanks blanks) (text : List Char) :
    skipBlanks (blanks ++ text) = skipBlanks text :=
  List.dropWhile_append_of_pos blank

private theorem skipBlanks_cons {char : Char} (visible : isBlank char = false) (text : List Char) :
    skipBlanks (char :: text) = char :: text :=
  List.dropWhile_cons_of_neg (by simp [visible])

private theorem closed_blanks_cons {blanks : List Char} (blank : Blanks blanks) {mark : Char}
    (closes : Closed [mark]) (rest : List Char) : Closed (blanks ++ mark :: rest) := by
  cases blanks with
  | nil => exact closes
  | cons first others =>
      intro char same
      obtain rfl : first = char := by simpa using same
      have isBlank := blank first List.mem_cons_self
      simp only [Json.isBlank, Bool.or_eq_true, decide_eq_true_eq] at isBlank
      rcases isBlank with ((rfl | rfl) | rfl) | rfl <;> decide

private theorem readPlain_writeScalar {value : Scalar} (quotable : value.Quotable)
    (noText : ∀ text, value ≠ .text text) {rest : List Char} (closed : Closed rest) :
    readPlain (writeScalar value ++ rest) = .ok (rereadScalar value, rest) := by
  cases value with
  | null => rfl
  | bool value => cases value <;> rfl
  | int value =>
      rw [writeScalar, (numeric_toString value).readPlain_append]
      exact readNumber_toString quotable closed
  | float value =>
      obtain ⟨found, reads⟩ := readPlain_writeFloat value
      have alone := reads [] closed_nil
      rw [List.append_nil] at alone
      rw [writeScalar, reads rest closed, rereadScalar, alone]
  | text text => exact absurd rfl (noText text)

/-- What begins a value, so that it is not taken for blanks, for the end of a list or for a mark
of the byte order. -/
def Opens (char : Char) : Prop :=
  isBlank char = false ∧ char ≠ ']' ∧ char ≠ '\ufeff'

private theorem Numeric.opens {text : List Char} (numeric : Numeric text) :
    ∃ first others, text = first :: others ∧ Opens first := by
  obtain ⟨first, others, digit, rfl | rfl⟩ := numeric
  · have differs : ∀ letter : Char, letter.isDigit = false → first ≠ letter :=
      fun letter noDigit => (ne_of_isDigit digit letter noDigit).symm
    exact ⟨first, others, rfl, by simp [Opens, isBlank, differs]⟩
  · exact ⟨'-', first :: others, rfl, by simp [Opens, isBlank]⟩

private theorem writeScalar_opens (value : Scalar) :
    ∃ first others, writeScalar value = first :: others ∧ Opens first := by
  cases value with
  | null => exact ⟨'n', _, rfl, by simp [Opens, isBlank]⟩
  | bool value =>
      cases value with
      | false => exact ⟨'f', _, rfl, by simp [Opens, isBlank]⟩
      | true => exact ⟨'t', _, rfl, by simp [Opens, isBlank]⟩
  | int value => exact (numeric_toString value).opens
  | float value =>
      cases value with
      | nan => exact ⟨'N', _, rfl, by simp [Opens, isBlank]⟩
      | infinite negative =>
          cases negative with
          | false => exact ⟨'I', _, rfl, by simp [Opens, isBlank]⟩
          | true => exact ⟨'-', _, rfl, by simp [Opens, isBlank]⟩
      | finite negative significand exponent =>
          obtain ⟨_, ⟨leading⟩, shape⟩ := writeFloat_finite negative significand exponent
          rw [writeScalar, shape]
          exact (leading.numeric _ negative).opens
  | text text =>
      exact ⟨Text.doubleQuote, _, rfl, by simp [Opens, isBlank, Text.doubleQuote]⟩

private theorem write_opens (layout : Layout) (depth : Nat) (value : Value) :
    ∃ first others, write layout depth value = first :: others ∧ Opens first := by
  cases value with
  | list items =>
      rw [write]
      split
      · exact ⟨'[', _, rfl, by simp [Opens, isBlank]⟩
      · exact ⟨'[', _, rfl, by simp [Opens, isBlank]⟩
  | object fields =>
      rw [write]
      split
      · exact ⟨'\x7b', _, rfl, by simp [Opens, isBlank]⟩
      · exact ⟨'\x7b', _, rfl, by simp [Opens, isBlank]⟩
  | scalar value => exact writeScalar_opens value

private theorem lists_scalar {value : Scalar} (quotable : value.Quotable) {rest : List Char}
    (closed : Closed rest) :
    Lists (writeScalar value ++ rest) (.scalar (rereadScalar value)) rest := by
  by_cases textual : ∃ text, value = .text text
  · obtain ⟨text, rfl⟩ := textual
    have shape : writeScalar (.text text) ++ rest =
        '\x22' :: (text.toList.flatMap escapeChar ++ Text.doubleQuote :: rest) := by
      rw [writeScalar, writeText, List.cons_append, List.cons_append, List.append_assoc]
      rfl
    rw [shape]
    exact .text (readText_escapes _ text rest)
  · exact .plain (readPlain_writeScalar quotable (fun text same => textual ⟨text, same⟩) closed)

private theorem closed_comma (more : List Char) : Closed (',' :: more) := by
  intro char same
  obtain rfl : ',' = char := by simpa using same
  decide

private theorem closed_ending {closing : List Char} (blank : Blanks closing) {mark : Char}
    (ends : mark = ']' ∨ mark = '\x7d') (rest : List Char) : Closed (closing ++ mark :: rest) := by
  obtain rfl | rfl := ends
  · exact closed_blanks_cons blank (by simp [Closed]) rest
  · exact closed_blanks_cons blank (by simp [Closed]) rest

private theorem skipBlanks_write (layout : Layout) (depth : Nat) (value : Value)
    (rest : List Char) :
    skipBlanks (write layout depth value ++ rest) = write layout depth value ++ rest := by
  obtain ⟨first, more, written, visible, _⟩ := write_opens layout depth value
  rw [written, List.cons_append, skipBlanks_cons visible]

/-- A key is read back, and with it the colon and the blanks behind that. -/
theorem readKey_writeText {layout : Layout} (regular : layout.Regular) (key : String)
    (depth : Nat) (value : Value) (others : List Char) :
    readKey (writeText key ++ (layout.afterKey ++ (write layout depth value ++ others))) =
      .ok (key, write layout depth value ++ others) := by
  obtain ⟨blanks, colon, blank⟩ := regular.colon
  have front := skipBlanks_write layout depth value others
  generalize write layout depth value ++ others = behind at front ⊢
  have shape : writeText key ++ (layout.afterKey ++ behind) =
      '\x22' :: (key.toList.flatMap escapeChar ++
        Text.doubleQuote :: (':' :: (blanks ++ behind))) := by
    rw [writeText, colon, List.cons_append, List.cons_append, List.append_assoc]
    rfl
  have marked : skipBlanks (':' :: (blanks ++ behind)) = ':' :: (blanks ++ behind) :=
    skipBlanks_cons rfl _
  rw [shape, readKey, readText_escapes]
  simp only [bind, Except.bind, marked, skipBlanks_append blank, front]

/-- The first item stands behind blanks, and the others behind a separator. -/
private theorem skipBlanks_writeItems (layout : Layout) (depth : Nat) (item : Value)
    (others : List Value) (rest : List Char) :
    skipBlanks (writeItems layout depth (item :: others) ++ rest) =
      write layout depth item ++
        ((if others.isEmpty then [] else layout.betweenItems ++ writeItems layout depth others) ++
          rest) := by
  simp only [writeItems, List.append_assoc]
  rw [skipBlanks_append (blanks_lineBreak layout depth), skipBlanks_write layout depth item]

private theorem skipBlanks_writeFields (layout : Layout) (depth : Nat) (key : String)
    (value : Value) (others : List (String × Value)) (rest : List Char) :
    skipBlanks (writeFields layout depth ((key, value) :: others) ++ rest) =
      writeText key ++ (layout.afterKey ++ (write layout depth value ++
        ((if others.isEmpty then [] else layout.betweenItems ++ writeFields layout depth others) ++
          rest))) := by
  simp only [writeFields, List.append_assoc]
  rw [skipBlanks_append (blanks_lineBreak layout depth), writeText, List.cons_append,
    List.cons_append, skipBlanks_cons rfl]

mutual

/-- By induction on the value: its document lists it, whatever closes it. -/
theorem lists_write {layout : Layout} (regular : layout.Regular) :
    ∀ (value : Value) (depth : Nat) (rest : List Char), value.Quotable → Closed rest →
      Lists (write layout depth value ++ rest) (reread value) rest
  | .scalar value, depth, rest, quotable, closed => lists_scalar quotable closed
  | .list [], depth, rest, quotable, closed => .emptyList rfl
  | .list (item :: others), depth, rest, quotable, closed => by
      have shape : write layout depth (.list (item :: others)) ++ rest =
          '[' :: (writeItems layout (depth + 1) (item :: others) ++
            (layout.lineBreak depth ++ ']' :: rest)) := by
        simp [write]
      rw [shape]
      exact .list (listsItems_write regular (item :: others) (depth + 1) rest
        (List.cons_ne_nil _ _) quotable (blanks_lineBreak layout depth))
  | .object [], depth, rest, quotable, closed => .emptyObject rfl
  | .object (field :: others), depth, rest, quotable, closed => by
      have shape : write layout depth (.object (field :: others)) ++ rest =
          '\x7b' :: (writeFields layout (depth + 1) (field :: others) ++
            (layout.lineBreak depth ++ '\x7d' :: rest)) := by
        simp [write]
      rw [shape]
      exact .object (listsFields_write regular (field :: others) (depth + 1) rest
        (List.cons_ne_nil _ _) quotable (blanks_lineBreak layout depth))

theorem listsItems_write {layout : Layout} (regular : layout.Regular) :
    ∀ (items : List Value) (depth : Nat) (rest : List Char) {closing : List Char},
      items ≠ [] → ItemsHold Scalar.Quotable items → Blanks closing →
      ListsItems (skipBlanks (writeItems layout depth items ++ (closing ++ ']' :: rest)))
        (rereadItems items) rest
  | [], _, _, _, nonempty, _, _ => absurd rfl nonempty
  | [item], depth, rest, closing, _, quotable, blank => by
      have ended : skipBlanks (closing ++ ']' :: rest) = ']' :: rest := by
        rw [skipBlanks_append blank, skipBlanks_cons rfl]
      rw [skipBlanks_writeItems, List.isEmpty_nil, if_pos rfl, List.nil_append]
      exact .last (lists_write regular item depth _ quotable.1 (closed_ending blank (.inl rfl) rest))
        ended
  | item :: next :: others, depth, rest, closing, _, quotable, blank => by
      obtain ⟨blanks, comma, between⟩ := regular.comma
      have behind := listsItems_write regular (next :: others) depth rest
        (List.cons_ne_nil _ _) quotable.2 blank
      rw [skipBlanks_writeItems, List.isEmpty_cons, if_neg Bool.false_ne_true, comma,
        List.cons_append, List.cons_append, List.append_assoc]
      rw [← skipBlanks_append between] at behind
      exact .more (lists_write regular item depth _ quotable.1 (closed_comma _))
        (skipBlanks_cons rfl _) behind

theorem listsFields_write {layout : Layout} (regular : layout.Regular) :
    ∀ (fields : List (String × Value)) (depth : Nat) (rest : List Char) {closing : List Char},
      fields ≠ [] → FieldsHold Scalar.Quotable fields → Blanks closing →
      ListsFields (skipBlanks (writeFields layout depth fields ++ (closing ++ '\x7d' :: rest)))
        (rereadFields fields) rest
  | [], _, _, _, nonempty, _, _ => absurd rfl nonempty
  | [(key, value)], depth, rest, closing, _, quotable, blank => by
      have ended : skipBlanks (closing ++ '\x7d' :: rest) = '\x7d' :: rest := by
        rw [skipBlanks_append blank, skipBlanks_cons rfl]
      rw [skipBlanks_writeFields, List.isEmpty_nil, if_pos rfl, List.nil_append]
      exact .last (readKey_writeText regular key depth value _)
        (lists_write regular value depth _ quotable.1 (closed_ending blank (.inr rfl) rest)) ended
  | (key, value) :: next :: others, depth, rest, closing, _, quotable, blank => by
      obtain ⟨blanks, comma, between⟩ := regular.comma
      have behind := listsFields_write regular (next :: others) depth rest
        (List.cons_ne_nil _ _) quotable.2 blank
      rw [skipBlanks_writeFields, List.isEmpty_cons, if_neg Bool.false_ne_true, comma,
        List.cons_append, List.cons_append, List.append_assoc]
      rw [← skipBlanks_append between] at behind
      exact .more (readKey_writeText regular key depth value _)
        (lists_write regular value depth _ quotable.1 (closed_comma _)) (skipBlanks_cons rfl _)
        behind

end

/-- A document gives its value back but for the floating-point numbers in it. -/
theorem read_print_eq_returned {layout : Layout} (regular : layout.Regular) {value : Value}
    (quotable : value.Quotable) : read (print layout value) = .ok (returned value) := by
  have lists := lists_write regular value 0 [] quotable closed_nil
  rw [List.append_nil] at lists
  refine read_eq_ok_iff.mpr ⟨reread value, ⟨?_, [], ?_, rfl⟩, rfl⟩
  · obtain ⟨first, others, written, _, _, noMark⟩ := write_opens layout 0 value
    rw [print, String.toList_ofList, written]
    simpa using noMark
  · have front := skipBlanks_write layout 0 value []
    rw [List.append_nil] at front
    rw [print, String.toList_ofList, front]
    exact lists

private theorem rereadFields_eq_map (fields : List (String × Value)) :
    rereadFields fields = fields.map fun field => (field.1, reread field.2) := by
  induction fields with
  | nil => rfl
  | cons field rest ih => rw [rereadFields, ih, List.map_cons]

theorem returned_object (fields : List (String × Value)) :
    returned (.object fields) =
      .object (collect (fields.map fun field => (field.1, returned field.2))) := by
  rw [returned, reread, collected, collectedFields_eq_map, rereadFields_eq_map, List.map_map]
  rfl

/-!
## Values without floating-point numbers
-/

private theorem rereadScalar_of_kept {value : Scalar} (kept : KeptScalar value) :
    rereadScalar value = value := by
  cases value with
  | float => exact kept.elim
  | null | bool | int | text => rfl

mutual

theorem quotable_of_kept : ∀ {value : Value}, Kept value → value.Quotable
  | .scalar value, kept => by
      cases value with
      | int => exact kept
      | null | bool | float | text => trivial
  | .list _, kept => itemsQuotable_of_kept kept
  | .object _, kept => fieldsQuotable_of_kept kept.2

theorem itemsQuotable_of_kept : ∀ {items : List Value}, KeptItems items → ItemsHold Scalar.Quotable items
  | [], _ => trivial
  | _ :: _, kept => ⟨quotable_of_kept kept.1, itemsQuotable_of_kept kept.2⟩

theorem fieldsQuotable_of_kept :
    ∀ {fields : List (String × Value)}, KeptFields fields → FieldsHold Scalar.Quotable fields
  | [], _ => trivial
  | _ :: _, kept => ⟨quotable_of_kept kept.1, fieldsQuotable_of_kept kept.2⟩

end

mutual

theorem returned_of_kept : ∀ {value : Value}, Kept value → returned value = value
  | .scalar _, kept => congrArg Value.scalar (rereadScalar_of_kept kept)
  | .list _, kept => congrArg Value.list (returnedItems_of_kept kept)
  | .object fields, ⟨distinct, kept⟩ => by
      have same := returnedFields_of_kept kept
      change Value.object (collect (collectedFields (rereadFields fields))) = _
      rw [same, collect_of_nodup distinct]

theorem returnedItems_of_kept :
    ∀ {items : List Value}, KeptItems items → collectedItems (rereadItems items) = items
  | [], _ => rfl
  | item :: rest, kept => by
      have here := returned_of_kept kept.1
      have others := returnedItems_of_kept kept.2
      rw [rereadItems, collectedItems, others]
      exact congrArg (· :: rest) here

theorem returnedFields_of_kept :
    ∀ {fields : List (String × Value)}, KeptFields fields →
      collectedFields (rereadFields fields) = fields
  | [], _ => rfl
  | (key, value) :: rest, kept => by
      have here := returned_of_kept kept.1
      have others := returnedFields_of_kept kept.2
      rw [rereadFields, collectedFields, others]
      exact congrArg (fun found => (key, found) :: rest) here

end

/-- A value is read back from its document. -/
theorem read_print {layout : Layout} (regular : layout.Regular) {value : Value}
    (kept : Kept value) : read (print layout value) = .ok value := by
  rw [read_print_eq_returned regular (quotable_of_kept kept), returned_of_kept kept]

end Rollout.Json
