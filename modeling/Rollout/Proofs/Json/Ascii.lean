import Rollout.Proofs.Json.RoundTrip

/-!
# Characters of documents

A document is written in visible ASCII characters and blanks; only its layout starts new lines.
-/

set_option autoImplicit false

namespace Rollout.Json

/-- A character that a document may hold: a blank, a visible ASCII character or a new line. -/
def Drawn (char : Char) : Prop :=
  char = '\n' ∨ (0x20 ≤ char.toNat ∧ char.toNat ≤ 0x7e)

def Layout.Plain (layout : Layout) : Prop :=
  ∀ char ∈ layout.betweenItems ++ layout.afterKey, Drawn char

theorem plain_compact : Layout.compact.Plain := by
  simp [Layout.Plain, Layout.compact, Drawn]

theorem plain_indented : Layout.indented.Plain := by
  simp [Layout.Plain, Layout.indented, Drawn]

private theorem drawn_of_isDigit {char : Char} (digit : char.isDigit = true) : Drawn char := by
  simp only [Char.isDigit, Bool.and_eq_true, decide_eq_true_eq, ge_iff_le, UInt32.le_iff_toNat_le]
    at digit
  right
  simp only [Char.toNat]
  have low : '0'.val.toNat = 48 := rfl
  have high : '9'.val.toNat = 57 := rfl
  omega

private theorem drawn_lineBreak (layout : Layout) (depth : Nat) :
    ∀ char ∈ layout.lineBreak depth, Drawn char := by
  intro char member
  rw [Layout.lineBreak] at member
  split at member
  · cases member
  · obtain rfl | replicated := List.mem_cons.mp member
    · exact .inl rfl
    · rw [List.eq_of_mem_replicate replicated]
      exact .inr (by decide)

private theorem drawn_digitChar : ∀ value < 16, Drawn (Nat.digitChar value) := by
  simp only [Drawn]
  decide

private theorem drawn_unitEscape {unit : Nat} (bounded : unit < 0x10000) :
    ∀ char ∈ unitEscape unit, Drawn char := by
  rw [unitEscape, hexDigits_four bounded]
  intro char member
  simp only [List.mem_cons, List.not_mem_nil, or_false] at member
  rcases member with rfl | rfl | rfl | rfl | rfl | rfl
  · exact .inr (by decide)
  · exact .inr (by decide)
  · exact drawn_digitChar _ (by omega)
  · exact drawn_digitChar _ (by omega)
  · exact drawn_digitChar _ (by omega)
  · exact drawn_digitChar _ (by omega)

private theorem drawn_escapeChar (letter : Char) : ∀ char ∈ escapeChar letter, Drawn char := by
  have two : ∀ second, Drawn second → ∀ char ∈ ['\\', second], Drawn char := by
    intro second drawn char member
    simp only [List.mem_cons, List.not_mem_nil, or_false] at member
    rcases member with rfl | rfl
    · exact .inr (by decide)
    · exact drawn
  rw [escapeChar]
  iterate 7
    split
    · exact two _ (.inr (by decide))
  split
  · next visible =>
      intro char member
      rw [List.mem_singleton.mp member]
      exact .inr visible
  split
  · next small => exact drawn_unitEscape small
  · next large =>
      have highSmall : 0xd800 + (letter.toNat - 0x10000) / 0x400 < 0x10000 := by
        have bounded := toNat_lt letter
        omega
      have lowSmall : 0xdc00 + (letter.toNat - 0x10000) % 0x400 < 0x10000 := by omega
      intro char member
      obtain first | second := List.mem_append.mp member
      · exact drawn_unitEscape highSmall char first
      · exact drawn_unitEscape lowSmall char second

private theorem drawn_writeText (text : String) : ∀ char ∈ writeText text, Drawn char := by
  intro char member
  simp only [writeText, List.mem_append, List.mem_cons, List.mem_flatMap, List.not_mem_nil,
    or_false] at member
  have quote : Drawn Text.doubleQuote := .inr (by decide)
  obtain (rfl | ⟨letter, _, escaped⟩) | rfl := member
  · exact quote
  · exact drawn_escapeChar letter char escaped
  · exact quote

private theorem drawn_append {first second : List Char} (left : ∀ char ∈ first, Drawn char)
    (right : ∀ char ∈ second, Drawn char) : ∀ char ∈ first ++ second, Drawn char := by
  intro char member
  obtain here | there := List.mem_append.mp member
  · exact left char here
  · exact right char there

private theorem drawn_cons {first : Char} {others : List Char} (head : Drawn first)
    (tail : ∀ char ∈ others, Drawn char) : ∀ char ∈ first :: others, Drawn char := by
  intro char member
  obtain rfl | there := List.mem_cons.mp member
  · exact head
  · exact tail char there

private theorem drawn_mark {mark : Char} (drawn : Drawn mark) : ∀ char ∈ [mark], Drawn char :=
  drawn_cons drawn fun _ member => absurd member List.not_mem_nil

private theorem drawn_digits {text : List Char} (digits : ∀ char ∈ text, char.isDigit = true) :
    ∀ char ∈ text, Drawn char :=
  fun char member => drawn_of_isDigit (digits char member)

private theorem Fractured.drawn {text : List Char} (fractured : Fractured text) :
    ∀ char ∈ text, Drawn char := by
  obtain ⟨leading, fractional, exponential, _⟩ := fractured
  refine drawn_append (drawn_digits leading.digits) (drawn_append ?_ ?_)
  · cases fractional with
    | whole => exact fun _ member => absurd member List.not_mem_nil
    | digits _ digits => exact drawn_cons (.inr (by decide)) (drawn_digits digits)
  · cases exponential with
    | plain => exact fun _ member => absurd member List.not_mem_nil
    | scaled marked _ digits =>
        refine drawn_cons (.inr (by decide)) (drawn_cons ?_ (drawn_digits digits))
        obtain rfl | rfl := marked
        · exact .inr (by decide)
        · exact .inr (by decide)

private theorem drawn_withSign {text : List Char} (negative : Bool)
    (drawn : ∀ char ∈ text, Drawn char) :
    ∀ char ∈ Number.Decimal.withSign negative text, Drawn char := by
  cases negative with
  | false => exact drawn
  | true => exact drawn_cons (.inr (by decide)) drawn

private theorem drawn_writeFloat (value : Number.Binary64) :
    ∀ char ∈ writeFloat value, Drawn char := by
  cases value with
  | nan => simp [writeFloat, Drawn]
  | infinite negative => cases negative <;> simp [writeFloat, Drawn]
  | finite negative significand exponent =>
      obtain ⟨_, fractured, shape⟩ := writeFloat_finite negative significand exponent
      rw [shape]
      exact drawn_withSign negative fractured.drawn

private theorem drawn_writeScalar (value : Scalar) : ∀ char ∈ writeScalar value, Drawn char := by
  cases value with
  | null => simp [writeScalar, Drawn]
  | bool value => cases value <;> simp [writeScalar, Drawn]
  | int value =>
      rw [writeScalar, toString_eq]
      exact drawn_withSign _ (drawn_digits fun _ member => isDigit_of_mem member)
  | float value => exact drawn_writeFloat value
  | text text => exact drawn_writeText text

mutual

/-- Whatever a document is written in is drawn. -/
theorem drawn_write {layout : Layout} (plain : layout.Plain) :
    ∀ (value : Value) (depth : Nat), ∀ char ∈ write layout depth value, Drawn char
  | .scalar value, _ => drawn_writeScalar value
  | .list [], _ => drawn_cons (.inr (by decide)) (drawn_mark (.inr (by decide)))
  | .list (item :: others), depth => by
      have items := drawn_writeItems plain (item :: others) (depth + 1)
      rw [write, List.isEmpty_cons, if_neg Bool.false_ne_true]
      exact drawn_append (drawn_append (drawn_cons (.inr (by decide)) items)
        (drawn_lineBreak layout depth)) (drawn_mark (.inr (by decide)))
  | .object [], _ => drawn_cons (.inr (by decide)) (drawn_mark (.inr (by decide)))
  | .object (field :: others), depth => by
      have fields := drawn_writeFields plain (field :: others) (depth + 1)
      rw [write, List.isEmpty_cons, if_neg Bool.false_ne_true]
      exact drawn_append (drawn_append (drawn_cons (.inr (by decide)) fields)
        (drawn_lineBreak layout depth)) (drawn_mark (.inr (by decide)))

theorem drawn_writeItems {layout : Layout} (plain : layout.Plain) :
    ∀ (items : List Value) (depth : Nat), ∀ char ∈ writeItems layout depth items, Drawn char
  | [], _ => fun _ member => absurd member List.not_mem_nil
  | item :: others, depth => by
      have here := drawn_append (drawn_lineBreak layout depth) (drawn_write plain item depth)
      have there := drawn_append (fun char member => plain char (List.mem_append_left _ member))
        (drawn_writeItems plain others depth)
      rw [writeItems]
      refine drawn_append here ?_
      split
      · exact fun _ member => absurd member List.not_mem_nil
      · exact there

theorem drawn_writeFields {layout : Layout} (plain : layout.Plain) :
    ∀ (fields : List (String × Value)) (depth : Nat),
      ∀ char ∈ writeFields layout depth fields, Drawn char
  | [], _ => fun _ member => absurd member List.not_mem_nil
  | (key, value) :: others, depth => by
      have name := drawn_append (drawn_lineBreak layout depth) (drawn_writeText key)
      have colon := drawn_append name fun char member =>
        plain char (List.mem_append_right _ member)
      have here := drawn_append colon (drawn_write plain value depth)
      have there := drawn_append (fun char member => plain char (List.mem_append_left _ member))
        (drawn_writeFields plain others depth)
      rw [writeFields]
      refine drawn_append here ?_
      split
      · exact fun _ member => absurd member List.not_mem_nil
      · exact there

end

/-- No line of a document ends in a carriage return. -/
theorem carriageReturn_notMem_print {layout : Layout} (plain : layout.Plain) (value : Value) :
    '\r' ∉ (print layout value).toList := by
  intro member
  rw [print, String.toList_ofList] at member
  obtain newline | visible := drawn_write plain value 0 '\r' member
  · cases newline
  · exact absurd visible.1 (by decide)

end Rollout.Json
