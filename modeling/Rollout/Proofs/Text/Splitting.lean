import Mathlib.Data.String.Basic
import Rollout.Text.Blank

/-!
# Texts split and trimmed

The parts of a text between its marks, and what is left of one without the run of characters that is
dropped at both ends.
-/

set_option autoImplicit false

namespace Rollout.Text

open String (utf8Len)

/-- By induction on what is left: the part that was begun reaches up to the next mark. -/
private theorem splitOnAux_mark (mark : Char) (rest : List Char) :
    ∀ (before taken : List Char) (done : List String),
      String.splitOnAux (String.ofList (before ++ taken ++ rest)) (String.ofList [mark])
          ⟨utf8Len before⟩ ⟨utf8Len before + utf8Len taken⟩ 0 done =
        done.reverse ++
          (List.splitOnPPrepend (· == mark) rest taken.reverse).map String.ofList := by
  induction rest with
  | nil =>
      intro before taken done
      have ended := String.atEnd_of_valid (before ++ taken) []
      have part := String.extract_of_valid before taken []
      rw [String.utf8Len_append] at ended
      rw [String.splitOnAux, if_pos (ended.mpr rfl), part]
      simp
  | cons char rest ih =>
      intro before taken done
      have unended := String.atEnd_of_valid (before ++ taken) (char :: rest)
      have here := String.get_of_valid (before ++ taken) (char :: rest)
      have next := String.next_of_valid (before ++ taken) char rest
      rw [String.utf8Len_append] at unended here next
      have sought : (0 : String.Pos.Raw).get (String.ofList [mark]) = mark :=
        String.get_of_valid [] [mark]
      have behind : (0 : String.Pos.Raw).next (String.ofList [mark]) = ⟨mark.utf8Size⟩ := by
        have moved := String.next_of_valid [] mark []
        simpa using moved
      have single : (⟨mark.utf8Size⟩ : String.Pos.Raw).atEnd (String.ofList [mark]) = true := by
        have ended := String.atEnd_of_valid [mark] []
        simpa using ended
      rw [String.splitOnAux, if_neg (by rw [unended]; simp), here, sought]
      simp only [List.headD_cons, beq_iff_eq]
      split
      · next same =>
          subst same
          have part := String.extract_of_valid before taken (char :: rest)
          have ended : (⟨utf8Len before + utf8Len taken + char.utf8Size⟩ : String.Pos.Raw).unoffsetBy
              ⟨char.utf8Size⟩ = ⟨utf8Len before + utf8Len taken⟩ := by
            simp [String.Pos.Raw.unoffsetBy]
          have more := ih (before ++ taken ++ [char]) [] (String.ofList taken :: done)
          simp only [String.utf8Len_append, String.utf8Len_cons, String.utf8Len_nil, Nat.zero_add,
            Nat.add_zero, ← Nat.add_assoc, List.append_assoc, List.cons_append, List.nil_append] at more
          simp only [next, behind, single, if_true, ended, part]
          rw [List.append_assoc, more, List.splitOnPPrepend_cons_pos (by simp)]
          simp
      · next differs =>
          have more := ih before (taken ++ [char]) done
          have start : (⟨utf8Len before + utf8Len taken⟩ : String.Pos.Raw).unoffsetBy 0 =
              ⟨utf8Len before + utf8Len taken⟩ := rfl
          simp only [String.utf8Len_append, String.utf8Len_cons, String.utf8Len_nil, Nat.zero_add,
            ← Nat.add_assoc, List.append_assoc, List.cons_append, List.nil_append,
            List.reverse_append, List.reverse_cons, List.reverse_nil] at more
          rw [start, next, List.append_assoc, more,
            List.splitOnPPrepend_cons_neg (by simpa using differs)]

/-- A text is split where its characters are. -/
theorem splitOn_mark (mark : Char) (text : String) :
    text.splitOn (String.ofList [mark]) = (text.toList.splitOn mark).map String.ofList := by
  have split := splitOnAux_mark mark text.toList [] [] []
  have filled : (String.ofList [mark] == "") = false := by
    rw [beq_eq_false_iff_ne, ne_eq, ← String.toList_inj]
    simp
  rw [List.nil_append, List.nil_append, String.ofList_toList] at split
  rw [String.splitOn, filled]
  exact split

/-- No part that a list is split into holds the mark. -/
theorem notMem_of_mem_splitOn {mark : Char} {text part : List Char}
    (member : part ∈ text.splitOn mark) : mark ∉ part := by
  induction text generalizing part with
  | nil =>
      rw [List.splitOn_nil, List.mem_singleton] at member
      rw [member]
      exact List.not_mem_nil
  | cons char rest ih =>
      rw [List.splitOn_cons_eq_if_modifyHead] at member
      split at member
      · rcases List.mem_cons.mp member with rfl | later
        · exact List.not_mem_nil
        · exact ih later
      · next differs =>
          cases parts : rest.splitOn mark with
          | nil => exact absurd parts (List.splitOn_ne_nil mark rest)
          | cons first others =>
              rw [parts] at member ih
              rw [List.modifyHead_cons] at member
              rcases List.mem_cons.mp member with rfl | later
              · rw [List.mem_cons, not_or]
                exact ⟨fun same => differs (beq_iff_eq.mpr same.symm), ih List.mem_cons_self⟩
              · exact ih (List.mem_cons_of_mem _ later)

/-!
## Trimming
-/

section

variable {drops : Char → Bool} {before text behind : List Char}

theorem dropWhile_append_of_pos (all : ∀ char ∈ before, drops char = true)
    (stops : ∀ char ∈ text.head?, drops char = false) :
    (before ++ text).dropWhile drops = text := by
  rw [List.dropWhile_append_of_pos all]
  cases text with
  | nil => rfl
  | cons first rest => simp [stops first rfl]

private theorem dropRight_append_of_pos (all : ∀ char ∈ behind, drops char = true)
    (stops : ∀ char ∈ text.getLast?, drops char = false) :
    dropRight drops (text ++ behind) = text := by
  have reversed : (behind.reverse ++ text.reverse).dropWhile drops = text.reverse := by
    apply dropWhile_append_of_pos
    · exact fun char member => all char (List.mem_reverse.mp member)
    · rwa [List.head?_reverse]
  rw [dropRight, List.reverse_append, reversed, List.reverse_reverse]

/-- What is dropped at both ends does not matter. -/
theorem trim_append_of_pos (front : ∀ char ∈ before, drops char = true)
    (back : ∀ char ∈ behind, drops char = true)
    (starts : ∀ char ∈ text.head?, drops char = false)
    (stops : ∀ char ∈ text.getLast?, drops char = false) (filled : text ≠ []) :
    trim drops (before ++ text ++ behind) = text := by
  have begun : ∀ char ∈ (text ++ behind).head?, drops char = false := by
    rwa [List.head?_append_of_ne_nil _ filled]
  rw [trim, List.append_assoc, dropWhile_append_of_pos front begun,
    dropRight_append_of_pos back stops]

/-- Trimming only drops at both ends. -/
theorem trim_split (drops : Char → Bool) (text : List Char) :
    ∃ before behind, (∀ char ∈ before, drops char = true) ∧ (∀ char ∈ behind, drops char = true) ∧
      text = before ++ trim drops text ++ behind := by
  have front := List.takeWhile_append_dropWhile (p := drops) (l := text)
  have back := List.takeWhile_append_dropWhile (p := drops)
    (l := (text.dropWhile drops).reverse)
  refine ⟨text.takeWhile drops, ((text.dropWhile drops).reverse.takeWhile drops).reverse,
    fun char member => List.all_eq_true.mp List.all_takeWhile char member,
    fun char member => List.all_eq_true.mp List.all_takeWhile char (List.mem_reverse.mp member), ?_⟩
  rw [trim, dropRight, List.append_assoc, ← List.reverse_append, back, List.reverse_reverse, front]

end

end Rollout.Text
