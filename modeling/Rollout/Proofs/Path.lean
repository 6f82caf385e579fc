import Mathlib.Data.List.DropRight
import Rollout.Path
import Rollout.Proofs.Text.Splitting

/-!
# Paths and their parts

A text is cut behind its last slash into a folder and a leaf. The folder says where a path leads to,
and the leaf what lies there.
-/

set_option autoImplicit false

namespace Rollout.Path

theorem splitOn_slash (text : String) :
    text.splitOn "/" = (text.toList.splitOn '/').map String.ofList :=
  Text.splitOn_mark '/' text

/-- A part that a path may have: it is not empty, holds no slash and does not name the place
itself. -/
structure Proper (part : String) : Prop where
  slash : '/' ∉ part.toList
  filled : part ≠ ""
  moves : part ≠ "."

private theorem proper_of_mem_splitParts {text part : String} (member : part ∈ splitParts text) :
    Proper part := by
  rw [splitParts, List.mem_filter, splitOn_slash, List.mem_map] at member
  obtain ⟨⟨chars, split, rfl⟩, kept⟩ := member
  simp only [Bool.and_eq_true, bne_iff_ne, ne_eq] at kept
  refine ⟨?_, kept.1, kept.2⟩
  rw [String.toList_ofList]
  exact Text.notMem_of_mem_splitOn split

private theorem Proper.takeWhile_slash {part : String} (proper : Proper part) :
    part.toList.takeWhile (· == '/') = [] := by
  rw [List.takeWhile_eq_nil_iff]
  intro filled slash
  exact proper.slash (beq_iff_eq.mp slash ▸ List.getElem_mem filled)

/-- A part is read as the relative path of itself. -/
theorem ofString_of_proper {part : String} (proper : Proper part) :
    ofString part = ⟨"", [part]⟩ := by
  have parts : splitParts part = [part] := by
    rw [splitParts, splitOn_slash, List.splitOn_eq_singleton proper.slash]
    simp [proper.filled, proper.moves]
  have root : rootOf part = "" := by
    rw [rootOf, proper.takeWhile_slash]
    rfl
  rw [ofString, parts, root]

theorem ofString_empty : ofString "" = ⟨"", []⟩ := by
  have parts : splitParts "" = [] := by
    rw [splitParts, splitOn_slash]
    rfl
  rw [ofString, parts]
  rfl

theorem child_of_proper (base : Path) {part : String} (proper : Proper part) :
    base.child part = ⟨base.root, base.parts ++ [part]⟩ := by
  rw [child, ofString_of_proper proper]
  rfl

/-- A path whose parts are those of a text. -/
def Regular (path : Path) : Prop :=
  ∀ part ∈ path.parts, Proper part

theorem regular_ofString (text : String) : (ofString text).Regular :=
  fun _ member => proper_of_mem_splitParts member

theorem Regular.child {base : Path} (regular : base.Regular) (text : String) :
    (base.child text).Regular := by
  intro part member
  rw [Path.child, join] at member
  split at member
  · exact regular_ofString text part member
  · rcases List.mem_append.mp member with above | below
    · exact regular part above
    · exact regular_ofString text part below

/-- The name of a path leads to it from its parent, and to it alone. -/
theorem child_name_eq_iff {base path : Path} (regular : path.Regular) :
    base.child path.name = path ↔ path.parent = base := by
  obtain ⟨root, parts⟩ := path
  rcases List.eq_nil_or_concat parts with rfl | ⟨above, last, rfl⟩
  · have empty : base.child "" = base := by
      rw [child, ofString_empty]
      exact congrArg (Path.mk base.root) (List.append_nil base.parts)
    exact (Eq.congr_left empty).trans eq_comm
  · rw [List.concat_eq_append] at regular ⊢
    have proper := regular last (List.mem_append_right _ List.mem_cons_self)
    have named : (⟨root, above ++ [last]⟩ : Path).name = last := by simp [name]
    have upper : (⟨root, above ++ [last]⟩ : Path).parent = ⟨root, above⟩ := by simp [parent]
    rw [named, upper, child_of_proper base proper]
    obtain ⟨baseRoot, baseParts⟩ := base
    simp only [Path.mk.injEq, List.append_cancel_right_eq]
    exact and_congr eq_comm eq_comm

/-!
## Folders and leaves
-/

/-- What leads to the folder of a text: all up to its last slash. -/
def folder (text : String) : String :=
  String.ofList (text.toList.rdropWhile (· != '/'))

/-- What stands behind the last slash of a text. -/
def leaf (text : String) : String :=
  String.ofList (text.toList.rtakeWhile (· != '/'))

/-- A text behind which a part begins: it is empty or ends in a slash. -/
def Ended (text : String) : Prop :=
  text = "" ∨ ∃ before : String, text = before ++ "/"

theorem folder_append_leaf (text : String) : folder text ++ leaf text = text := by
  rw [← String.toList_inj]
  simp [folder, leaf]

example : folder "net/devnet" = "net/" ∧ leaf "net/devnet" = "devnet" := by decide +kernel

theorem slash_notMem_leaf (text : String) : '/' ∉ (leaf text).toList := by
  intro member
  rw [leaf, String.toList_ofList] at member
  simpa using List.mem_rtakeWhile_imp member

theorem ended_folder (text : String) : Ended (folder text) := by
  rcases List.eq_nil_or_concat (text.toList.rdropWhile (· != '/')) with
    empty | ⟨before, last, ending⟩
  · exact .inl (by rw [folder, empty, String.ofList_nil])
  · have filled : text.toList.rdropWhile (· != '/') ≠ [] := by simp [ending]
    have stops := List.rdropWhile_last_not (· != '/') text.toList filled
    have slash : last = '/' := by simpa [ending] using stops
    refine .inr ⟨String.ofList before, ?_⟩
    rw [folder, ending, slash, ← String.toList_inj]
    simp

theorem folder_of_notMem {text : String} (plain : '/' ∉ text.toList) : folder text = "" := by
  have all : text.toList.rdropWhile (· != '/') = [] := by
    rw [List.rdropWhile_eq_nil_iff]
    intro char member
    exact bne_iff_ne.mpr fun slash => plain (slash ▸ member)
  rw [folder, all, String.ofList_nil]

theorem leaf_of_notMem {text : String} (plain : '/' ∉ text.toList) : leaf text = text := by
  have whole := folder_append_leaf text
  rw [folder_of_notMem plain] at whole
  simpa using whole

private theorem splitParts_slash (before behind : String) :
    splitParts (before ++ "/" ++ behind) = splitParts before ++ splitParts behind := by
  have parts : (before ++ "/" ++ behind).toList.splitOn '/' =
      before.toList.splitOn '/' ++ behind.toList.splitOn '/' := by
    rw [← List.splitOn_append_cons_self]
    simp
  simp only [splitParts, splitOn_slash, parts, List.map_append, List.filter_append]

variable {front part other : String}

private theorem splitParts_append (ended : Ended front) (proper : Proper part) :
    splitParts (front ++ part) = splitParts front ++ [part] := by
  have single : splitParts part = [part] := congrArg Path.parts (ofString_of_proper proper)
  have nothing : splitParts "" = [] := congrArg Path.parts ofString_empty
  rcases ended with rfl | ⟨before, rfl⟩
  · rw [String.empty_append, nothing, single]
    rfl
  · have alone := splitParts_slash before ""
    rw [String.append_empty, nothing, List.append_nil] at alone
    rw [splitParts_slash, alone, single]

private theorem rootOf_append (proper : Proper part) : rootOf (front ++ part) = rootOf front := by
  have slashes : (front ++ part).toList.takeWhile (· == '/') =
      front.toList.takeWhile (· == '/') := by
    rw [String.toList_append, List.takeWhile_append, proper.takeWhile_slash, List.append_nil]
    split
    · next whole => exact ((List.takeWhile_prefix _).eq_of_length whole).symm
    · rfl
  rw [rootOf, rootOf, slashes]

/-- A part behind a text lies where the text leads. -/
theorem child_append (base : Path) (ended : Ended front) (proper : Proper part) :
    base.child (front ++ part) = (base.child front).child part := by
  have text : ofString (front ++ part) =
      ⟨(ofString front).root, (ofString front).parts ++ [part]⟩ := by
    rw [ofString, rootOf_append proper, splitParts_append ended proper]
    rfl
  rw [child_of_proper _ proper, child, child, text, join, join]
  obtain ⟨root, parts⟩ := ofString front
  -- a front with a root replaces the base on both sides
  by_cases relative : root = "" <;> simp [isAbsolute, relative]

theorem parent_child (base : Path) (proper : Proper part) : (base.child part).parent = base := by
  rw [child_of_proper base proper, parent, List.dropLast_concat]

theorem child_inj {base place : Path} (proper : Proper part) (properToo : Proper other) :
    base.child part = place.child other ↔ part = other ∧ base = place := by
  rw [child_of_proper base proper, child_of_proper place properToo]
  obtain ⟨root, parts⟩ := base
  obtain ⟨placeRoot, placeParts⟩ := place
  rw [Path.mk.injEq, Path.mk.injEq, ← List.concat_eq_append, ← List.concat_eq_append,
    List.concat_inj]
  tauto

/-- A text leads from a place to the place itself if it has no parts, or if it is that place. -/
theorem child_eq_self_iff {base : Path} {text : String} :
    base.child text = base ↔
      ofString text = ⟨"", []⟩ ∨ (ofString text).isAbsolute = true ∧ ofString text = base := by
  rw [child, join]
  obtain ⟨root, parts⟩ := ofString text
  obtain ⟨baseRoot, baseParts⟩ := base
  by_cases relative : root = "" <;> simp [isAbsolute, relative]

end Rollout.Path
