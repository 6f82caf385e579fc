import Rollout.Network.GasPrice
import Rollout.Proofs.Computation
import Rollout.Proofs.Lookup
import Rollout.Proofs.Number.Numeral
import Rollout.Proofs.Text.Splitting
import Rollout.Proofs.Wire.Form

/-!
# Lists of gas prices

What a text of prices is made of: entries between commas, each of them blank or an amount and a
denomination with blanks around both. Every entry has one reading, so blanks and blank entries do
not matter, and a text is refused just if one of its entries has none.
-/

set_option autoImplicit false

namespace Rollout

namespace Text

variable {char : Char}

private theorem toNat_of_isAlpha (letter : char.isAlpha = true) :
    65 ≤ char.toNat ∧ char.toNat ≤ 90 ∨ 97 ≤ char.toNat ∧ char.toNat ≤ 122 := by
  rcases Bool.or_eq_true_iff.mp letter with upper | lower
  · exact .inl (of_decide_eq_true upper)
  · obtain ⟨least, most⟩ := Bool.and_eq_true_iff.mp lower
    exact .inr ⟨of_decide_eq_true least, of_decide_eq_true most⟩

private theorem not_isDigit_of_isAlpha (letter : char.isAlpha = true) : char.isDigit = false := by
  have low := toNat_of_isAlpha letter
  rw [← Bool.not_eq_true]
  intro digit
  have high := toNat_of_isDigit digit
  omega

private theorem isBlank_of_isAlphanum (letter : char.isAlphanum = true) : isBlank char = false := by
  rcases Bool.or_eq_true_iff.mp letter with alphabetic | digit
  · have bounds := toNat_of_isAlpha alphabetic
    exact isBlank_of_shown (by omega) (by omega)
  · exact isBlank_of_isDigit digit

end Text

namespace Network

open Rollout.Text
open Rollout.Wire (Digits digits_takeWhile)

/-- Nothing but blanks. -/
def Blank (text : List Char) : Prop :=
  ∀ char ∈ text, isBlank char = true

/-- Digits, possibly a point, and at least one digit behind it. -/
def IsAmount (text : List Char) : Prop :=
  ∃ front point fraction, text = front ++ point ++ fraction ∧ Digits front ∧
    (point = [] ∨ point = ['.']) ∧ Digits fraction ∧ fraction ≠ []

/-- A letter, and letters, digits and slashes behind it, all of them ASCII. -/
def IsDenomination (text : List Char) : Prop :=
  ∃ first rest, text = first :: rest ∧ first.isAlpha = true ∧
    ∀ char ∈ rest, char.isAlphanum = true ∨ char = '/'

/-- An entry is an amount and a denomination, with blanks before, between and behind them. -/
def Spells (entry amount denomination : String) : Prop :=
  IsAmount amount.toList ∧ IsDenomination denomination.toList ∧
    ∃ before between behind, Blank before ∧ Blank between ∧ Blank behind ∧
      entry.toList = before ++ amount.toList ++ between ++ denomination.toList ++ behind

/-- An entry that is neither blank nor a price. -/
def Malformed (entry : String) : Prop :=
  ¬ Blank entry.toList ∧ ∀ amount denomination, ¬ Spells entry amount denomination

/-- Entries list prices, each as a denomination with its amount. Those that are blank list none. -/
inductive Lists : List String → List (String × String) → Prop where
  | nil : Lists [] []
  | blank {entry : String} {entries : List String} {listed : List (String × String)} :
      Blank entry.toList → Lists entries listed → Lists (entry :: entries) listed
  | price {entry amount denomination : String} {entries : List String}
      {listed : List (String × String)} :
      Spells entry amount denomination → Lists entries listed →
      Lists (entry :: entries) ((denomination, amount) :: listed)

/-- Entries are the same but for blank ones and for the blanks around amounts and denominations. -/
inductive Respaced : List String → List String → Prop where
  | nil : Respaced [] []
  | added {entry : String} {entries others : List String} :
      Blank entry.toList → Respaced entries others → Respaced entries (entry :: others)
  | dropped {entry : String} {entries others : List String} :
      Blank entry.toList → Respaced entries others → Respaced (entry :: entries) others
  | spaced {entry other amount denomination : String} {entries others : List String} :
      Spells entry amount denomination → Spells other amount denomination →
      Respaced entries others → Respaced (entry :: entries) (other :: others)
  | kept {entry : String} {entries others : List String} :
      Respaced entries others → Respaced (entry :: entries) (entry :: others)

/-!
## One entry
-/

section

variable {text rest : List Char} {entry amount denomination : String}

theorem IsAmount.chars (amount : IsAmount text) :
    ∀ char ∈ text, char.isDigit = true ∨ char = '.' := by
  obtain ⟨front, point, fraction, rfl, whole, pointed, decimals, _⟩ := amount
  intro char member
  simp only [List.mem_append] at member
  rcases member with (here | here) | here
  · exact .inl (whole char here)
  · rcases pointed with rfl | rfl
    · cases here
    · exact .inr (List.mem_singleton.mp here)
  · exact .inl (decimals char here)

private theorem IsAmount.ne_nil (amount : IsAmount text) : text ≠ [] := by
  obtain ⟨front, point, fraction, rfl, _, _, _, filled⟩ := amount
  simp [filled]

private theorem IsAmount.unblank (amount : IsAmount text) :
    ∀ char ∈ text, isBlank char = false := by
  intro char member
  rcases amount.chars char member with digit | rfl
  · exact isBlank_of_isDigit digit
  · rfl

private theorem splitAmount?_append (amount : IsAmount text)
    (stops : ∀ char ∈ rest.head?, char.isDigit = false ∧ char ≠ '.') :
    splitAmount? (text ++ rest) = some (text, rest) := by
  have undigit : ∀ char ∈ rest.head?, char.isDigit = false := fun char first => (stops char first).1
  obtain ⟨front, point, fraction, rfl, whole, rfl | rfl, decimals, filled⟩ := amount
  · obtain ⟨taken, left⟩ := (whole.append decimals).takeWhile_append rest undigit
    simp only [List.append_nil, splitAmount?, taken, left]
    split
    · exact absurd rfl (stops '.' rfl).2
    · simp [filled]
  · obtain ⟨taken, left⟩ := whole.takeWhile_append ('.' :: (fraction ++ rest)) (by simp)
    obtain ⟨behind, others⟩ := decimals.takeWhile_append rest undigit
    simp [splitAmount?, taken, left, behind, others, filled]

private theorem of_splitAmount?_eq_some {amount : List Char}
    (found : splitAmount? text = some (amount, rest)) :
    IsAmount amount ∧ text = amount ++ rest := by
  have whole := List.takeWhile_append_dropWhile (p := Char.isDigit) (l := text)
  simp only [splitAmount?] at found
  split at found
  · next behind left =>
      have decimals := List.takeWhile_append_dropWhile (p := Char.isDigit) (l := behind)
      split at found
      · cases found
      · next filled =>
          cases found
          refine ⟨⟨_, ['.'], _, List.append_cons _ _ _, digits_takeWhile text, .inr rfl,
            digits_takeWhile behind, by simpa using filled⟩, ?_⟩
          rw [List.append_assoc, List.cons_append, decimals, ← left, whole]
  · split at found
    · cases found
    · next filled =>
        cases found
        exact ⟨⟨[], [], _, rfl, List.forall_mem_nil _, .inl rfl, digits_takeWhile text,
          by simpa using filled⟩, whole.symm⟩

theorem isDenom_iff : isDenom text = true ↔ IsDenomination text := by
  cases text with
  | nil => simp [isDenom, IsDenomination]
  | cons first rest => simp [isDenom, IsDenomination]

private theorem IsDenomination.chars (denom : IsDenomination text) :
    ∀ char ∈ text, char.isAlphanum = true ∨ char = '/' := by
  obtain ⟨first, rest, rfl, letter, others⟩ := denom
  exact List.forall_mem_cons.mpr ⟨.inl (by simp [Char.isAlphanum, letter]), others⟩

private theorem IsDenomination.ne_nil (denom : IsDenomination text) : text ≠ [] := by
  obtain ⟨first, rest, rfl, _⟩ := denom
  exact List.cons_ne_nil first rest

private theorem IsDenomination.unblank (denom : IsDenomination text) :
    ∀ char ∈ text, isBlank char = false := by
  intro char member
  rcases denom.chars char member with letter | rfl
  · exact isBlank_of_isAlphanum letter
  · rfl

/-- An amount does not go on in a denomination, nor in the blanks before it. -/
theorem IsDenomination.head?_append {between : List Char} (denom : IsDenomination text)
    (inner : Blank between) :
    ∀ char ∈ (between ++ text).head?, char.isDigit = false ∧ char ≠ '.' := by
  intro char first
  cases between with
  | nil =>
      obtain ⟨letter, others, rfl, alphabetic, _⟩ := denom
      cases first
      refine ⟨not_isDigit_of_isAlpha alphabetic, ?_⟩
      rintro rfl
      cases alphabetic
  | cons space others =>
      cases first
      have blank := inner char List.mem_cons_self
      refine ⟨?_, ?_⟩
      · rw [← Bool.not_eq_true]
        intro digit
        rw [isBlank_of_isDigit digit] at blank
        cases blank
      · rintro rfl
        cases blank

private theorem reads_iff_spells :
    readPrice? entry.toList = some (denomination, amount) ↔ Spells entry amount denomination := by
  constructor
  · intro read
    obtain ⟨before, behind, front, back, whole⟩ := trim_split isBlank entry.toList
    simp only [readPrice?, Option.bind_eq_bind, Option.bind_eq_some_iff] at read
    obtain ⟨⟨number, rest⟩, split, read⟩ := read
    split at read
    · next denom =>
        simp only [Option.some.injEq, Prod.mk.injEq] at read
        obtain ⟨rfl, rfl⟩ := read
        obtain ⟨valid, joined⟩ := of_splitAmount?_eq_some split
        have between := List.takeWhile_append_dropWhile (p := isBlank) (l := rest)
        refine ⟨by simpa using valid, by simpa using isDenom_iff.mp denom, before,
          rest.takeWhile isBlank, behind, front,
          fun char member => List.all_eq_true.mp List.all_takeWhile char member, back, ?_⟩
        calc
          entry.toList = before ++ trim isBlank entry.toList ++ behind := whole
          _ = before ++ (number ++ (rest.takeWhile isBlank ++ rest.dropWhile isBlank)) ++
                behind := by rw [joined, between]
          _ = _ := by simp only [String.toList_ofList, List.append_assoc]
    · cases read
  · rintro ⟨valid, denom, before, between, behind, front, inner, back, whole⟩
    have starts : ∀ char ∈ (amount.toList ++ between ++ denomination.toList).head?,
        isBlank char = false := by
      rw [List.append_assoc, List.head?_append_of_ne_nil _ valid.ne_nil]
      exact fun char first => valid.unblank char (List.mem_of_head? first)
    have stops : ∀ char ∈ (amount.toList ++ between ++ denomination.toList).getLast?,
        isBlank char = false := by
      rw [List.getLast?_append_of_ne_nil _ denom.ne_nil]
      exact fun char last => denom.unblank char (List.mem_of_getLast? last)
    have begun : ∀ char ∈ denomination.toList.head?, isBlank char = false :=
      fun char first => denom.unblank char (List.mem_of_head? first)
    have trimmed : trim isBlank entry.toList =
        amount.toList ++ (between ++ denomination.toList) := by
      have filled : amount.toList ++ between ++ denomination.toList ≠ [] := by simp [valid.ne_nil]
      rw [← List.append_assoc, ← trim_append_of_pos front back starts stops filled, whole]
      simp only [List.append_assoc]
    have split : splitAmount? (trim isBlank entry.toList) =
        some (amount.toList, between ++ denomination.toList) := by
      rw [trimmed]
      exact splitAmount?_append valid (denom.head?_append inner)
    simp [readPrice?, split, dropWhile_append_of_pos inner begun, isDenom_iff.mpr denom]

theorem Spells.unique {otherAmount otherDenomination : String}
    (spells : Spells entry amount denomination)
    (again : Spells entry otherAmount otherDenomination) :
    amount = otherAmount ∧ denomination = otherDenomination := by
  have read := reads_iff_spells.mpr spells
  rw [reads_iff_spells.mpr again] at read
  cases read
  exact ⟨rfl, rfl⟩

private theorem Spells.not_blank (spells : Spells entry amount denomination) :
    ¬Blank entry.toList := by
  obtain ⟨valid, _, before, between, behind, _, _, _, whole⟩ := spells
  obtain ⟨first, member⟩ := List.exists_mem_of_ne_nil _ valid.ne_nil
  intro blank
  have dropped := blank first (by simp [whole, member])
  rw [valid.unblank first member] at dropped
  cases dropped

private theorem comma_notMem_of_blank (blank : Blank text) : ',' ∉ text :=
  fun member => absurd (blank ',' member) (by decide)

private theorem Spells.comma_notMem (spells : Spells entry amount denomination) :
    ',' ∉ entry.toList := by
  obtain ⟨valid, denom, before, between, behind, front, inner, back, whole⟩ := spells
  have amount : ',' ∉ amount.toList := fun member => by
    rcases valid.chars ',' member with digit | point
    · cases digit
    · cases point
  have denomination : ',' ∉ denomination.toList := fun member => by
    rcases denom.chars ',' member with letter | slash
    · cases letter
    · cases slash
  simp [whole, amount, denomination, comma_notMem_of_blank front, comma_notMem_of_blank inner,
    comma_notMem_of_blank back]

end

/-!
## Entry after entry
-/

section

variable {entry amount denomination : String} {entries others : List String}

private theorem addEntries_blank (blank : Blank entry.toList) (prices : GasPrices) :
    addEntries prices (entry :: entries) = addEntries prices entries :=
  if_pos (List.all_eq_true.mpr blank)

private theorem addEntries_price (spells : Spells entry amount denomination) (prices : GasPrices) :
    addEntries prices (entry :: entries) =
      addEntries (setField denomination amount prices) entries := by
  have filled : ¬entry.toList.all isBlank = true := fun all =>
    spells.not_blank (List.all_eq_true.mp all)
  rw [addEntries, if_neg filled, reads_iff_spells.mpr spells]

private theorem addEntries_malformed (malformed : Malformed entry) (prices : GasPrices) :
    addEntries prices (entry :: entries) = .error (.entry entry) := by
  have filled : ¬entry.toList.all isBlank = true := fun all =>
    malformed.1 (List.all_eq_true.mp all)
  have unread : readPrice? entry.toList = none := by
    rw [Option.eq_none_iff_forall_ne_some]
    rintro ⟨denomination, amount⟩ read
    exact malformed.2 amount denomination (reads_iff_spells.mp read)
  rw [addEntries, if_neg filled, unread]

private theorem blank_or_spells_or_malformed (entry : String) :
    Blank entry.toList ∨ (∃ amount denomination, Spells entry amount denomination) ∨
      Malformed entry := by
  by_cases blank : Blank entry.toList
  · exact .inl blank
  · by_cases spells : ∃ amount denomination, Spells entry amount denomination
    · exact .inr (.inl spells)
    · exact .inr (.inr ⟨blank, fun amount denomination here => spells ⟨amount, denomination, here⟩⟩)

/-- Entries list prices, which are set one after the other, or one of them is malformed. The first
that is malformed is named. -/
theorem addEntries_cases (entries : List String) (prices : GasPrices) :
    (∃ listed, Lists entries listed ∧ addEntries prices entries =
        .ok (listed.foldl (fun earlier price => setField price.1 price.2 earlier) prices)) ∨
      ∃ culprit, Computation.FirstRefused (¬Malformed ·) (· = culprit) entries ∧
        Malformed culprit ∧ addEntries prices entries = .error (.entry culprit) := by
  induction entries generalizing prices with
  | nil => exact .inl ⟨[], .nil, rfl⟩
  | cons entry rest ih =>
      rcases blank_or_spells_or_malformed entry with
        blank | ⟨amount, denomination, spells⟩ | malformed
      · rw [addEntries_blank blank]
        refine (ih prices).imp ?_ ?_
        · rintro ⟨listed, lists, result⟩
          exact ⟨listed, .blank blank lists, result⟩
        · rintro ⟨culprit, first, malformed, result⟩
          exact ⟨culprit, Computation.firstRefused_cons.mpr (.inr ⟨(·.1 blank), first⟩), malformed,
            result⟩
      · rw [addEntries_price spells]
        refine (ih (setField denomination amount prices)).imp ?_ ?_
        · rintro ⟨listed, lists, result⟩
          exact ⟨_, .price spells lists, result⟩
        · rintro ⟨culprit, first, malformed, result⟩
          exact ⟨culprit, Computation.firstRefused_cons.mpr
            (.inr ⟨(·.2 amount denomination spells), first⟩), malformed, result⟩
      · exact .inr ⟨entry, Computation.firstRefused_cons.mpr (.inl rfl), malformed,
          addEntries_malformed malformed prices⟩

private theorem Lists.not_malformed {listed : List (String × String)}
    (lists : Lists entries listed) :
    ∀ entry ∈ entries, ¬Malformed entry := by
  induction lists with
  | nil => exact List.forall_mem_nil _
  | blank here _ ih => exact List.forall_mem_cons.mpr ⟨(·.1 here), ih⟩
  | price here _ ih => exact List.forall_mem_cons.mpr ⟨(·.2 _ _ here), ih⟩

/-- Blank entries and blanks around amounts and denominations do not matter. -/
theorem addEntries_respaced (respaced : Respaced entries others) (prices : GasPrices) :
    addEntries prices others = addEntries prices entries := by
  induction respaced generalizing prices with
  | nil => rfl
  | added here _ ih => rw [addEntries_blank here, ih]
  | dropped here _ ih => rw [addEntries_blank here, ih]
  | spaced here there _ ih => rw [addEntries_price here, addEntries_price there, ih]
  | @kept entry _ _ _ ih =>
      rcases blank_or_spells_or_malformed entry with
        blank | ⟨amount, denomination, spells⟩ | malformed
      · rw [addEntries_blank blank, addEntries_blank blank, ih]
      · rw [addEntries_price spells, addEntries_price spells, ih]
      · rw [addEntries_malformed malformed, addEntries_malformed malformed]

private theorem Respaced.comma_notMem (respaced : Respaced entries others)
    (apart : ∀ entry ∈ entries, ',' ∉ entry.toList) : ∀ entry ∈ others, ',' ∉ entry.toList := by
  induction respaced with
  | nil => exact apart
  | added here _ ih => exact List.forall_mem_cons.mpr ⟨comma_notMem_of_blank here, ih apart⟩
  | dropped _ _ ih => exact ih (List.forall_mem_cons.mp apart).2
  | spaced _ there _ ih =>
      exact List.forall_mem_cons.mpr ⟨there.comma_notMem, ih (List.forall_mem_cons.mp apart).2⟩
  | kept _ ih =>
      obtain ⟨here, later⟩ := List.forall_mem_cons.mp apart
      exact List.forall_mem_cons.mpr ⟨here, ih later⟩

end

/-!
## The whole text
-/

section

variable {entries : List String}

private theorem splitOn_comma (text : String) :
    text.splitOn "," = (text.toList.splitOn ',').map String.ofList :=
  splitOn_mark ',' text

private theorem comma_notMem_splitOn (text : String) :
    ∀ entry ∈ text.splitOn ",", ',' ∉ entry.toList := by
  rw [splitOn_comma, List.forall_mem_map]
  intro part member
  rw [String.toList_ofList]
  exact notMem_of_mem_splitOn member

private theorem intercalate_splitOn_comma (text : String) :
    ",".intercalate (text.splitOn ",") = text := by
  rw [← String.toList_inj, String.toList_intercalate, splitOn_comma, List.map_map]
  have parts : (text.toList.splitOn ',').map (String.toList ∘ String.ofList) =
      text.toList.splitOn ',' := by simp [Function.comp_def]
  rw [parts]
  exact List.intercalate_splitOn ','

private theorem splitOn_comma_intercalate (apart : ∀ entry ∈ entries, ',' ∉ entry.toList)
    (filled : entries ≠ []) : (",".intercalate entries).splitOn "," = entries := by
  have parts : (",".intercalate entries).toList.splitOn ',' = entries.map String.toList := by
    rw [String.toList_intercalate]
    exact List.splitOn_intercalate ',' (List.forall_mem_map.mpr apart) (by simpa using filled)
  rw [splitOn_comma, parts, List.map_map]
  simp [Function.comp_def]

private theorem readGasPrices_intercalate (apart : ∀ entry ∈ entries, ',' ∉ entry.toList) :
    readGasPrices (",".intercalate entries) = addEntries [] entries := by
  cases entries with
  | nil =>
      have blank : Blank "".toList := List.forall_mem_nil _
      have parts : (",".intercalate []).splitOn "," = [""] := by simp [splitOn_comma]
      rw [readGasPrices, parts, addEntries_blank blank]
  | cons entry rest =>
      rw [readGasPrices, splitOn_comma_intercalate apart (List.cons_ne_nil entry rest)]

theorem eq_splitOn_comma_iff {text : String} :
    entries = text.splitOn "," ↔
      entries ≠ [] ∧ (∀ entry ∈ entries, ',' ∉ entry.toList) ∧ ",".intercalate entries = text := by
  constructor
  · rintro rfl
    refine ⟨?_, comma_notMem_splitOn text, intercalate_splitOn_comma text⟩
    rw [splitOn_comma]
    simp
  · rintro ⟨filled, apart, rfl⟩
    exact (splitOn_comma_intercalate apart filled).symm

private theorem readGasPrices_respaced {text : String}
    (respaced : Respaced (text.splitOn ",") entries) :
    readGasPrices (",".intercalate entries) = readGasPrices text := by
  have apart := respaced.comma_notMem (comma_notMem_splitOn text)
  rw [readGasPrices_intercalate apart, addEntries_respaced respaced, readGasPrices]

private theorem readGasPrices_cases (text : String) :
    (∃ listed prices, Lists (text.splitOn ",") listed ∧ readGasPrices text = .ok prices ∧
        prices.map (·.1) = (listed.map (·.1)).eraseDups ∧ (prices.map (·.1)).Nodup ∧
        ∀ denomination, prices.lookup denomination = listed.reverse.lookup denomination) ∨
      ∃ culprit, Computation.FirstRefused (¬Malformed ·) (· = culprit) (text.splitOn ",") ∧
        Malformed culprit ∧ readGasPrices text = .error (.entry culprit) := by
  refine (addEntries_cases (text.splitOn ",") []).imp ?_ id
  rintro ⟨listed, lists, read⟩
  refine ⟨listed, _, lists, read, Fields.keys_foldl_setField listed,
    Fields.nodup_keys_foldl_setField listed, fun denomination => ?_⟩
  rw [Fields.lookup_foldl_setField, List.append_nil]

private theorem refused_iff_malformed (text : String) :
    (∃ fault, readGasPrices text = .error fault) ↔ ∃ entry ∈ text.splitOn ",", Malformed entry := by
  rcases readGasPrices_cases text with ⟨_, _, lists, read, _⟩ | ⟨_, first, malformed, read⟩
  · refine iff_of_false (by simp [read]) ?_
    rintro ⟨entry, member, malformed⟩
    exact lists.not_malformed entry member malformed
  · obtain ⟨before, _, rest, split, _, rfl⟩ := first
    exact iff_of_true ⟨_, read⟩ ⟨_, by simp [split], malformed⟩

private theorem culprit_of_refused {text : String} {fault : GasFault}
    (refused : readGasPrices text = .error fault) :
    ∃ culprit, fault = .entry culprit ∧ Malformed culprit ∧
      Computation.FirstRefused (¬Malformed ·) (· = culprit) (text.splitOn ",") := by
  rcases readGasPrices_cases text with ⟨_, _, _, read, _⟩ | ⟨culprit, first, malformed, read⟩
  · rw [read] at refused
    cases refused
  · rw [read] at refused
    cases refused
    exact ⟨culprit, rfl, malformed, first⟩

private theorem listed_of_accepted {text : String} {prices : GasPrices}
    (accepted : readGasPrices text = .ok prices) :
    ∃ listed, Lists (text.splitOn ",") listed ∧
      prices.map (·.1) = (listed.map (·.1)).eraseDups ∧ (prices.map (·.1)).Nodup ∧
      ∀ denomination, prices.lookup denomination = listed.reverse.lookup denomination := by
  rcases readGasPrices_cases text with ⟨listed, _, lists, read, amounts⟩ | ⟨_, _, _, read⟩
  · rw [read] at accepted
    cases accepted
    exact ⟨listed, lists, amounts⟩
  · rw [read] at accepted
    cases accepted

end

/-- A text of prices is split into its entries at its commas. It is refused just if one of them is
malformed, and then for the first of those. Otherwise each denomination has the amount that its
last entry gives, in the order of first appearance. An entry has one reading, and neither blank
entries nor the blanks around amounts and denominations change what a text is read as. -/
theorem gasPrices_parsed (text : String) :
    (∀ entries, entries = text.splitOn "," ↔
      entries ≠ [] ∧ (∀ entry ∈ entries, ',' ∉ entry.toList) ∧ ",".intercalate entries = text) ∧
    ((∃ fault, readGasPrices text = .error fault) ↔
      ∃ entry ∈ text.splitOn ",", Malformed entry) ∧
    (∀ fault, readGasPrices text = .error fault →
      ∃ culprit, fault = .entry culprit ∧ Malformed culprit ∧
        Computation.FirstRefused (¬Malformed ·) (· = culprit) (text.splitOn ",")) ∧
    (∀ prices, readGasPrices text = .ok prices →
      ∃ listed, Lists (text.splitOn ",") listed ∧
        prices.map (·.1) = (listed.map (·.1)).eraseDups ∧ (prices.map (·.1)).Nodup ∧
        ∀ denomination, prices.lookup denomination = listed.reverse.lookup denomination) ∧
    (∀ entry amount denomination otherAmount otherDenomination,
      Spells entry amount denomination → Spells entry otherAmount otherDenomination →
      amount = otherAmount ∧ denomination = otherDenomination) ∧
    ∀ entries, Respaced (text.splitOn ",") entries →
      readGasPrices (",".intercalate entries) = readGasPrices text := by
  refine ⟨fun _ => eq_splitOn_comma_iff, refused_iff_malformed text, fun _ => culprit_of_refused,
    fun _ => listed_of_accepted, fun _ _ _ _ _ => Spells.unique, fun _ => readGasPrices_respaced⟩

end Network

end Rollout
