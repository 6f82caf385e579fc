import Mathlib.Data.List.Basic
import Rollout.Proofs.Schema.Refusal

/-!
# Parts of addresses

The separator is no character of the data, so the last one in an address ends its human-readable
part, whatever that part is made of. An address belongs to no other part.
-/

set_option autoImplicit false

namespace Rollout

namespace Wire

private theorem separator_notMem_bech32Charset : '1' ∉ bech32Charset := by decide

/-- A text is made of a part, the separator and data. -/
structure Divides (part text : String) (data : List Char) : Prop where
  joined : text.toList = part.toList ++ '1' :: data
  length : data.length ∈ bech32Lengths
  drawn : ∀ char ∈ data, char ∈ bech32Charset

variable {part other text : String} {data rest : List Char}

theorem addressData?_eq_some_iff {part text data : List Char} :
    addressData? part text = some data ↔ text = part ++ '1' :: data := by
  have cut : ∀ behind : List Char, (part ++ ['1'] ++ behind).drop (part ++ ['1']).length = behind :=
    fun behind => List.drop_left
  unfold addressData?
  dsimp only
  split
  · next begins =>
      obtain ⟨behind, rfl⟩ := List.isPrefixOf_iff_prefix.mp begins
      rw [cut behind, Option.some.injEq, List.append_assoc, List.append_cancel_left_eq,
        List.singleton_append, List.cons_inj_right]
  · next differs =>
      refine iff_of_false (by simp) ?_
      rintro rfl
      exact differs (List.isPrefixOf_iff_prefix.mpr ⟨data, by simp⟩)

theorem isAddress_iff : isAddress part text = true ↔ ∃ data, Divides part text data := by
  unfold isAddress
  cases found : addressData? part.toList text.toList with
  | none =>
      refine iff_of_false (by simp) ?_
      rintro ⟨data, divides⟩
      rw [addressData?_eq_some_iff.mpr divides.joined] at found
      cases found
  | some data =>
      have joined := addressData?_eq_some_iff.mp found
      simp only [Bool.and_eq_true, List.contains_iff_mem, List.all_eq_true]
      constructor
      · rintro ⟨length, drawn⟩
        exact ⟨data, joined, length, drawn⟩
      · rintro ⟨rest, divides⟩
        rw [addressData?_eq_some_iff.mpr divides.joined] at found
        cases found
        exact ⟨divides.length, divides.drawn⟩

private theorem Divides.separator_notMem (divides : Divides part text data) : '1' ∉ data :=
  fun member => separator_notMem_bech32Charset (divides.drawn '1' member)

/-- Where two texts are cut at a mark that does not come again, the same text is cut at one
place. -/
theorem cut_unique {mark : Char} {front ahead behind rest : List Char}
    (same : front ++ mark :: behind = ahead ++ mark :: rest) (last : mark ∉ behind)
    (lastToo : mark ∉ rest) : front = ahead ∧ behind = rest := by
  rcases List.append_eq_append_iff.mp same with ⟨more, rfl, shape⟩ | ⟨more, rfl, shape⟩
  · -- a later cut would leave its mark in what stands behind the earlier one
    cases more with
    | nil => simpa using shape
    | cons first others =>
        obtain ⟨_, rfl⟩ := List.cons.inj shape
        exact absurd (List.mem_append_right _ List.mem_cons_self) last
  · cases more with
    | nil => simpa using shape.symm
    | cons first others =>
        obtain ⟨_, rfl⟩ := List.cons.inj shape
        exact absurd (List.mem_append_right _ List.mem_cons_self) lastToo

theorem Divides.unique (divides : Divides part text data) (again : Divides other text rest) :
    part = other ∧ data = rest := by
  have same := divides.joined.symm.trans again.joined
  obtain ⟨parts, behind⟩ := cut_unique same divides.separator_notMem again.separator_notMem
  exact ⟨String.toList_inj.mp parts, behind⟩

end Wire

namespace Schema.Kind

/-- A kind of address accepts a text that is divided at its part, and nothing else. -/
theorem check_eq_none_iff_divides {kind : Kind} (places : kind = address ∨ kind = validatorAddress)
    {account : String} {value : Value} :
    kind.check account value = .ok none ↔
      ∃ given data, value = .text given ∧ Wire.Divides (kind.addressPart account) given data := by
  constructor
  · intro accepted
    cases value with
    | list | object => rcases places with rfl | rfl <;> exact absurd accepted refuse_ne_none
    | scalar scalar =>
        cases scalar with
        | null | float | int | bool =>
            rcases places with rfl | rfl <;> exact absurd accepted refuse_ne_none
        | text given =>
            have placed : Wire.isAddress (kind.addressPart account) given = true := by
              rcases places with rfl | rfl <;> simpa [check, checkText] using accepted
            obtain ⟨data, divides⟩ := Wire.isAddress_iff.mp placed
            exact ⟨given, data, rfl, divides⟩
  · rintro ⟨given, data, rfl, divides⟩
    have placed := Wire.isAddress_iff.mpr ⟨data, divides⟩
    rcases places with rfl | rfl <;> simp [check, checkText, placed]

/-- Two kinds of address that accept a value expect the same part. -/
theorem addressPart_unique {kind also : Kind} (places : kind = address ∨ kind = validatorAddress)
    (placesToo : also = address ∨ also = validatorAddress) {account other : String} {value : Value}
    (accepted : kind.check account value = .ok none)
    (acceptedToo : also.check other value = .ok none) :
    kind.addressPart account = also.addressPart other := by
  obtain ⟨given, data, rfl, divides⟩ := (check_eq_none_iff_divides places).mp accepted
  obtain ⟨again, rest, same, dividesToo⟩ := (check_eq_none_iff_divides placesToo).mp acceptedToo
  cases same
  exact (divides.unique dividesToo).1

/-- A value is an address of one part at most, which ends where its last separator stands. So nothing
is an address both of an account and of a validator, unless their parts are the same. -/
theorem address_of_one_part (value : Value) :
    (∀ account other, account ≠ other →
        ¬ (address.check account value = .ok none ∧ address.check other value = .ok none)) ∧
      (∀ account, account ≠ Wire.validatorPart →
        ¬ (address.check account value = .ok none ∧
          validatorAddress.check account value = .ok none)) ∧
      ∀ account, address.check account value = .ok none →
        ∃ data : String, value = .text (account ++ "1" ++ data) ∧ '1' ∉ data.toList := by
  refine ⟨?_, ?_, ?_⟩
  · rintro account other differ ⟨accepted, acceptedToo⟩
    exact differ (addressPart_unique (.inl rfl) (.inl rfl) accepted acceptedToo)
  · rintro account differs ⟨accepted, acceptedToo⟩
    exact differs (addressPart_unique (.inl rfl) (.inr rfl) accepted acceptedToo)
  · intro account accepted
    obtain ⟨given, data, rfl, divides⟩ := (check_eq_none_iff_divides (.inl rfl)).mp accepted
    refine ⟨String.ofList data, ?_, ?_⟩
    · have whole : given = account ++ "1" ++ String.ofList data := by
        rw [← String.toList_inj, divides.joined]
        simp [addressPart]
      rw [whole]
    · rw [String.toList_ofList]
      exact divides.separator_notMem

-- a part may hold the separator, and then the part before it has no such address
example :
    address.check "a1q" (.text "a1q1qqqqqqqqqqqqqqqqqqqqqqqqqqqqqqqqqqqqqq") = .ok none ∧
      address.check "a" (.text "a1q1qqqqqqqqqqqqqqqqqqqqqqqqqqqqqqqqqqqqqq") ≠ .ok none := by
  decide +kernel

end Schema.Kind

end Rollout
