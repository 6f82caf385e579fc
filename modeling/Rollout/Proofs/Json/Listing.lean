import Mathlib.Data.List.Nodup
import Rollout.Json.Reader
import Rollout.Proofs.Computation
import Rollout.Proofs.Lookup

/-!
# Listings of documents

What a document lists, where an object may list a key any number of times and spell it with any
escapes. A document is read as what it lists, with every object collected: fields stand in the
order of their first occurrence, and each has its last value.
-/

set_option autoImplicit false

namespace Rollout.Json

mutual

/-- A text begins with a value, whose objects have all the fields that are listed, and goes on
with a rest. -/
inductive Lists : List Char → Value → List Char → Prop where
  | text {opening rest : List Char} {found : String} :
      readText ('\x22' :: opening) opening = .ok (found, rest) →
      Lists ('\x22' :: opening) (.text found) rest
  | plain {text rest : List Char} {scalar : Scalar} :
      readPlain text = .ok (scalar, rest) → Lists text (.scalar scalar) rest
  | emptyObject {text rest : List Char} :
      skipBlanks text = '\x7d' :: rest → Lists ('\x7b' :: text) (.object []) rest
  | object {text rest : List Char} {fields : List (String × Value)} :
      ListsFields (skipBlanks text) fields rest → Lists ('\x7b' :: text) (.object fields) rest
  | emptyList {text rest : List Char} :
      skipBlanks text = ']' :: rest → Lists ('[' :: text) (.list []) rest
  | list {text rest : List Char} {items : List Value} :
      ListsItems (skipBlanks text) items rest → Lists ('[' :: text) (.list items) rest

inductive ListsItems : List Char → List Value → List Char → Prop where
  | last {text behind rest : List Char} {item : Value} :
      Lists text item behind → skipBlanks behind = ']' :: rest → ListsItems text [item] rest
  | more {text behind others rest : List Char} {item : Value} {items : List Value} :
      Lists text item behind → skipBlanks behind = ',' :: others →
      ListsItems (skipBlanks others) items rest → ListsItems text (item :: items) rest

inductive ListsFields : List Char → List (String × Value) → List Char → Prop where
  | last {text behindKey behind rest : List Char} {key : String} {value : Value} :
      readKey text = .ok (key, behindKey) → Lists behindKey value behind →
      skipBlanks behind = '\x7d' :: rest → ListsFields text [(key, value)] rest
  | more {text behindKey behind others rest : List Char} {key : String} {value : Value}
      {fields : List (String × Value)} :
      readKey text = .ok (key, behindKey) → Lists behindKey value behind →
      skipBlanks behind = ',' :: others → ListsFields (skipBlanks others) fields rest →
      ListsFields text ((key, value) :: fields) rest

end

/-- A document is a value with blanks around it. -/
def Listed (document : String) (value : Value) : Prop :=
  document.toList.head? ≠ some '\ufeff' ∧
    ∃ rest, Lists (skipBlanks document.toList) value rest ∧ skipBlanks rest = []

mutual

/-- A value with every object in it collected. -/
def collected : Value → Value
  | .scalar scalar => .scalar scalar
  | .list items => .list (collectedItems items)
  | .object fields => .object (collect (collectedFields fields))
termination_by structural value => value

def collectedItems : List Value → List Value
  | [] => []
  | item :: rest => collected item :: collectedItems rest
termination_by structural items => items

def collectedFields : List (String × Value) → List (String × Value)
  | [] => []
  | (key, value) :: rest => (key, collected value) :: collectedFields rest
termination_by structural fields => fields

end

theorem collectedFields_eq_map (fields : List (String × Value)) :
    collectedFields fields = fields.map fun field => (field.1, collected field.2) := by
  induction fields with
  | nil => rfl
  | cons field rest ih => rw [collectedFields, ih, List.map_cons]

/-!
## Progress
-/

variable {text rest : List Char}

/-- What is read at the front of a text takes at least a character of it. -/
def Advances {α : Type} (text : List Char) (reading : Except Stop (α × List Char)) : Prop :=
  ∀ value rest, reading = .ok (value, rest) → rest.length < text.length

private theorem length_skipBlanks_le (text : List Char) : (skipBlanks text).length ≤ text.length :=
  (List.dropWhile_sublist isBlank).length_le

private theorem length_of_skipBlanks {mark : Char} (behind : skipBlanks text = mark :: rest) :
    rest.length < text.length := by
  have bound := length_skipBlanks_le text
  rw [behind, List.length_cons] at bound
  omega

private theorem readCodes_advances (opening : List Char) (done : List Nat) (text : List Char) :
    Advances text (readCodes opening done text) := by
  intro codes rest read
  fun_induction readCodes opening done text with
  | case1 | case2 | case4 | case5 | case6 | case8 | case10 => cases read
  | case9 =>
      cases read
      exact Nat.lt_succ_self _
  | case3 _ _ _ _ _ _ _ _ _ ih | case7 _ _ _ _ _ _ _ ih | case11 _ _ _ _ _ _ _ _ _ ih =>
      have shorter := ih read
      simp only [List.length_cons]
      omega

private theorem readText_advances (opening text : List Char) :
    Advances text (readText opening text) := by
  intro found rest read
  obtain ⟨⟨codes, others⟩, codesRead, same⟩ := Computation.map_eq_ok read
  cases same
  exact readCodes_advances opening [] text codes rest codesRead

private theorem readKey_advances (text : List Char) : Advances text (readKey text) := by
  intro key rest read
  unfold readKey at read
  split at read
  · next opening =>
      obtain ⟨⟨found, behind⟩, textRead, continued⟩ := Computation.bind_eq_ok read
      have shorter := readText_advances _ opening found behind textRead
      dsimp only at continued
      split at continued
      · next others colon =>
          cases continued
          have afterColon := length_of_skipBlanks colon
          have blanks := length_skipBlanks_le others
          simp only [List.length_cons]
          omega
      · cases continued
  · cases read

private theorem length_spanAscii (text : List Char) :
    (spanAscii text).1.length + (spanAscii text).2.length = text.length := by
  rw [spanAscii, List.length_map, ← List.length_append, List.takeWhile_append_dropWhile]

private theorem length_of_readWhole {whole : List Nat} (found : readWhole text = (whole, rest)) :
    whole.length + rest.length = text.length := by
  unfold readWhole at found
  split at found
  · cases found
    simp only [List.length_cons, List.length_nil]
    omega
  · have spanned := length_spanAscii text
    rw [found] at spanned
    exact spanned

private theorem length_readFraction_le (text : List Char) :
    (readFraction text).2.length ≤ text.length := by
  unfold readFraction
  split
  · next behind =>
      have spanned := length_spanAscii behind
      split
      · exact Nat.le_refl _
      · simp only [List.length_cons]
        omega
  · exact Nat.le_refl _

private theorem length_splitSign_le (text : List Char) :
    (Number.splitSign text).2.length ≤ text.length := by
  unfold Number.splitSign
  split
  · exact Nat.le_succ _
  · exact Nat.le_succ _
  · exact Nat.le_refl _

private theorem length_readExponent_le (text : List Char) :
    (readExponent text).2.length ≤ text.length := by
  unfold readExponent
  split
  · next mark behind =>
      have signed := length_splitSign_le behind
      split
      · have spanned := length_spanAscii (Number.splitSign behind).2
        dsimp only
        split
        · exact Nat.le_refl _
        · next spanned' =>
            rw [spanned'] at spanned
            dsimp only at spanned ⊢
            simp only [List.length_cons]
            omega
      · exact Nat.le_refl _
  · exact Nat.le_refl _

private theorem readNumber_advances (text : List Char) : Advances text (readNumber text) := by
  intro scalar rest read
  unfold readNumber at read
  dsimp only at read
  split at read
  · cases read
  · next whole behind nonempty found =>
      have digits : 0 < whole.length := List.length_pos_of_ne_nil nonempty
      have fraction := length_readFraction_le behind
      have exponent := length_readExponent_le (readFraction behind).2
      have shorter : behind.length < text.length := by
        have wholeSplit := length_of_readWhole found
        split at wholeSplit
        · simp only [List.length_cons]
          dsimp only at wholeSplit
          omega
        · dsimp only at wholeSplit
          omega
      have ended : rest = (readExponent (readFraction behind).2).2 := by
        split at read
        · split at read
          · cases read
          · cases read
            rfl
        · cases read
          rfl
      rw [ended]
      omega

private theorem readPlain_advances (text : List Char) : Advances text (readPlain text) := by
  intro scalar rest read
  unfold readPlain at read
  split at read
  · next word scalar' found =>
      cases read
      have front := List.find?_some found
      have listed := List.mem_of_find?_eq_some found
      have letters : 0 < word.length := by
        have each : ∀ entry ∈ words, 0 < entry.1.length := by decide
        exact each _ listed
      have fits := (List.isPrefixOf_iff_prefix.mp front).length_le
      dsimp only at fits
      rw [List.length_drop]
      omega
  · exact readNumber_advances text scalar rest read

mutual

theorem Lists.advances {text rest : List Char} {value : Value} :
    Lists text value rest → rest.length < text.length
  | .text read => by
      have shorter := readText_advances _ _ _ _ read
      simp only [List.length_cons]
      omega
  | .plain read => readPlain_advances _ _ _ read
  | .emptyObject closed => by
      have shorter := length_of_skipBlanks closed
      simp only [List.length_cons]
      omega
  | @Lists.object behind _ _ fields => by
      have shorter := fields.advances
      have blanks := length_skipBlanks_le behind
      simp only [List.length_cons]
      omega
  | .emptyList closed => by
      have shorter := length_of_skipBlanks closed
      simp only [List.length_cons]
      omega
  | @Lists.list behind _ _ items => by
      have shorter := items.advances
      have blanks := length_skipBlanks_le behind
      simp only [List.length_cons]
      omega

theorem ListsItems.advances {text rest : List Char} {items : List Value} :
    ListsItems text items rest → rest.length < text.length
  | .last item closed => by
      have shorter := item.advances
      have closing := length_of_skipBlanks closed
      omega
  | @ListsItems.more _ _ others _ _ _ item comma items => by
      have shorter := item.advances
      have separator := length_of_skipBlanks comma
      have blanks := length_skipBlanks_le others
      have further := items.advances
      omega

theorem ListsFields.advances {text rest : List Char} {fields : List (String × Value)} :
    ListsFields text fields rest → rest.length < text.length
  | .last key value closed => by
      have named := readKey_advances _ _ _ key
      have shorter := value.advances
      have closing := length_of_skipBlanks closed
      omega
  | @ListsFields.more _ _ _ others _ _ _ _ key value comma fields => by
      have named := readKey_advances _ _ _ key
      have shorter := value.advances
      have separator := length_of_skipBlanks comma
      have blanks := length_skipBlanks_le others
      have further := fields.advances
      omega

end

/-!
## Reading what is listed
-/

/-- The fields that an object has so far, with further ones set in turn. -/
def setFields (done fields : List (String × Value)) : List (String × Value) :=
  fields.foldl (fun earlier field => setField field.1 field.2 earlier) done

private theorem readPlain_mark {mark : Char} (special : mark ∈ ['\x22', '\x7b', '[', ']'])
    (text : List Char) : ∃ stop, readPlain (mark :: text) = .error stop := by
  simp only [List.mem_cons, List.not_mem_nil, or_false] at special
  rcases special with rfl | rfl | rfl | rfl
  all_goals exact ⟨_, rfl⟩

private theorem readValue_plain {scalar : Scalar} (read : readPlain text = .ok (scalar, rest))
    (fuel : Nat) : readValue (fuel + 1) text = .ok (.scalar scalar, rest) := by
  have unmarked : ∀ mark ∈ ['\x22', '\x7b', '[', ']'], ∀ others, text ≠ mark :: others := by
    rintro mark special others rfl
    obtain ⟨stop, refused⟩ := readPlain_mark special others
    rw [refused] at read
    cases read
  unfold readValue
  split
  · exact absurd rfl (unmarked '\x22' (by simp) _)
  · exact absurd rfl (unmarked '\x7b' (by simp) _)
  · exact absurd rfl (unmarked '[' (by simp) _)
  · rw [read]
    rfl

private theorem readKey_closing (text : List Char) :
    readKey ('\x7d' :: text) = .error (.flaw .key ('\x7d' :: text)) :=
  rfl

mutual

/-- Twice as many steps as there are characters are enough: of two steps, one takes a character. -/
theorem Lists.reads {text rest : List Char} {value : Value} :
    Lists text value rest → ∀ fuel, 2 * text.length ≤ fuel + 2 * rest.length + 1 →
      readValue fuel text = .ok (collected value, rest)
  | .text read, 0, enough => by
      have shorter := readText_advances _ _ _ _ read
      rw [List.length_cons] at enough
      omega
  | .text read, fuel + 1, enough => by
      rw [readValue, read]
      rfl
  | .plain read, 0, enough => by
      have shorter := readPlain_advances _ _ _ read
      omega
  | .plain read, fuel + 1, enough => readValue_plain read fuel
  | .emptyObject closed, 0, enough => by
      have shorter := length_of_skipBlanks closed
      rw [List.length_cons] at enough
      omega
  | .emptyObject closed, fuel + 1, enough => by
      rw [readValue, closed]
      rfl
  | @Lists.object behind _ _ fields, 0, enough => by
      have shorter := fields.advances
      have blanks := length_skipBlanks_le behind
      rw [List.length_cons] at enough
      omega
  | @Lists.object behind _ _ fields, fuel + 1, enough => by
      have blanks := length_skipBlanks_le behind
      rw [List.length_cons] at enough
      have read := fields.reads fuel [] (by omega)
      rw [readValue]
      split
      · next others closing =>
          rw [closing] at fields
          cases fields with
          | last key | more key => cases (readKey_closing others).symm.trans key
      · exact read
  | .emptyList closed, 0, enough => by
      have shorter := length_of_skipBlanks closed
      rw [List.length_cons] at enough
      omega
  | .emptyList closed, fuel + 1, enough => by
      rw [readValue, closed]
      rfl
  | @Lists.list behind _ _ items, 0, enough => by
      have shorter := items.advances
      have blanks := length_skipBlanks_le behind
      rw [List.length_cons] at enough
      omega
  | @Lists.list behind _ _ items, fuel + 1, enough => by
      have blanks := length_skipBlanks_le behind
      rw [List.length_cons] at enough
      have read := items.reads fuel [] (by omega)
      rw [readValue]
      split
      · next others closing =>
          have special : ']' ∈ ['\x22', '\x7b', '[', ']'] := by simp
          obtain ⟨stop, refused⟩ := readPlain_mark special others
          rw [closing] at items
          cases items with
          | last item | more item =>
              cases item with
              | plain plain => cases refused.symm.trans plain
      · exact read

theorem ListsItems.reads {text rest : List Char} {items : List Value} :
    ListsItems text items rest →
      ∀ fuel done, 2 * text.length ≤ fuel + 2 * rest.length →
        readItems fuel done text = .ok (.list (done ++ collectedItems items), rest)
  | .last item closed, 0, done, enough => by
      have shorter := item.advances
      have closing := length_of_skipBlanks closed
      omega
  | .last item closed, fuel + 1, done, enough => by
      have closing := length_of_skipBlanks closed
      rw [readItems, item.reads fuel (by omega)]
      simp only [bind, Except.bind, closed]
      rfl
  | .more item comma items, 0, done, enough => by
      have shorter := (ListsItems.more item comma items).advances
      omega
  | @ListsItems.more _ _ others _ first _ item comma items, fuel + 1, done, enough => by
      have shorter := item.advances
      have separator := length_of_skipBlanks comma
      have blanks := length_skipBlanks_le others
      have further := items.advances
      have behind := items.reads fuel (done ++ [collected first]) (by omega)
      rw [readItems, item.reads fuel (by omega)]
      simp only [bind, Except.bind, comma]
      rw [behind, List.append_assoc]
      rfl

theorem ListsFields.reads {text rest : List Char} {fields : List (String × Value)} :
    ListsFields text fields rest →
      ∀ fuel done, 2 * text.length ≤ fuel + 2 * rest.length →
        readFields fuel done text = .ok (.object (setFields done (collectedFields fields)), rest)
  | .last key value closed, 0, done, enough => by
      have shorter := (ListsFields.last key value closed).advances
      omega
  | .last key value closed, fuel + 1, done, enough => by
      have named := readKey_advances _ _ _ key
      have closing := length_of_skipBlanks closed
      rw [readFields, key]
      simp only [bind, Except.bind]
      rw [value.reads fuel (by omega)]
      simp only [closed]
      rfl
  | .more key value comma fields, 0, done, enough => by
      have shorter := (ListsFields.more key value comma fields).advances
      omega
  | @ListsFields.more _ _ _ others _ name first _ key value comma fields, fuel + 1, done,
      enough => by
      have named := readKey_advances _ _ _ key
      have shorter := value.advances
      have separator := length_of_skipBlanks comma
      have blanks := length_skipBlanks_le others
      have further := fields.advances
      have behind := fields.reads fuel (setField name (collected first) done) (by omega)
      rw [readFields, key]
      simp only [bind, Except.bind]
      rw [value.reads fuel (by omega)]
      simp only [comma]
      exact behind

end

/-- By induction on the steps: what was read is what is listed, with its objects collected. -/
private theorem reading_lists (fuel : Nat) :
    (∀ text value rest, readValue fuel text = .ok (value, rest) →
        ∃ listed, Lists text listed rest ∧ value = collected listed) ∧
      (∀ done text value rest, readItems fuel done text = .ok (value, rest) →
        ∃ items, ListsItems text items rest ∧ value = .list (done ++ collectedItems items)) ∧
      ∀ done text value rest, readFields fuel done text = .ok (value, rest) →
        ∃ fields, ListsFields text fields rest ∧
          value = .object (setFields done (collectedFields fields)) := by
  induction fuel with
  | zero =>
      refine ⟨fun text value rest read => ?_, fun done text value rest read => ?_,
        fun done text value rest read => ?_⟩
      · cases read
      · cases read
      · cases read
  | succ fuel ih =>
      obtain ⟨values, items, fields⟩ := ih
      refine ⟨?_, ?_, ?_⟩
      · intro text value rest read
        unfold readValue at read
        split at read
        · obtain ⟨⟨found, behind⟩, textRead, same⟩ := Computation.bind_eq_ok read
          cases same
          exact ⟨.text found, .text textRead, rfl⟩
        · split at read
          · next closed =>
              cases read
              exact ⟨.object [], .emptyObject closed, rfl⟩
          · obtain ⟨listed, each, rfl⟩ := fields [] _ value rest read
            exact ⟨.object listed, .object each, rfl⟩
        · split at read
          · next closed =>
              cases read
              exact ⟨.list [], .emptyList closed, rfl⟩
          · obtain ⟨listed, each, rfl⟩ := items [] _ value rest read
            exact ⟨.list listed, .list each, rfl⟩
        · obtain ⟨⟨scalar, behind⟩, plainRead, same⟩ := Computation.bind_eq_ok read
          cases same
          exact ⟨.scalar scalar, .plain plainRead, rfl⟩
      · intro done text value rest read
        unfold readItems at read
        obtain ⟨⟨item, behind⟩, found, continued⟩ := Computation.bind_eq_ok read
        obtain ⟨first, here, rfl⟩ := values text item behind found
        dsimp only at continued
        split at continued
        · next closed =>
            cases continued
            exact ⟨[first], .last here closed, rfl⟩
        · next comma =>
            obtain ⟨others, there, rfl⟩ := items _ _ value rest continued
            refine ⟨first :: others, .more here comma there, ?_⟩
            rw [collectedItems, List.append_assoc]
            rfl
        · cases continued
      · intro done text value rest read
        unfold readFields at read
        obtain ⟨⟨key, behindKey⟩, named, continued⟩ := Computation.bind_eq_ok read
        obtain ⟨⟨entry, behind⟩, found, ended⟩ := Computation.bind_eq_ok continued
        obtain ⟨first, here, rfl⟩ := values behindKey entry behind found
        dsimp only at ended
        split at ended
        · next closed =>
            cases ended
            exact ⟨[(key, first)], .last named here closed, rfl⟩
        · next comma =>
            obtain ⟨others, there, rfl⟩ := fields _ _ value rest ended
            exact ⟨(key, first) :: others, .more named here comma there, rfl⟩
        · cases ended

/-- A document is read as what it lists, with its objects collected. -/
theorem read_eq_ok_iff {document : String} {value : Value} :
    read document = .ok value ↔ ∃ listed, Listed document listed ∧ value = collected listed := by
  rw [read, Computation.mapError_eq_ok]
  constructor
  · intro found
    unfold readDocument at found
    split at found
    · cases found
    · next text unmarked =>
        obtain ⟨⟨top, rest⟩, first, ended⟩ := Computation.bind_eq_ok found
        obtain ⟨listed, lists, rfl⟩ := (reading_lists _).1 _ _ _ first
        dsimp only at ended
        split at ended
        · next blank =>
            cases ended
            refine ⟨listed, ⟨?_, rest, lists, blank⟩, rfl⟩
            intro marked
            obtain ⟨others, shape⟩ := List.head?_eq_some_iff.mp marked
            exact unmarked others shape
        · cases ended
  · rintro ⟨listed, ⟨unmarked, rest, lists, blank⟩, rfl⟩
    have bounded := length_skipBlanks_le document.toList
    have found := lists.reads (2 * document.toList.length + 2) (by omega)
    unfold readDocument
    split
    · next others shape =>
        rw [shape] at unmarked
        exact absurd rfl unmarked
    · rw [found]
      simp only [bind, Except.bind, blank]
      rfl

/-!
## Collected fields
-/

private theorem lookup_setFields (key : String) (done fields : List (String × Value)) :
    (setFields done fields).lookup key = (fields.reverse ++ done).lookup key :=
  Fields.lookup_foldl_setField key done fields

/-- A collected field has its last value. -/
theorem lookup_collect (key : String) (fields : List (String × Value)) :
    (collect fields).lookup key = fields.reverse.lookup key := by
  change (setFields [] fields).lookup key = _
  rw [lookup_setFields, List.append_nil]

/-- The keys of collected fields stand in the order of their first occurrence. -/
theorem keys_collect (fields : List (String × Value)) :
    (collect fields).map (·.1) = (fields.map (·.1)).eraseDups :=
  Fields.keys_foldl_setField fields

theorem nodup_keys_collect (fields : List (String × Value)) :
    ((collect fields).map (·.1)).Nodup :=
  Fields.nodup_keys_foldl_setField fields

private theorem setField_of_notMem {key : String} {value : Value} {done : List (String × Value)}
    (fresh : key ∉ done.map (·.1)) : setField key value done = done ++ [(key, value)] := by
  induction done with
  | nil => rfl
  | cons field rest ih =>
      rw [List.map_cons, List.mem_cons, not_or] at fresh
      rw [setField, if_neg (fun same => fresh.1 same.symm), ih fresh.2, List.cons_append]

private theorem setFields_of_nodup {done fields : List (String × Value)}
    (distinct : ((done ++ fields).map (·.1)).Nodup) : setFields done fields = done ++ fields := by
  induction fields generalizing done with
  | nil => exact (List.append_nil done).symm
  | cons field rest ih =>
      have fresh : field.1 ∉ done.map (·.1) := by
        rw [List.map_append, List.nodup_append] at distinct
        exact fun member => distinct.2.2 _ member _ List.mem_cons_self rfl
      rw [setFields, List.foldl_cons, setField_of_notMem fresh]
      change setFields _ rest = _
      rw [ih]
      · rw [List.append_assoc, List.singleton_append]
      · rw [List.append_assoc, List.singleton_append]
        exact distinct

/-- Fields with distinct keys are collected already. -/
theorem collect_of_nodup {fields : List (String × Value)}
    (distinct : (fields.map (·.1)).Nodup) : collect fields = fields := by
  have whole : setFields [] fields = [] ++ fields := setFields_of_nodup distinct
  exact whole

end Rollout.Json
