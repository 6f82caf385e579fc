import Rollout.Proofs.Json.Listing
import Rollout.Proofs.Lookup
import Rollout.Proofs.Registry.Loading

/-!
# Names that a file repeats

A file may list a name any number of times. Its reader keeps the place of the first listing and
the entry of the last one, so no name is seen twice by the records: what the entries in between
said is dropped without a fault.
-/

set_option autoImplicit false

namespace Rollout

/-- A fault that is about what a registry has recorded already, or for which chain. -/
def Fault.Conflicts : Fault → Prop
  | .alreadyRecorded .. | .otherChain .. => True
  | _ => False

/-- A computation that does not fail for what a registry has recorded. -/
def Peaceful {α : Type} (computation : Except Fault α) : Prop :=
  ∀ fault, computation = .error fault → ¬fault.Conflicts

namespace Peaceful

variable {α β ε : Type}

private theorem ok (value : α) : Peaceful (.ok value) :=
  fun _ failed => nomatch failed

private theorem error {fault : Fault} (mild : ¬fault.Conflicts) :
    Peaceful (.error fault : Except Fault α) :=
  fun _ failed => Except.error.inj failed ▸ mild

theorem bind {first : Except Fault α} {next : α → Except Fault β} (begun : Peaceful first)
    (continued : ∀ value, first = .ok value → Peaceful (next value)) :
    Peaceful (first >>= next) := by
  cases first with
  | error fault => exact error (begun fault rfl)
  | ok value => exact continued value rfl

private theorem mapError {computation : Except ε α} {rename : ε → Fault}
    (mild : ∀ fault, ¬(rename fault).Conflicts) : Peaceful (computation.mapError rename) := by
  cases computation with
  | error fault => exact error (mild fault)
  | ok value => exact ok value

end Peaceful

namespace Registry

variable {registry extended : Registry} {files : Files} {path : Path} {text : String}
  {fields entries given : List (String × Value)}

private theorem name_of_readRecord {name : String} {entry : Value} {record : Record}
    (read : readRecord name entry = .ok record) : record.name = .text name := by
  cases entry with
  | scalar | list => cases read
  | object fields =>
      obtain ⟨_, _, continued⟩ := Computation.bind_eq_ok read
      obtain ⟨_, _, ended⟩ := Computation.bind_eq_ok continued
      obtain ⟨_, _, same⟩ := Computation.bind_eq_ok ended
      cases same
      rfl

/-- Entries under names that are new and differ are recorded in their order, up to the first one that
cannot be read. -/
theorem addEntries_split (distinct : (entries.map (·.1)).Nodup)
    (fresh : ∀ field ∈ entries, registry.find? (.text field.1) = none) :
    (∃ fault, Computation.FirstRefused (fun field => ∃ record, readRecord field.1 field.2 = .ok record)
        (fun field => readRecord field.1 field.2 = .error fault) entries ∧
        registry.addEntries entries = .error fault) ∨
      ∃ extended records, registry.addEntries entries = .ok extended ∧
        extended.chainId = registry.chainId ∧ extended.records = registry.records ++ records ∧
        List.Forall₂ (fun field record => readRecord field.1 field.2 = .ok record) entries
          records := by
  induction entries generalizing registry with
  | nil => exact .inr ⟨registry, [], rfl, rfl, (List.append_nil _).symm, .nil⟩
  | cons field rest ih =>
      obtain ⟨name, entry⟩ := field
      rw [addEntries]
      cases read : readRecord name entry with
      | error fault => exact .inl ⟨fault, Computation.firstRefused_cons.mpr (.inl read), rfl⟩
      | ok record =>
          have named := name_of_readRecord read
          have new := fresh (name, entry) List.mem_cons_self
          rw [← named] at new
          obtain ⟨grown, added, records, chainId⟩ := add_of_find?_eq_none new
          rw [List.map_cons, List.nodup_cons] at distinct
          have still : ∀ field ∈ rest, grown.find? (.text field.1) = none := by
            intro other member
            refine find?_eq_none_iff.mpr fun candidate listed same => ?_
            rw [records, List.mem_append, List.mem_singleton] at listed
            obtain old | rfl := listed
            · have absent := fresh other (List.mem_cons_of_mem _ member)
              exact find?_eq_none_iff.mp absent candidate old same
            · rw [named] at same
              cases same
              exact distinct.1 (List.mem_map.mpr ⟨other, member, rfl⟩)
          simp only [bind, Except.bind, added]
          rcases ih distinct.2 still with ⟨fault, refused, ended⟩ |
            ⟨final, others, ended, kept, grownRecords, each⟩
          · exact .inl ⟨fault, Computation.firstRefused_cons.mpr (.inr ⟨⟨record, read⟩, refused⟩), ended⟩
          · refine .inr ⟨final, record :: others, ended, kept.trans chainId, ?_, .cons read each⟩
            rw [grownRecords, records, List.append_assoc]
            rfl

private theorem addEntries_cases (distinct : (entries.map (·.1)).Nodup)
    (fresh : ∀ field ∈ entries, registry.find? (.text field.1) = none) :
    (∃ field ∈ entries, ∃ fault, readRecord field.1 field.2 = .error fault ∧
        registry.addEntries entries = .error fault) ∨
      ∃ extended records, registry.addEntries entries = .ok extended ∧
        extended.chainId = registry.chainId ∧ extended.records = registry.records ++ records ∧
        List.Forall₂ (fun field record => readRecord field.1 field.2 = .ok record) entries
          records := by
  refine (addEntries_split distinct fresh).imp_left ?_
  rintro ⟨fault, ⟨before, field, rest, rfl, _, refused⟩, ended⟩
  exact ⟨field, by simp, fault, refused, ended⟩

private theorem peaceful_requiredField (fields : List (String × Value)) (key : String) :
    Peaceful (requiredField fields key) := by
  unfold requiredField
  split
  · exact .ok _
  · exact .error id

private theorem peaceful_readRecord (name : String) (entry : Value) :
    Peaceful (readRecord name entry) := by
  cases entry with
  | scalar | list => exact .error id
  | object fields =>
      refine .bind (peaceful_requiredField fields "code_id") fun given _ => ?_
      refine .bind (.mapError fun _ => id) fun codeId _ => ?_
      exact .bind (peaceful_requiredField fields "address") fun address _ => .ok _

private theorem peaceful_objectFields (value : Value) : Peaceful (objectFields value) := by
  cases value with
  | scalar | list => exact .error id
  | object fields => exact .ok fields

theorem find?_empty (chainId : Value) (name : Scalar) : (empty chainId).find? name = none :=
  rfl

/-!
## What a document lists
-/

open Json (collect collected collectedFields)

private theorem lookup_collectedFields (fields : List (String × Value)) (key : String) :
    (collectedFields fields).lookup key = (fields.lookup key).map collected := by
  induction fields with
  | nil => rfl
  | cons field rest ih =>
      obtain ⟨name, value⟩ := field
      rw [collectedFields, List.lookup_cons, List.lookup_cons]
      split
      · rfl
      · exact ih

private theorem lookup_collected (fields : List (String × Value)) (key : String) :
    (collect (collectedFields fields)).lookup key = (fields.reverse.lookup key).map collected := by
  rw [Json.lookup_collect, Json.collectedFields_eq_map, ← List.map_reverse,
    ← Json.collectedFields_eq_map, lookup_collectedFields]

theorem field_collected (fields : List (String × Value)) (key : String) (default : Value)
    (plain : collected default = default) :
    Value.field (collect (collectedFields fields)) key default =
      collected ((fields.reverse.lookup key).getD default) := by
  rw [Value.field, lookup_collected]
  cases fields.reverse.lookup key with
  | none => exact plain.symm
  | some value => rfl

private theorem keys_collected (fields : List (String × Value)) :
    (collect (collectedFields fields)).map (·.1) = (fields.map (·.1)).eraseDups := by
  rw [Json.keys_collect, Json.collectedFields_eq_map, List.map_map]
  rfl

/-- The last entry that is listed under a name, as a record. -/
def RecordsLast (entries : List (String × Value)) (name : String) (record : Record) : Prop :=
  ∃ entry, entries.reverse.lookup name = some entry ∧ readRecord name (collected entry) = .ok record

private theorem last_of_mem {field : String × Value} (member : field ∈ collect (collectedFields entries)) :
    ∃ entry, entries.reverse.lookup field.1 = some entry ∧ collected entry = field.2 := by
  have found := Fields.lookup_of_mem (Json.nodup_keys_collect _) member
  rw [lookup_collected, Option.map_eq_some_iff] at found
  exact found

private theorem recordsLast_of_forall₂ {records : List Record}
    (each : List.Forall₂ (fun field record => readRecord field.1 field.2 = .ok record)
      (collect (collectedFields entries)) records) :
    List.Forall₂ (RecordsLast entries) (entries.map (·.1)).eraseDups records := by
  rw [← keys_collected, List.forall₂_map_left_iff]
  obtain ⟨lengths, each⟩ := List.forall₂_iff_zip.mp each
  refine List.forall₂_iff_zip.mpr ⟨lengths, ?_⟩
  intro field record paired
  obtain ⟨entry, found, same⟩ := last_of_mem (List.of_mem_zip paired).1
  refine ⟨entry, found, ?_⟩
  rw [same]
  exact each paired

/-- A text is a document with contracts in an object, which may list a name any number of times,
and so may what is around them. -/
def ListsContracts (text : String) (chainId : Value) (entries : List (String × Value)) : Prop :=
  ∃ fields given, Json.Listed text (.object fields) ∧
    (fields.reverse.lookup "metadata").getD (.object []) = .object given ∧
    (fields.reverse.lookup "contracts").getD (.object []) = .object entries ∧
    collected ((given.reverse.lookup "chain_id").getD .null) = chainId

private theorem load_of_lists {chainId : Value} (readable : files.readText path = .ok text)
    (lists : ListsContracts text chainId entries) :
    load files path = (empty chainId).addEntries (collect (collectedFields entries)) := by
  obtain ⟨fields, given, listed, metadata, contracts, rfl⟩ := lists
  have there : files.isThere path = .ok true := by
    obtain ⟨node, found, _⟩ := Computation.bind_eq_ok readable
    exact Files.isThere_of_find found
  have parsed := Json.read_eq_ok_iff.mpr ⟨_, listed, rfl⟩
  have metadataRead := field_collected fields "metadata" (.object []) rfl
  have contractsRead := field_collected fields "contracts" (.object []) rfl
  have chainRead := field_collected given "chain_id" .null rfl
  rw [metadata] at metadataRead
  rw [contracts] at contractsRead
  simp only [load, there, readDocument, readable, parsed, bind, Except.bind, Except.mapError, ofValue,
    if_true]
  simp only [collected, objectFields, metadataRead, contractsRead]
  rw [Value.fieldOrNull, chainRead]

theorem distinct_of_objectFields {value : Value}
    (given : objectFields (collected value) = .ok entries) : (entries.map (·.1)).Nodup := by
  cases value with
  | scalar | list => cases given
  | object listed =>
      cases given
      exact Json.nodup_keys_collect _

private theorem peaceful_addEntries (chainId : Value) (distinct : (entries.map (·.1)).Nodup) :
    Peaceful ((empty chainId).addEntries entries) := by
  have fresh : ∀ field ∈ entries, (empty chainId).find? (.text field.1) = none :=
    fun field _ => find?_empty chainId (.text field.1)
  rcases addEntries_cases distinct fresh with ⟨field, _, fault, refused, ended⟩ |
    ⟨extended, _, ended, _⟩
  · rw [ended]
    exact .error (peaceful_readRecord field.1 field.2 fault refused)
  · rw [ended]
    exact .ok extended

private theorem peaceful_ofValue (listed : Value) : Peaceful (ofValue (collected listed)) := by
  refine .bind (peaceful_objectFields _) fun fields top => ?_
  refine .bind (peaceful_objectFields _) fun metadata _ => ?_
  refine .bind (peaceful_objectFields _) fun entries contracts => ?_
  cases listed with
  | scalar | list => cases top
  | object raw =>
      cases top
      rw [field_collected raw "contracts" (.object []) rfl] at contracts
      exact peaceful_addEntries _ (distinct_of_objectFields contracts)

private theorem peaceful_load (files : Files) (path : Path) : Peaceful (load files path) := by
  refine .bind (.mapError fun _ => id) fun there _ => ?_
  cases there with
  | false => exact .error id
  | true =>
      refine .bind ?_ fun document read => ?_
      · exact .bind (.mapError fun _ => id) fun content _ => .mapError fun _ => id
      · obtain ⟨content, _, parsed⟩ := Computation.bind_eq_ok read
        obtain ⟨listed, _, rfl⟩ := Json.read_eq_ok_iff.mp (Computation.mapError_eq_ok.mp parsed)
        exact peaceful_ofValue listed

/-- No file conflicts, so a repeated name is never reported. Of what is listed under a name, in
whatever spelling, its last entry is recorded at the place of the first; a file is refused only for
a last entry that cannot be read. Names that differ only in halves of surrogate pairs count as one,
for the reader replaces these. -/
theorem load_keeps_last (files : Files) (path : Path) :
    (∀ fault, load files path = .error fault → ¬fault.Conflicts) ∧
      ∀ text chainId entries, files.readText path = .ok text →
        ListsContracts text chainId entries →
          ((¬(entries.map (·.1)).Nodup →
              ∃ fault, load files path = .error fault ∧ fault.Conflicts) ↔
            (entries.map (·.1)).Nodup) ∧
          (∀ registry, load files path = .ok registry → registry.chainId = chainId ∧
            List.Forall₂ (RecordsLast entries) (entries.map (·.1)).eraseDups registry.records) ∧
          ∀ fault, load files path = .error fault →
            ∃ name entry, entries.reverse.lookup name = some entry ∧
              readRecord name (collected entry) = .error fault := by
  have peaceful : ∀ fault, load files path = .error fault → ¬fault.Conflicts :=
    peaceful_load files path
  refine ⟨peaceful, ?_⟩
  intro text chainId entries readable lists
  refine ⟨⟨?_, fun distinct repeated => absurd distinct repeated⟩, ?_⟩
  · intro reported
    by_contra repeated
    obtain ⟨fault, failed, conflicts⟩ := reported repeated
    exact peaceful fault failed conflicts
  have fresh : ∀ field ∈ collect (collectedFields entries),
      (empty chainId).find? (.text field.1) = none :=
    fun field _ => find?_empty chainId (.text field.1)
  rw [load_of_lists readable lists]
  rcases addEntries_cases (Json.nodup_keys_collect _) fresh with
    ⟨field, member, culprit, refused, ended⟩ | ⟨extended, records, ended, chain, grown, each⟩
  · rw [ended]
    constructor
    · intro registry loaded
      cases loaded
    · intro fault failed
      cases failed
      obtain ⟨entry, found, same⟩ := last_of_mem member
      exact ⟨field.1, entry, found, same ▸ refused⟩
  · rw [ended]
    constructor
    · intro registry loaded
      cases loaded
      refine ⟨chain, ?_⟩
      rw [grown]
      exact recordsLast_of_forall₂ each
    · intro fault failed
      cases failed

/-!
## A contract listed under two spellings
-/

/-- A document whose contract is listed at two addresses, once with an escape in its name. -/
def twiceListedText : String :=
  "\x7b\"contracts\": \x7b\"hub\": \x7b\"code_id\": 7, \"address\": \"terra1\"\x7d, " ++
    "\"h\\u0075b\": \x7b\"code_id\": 8, \"address\": \"terra2\"\x7d\x7d\x7d"

def listedEntry (codeId : Int) (address : String) : Value :=
  .object [("code_id", .int codeId), ("address", .text address)]

def twiceListedEntries : List (String × Value) :=
  [("hub", listedEntry 7 "terra1"), ("hub", listedEntry 8 "terra2")]

def twiceListedFiles : Files :=
  ⟨⟨"/", []⟩, [(foreignPlace, .text twiceListedText)]⟩

private theorem twiceListed_listed :
    Json.Listed twiceListedText (.object [("contracts", .object twiceListedEntries)]) := by
  refine ⟨by decide +kernel, [], ?_, rfl⟩
  exact .object (.last rfl
    (.object (.more rfl
      (.object (.more rfl (.plain rfl) rfl (.last rfl (.text rfl) rfl))) rfl
      (.last rfl (.object (.more rfl (.plain rfl) rfl (.last rfl (.text rfl) rfl))) rfl)))
    rfl)

private theorem twiceListed_contracts :
    ListsContracts twiceListedText .null twiceListedEntries :=
  ⟨_, [], twiceListed_listed, rfl, rfl, rfl⟩

private theorem twiceListed_text :
    twiceListedFiles.readText foreignPlace = .ok twiceListedText := by
  decide +kernel

/-- What the file is loaded as. -/
def onceListed : Registry :=
  ⟨.null, [⟨.text "hub", .int 8, .text "terra2"⟩], by decide⟩

private theorem twiceListed_load : load twiceListedFiles foreignPlace = .ok onceListed := by
  rw [load_of_lists twiceListed_text twiceListed_contracts]
  rfl

theorem twiceListed_keeps_last :
    List.Forall₂ (RecordsLast twiceListedEntries) ["hub"] onceListed.records :=
  (((load_keeps_last twiceListedFiles foreignPlace).2 twiceListedText .null twiceListedEntries
    twiceListed_text twiceListed_contracts).2.1 onceListed twiceListed_load).2

/-- The first of two records of one contract is dropped without a fault. -/
theorem twiceListed_first_dropped :
    ListsContracts twiceListedText .null
        [("hub", listedEntry 7 "terra1"), ("hub", listedEntry 8 "terra2")] ∧
      ∃ registry, load twiceListedFiles foreignPlace = .ok registry ∧
        registry.records = [⟨.text "hub", .int 8, .text "terra2"⟩] :=
  ⟨twiceListed_contracts, onceListed, twiceListed_load, rfl⟩

end Registry

end Rollout
