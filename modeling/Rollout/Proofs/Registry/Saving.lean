import Rollout.Proofs.Files.Writing
import Rollout.Proofs.Json.Ascii
import Rollout.Proofs.Registry.Growth
import Rollout.Registry.Document

/-!
# Saved registries

A registry whose names are texts and whose code ids are integers is given back by its document and
by the file that it is saved in: the same chain and the same records in their order.
-/

set_option autoImplicit false

namespace Rollout

/-- A record with a text for its name and an integer of at most 4300 digits for its code id. -/
structure Record.Coded (record : Record) : Prop where
  name : ∃ text, record.name = .text text
  codeId : ∃ number : Int, record.codeId = .int number ∧
    number.natAbs < 10 ^ Number.digitLimit

/-- A record that can be read again, whatever was given for its address. -/
structure Record.Legible (record : Record) : Prop extends record.Coded where
  address : record.address.Quotable

/-- A record that a document gives back. -/
structure Record.Storable (record : Record) : Prop where
  name : ∃ text, record.name = .text text
  codeId : ∃ number : Int, record.codeId = .int number ∧
    number.natAbs < 10 ^ Number.digitLimit
  address : Json.Kept record.address

/-- A registry that a document gives back. -/
structure Registry.Storable (registry : Registry) : Prop where
  chainId : Json.Kept registry.chainId
  records : ∀ record ∈ registry.records, record.Storable

theorem Record.Storable.legible {record : Record} (storable : record.Storable) : record.Legible :=
  ⟨⟨storable.name, storable.codeId⟩, Json.quotable_of_kept storable.address⟩

/-- A record as its document gives it back. -/
def Record.returned (record : Record) : Record :=
  { record with address := Json.returned record.address }

namespace Registry

def Coded (registry : Registry) : Prop :=
  ∀ record ∈ registry.records, record.Coded

/-- A registry that can be read again, whatever was given for its addresses. -/
structure Legible (registry : Registry) : Prop where
  chainId : registry.chainId.Quotable
  records : ∀ record ∈ registry.records, record.Legible

/-- A registry whose document can be written: its integers have at most 4300 digits. -/
structure Writable (registry : Registry) : Prop where
  chainId : registry.chainId.Quotable
  records : ∀ record ∈ registry.records, record.codeId.Quotable ∧ record.address.Quotable

/-- A registry as its document gives it back: its names and its code ids are as before. -/
def returned (registry : Registry) : Registry where
  chainId := Json.returned registry.chainId
  records := registry.records.map Record.returned
  distinct := by
    rw [List.map_map]
    exact registry.distinct

theorem eq_of_records {left right : Registry} (chainId : left.chainId = right.chainId)
    (records : left.records = right.records) : left = right := by
  cases left
  cases right
  cases chainId
  cases records
  rfl

theorem storable_empty {chainId : Value} (kept : Json.Kept chainId) : (empty chainId).Storable :=
  ⟨kept, fun _ member => absurd member List.not_mem_nil⟩

variable {registry : Registry}

theorem Legible.coded (legible : registry.Legible) : registry.Coded :=
  fun record member => (legible.records record member).toCoded

theorem Legible.append {extended : Registry} {record : Record} (earlier : registry.Legible)
    (last : record.Legible) (records : extended.records = registry.records ++ [record])
    (chainId : extended.chainId = registry.chainId) : extended.Legible := by
  refine ⟨chainId ▸ earlier.chainId, fun other member => ?_⟩
  rw [records, List.mem_append] at member
  rcases member with old | new
  · exact earlier.records other old
  · obtain rfl := List.mem_singleton.mp new
    exact last

theorem Storable.legible (storable : registry.Storable) : registry.Legible where
  chainId := Json.quotable_of_kept storable.chainId
  records := fun record member => (storable.records record member).legible

private theorem Storable.returned_eq (storable : registry.Storable) :
    registry.returned = registry := by
  have same : ∀ record ∈ registry.records, record.returned = record := by
    intro record member
    rw [Record.returned, Json.returned_of_kept (storable.records record member).address]
  refine eq_of_records (Json.returned_of_kept storable.chainId) ?_
  exact (List.map_congr_left same).trans (List.map_id' _)

private theorem Coded.returned (coded : registry.Coded) : registry.returned.Coded := by
  intro record member
  obtain ⟨old, among, rfl⟩ := List.mem_map.mp member
  exact ⟨(coded old among).name, (coded old among).codeId⟩

private theorem readRecord_recordValue {record : Record} {name : String} (coded : record.Coded)
    (named : record.name = .text name) : readRecord name (recordValue record) = .ok record := by
  obtain ⟨_, number, counted, _⟩ := coded
  rcases record with ⟨name', codeId, address⟩
  dsimp only at named counted
  subst named counted
  rfl

private theorem addEntries_records {records : List Record}
    (coded : ∀ record ∈ records, record.Coded) :
    ∀ registry : Registry,
      ((registry.records ++ records).map fun record => record.name.key).Nodup →
      ∃ extended, registry.addEntries
          (records.map fun record => (record.name.toFieldKey, recordValue record)) = .ok extended ∧
        extended.records = registry.records ++ records ∧ extended.chainId = registry.chainId := by
  induction records with
  | nil =>
      intro registry _
      exact ⟨registry, rfl, (List.append_nil _).symm, rfl⟩
  | cons record rest ih =>
      intro registry distinct
      have here := coded record List.mem_cons_self
      obtain ⟨name, named⟩ := here.name
      have read := readRecord_recordValue here named
      have fresh : registry.find? record.name = none := by
        refine find?_eq_none_iff.mpr fun other member same => ?_
        rw [List.map_append, List.nodup_append] at distinct
        exact distinct.2.2 _ (List.mem_map.mpr ⟨other, member, rfl⟩) _
          (List.mem_map.mpr ⟨record, List.mem_cons_self, rfl⟩) same
      obtain ⟨extended, added, records, chainId⟩ := add_of_find?_eq_none fresh
      have distinctNow : ((extended.records ++ rest).map fun record => record.name.key).Nodup := by
        rw [records, List.append_assoc, List.singleton_append]
        exact distinct
      obtain ⟨final, addedRest, recordsRest, chainIdRest⟩ :=
        ih (fun other member => coded other (List.mem_cons_of_mem _ member)) extended distinctNow
      refine ⟨final, ?_, ?_, chainIdRest.trans chainId⟩
      · rw [List.map_cons, addEntries]
        have key : record.name.toFieldKey = name := by rw [named]; rfl
        rw [key, read]
        simp only [bind, Except.bind, added]
        exact addedRest
      · rw [recordsRest, records, List.append_assoc, List.singleton_append]

private theorem ofValue_toValue_of_coded (coded : registry.Coded) (clock : String) :
    ofValue (registry.toValue clock) = .ok registry := by
  obtain ⟨extended, added, records, chainId⟩ :=
    addEntries_records coded (empty registry.chainId) registry.distinct
  have same : extended = registry := eq_of_records chainId records
  rw [same] at added
  simpa [ofValue, toValue, objectFields, Value.field, Value.fieldOrNull, List.lookup_cons,
    List.lookup_nil, bind, Except.bind] using added

/-- A registry is given back by its document. -/
theorem ofValue_toValue (storable : registry.Storable) (clock : String) :
    ofValue (registry.toValue clock) = .ok registry :=
  ofValue_toValue_of_coded storable.legible.coded clock

private theorem Coded.distinctKeys (coded : registry.Coded) :
    (registry.records.map fun record => record.name.toFieldKey).Nodup := by
  refine List.Nodup.map_on ?_ (List.Nodup.of_map _ registry.distinct)
  intro record member other otherMember same
  obtain ⟨name, named⟩ := (coded record member).name
  obtain ⟨otherName, otherNamed⟩ := (coded other otherMember).name
  rw [named, otherNamed] at same
  have equal : name = otherName := same
  refine List.inj_on_of_nodup_map registry.distinct member otherMember ?_
  rw [named, otherNamed, equal]

private theorem returned_recordValue {record : Record} (coded : record.Coded) :
    Json.returned (recordValue record) = recordValue record.returned := by
  obtain ⟨_, number, counted, _⟩ := coded
  rw [recordValue, Json.returned_object, Json.collect_of_nodup (by simp), counted]
  simp [recordValue, Record.returned, counted, Json.returned, Json.reread, Json.rereadScalar,
    Json.collected]

/-- The document of a registry is given back as the document of what is given back. -/
theorem returned_toValue (coded : registry.Coded) (clock : String) :
    Json.returned (registry.toValue clock) = registry.returned.toValue clock := by
  have metadata : Json.returned (.object [("chain_id", registry.chainId),
      ("updated_at", .text clock)]) =
        .object [("chain_id", Json.returned registry.chainId), ("updated_at", .text clock)] := by
    rw [Json.returned_object, Json.collect_of_nodup (by simp)]
    rfl
  have contracts : Json.returned (.object (registry.records.map fun record =>
      (record.name.toFieldKey, recordValue record))) =
        .object (registry.records.map fun record =>
          (record.name.toFieldKey, recordValue record.returned)) := by
    rw [Json.returned_object, List.map_map, Json.collect_of_nodup]
    · congr 1
      refine List.map_congr_left fun record member => ?_
      exact congrArg _ (returned_recordValue (coded record member))
    · rw [List.map_map]
      exact coded.distinctKeys
  rw [toValue, Json.returned_object, Json.collect_of_nodup (by simp)]
  simp only [List.map_cons, List.map_nil, metadata, contracts]
  simp [toValue, returned, Function.comp_def, Record.returned]

theorem Legible.writable (legible : registry.Legible) : registry.Writable where
  chainId := legible.chainId
  records record member := by
    have here := legible.records record member
    obtain ⟨number, counted, bounded⟩ := here.codeId
    refine ⟨?_, here.address⟩
    rw [counted]
    exact bounded

theorem quotable_toValue_iff (clock : String) :
    (registry.toValue clock).Quotable ↔ registry.Writable := by
  have entries : Value.FieldsHold Scalar.Quotable
      (registry.records.map fun record => (record.name.toFieldKey, recordValue record)) ↔
        ∀ record ∈ registry.records, record.codeId.Quotable ∧ record.address.Quotable := by
    rw [Value.fieldsHold_iff, List.forall_mem_map]
    exact forall₂_congr fun record _ => and_congr_right' (iff_of_eq (and_true _))
  constructor
  · rintro ⟨⟨chainId, _⟩, contracts, _⟩
    exact ⟨chainId, entries.mp contracts⟩
  · intro writable
    exact ⟨⟨writable.chainId, trivial, trivial⟩, entries.mpr writable.records, trivial⟩

private theorem load_of_find_returned {layout : Json.Layout} (regular : layout.Regular)
    (plain : layout.Plain) {files : Files} {path : Path} {document : Value}
    (bounded : document.Quotable)
    (found : files.find path = .ok (.text (Json.print layout document))) :
    load files path = ofValue (Json.returned document) := by
  have there := Files.isThere_of_find found
  have text := Files.readText_of_find found (Json.carriageReturn_notMem_print plain document)
  have given : Json.read (Json.print layout document) = .ok (Json.returned document) :=
    Json.read_print_eq_returned regular bounded
  simp only [load, there, readDocument, text, given, bind, Except.bind, Except.mapError]
  rfl

theorem load_of_find {layout : Json.Layout} (regular : layout.Regular) (plain : layout.Plain)
    {files : Files} {path : Path} {document : Value} (kept : Json.Kept document)
    (found : files.find path = .ok (.text (Json.print layout document))) :
    load files path = ofValue document := by
  rw [load_of_find_returned regular plain (Json.quotable_of_kept kept) found,
    Json.returned_of_kept kept]

variable {files after : Files} {path : Path} {clock : String}

/-- A registry is saved just if it can be written and its text is installed. -/
theorem save_eq_ok_iff :
    (registry.save path clock).run.run files = (.ok (), after) ↔
      registry.Writable ∧
        (Files.install path (.text (registry.print clock))).run.run files = (.ok (), after) := by
  rw [save, ← quotable_toValue_iff clock, ← Value.isQuotable_iff]
  split
  · next written => exact (and_iff_right written).symm
  · next long =>
      refine iff_of_false (fun saved => ?_) (fun both => long both.1)
      -- the front of the text is written, and then writing breaks off
      obtain ⟨_, _, _, broken⟩ := Computation.run_bind_eq_ok saved
      cases broken

/-- A registry that was saved is loaded again as its document gives it back. -/
theorem load_of_save_returned (legible : registry.Legible)
    (saved : (registry.save path clock).run.run files = (.ok (), after)) :
    load after path = .ok registry.returned := by
  have loaded := load_of_find_returned Json.regular_indented Json.plain_indented
    ((quotable_toValue_iff clock).mpr legible.writable) (Files.find_install (save_eq_ok_iff.mp saved).2)
  rw [loaded, returned_toValue legible.coded]
  exact ofValue_toValue_of_coded legible.coded.returned clock

/-- A registry that was saved is loaded again. -/
theorem load_of_save (storable : registry.Storable)
    (saved : (registry.save path clock).run.run files = (.ok (), after)) :
    load after path = .ok registry := by
  rw [load_of_save_returned storable.legible saved, storable.returned_eq]

end Registry

end Rollout
