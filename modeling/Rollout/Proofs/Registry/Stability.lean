import Rollout.Proofs.Template.Filling

/-!
# Stability of registries

Records are entered one after the other in a registry that only grows: a record whose name is there
already is refused and leaves the registry as it was. So a template stays what it was resolved to,
and what it was resolved to needs no registry any more.
-/

set_option autoImplicit false

namespace Rollout.Registry

/-- Enters a record in the registry at hand. -/
def enter (record : Record) : ExceptT Fault (StateM Registry) Unit := do
  let extended ← (← get).add record
  set extended

/-- Enters records one after the other and goes on behind those that are refused. What became of
each is told. -/
def enterEach (records : List Record) : StateM Registry (List (Except Fault Unit)) :=
  records.mapM fun record => (enter record).run

variable (registry : Registry)

private theorem run_enter (record : Record) :
    (enter record).run.run registry =
      match registry.add record with
      | .ok extended => (.ok (), extended)
      | .error fault => (.error fault, registry) := by
  have looked : (get : ExceptT Fault (StateM Registry) Registry).run.run registry =
      (.ok registry, registry) := rfl
  rw [enter, Computation.run_bind_ok looked]
  cases registry.add record with
  | ok extended => rfl
  | error fault => rfl

private theorem run_enter_cases (record : Record) :
    (∃ existing ∈ registry.records, existing.name.sameName record.name = true ∧
        (enter record).run.run registry =
          (.error (.alreadyRecorded record.name existing.address existing.codeId), registry)) ∨
      ∃ extended, (enter record).run.run registry = (.ok (), extended) ∧
        extended.records = registry.records ++ [record] := by
  rw [run_enter]
  cases found : registry.find? record.name with
  | some existing =>
      obtain ⟨member, same⟩ := find?_eq_some_iff.mp found
      rw [add_of_find?_eq_some found]
      exact .inl ⟨existing, member, Scalar.sameName_iff.mpr same, rfl⟩
  | none =>
      obtain ⟨extended, added, records, _⟩ := add_of_find?_eq_none found
      rw [added]
      exact .inr ⟨extended, rfl, records⟩

private theorem enter_keeps (record : Record) :
    registry.records <+: ((enter record).run.run registry).2.records := by
  rcases registry.run_enter_cases record with ⟨_, _, _, refused⟩ | ⟨extended, entered, records⟩
  · simp [refused]
  · rw [entered, records]
    exact List.prefix_append _ _

private theorem run_enterEach_cons (record : Record) (rest : List Record) :
    ((enterEach (record :: rest)).run registry).2 =
      ((enterEach rest).run ((enter record).run.run registry).2).2 := by
  rw [enterEach, List.mapM_cons]
  rfl

/-- What is recorded stays, and stays in place, whatever is entered and refused. -/
theorem enterEach_keeps (records : List Record) :
    registry.records <+: ((enterEach records).run registry).2.records := by
  induction records generalizing registry with
  | nil => exact List.prefix_refl _
  | cons record rest ih =>
      rw [run_enterEach_cons]
      exact (registry.enter_keeps record).trans (ih _)

/-- A record that is refused changes nothing, a template is resolved to the same value however many
records are entered or refused behind it, and that value is resolved to itself everywhere. -/
theorem resolution_stable (chainId : Value) (earlier later : List Record) (template : Template)
    (stand : Option String) (contract : Option Scalar) :
    let reached := ((enterEach earlier).run (empty chainId)).2
    (∀ record fault after, (enter record).run.run reached = (.error fault, after) →
        after = reached ∧
          ∃ existing ∈ reached.records, existing.name.sameName record.name = true ∧
            fault = .alreadyRecorded record.name existing.address existing.codeId) ∧
      ∀ value, reached.resolve template stand contract = .ok value →
        ((enterEach later).run reached).2.resolve template stand contract = .ok value ∧
          ∀ (other : Registry) (address : Option String) (about : Option Scalar),
            other.resolve (.ofValue value) address about = .ok value := by
  intro reached
  constructor
  · intro record fault after refused
    rcases reached.run_enter_cases record with ⟨existing, member, same, told⟩ | ⟨_, entered, _⟩
    · rw [told] at refused
      cases refused
      exact ⟨rfl, existing, member, same, rfl⟩
    · rw [entered] at refused
      cases refused
  · intro value resolved
    have filled := Template.resolve_eq_ok_iff.mp resolved
    have kept := reached.enterEach_keeps later
    constructor
    · exact Template.resolve_eq_ok_iff.mpr (filled.mono kept.subset)
    · intro other address about
      exact Template.resolve_eq_ok_iff.mpr (Template.fills_ofValue value)

def firstHub : Record :=
  ⟨.text "hub", .int 3, .text "terra1hub"⟩

/-- Another contract of the same name. -/
def rivalHub : Record :=
  ⟨.text "hub", .int 4, .text "terra1rival"⟩

def lateTreasury : Record :=
  ⟨.text "treasury", .int 5, .text "terra1treasury"⟩

/-- What was settled on the first hub stays settled on it, while a rival is refused and a treasury
entered. -/
theorem settled_on_first_hub :
    let reached := ((enterEach [firstHub]).run (empty (.text "localterra"))).2
    let grown := ((enterEach [rivalHub, lateTreasury]).run reached).2
    let template :=
      .object [("owner", .reference ⟨"hub", .address⟩), ("ids", .tuple [.placeholder])]
    let message := .object [("owner", .text "terra1hub"), ("ids", .list [.text "terra1me"])]
    (enter rivalHub).run.run reached =
        (.error (.alreadyRecorded (.text "hub") (.text "terra1hub") (.int 3)), reached) ∧
      grown.records = [firstHub, lateTreasury] ∧
      reached.resolve template (some "terra1me") none = .ok message ∧
      grown.resolve template (some "terra1me") none = .ok message ∧
      (empty .null).resolve (.ofValue message) none none = .ok message := by
  intro reached grown template message
  have settled : reached.resolve template (some "terra1me") none = .ok message := rfl
  obtain ⟨refusal, stable⟩ := resolution_stable (.text "localterra") [firstHub]
    [rivalHub, lateTreasury] template (some "terra1me") none
  obtain ⟨kept, everywhere⟩ := stable message settled
  have same := (refusal rivalHub _ ((enter rivalHub).run.run reached).2 rfl).1
  exact ⟨Prod.ext rfl same, rfl, settled, kept, everywhere (empty .null) none none⟩

end Rollout.Registry
