import Mathlib.Data.List.Forall2

/-!
# Computations step by step

What a computation that may fail comes to is read off its first part and then off the rest.
-/

set_option autoImplicit false

namespace Rollout.Computation

variable {ε σ α β : Type}

theorem map_eq_ok {computation : Except ε α} {function : α → β} {result : β}
    (accepted : computation.map function = .ok result) :
    ∃ value, computation = .ok value ∧ function value = result := by
  cases computation with
  | error _ => cases accepted
  | ok value => exact ⟨value, rfl, Except.ok.inj accepted⟩

theorem bind_eq_ok {computation : Except ε α} {next : α → Except ε β} {result : β}
    (accepted : computation >>= next = .ok result) :
    ∃ value, computation = .ok value ∧ next value = .ok result := by
  cases computation with
  | error _ => cases accepted
  | ok value => exact ⟨value, rfl, accepted⟩

theorem bind_eq_error {computation : Except ε α} {next : α → Except ε β} {fault : ε}
    (failed : computation >>= next = .error fault) :
    computation = .error fault ∨ ∃ value, computation = .ok value ∧ next value = .error fault := by
  cases computation with
  | error _ =>
      cases failed
      exact .inl rfl
  | ok value => exact .inr ⟨value, rfl, failed⟩

theorem mapError_eq_ok {δ : Type} {computation : Except ε α} {rename : ε → δ} {result : α} :
    computation.mapError rename = .ok result ↔ computation = .ok result := by
  cases computation <;> simp [Except.mapError]

theorem mapError_eq_error {δ : Type} {computation : Except ε α} {rename : ε → δ} {fault : δ} :
    computation.mapError rename = .error fault ↔
      ∃ cause, computation = .error cause ∧ rename cause = fault := by
  cases computation <;> simp [Except.mapError]

/-!
## Why a computation fails
-/

section

variable {γ : Type}

/-- Why a computation fails, if it does. -/
def reason? : Except ε α → Option ε
  | .ok _ => none
  | .error reason => some reason

theorem reason?_eq_some_iff {computation : Except ε α} {reason : ε} :
    reason? computation = some reason ↔ computation = .error reason := by
  cases computation <;> simp [reason?]

theorem reason?_eq_none_iff {computation : Except ε α} :
    reason? computation = none ↔ ∃ value, computation = .ok value := by
  cases computation <;> simp [reason?]

theorem reason?_map (computation : Except ε α) (function : α → β) :
    reason? (computation.map function) = reason? computation := by
  cases computation <;> rfl

/-- Of two computations one after the other, the first that fails is the reason. -/
theorem reason?_both (first : Except ε α) (second : Except ε β) (function : α → β → γ) :
    reason? (do
      let here ← first
      let there ← second
      return function here there) = (reason? first).or (reason? second) := by
  cases first with
  | error _ => rfl
  | ok _ => cases second <;> rfl

end

/-!
## Failures of a kind
-/

/-- A computation fails in a way that has a property. -/
def Fails (property : ε → Prop) (computation : Except ε α) : Prop :=
  ∃ fault, computation = .error fault ∧ property fault

/-- The first item that is not accepted is refused. -/
def FirstRefused (accepted refused : α → Prop) (items : List α) : Prop :=
  ∃ before culprit rest, items = before ++ culprit :: rest ∧
    (∀ earlier ∈ before, accepted earlier) ∧ refused culprit

section

variable {property other : ε → Prop} {computation : Except ε α}

@[simp] theorem not_fails_ok (value : α) : ¬Fails property (.ok value : Except ε α) := by
  simp [Fails]

@[simp] theorem fails_error (fault : ε) :
    Fails property (.error fault : Except ε α) ↔ property fault := by
  simp [Fails]

/-- A computation fails in one way. -/
theorem Fails.both (fails : Fails property computation) (again : Fails other computation) :
    ∃ fault, property fault ∧ other fault := by
  obtain ⟨fault, rfl, holds⟩ := fails
  exact ⟨fault, holds, (fails_error fault).mp again⟩

theorem Fails.imp (implies : ∀ fault, property fault → other fault)
    (fails : Fails property computation) : Fails other computation := by
  obtain ⟨fault, failed, holds⟩ := fails
  exact ⟨fault, failed, implies fault holds⟩

theorem fails_bind {next : α → Except ε β} :
    Fails property (computation >>= next) ↔
      Fails property computation ∨
        ∃ value, computation = .ok value ∧ Fails property (next value) := by
  cases computation with
  | error fault =>
      rw [show (.error fault >>= next : Except ε β) = .error fault from rfl]
      simp
  | ok value =>
      rw [show (.ok value >>= next : Except ε β) = next value from rfl]
      simp

end

section

variable {accepted refused : α → Prop} {item : α} {rest : List α}

theorem not_firstRefused_nil : ¬FirstRefused accepted refused [] := by
  rintro ⟨before, culprit, rest, split, _⟩
  simp at split

theorem firstRefused_cons :
    FirstRefused accepted refused (item :: rest) ↔
      refused item ∨ accepted item ∧ FirstRefused accepted refused rest := by
  constructor
  · rintro ⟨before, culprit, behind, split, passed, refusal⟩
    cases before with
    | nil =>
        cases split
        exact .inl refusal
    | cons first others =>
        cases split
        obtain ⟨here, earlier⟩ := List.forall_mem_cons.mp passed
        exact .inr ⟨here, others, culprit, behind, rfl, earlier, refusal⟩
  · rintro (refusal | ⟨here, before, culprit, behind, rfl, passed, refusal⟩)
    · exact ⟨[], item, rest, rfl, List.forall_mem_nil _, refusal⟩
    · exact ⟨item :: before, culprit, behind, rfl, List.forall_mem_cons.mpr ⟨here, passed⟩,
        refusal⟩

/-- Where all that is not accepted is refused, some item is. -/
theorem firstRefused_not_iff {items : List α} :
    FirstRefused accepted (fun item => ¬accepted item) items ↔ ∃ item ∈ items, ¬accepted item := by
  induction items with
  | nil => simp [not_firstRefused_nil]
  | cons first others ih =>
      rw [firstRefused_cons, ih, List.exists_mem_cons_iff]
      by_cases here : accepted first
      · simp [here]
      · simp [here]

variable (exclusive : ∀ item, accepted item → ¬refused item)
include exclusive

theorem not_firstRefused {items : List α} (passed : ∀ item ∈ items, accepted item) :
    ¬FirstRefused accepted refused items := by
  rintro ⟨before, culprit, behind, rfl, _, refusal⟩
  exact exclusive culprit (passed culprit (by simp)) refusal

/-- It is the first item that is not accepted on which all depends. -/
theorem firstRefused_append {before : List α} (passed : ∀ earlier ∈ before, accepted earlier)
    (stopped : ¬accepted item) :
    FirstRefused accepted refused (before ++ item :: rest) ↔ refused item := by
  induction before with
  | nil => simp [firstRefused_cons, stopped]
  | cons first others ih =>
      obtain ⟨here, earlier⟩ := List.forall_mem_cons.mp passed
      rw [List.cons_append, firstRefused_cons, ih earlier]
      simp [here, exclusive first here]

end

/-!
## Computations with a state
-/

/-- A computation that changes a state goes on behind a first part unless that fails. -/
theorem run_bind (first : ExceptT ε (StateM σ) α) (next : α → ExceptT ε (StateM σ) β) (state : σ) :
    (first >>= next).run.run state =
      match first.run.run state with
      | (.ok value, after) => (next value).run.run after
      | (.error fault, after) => (.error fault, after) := by
  simp only [ExceptT.run_bind, StateT.run_bind]
  rcases first.run.run state with ⟨answer, after⟩
  cases answer with
  | ok _ => rfl
  | error _ => rfl

theorem run_bind_ok {first : ExceptT ε (StateM σ) α} {next : α → ExceptT ε (StateM σ) β}
    {state after : σ} {value : α} (ran : first.run.run state = (.ok value, after)) :
    (first >>= next).run.run state = (next value).run.run after := by
  rw [run_bind, ran]

theorem run_bind_error {first : ExceptT ε (StateM σ) α} {next : α → ExceptT ε (StateM σ) β}
    {state after : σ} {fault : ε} (ran : first.run.run state = (.error fault, after)) :
    (first >>= next).run.run state = (.error fault, after) := by
  rw [run_bind, ran]

/-- What is tried and fails goes on with the rescue, in the state that it left. -/
theorem run_tryCatch_error {attempt : ExceptT ε (StateM σ) α} {rescue : ε → ExceptT ε (StateM σ) α}
    {state after : σ} {fault : ε} (ran : attempt.run.run state = (.error fault, after)) :
    (tryCatch attempt rescue).run.run state = (rescue fault).run.run after := by
  simp only [tryCatch, tryCatchThe, MonadExceptOf.tryCatch, ExceptT.tryCatch, ExceptT.run_mk,
    StateT.run_bind]
  rw [ExceptT.run] at ran
  rw [ran]
  rfl

theorem run_bind_eq_ok {first : ExceptT ε (StateM σ) α} {next : α → ExceptT ε (StateM σ) β}
    {state final : σ} {result : β}
    (accepted : (first >>= next).run.run state = (.ok result, final)) :
    ∃ value after, first.run.run state = (.ok value, after) ∧
      (next value).run.run after = (.ok result, final) := by
  rw [run_bind] at accepted
  rcases ran : first.run.run state with ⟨answer, after⟩
  rw [ran] at accepted
  cases answer with
  | ok value => exact ⟨value, after, rfl, accepted⟩
  | error fault => cases accepted

/-- What succeeds when it is tried succeeded at once, or its rescue did. -/
theorem run_tryCatch_eq_ok {attempt : ExceptT ε (StateM σ) α} {rescue : ε → ExceptT ε (StateM σ) α}
    {state final : σ} {result : α}
    (accepted : (tryCatch attempt rescue).run.run state = (.ok result, final)) :
    attempt.run.run state = (.ok result, final) ∨
      ∃ fault after, (rescue fault).run.run after = (.ok result, final) := by
  rcases ran : attempt.run.run state with ⟨answer, after⟩
  cases answer with
  | error fault => exact .inr ⟨fault, after, run_tryCatch_error ran ▸ accepted⟩
  | ok value =>
      refine .inl ?_
      rw [← accepted]
      simp only [tryCatch, tryCatchThe, MonadExceptOf.tryCatch, ExceptT.tryCatch, ExceptT.run_mk,
        StateT.run_bind]
      rw [ExceptT.run] at ran
      rw [ran]
      rfl

/-- What all items are, all that is related to them is. -/
theorem forall_mem_iff {relation : α → β → Prop} {left : List α} {right : List β}
    {here : α → Prop} {there : β → Prop} (related : List.Forall₂ relation left right)
    (each : ∀ first second, relation first second → (here first ↔ there second)) :
    (∀ first ∈ left, here first) ↔ ∀ second ∈ right, there second := by
  induction related with
  | nil => simp
  | cons head _ ih => rw [List.forall_mem_cons, List.forall_mem_cons, ih, each _ _ head]

theorem exists_of_mem_left {relation : α → β → Prop} {left : List α} {right : List β}
    (related : List.Forall₂ relation left right) :
    ∀ first ∈ left, ∃ second, relation first second := by
  induction related with
  | nil => exact List.forall_mem_nil _
  | cons head _ ih => exact List.forall_mem_cons.mpr ⟨⟨_, head⟩, ih⟩

theorem split_of_append {relation : α → β → Prop} {before rest : List α} {item : α}
    {right : List β} (related : List.Forall₂ relation (before ++ item :: rest) right) :
    ∃ front value back, right = front ++ value :: back ∧ List.Forall₂ relation before front ∧
      relation item value := by
  induction before generalizing right with
  | nil =>
      cases related with
      | cons head _ => exact ⟨[], _, _, rfl, .nil, head⟩
  | cons first others ih =>
      cases related with
      | cons head tail =>
          obtain ⟨front, value, back, rfl, earlier, here⟩ := ih tail
          exact ⟨_ :: front, value, back, rfl, .cons head earlier, here⟩

/-- Each item is taken in turn until one of them fails. -/
theorem mapM_cases (step : α → Except ε β) (items : List α) :
    (∃ before item rest fault, items = before ++ item :: rest ∧
        (∀ earlier ∈ before, ∃ value, step earlier = .ok value) ∧ step item = .error fault ∧
        items.mapM step = .error fault) ∨
      ∃ values, items.mapM step = .ok values ∧
        List.Forall₂ (fun item value => step item = .ok value) items values := by
  induction items with
  | nil => exact .inr ⟨[], rfl, .nil⟩
  | cons item rest ih =>
      rw [List.mapM_cons]
      cases stepped : step item with
      | error fault =>
          refine .inl ⟨[], item, rest, fault, rfl, ?_, stepped, rfl⟩
          intro earlier member
          cases member
      | ok value =>
          rcases ih with ⟨before, culprit, others, fault, rfl, passed, failed, ended⟩ |
            ⟨values, ended, each⟩
          · refine .inl ⟨item :: before, culprit, others, fault, rfl, ?_, failed, ?_⟩
            · simp only [List.mem_cons, forall_eq_or_imp]
              exact ⟨⟨value, stepped⟩, passed⟩
            · rw [ended]
              rfl
          · refine .inr ⟨value :: values, ?_, .cons stepped each⟩
            rw [ended]
            rfl

/-- If no item fails, all are taken. -/
theorem mapM_isOk {step : α → Except ε β} {items : List α}
    (each : ∀ item ∈ items, ∃ value, step item = .ok value) :
    ∃ values, items.mapM step = .ok values := by
  rcases mapM_cases step items with ⟨before, item, rest, fault, rfl, _, failed, _⟩ |
    ⟨values, ended, _⟩
  · obtain ⟨value, passed⟩ := each item (by simp)
    rw [failed] at passed
    cases passed
  · exact ⟨values, ended⟩

theorem fails_mapM {property : ε → Prop} {step : α → Except ε β} {items : List α} :
    Fails property (items.mapM step) ↔
      FirstRefused (fun item => ∃ value, step item = .ok value)
        (fun item => Fails property (step item)) items := by
  have exclusive : ∀ item, (∃ value, step item = .ok value) → ¬Fails property (step item) := by
    rintro item ⟨value, passed⟩
    rw [passed]
    exact not_fails_ok value
  rcases mapM_cases step items with ⟨before, item, rest, fault, rfl, passed, failed, ended⟩ |
    ⟨values, ended, each⟩
  · rw [ended, firstRefused_append exclusive passed, failed]
    · simp
    · rintro ⟨value, passed⟩
      rw [failed] at passed
      cases passed
  · rw [ended]
    refine iff_of_false (not_fails_ok values) (not_firstRefused exclusive ?_)
    exact exists_of_mem_left each

/-- A relation between states that holds over any number of steps once it holds over each. -/
structure Composes (relation : σ → σ → Prop) : Prop where
  refl : ∀ state, relation state state
  trans : ∀ {start middle final : σ}, relation start middle → relation middle final →
    relation start final

/-- A computation leads from any state to a state that is related to it. -/
def Leads (relation : σ → σ → Prop) (computation : ExceptT ε (StateM σ) α) : Prop :=
  ∀ state, relation state (computation.run.run state).2

namespace Leads

variable {relation : σ → σ → Prop} (composes : Composes relation)

include composes

theorem bind {first : ExceptT ε (StateM σ) α} {next : α → ExceptT ε (StateM σ) β}
    (begun : Leads relation first) (continued : ∀ value, Leads relation (next value)) :
    Leads relation (first >>= next) := by
  intro state
  have start := begun state
  rcases ran : first.run.run state with ⟨answer, middle⟩
  rw [ran] at start
  cases answer with
  | error fault =>
      rw [run_bind_error ran]
      exact start
  | ok value =>
      rw [run_bind_ok ran]
      exact composes.trans start (continued value middle)

theorem mapM {step : α → ExceptT ε (StateM σ) β} {items : List α}
    (each : ∀ item ∈ items, Leads relation (step item)) : Leads relation (items.mapM step) := by
  induction items with
  | nil => exact composes.refl
  | cons item rest ih =>
      rw [List.mapM_cons]
      refine bind composes (each item List.mem_cons_self) fun _ => ?_
      refine bind composes (ih ?_) fun _ => composes.refl
      intro other member
      exact each other (List.mem_cons_of_mem item member)

theorem forM {step : α → ExceptT ε (StateM σ) PUnit} (each : ∀ item, Leads relation (step item))
    (items : List α) : Leads relation (items.forM step) := by
  induction items with
  | nil => exact composes.refl
  | cons item rest ih => exact bind composes (each item) fun _ => ih

end Leads

end Rollout.Computation
