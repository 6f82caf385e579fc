import Rollout.Chain.Receipt
import Rollout.Proofs.Computation

/-!
# Queries to the logs

What is asked of the logs of a transaction, and in which order. Reading a receipt asks for the code
id at the first store message and for the address at the first instantiate message, and for nothing
else, as long as the address is one.
-/

set_option autoImplicit false

namespace Rollout.Chain

open Rollout.Computation

/-- A query for the code id at one index and one for the address at another, as far as there are
such indices, in the order of the indices. -/
def Query.inOrder : Option Nat → Option Nat → List Query
  | none, none => []
  | some store, none => [.codeId store]
  | none, some instantiate => [.contractAddress instantiate]
  | some store, some instantiate =>
      if store < instantiate then [.codeId store, .contractAddress instantiate]
      else [.contractAddress instantiate, .codeId store]

private theorem Query.inOrder_store {store : Nat} {instantiate : Option Nat}
    (later : ∀ index ∈ instantiate, store < index) :
    inOrder (some store) instantiate = .codeId store :: inOrder none instantiate := by
  cases instantiate with
  | none => rfl
  | some index => exact if_pos (later index rfl)

private theorem Query.inOrder_instantiate {instantiate : Nat} {store : Option Nat}
    (later : ∀ index ∈ store, instantiate < index) :
    inOrder store (some instantiate) = .contractAddress instantiate :: inOrder store none := by
  cases store with
  | none => rfl
  | some index => exact if_neg (Nat.lt_asymm (later index rfl))

private theorem Query.eq_some_of_mem_inOrder {store instantiate : Option Nat} {index : Nat}
    (member : .contractAddress index ∈ inOrder store instantiate) : instantiate = some index := by
  cases store <;> cases instantiate <;> simp only [inOrder] at member
  · cases member
  · simpa [eq_comm] using member
  · simp at member
  · split at member <;> simpa [eq_comm] using member

namespace Receipt

variable {α β : Type} (answers : Query → Except Fault Value)

/-- Answers a query, and notes that it was asked. -/
def noting (query : Query) : ExceptT Fault (StateM (List Query)) Value := do
  modify (· ++ [query])
  MonadExcept.ofExcept (answers query)

/-- The outcome of a transaction, and what was asked of the logs for it. -/
def noted (receipt : Receipt) (kinds : List MessageKind) : Except Fault Outcome × List Query :=
  (receipt.outcomeBy (noting answers) kinds).run.run []

private theorem ofExcept_eq (answer : Except Fault α) :
    (MonadExcept.ofExcept answer : Except Fault α) = answer := by
  cases answer <;> rfl

private theorem run_ofExcept (answer : Except Fault α) (asked : List Query) :
    (MonadExcept.ofExcept answer : ExceptT Fault (StateM (List Query)) α).run.run asked =
      (answer, asked) := by
  cases answer <;> rfl

private theorem run_noting (query : Query) (asked : List Query) :
    (noting answers query).run.run asked = (answers query, asked ++ [query]) :=
  run_ofExcept (answers query) (asked ++ [query])

/-!
## Noting changes nothing
-/

/-- A computation that notes what it asks comes to the same as one that does not. -/
def Mirrors (noting : ExceptT Fault (StateM (List Query)) α) (plain : Except Fault α) : Prop :=
  ∀ asked, (noting.run.run asked).1 = plain

namespace Mirrors

theorem pure (value : α) : Mirrors (pure value) (.ok value) := fun _ => rfl

private theorem ofExcept (answer : Except Fault α) :
    Mirrors (MonadExcept.ofExcept answer) (MonadExcept.ofExcept answer) := by
  intro asked
  rw [run_ofExcept, ofExcept_eq]

theorem bind {first : ExceptT Fault (StateM (List Query)) α} {plain : Except Fault α}
    {next : α → ExceptT Fault (StateM (List Query)) β} {plainNext : α → Except Fault β}
    (begun : Mirrors first plain) (continued : ∀ value, Mirrors (next value) (plainNext value)) :
    Mirrors (first >>= next) (plain >>= plainNext) := by
  intro asked
  rw [run_bind]
  have start := begun asked
  rcases ran : first.run.run asked with ⟨answer, after⟩
  rw [ran] at start
  subst start
  cases answer with
  | error fault => rfl
  | ok value => exact continued value after

end Mirrors

private theorem mirrors_noting (query : Query) :
    Mirrors (noting answers query) (answers query) := by
  intro asked
  rw [run_noting]

private theorem mirrors_codeId (index : Nat) :
    Mirrors (codeId (noting answers) index) (codeId answers index) :=
  .bind (mirrors_noting answers _) fun value => .ofExcept (codeIdOf value)

private theorem mirrors_learn (index : Nat) (known : Value × Value) (kind : MessageKind) :
    Mirrors (learn (noting answers) index known kind) (learn answers index known kind) := by
  cases kind with
  | store =>
      rw [learn, learn]
      split
      · exact .bind (mirrors_codeId answers index) fun given => .pure _
      · exact .pure known
  | instantiate =>
      rw [learn, learn]
      split
      · exact .bind (mirrors_noting answers _) fun placed => .pure _
      · exact .pure known
  | execute => exact .pure known

private theorem mirrors_assigned (kinds : List MessageKind) (index : Nat) (known : Value × Value) :
    Mirrors (assigned (noting answers) index known kinds) (assigned answers index known kinds) := by
  induction kinds generalizing index known with
  | nil => exact .pure known
  | cons kind rest ih => exact .bind (mirrors_learn answers index known kind) fun _ => ih _ _

private theorem mirrors_outcomeBy (receipt : Receipt) (kinds : List MessageKind) :
    Mirrors (receipt.outcomeBy (noting answers) kinds) (receipt.outcomeBy answers kinds) := by
  unfold outcomeBy
  split
  · exact .pure _
  · exact .bind (mirrors_assigned answers kinds _ _) fun known => .pure _

/-!
## The queries that are needed
-/

/-- The index of the first message of a kind, where the messages are counted from an index on. -/
def firstFrom (kind : MessageKind) (index : Nat) (kinds : List MessageKind) : Option Nat :=
  (kinds.findIdx? (· = kind)).map (· + index)

private theorem firstFrom_zero (kind : MessageKind) (kinds : List MessageKind) :
    firstFrom kind 0 kinds = kinds.findIdx? (· = kind) := by
  simp [firstFrom]

private theorem firstFrom_cons_self (kind : MessageKind) (index : Nat) (rest : List MessageKind) :
    firstFrom kind index (kind :: rest) = some index := by
  simp [firstFrom, List.findIdx?_cons]

private theorem firstFrom_cons_of_ne {kind other : MessageKind} (differs : other ≠ kind)
    (index : Nat) (rest : List MessageKind) :
    firstFrom kind index (other :: rest) = firstFrom kind (index + 1) rest := by
  simp [firstFrom, List.findIdx?_cons, differs, Function.comp_def, Nat.add_assoc, Nat.add_comm 1]

private theorem lt_of_mem_firstFrom {kind : MessageKind} {index found : Nat}
    {rest : List MessageKind}
    (member : found ∈ firstFrom kind (index + 1) rest) : index < found := by
  obtain ⟨place, _, rfl⟩ := Option.map_eq_some_iff.mp member
  omega

/-- The queries for what is not known yet, from an index on. -/
def wanted (index : Nat) (known : Value × Value) (kinds : List MessageKind) : List Query :=
  Query.inOrder (if known.1.isNull then firstFrom .store index kinds else none)
    (if known.2.isNull then firstFrom .instantiate index kinds else none)

section

variable {index : Nat} {known : Value × Value} {rest : List MessageKind}

private theorem wanted_nil : wanted index known [] = [] := by
  simp [wanted, firstFrom, Query.inOrder]

/-- The first store message asks for its code id, and whatever is given is not asked for again. -/
theorem wanted_store (missing : known.1.isNull = true) :
    ∃ others, wanted index known (.store :: rest) = .codeId index :: others ∧
      ∀ given : Value, given.isNull = false → wanted (index + 1) (given, known.2) rest = others := by
  have other : firstFrom .instantiate index (.store :: rest) =
      firstFrom .instantiate (index + 1) rest := firstFrom_cons_of_ne (by decide) index rest
  refine ⟨Query.inOrder none (if known.2.isNull then firstFrom .instantiate (index + 1) rest
    else none), ?_, ?_⟩
  · rw [wanted, if_pos missing, firstFrom_cons_self, other]
    apply Query.inOrder_store
    intro found member
    split at member
    · exact lt_of_mem_firstFrom member
    · cases member
  · intro given present
    rw [wanted, present]
    rfl

private theorem wanted_instantiate (missing : known.2.isNull = true) :
    ∃ others, wanted index known (.instantiate :: rest) = .contractAddress index :: others ∧
      ∀ placed : Value, placed.isNull = false →
        wanted (index + 1) (known.1, placed) rest = others := by
  have other : firstFrom .store index (.instantiate :: rest) = firstFrom .store (index + 1) rest :=
    firstFrom_cons_of_ne (by decide) index rest
  refine ⟨Query.inOrder (if known.1.isNull then firstFrom .store (index + 1) rest else none) none,
    ?_, ?_⟩
  · rw [wanted, if_pos missing, firstFrom_cons_self, other]
    apply Query.inOrder_instantiate
    intro found member
    split at member
    · exact lt_of_mem_firstFrom member
    · cases member
  · intro placed present
    rw [wanted, present]
    rfl

private theorem wanted_settled {kind : MessageKind} (store : kind = .store → known.1.isNull = false)
    (instantiate : kind = .instantiate → known.2.isNull = false) :
    wanted index known (kind :: rest) = wanted (index + 1) known rest := by
  cases kind with
  | store => simp [wanted, store rfl, firstFrom_cons_of_ne]
  | instantiate => simp [wanted, instantiate rfl, firstFrom_cons_of_ne]
  | execute => simp [wanted, firstFrom_cons_of_ne]

end

/-!
## Settling what is known
-/

/-- What is known once a query is answered. -/
def settle {m : Type → Type} [Monad m] [MonadExceptOf Fault m] (ask : Query → m Value)
    (known : Value × Value) : Query → m (Value × Value)
  | .codeId index => do return (← codeId ask index, known.2)
  | .contractAddress index => do return (known.1, ← ask (.contractAddress index))

/-- An answer settles a query: a code id is an integer, and an address is taken as it is. -/
inductive Settles (known : Value × Value) : Query → Value × Value → Prop
  | codeId {index : Nat} {value : Value} {number : Int}
      (answered : answers (.codeId index) = .ok value) (whole : value.toInteger = .ok number) :
      Settles known (.codeId index) (.int number, known.2)
  | contractAddress {index : Nat} {value : Value}
      (answered : answers (.contractAddress index) = .ok value) :
      Settles known (.contractAddress index) (known.1, value)

/-- Each query in turn settles something. -/
inductive SettlesEach : Value × Value → List Query → Value × Value → Prop
  | nil (known : Value × Value) : SettlesEach known [] known
  | cons {known middle after : Value × Value} {query : Query} {rest : List Query}
      (here : Settles answers known query middle) (behind : SettlesEach middle rest after) :
      SettlesEach known (query :: rest) after

variable {answers}

private theorem codeId_eq (index : Nat) :
    codeId answers index = answers (.codeId index) >>= codeIdOf := by
  simp only [codeId, ofExcept_eq]

theorem codeId_eq_ok_iff {index : Nat} {given : Value} :
    codeId answers index = .ok given ↔
      ∃ value number, answers (.codeId index) = .ok value ∧ value.toInteger = .ok number ∧
        given = .int number := by
  rw [codeId_eq]
  constructor
  · intro read
    obtain ⟨value, answered, taken⟩ := bind_eq_ok read
    obtain ⟨whole, converted, rfl⟩ := map_eq_ok taken
    exact ⟨value, whole, answered, mapError_eq_ok.mp converted, rfl⟩
  · rintro ⟨value, number, answered, whole, rfl⟩
    rw [answered]
    exact congrArg (Except.map Value.int) (mapError_eq_ok.mpr whole)

private theorem run_codeId (index : Nat) (asked : List Query) :
    (codeId (noting answers) index).run.run asked =
      (codeId answers index, asked ++ [.codeId index]) := by
  rw [codeId_eq, codeId, run_bind, run_noting]
  cases answers (.codeId index) with
  | error fault => rfl
  | ok value => exact run_ofExcept (codeIdOf value) (asked ++ [.codeId index])

private theorem run_settle (known : Value × Value) (query : Query) (asked : List Query) :
    (settle (noting answers) known query).run.run asked =
      (settle answers known query, asked ++ [query]) := by
  cases query with
  | codeId index =>
      rw [settle, settle, run_bind, run_codeId]
      cases codeId answers index <;> rfl
  | contractAddress index =>
      rw [settle, settle, run_bind, run_noting]
      cases answers (.contractAddress index) <;> rfl

theorem settle_eq_ok_iff {known after : Value × Value} {query : Query} :
    settle answers known query = .ok after ↔ Settles answers known query after := by
  constructor
  · intro settled
    cases query with
    | codeId index =>
        obtain ⟨given, read, kept⟩ := bind_eq_ok settled
        obtain ⟨value, number, answered, whole, rfl⟩ := codeId_eq_ok_iff.mp read
        cases kept
        exact .codeId answered whole
    | contractAddress index =>
        obtain ⟨value, answered, kept⟩ := bind_eq_ok settled
        cases kept
        exact .contractAddress answered
  · rintro (⟨answered, whole⟩ | answered)
    · rw [settle, codeId_eq_ok_iff.mpr ⟨_, _, answered, whole, rfl⟩]
      rfl
    · rw [settle, answered]
      rfl

/-- Queries that are settled one after the other are all asked, once each. -/
theorem run_settled_iff {known after : Value × Value} {queries asked trace : List Query} :
    (queries.foldlM (settle (noting answers)) known).run.run asked = (.ok after, trace) ↔
      SettlesEach answers known queries after ∧ trace = asked ++ queries := by
  induction queries generalizing known asked with
  | nil =>
      rw [List.append_nil]
      constructor
      · intro ran
        cases ran
        exact ⟨.nil _, rfl⟩
      · rintro ⟨⟨_⟩, rfl⟩
        rfl
  | cons query rest ih =>
      rw [List.foldlM_cons, run_bind, run_settle]
      cases settled : settle answers known query with
      | error fault =>
          refine iff_of_false (fun ran => by cases ran) ?_
          rintro ⟨_ | ⟨here, _⟩, _⟩
          rw [settle_eq_ok_iff.mpr here] at settled
          cases settled
      | ok middle =>
          refine ih.trans ?_
          rw [List.append_assoc]
          refine and_congr_left fun _ => ⟨.cons (settle_eq_ok_iff.mp settled), ?_⟩
          rintro (_ | ⟨here, behind⟩)
          rw [settle_eq_ok_iff.mpr here] at settled
          cases settled
          exact behind

/-- What follows matters only for what the query may be settled to. -/
theorem settle_bind_congr {known : Value × Value} {query : Query}
    {next other : Value × Value → ExceptT Fault (StateM (List Query)) α}
    (same : ∀ after, Settles answers known query after → next after = other after) :
    settle (noting answers) known query >>= next =
      settle (noting answers) known query >>= other := by
  apply ExceptT.ext
  funext asked
  change ((settle (noting answers) known query >>= next).run.run asked) =
    ((settle (noting answers) known query >>= other).run.run asked)
  rw [run_bind, run_bind, run_settle]
  cases settled : settle answers known query with
  | error fault => rfl
  | ok after =>
      have rest := same after (settle_eq_ok_iff.mp settled)
      exact congrArg (fun computation => computation.run.run (asked ++ [query])) rest

/-- A message settles the query that it asks, after which the rest of the queries is needed, or it
asks for nothing. -/
theorem learn_cases (index : Nat) (known : Value × Value) (kind : MessageKind)
    (rest : List MessageKind)
    (placed : ∀ place value, .contractAddress place ∈ wanted index known (kind :: rest) →
      answers (.contractAddress place) = .ok value → value.isNull = false) :
    (∃ query others,
        learn (noting answers) index known kind = settle (noting answers) known query ∧
        wanted index known (kind :: rest) = query :: others ∧
        ∀ after, Settles answers known query after → wanted (index + 1) after rest = others) ∨
      learn (noting answers) index known kind = pure known ∧
        wanted index known (kind :: rest) = wanted (index + 1) known rest := by
  cases kind with
  | store =>
      cases missing : known.1.isNull with
      | true =>
          obtain ⟨others, begins, continued⟩ := wanted_store missing
          refine .inl ⟨.codeId index, others, if_pos missing, begins, ?_⟩
          rintro _ (_ | _)
          exact continued _ rfl
      | false =>
          exact .inr ⟨by simp [learn, missing], wanted_settled (fun _ => missing) (by simp)⟩
  | instantiate =>
      cases missing : known.2.isNull with
      | true =>
          obtain ⟨others, begins, continued⟩ := wanted_instantiate missing
          refine .inl ⟨.contractAddress index, others, if_pos missing, begins, ?_⟩
          rintro _ (_ | answered)
          -- a null address would leave the kind unsettled, and the next message would be asked
          exact continued _ (placed index _ (begins ▸ List.mem_cons_self) answered)
      | false =>
          exact .inr ⟨by simp [learn, missing], wanted_settled (by simp) fun _ => missing⟩
  | execute => exact .inr ⟨rfl, wanted_settled (by simp) (by simp)⟩

/-- Going through the messages comes to settling the queries that are needed. By induction on the
messages: one that is the first of its kind asks, and from then on its kind is settled. -/
theorem assigned_eq_settled (kinds : List MessageKind) (index : Nat) (known : Value × Value)
    (placed : ∀ place value, .contractAddress place ∈ wanted index known kinds →
      answers (.contractAddress place) = .ok value → value.isNull = false) :
    assigned (noting answers) index known kinds =
      (wanted index known kinds).foldlM (settle (noting answers)) known := by
  induction kinds generalizing index known with
  | nil =>
      rw [wanted_nil]
      rfl
  | cons kind rest ih =>
      rw [assigned]
      rcases learn_cases index known kind rest placed with
        ⟨query, others, learnt, begins, continued⟩ | ⟨learnt, same⟩
      · rw [learnt, begins, List.foldlM_cons]
        apply settle_bind_congr
        intro after settles
        rw [← continued after settles]
        apply ih
        intro place value member
        rw [continued after settles] at member
        exact placed place value (begins ▸ List.mem_cons_of_mem query member)
      · rw [learnt, same, pure_bind]
        rw [same] at placed
        exact ih _ _ placed

/-!
## What a receipt tells
-/

variable (answers)

/-- The code id that is given at the index of a store message: an integer, or null if there is no
such message. -/
inductive GivesCodeId : Option Nat → Value → Prop
  | unasked : GivesCodeId none .null
  | given {index : Nat} {value : Value} {number : Int}
      (answered : answers (.codeId index) = .ok value) (whole : value.toInteger = .ok number) :
      GivesCodeId (some index) (.int number)

/-- The address that is given at the index of an instantiate message, or null if there is no such
message. -/
inductive GivesAddress : Option Nat → Value → Prop
  | unasked : GivesAddress none .null
  | given {index : Nat} {value : Value}
      (answered : answers (.contractAddress index) = .ok value) : GivesAddress (some index) value

/-- No address that is given at an index is null. -/
def Addressed (place : Option Nat) : Prop :=
  ∀ index ∈ place, ∀ value, answers (.contractAddress index) = .ok value → value.isNull = false

variable {answers}

/-- Of each kind one message is asked for, so the order does not matter to what is settled. -/
theorem settlesEach_inOrder_iff {store instantiate : Option Nat} {codeId contractAddress : Value} :
    SettlesEach answers (.null, .null) (Query.inOrder store instantiate)
        (codeId, contractAddress) ↔
      GivesCodeId answers store codeId ∧ GivesAddress answers instantiate contractAddress := by
  constructor
  · intro settles
    cases store with
    | none =>
        cases instantiate with
        | none =>
            cases settles
            exact ⟨.unasked, .unasked⟩
        | some index =>
            obtain _ | ⟨_ | address, ⟨_⟩⟩ := settles
            exact ⟨.unasked, .given address⟩
    | some index =>
        cases instantiate with
        | none =>
            obtain _ | ⟨⟨number, whole⟩, ⟨_⟩⟩ := settles
            exact ⟨.given number whole, .unasked⟩
        | some place =>
            rw [Query.inOrder] at settles
            split at settles
            · obtain _ | ⟨⟨number, whole⟩, _ | ⟨_ | address, ⟨_⟩⟩⟩ := settles
              exact ⟨.given number whole, .given address⟩
            · obtain _ | ⟨_ | address, _ | ⟨⟨number, whole⟩, ⟨_⟩⟩⟩ := settles
              exact ⟨.given number whole, .given address⟩
  · rintro ⟨_ | ⟨number, whole⟩, _ | address⟩
    · exact .nil _
    · exact .cons (.contractAddress address) (.nil _)
    · exact .cons (.codeId number whole) (.nil _)
    · rw [Query.inOrder]
      split
      · exact .cons (.codeId number whole) (.cons (.contractAddress address) (.nil _))
      · exact .cons (.contractAddress address) (.cons (.codeId number whole) (.nil _))

theorem run_assigned_iff {kinds : List MessageKind}
    (addressed : Addressed answers (kinds.findIdx? (· = .instantiate)))
    {codeId contractAddress : Value} {queries : List Query} :
    (assigned (noting answers) 0 (.null, .null) kinds).run.run [] =
        (.ok (codeId, contractAddress), queries) ↔
      (GivesCodeId answers (kinds.findIdx? (· = .store)) codeId ∧
        GivesAddress answers (kinds.findIdx? (· = .instantiate)) contractAddress) ∧
      queries =
        Query.inOrder (kinds.findIdx? (· = .store)) (kinds.findIdx? (· = .instantiate)) := by
  have needed : wanted 0 (.null, .null) kinds =
      Query.inOrder (kinds.findIdx? (· = .store)) (kinds.findIdx? (· = .instantiate)) := by
    rw [← firstFrom_zero, ← firstFrom_zero]
    rfl
  rw [assigned_eq_settled, needed, run_settled_iff, settlesEach_inOrder_iff, List.nil_append]
  intro index value member
  rw [needed] at member
  exact addressed index (Query.eq_some_of_mem_inOrder member) value

/-- A receipt whose code tells of an error is an error with that code, and no log is read. Any other
is a success with the code id that is given at the first store message and the address that is given
at the first instantiate message, and nothing else is asked of the logs, whatever answers. If one of
the two is not given, or the code id is no integer, there is no outcome. -/
theorem outcome_reads_first (receipt : Receipt) (kinds : List MessageKind)
    (answers : Query → Except Fault Value) :
    receipt.outcome kinds = (noted receipt.answer receipt kinds).1 ∧
      (receipt.code.isTruthy = true →
        noted answers receipt kinds =
          (.ok
            { isError := true
              code := receipt.code
              codespace := receipt.codespace.orElse (.text "")
              rawLog := receipt.rawLog.orElse (.text "")
              txhash := receipt.txhash
              codeId := .null
              contractAddress := .null }, [])) ∧
      (receipt.code.isTruthy = false → Addressed answers (kinds.findIdx? (· = .instantiate)) →
        ∀ outcome queries, noted answers receipt kinds = (.ok outcome, queries) ↔
          ∃ codeId contractAddress,
            GivesCodeId answers (kinds.findIdx? (· = .store)) codeId ∧
            GivesAddress answers (kinds.findIdx? (· = .instantiate)) contractAddress ∧
            outcome =
              { isError := false
                code := .int 0
                codespace := .text ""
                rawLog := receipt.rawLog.orElse (.text "")
                txhash := receipt.txhash
                codeId
                contractAddress } ∧
            queries =
              Query.inOrder (kinds.findIdx? (· = .store)) (kinds.findIdx? (· = .instantiate))) := by
  refine ⟨(mirrors_outcomeBy receipt.answer receipt kinds []).symm, ?_, ?_⟩
  · intro failed
    rw [noted, outcomeBy, if_pos failed]
    rfl
  · intro kept addressed outcome queries
    rw [noted, outcomeBy, if_neg (by rw [kept]; decide)]
    constructor
    · intro ran
      obtain ⟨⟨codeId, contractAddress⟩, asked, read, told⟩ := run_bind_eq_ok ran
      obtain ⟨⟨stored, placed⟩, rfl⟩ := (run_assigned_iff addressed).mp read
      cases told
      exact ⟨codeId, contractAddress, stored, placed, rfl, rfl⟩
    · rintro ⟨codeId, contractAddress, stored, placed, rfl, rfl⟩
      rw [run_bind_ok ((run_assigned_iff addressed).mpr ⟨⟨stored, placed⟩, rfl⟩)]
      rfl

/-- The receipt of a transaction of five messages, among them two that store code and two that
instantiate a contract. -/
def mixedReceipt : Receipt where
  code := .null
  codespace := .null
  rawLog := .text "[]"
  txhash := .text "8F2A"
  logs :=
    [[], [⟨"instantiate_contract", [("contract_address", .text "terra1first")]⟩],
      [⟨"store_code", [("code_id", .text "17")]⟩], [⟨"store_code", [("code_id", .text "18")]⟩],
      [⟨"instantiate_contract", [("contract_address", .text "terra1second")]⟩]]

def mixedKinds : List MessageKind := [.execute, .instantiate, .store, .store, .instantiate]

/-- The first address and the first code id are read, and they are told of. -/
theorem mixed_transaction_read :
    mixedReceipt.code.isTruthy = false ∧
      noted mixedReceipt.answer mixedReceipt mixedKinds =
        (.ok
          { isError := false
            code := .int 0
            codespace := .text ""
            rawLog := .text "[]"
            txhash := .text "8F2A"
            codeId := .int 17
            contractAddress := .text "terra1first" }, [.contractAddress 1, .codeId 2]) ∧
      noted mixedReceipt.answer { mixedReceipt with code := .int 5 } mixedKinds =
        (.ok
          { isError := true
            code := .int 5
            codespace := .text ""
            rawLog := .text "[]"
            txhash := .text "8F2A"
            codeId := .null
            contractAddress := .null }, []) := by
  have whole : (Value.text "17").toInteger = .ok 17 := by decide
  have stored : GivesCodeId mixedReceipt.answer (mixedKinds.findIdx? (· = .store)) (.int 17) :=
    .given rfl whole
  have placed : GivesAddress mixedReceipt.answer (mixedKinds.findIdx? (· = .instantiate))
      (.text "terra1first") := .given rfl
  have addressed : Addressed mixedReceipt.answer (mixedKinds.findIdx? (· = .instantiate)) := by
    rintro _ ⟨⟩ _ ⟨⟩
    rfl
  have read := (outcome_reads_first mixedReceipt mixedKinds mixedReceipt.answer).2.2 rfl addressed
  have failed := (outcome_reads_first { mixedReceipt with code := .int 5 } mixedKinds
    mixedReceipt.answer).2.1 rfl
  exact ⟨rfl, (read _ _).mpr ⟨_, _, stored, placed, rfl, rfl⟩, failed⟩

end Receipt

end Rollout.Chain
