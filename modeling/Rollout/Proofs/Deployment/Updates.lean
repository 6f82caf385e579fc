import Rollout.Deployment.Configuration
import Rollout.Proofs.Deployment.Building
import Rollout.Proofs.Deployment.Messages
import Rollout.Proofs.Schema.Acceptance
import Rollout.Proofs.Template.Places

/-!
# Updates of contracts

Before the first update is sent, every one must be fit: its target recorded, its message filled
and accepted. The first that is not ends the command with its fault and nothing is sent. From then
on no failure is held against the others.
-/

set_option autoImplicit false

namespace Rollout

open Rollout.Chain

namespace Template

/-- A message can be called by its first part: it is a text, a list or an object. -/
def HasParts : Template → Prop
  | scalar (.text _) | list _ | tuple _ | object _ => True
  | scalar _ | reference _ | placeholder => False

theorem firstPart_isOk_iff {template : Template} :
    (∃ part, template.firstPart = .ok part) ↔ template.HasParts := by
  unfold firstPart
  split <;> simp_all [HasParts]

theorem firstPart_of_partless {template : Template} (partless : ¬template.HasParts) :
    ∃ kind, template.firstPart = .error (.wrongKind kind) := by
  cases template with
  | list | tuple | object => exact absurd trivial partless
  | reference | placeholder => exact ⟨_, rfl⟩
  | scalar value =>
      cases value with
      | text => exact absurd trivial partless
      | null | bool | int | float => exact ⟨_, rfl⟩

private theorem Fills.hasParts {records : List Record} {stand : Option String} {template : Template}
    {message : Value} (fills : Fills records stand template message) (parts : template.HasParts) :
    (ofValue message).HasParts := by
  cases fills with
  | scalar | list | tuple | object => exact parts
  | reference | placeholder => cases parts

end Template

namespace Deployment

variable {σ : Type} {catalog : Schema.Catalog} {registry : Registry} {update : ConfigUpdate}

/-- What an update sends to which contract: its target is recorded, its message is filled, and it
conforms to its schema if the catalog has one. -/
structure Ready (catalog : Schema.Catalog) (registry : Registry) (update : ConfigUpdate)
    (record : Record) (message : Value) : Prop where
  target : ∃ name, update.target = .scalar name ∧ record ∈ registry.records ∧
    record.name.key = name.key
  filled : Template.Fills registry.records none update.message message
  conforms : ∃ name, update.schemaName = .scalar name ∧
    ∀ schema, catalog.find? name = some schema →
      schema.Conforms catalog.account .execute message

def Fit (catalog : Schema.Catalog) (registry : Registry) (update : ConfigUpdate) : Prop :=
  ∃ record message, Ready catalog registry update record message

/-- An update whose filled message has parts: it can be told of before it is sent. -/
def Callable (registry : Registry) (update : ConfigUpdate) : Prop :=
  ∃ message, Template.Fills registry.records none update.message message ∧
    (Template.ofValue message).HasParts

/-- The target of an update is recorded and its message filled, whether it conforms or not. -/
def Filled (registry : Registry) (update : ConfigUpdate) (message : Value) : Prop :=
  (∃ name, update.target = .scalar name ∧ registry.contains name = true) ∧
    Template.Fills registry.records none update.message message

/-- Why an update is not fit: a target or schema that is no name, a target that is not recorded, a
message in which a marker is lacking, the first of which is blamed, or one that violates its
schema. -/
inductive Refused (catalog : Schema.Catalog) (registry : Registry) (update : ConfigUpdate) :
    Fault → Prop where
  | targetless :
      (∀ name, update.target ≠ .scalar name) →
      Refused catalog registry update (.unkeyable update.target.kindName)
  | unknown {name : Scalar} :
      update.target = .scalar name → registry.contains name = false →
      Refused catalog registry update (.unknownTarget name)
  | unresolved {name : Scalar} {place : List Nat} {marker : Marker} :
      update.target = .scalar name → registry.contains name = true →
      update.message.FirstLacking registry none place marker →
      Refused catalog registry update (.unresolved marker.unresolved.name (some name))
  | schemaless {message : Value} :
      Filled registry update message →
      (∀ name, update.schemaName ≠ .scalar name) →
      Refused catalog registry update (.unkeyable update.schemaName.kindName)
  | violating {name : Scalar} {message : Value} {schema : Schema.ContractSchema}
      {problems : List Schema.Problem} :
      Filled registry update message →
      update.schemaName = .scalar name → catalog.find? name = some schema →
      ¬ schema.Conforms catalog.account .execute message →
      catalog.problems .execute name message = .ok problems → problems ≠ [] →
      Refused catalog registry update (.invalidMessage name .execute problems)
  | unjudged {name : Scalar} {message : Value} {schema : Schema.ContractSchema}
      {cause : Wire.Fault} :
      Filled registry update message →
      update.schemaName = .scalar name → catalog.find? name = some schema →
      ¬ schema.Conforms catalog.account .execute message →
      catalog.problems .execute name message = .error (.wire cause) →
      Refused catalog registry update (.wire cause)

private theorem Refused.not_fit {fault : Fault} (refused : Refused catalog registry update fault) :
    ¬ Fit catalog registry update := by
  rintro ⟨record, message, ready⟩
  obtain ⟨target, targets, member, same⟩ := ready.target
  obtain ⟨schemaName, named, conforms⟩ := ready.conforms
  cases refused with
  | targetless nameless => exact nameless target targets
  | unknown other absent =>
      rw [targets] at other
      cases other
      have present := Registry.contains_iff.mpr ⟨record, member, same⟩
      simp [present] at absent
  | unresolved _ _ blamed =>
      have resolved : registry.resolve update.message none none = .ok message :=
        Template.resolve_eq_ok_iff.mpr ready.filled
      exact Registry.resolve_isOk_iff.mp ⟨message, resolved⟩ _ _ blamed.marks blamed.lacking
  | schemaless _ nameless => exact nameless schemaName named
  | violating filled other known violates _ _ =>
      rw [named] at other
      cases other
      rw [filled.2.unique ready.filled] at violates
      exact violates (conforms _ known)
  | unjudged filled other known violates _ =>
      rw [named] at other
      cases other
      rw [filled.2.unique ready.filled] at violates
      exact violates (conforms _ known)

theorem prepare_cases (catalog : Schema.Catalog) (registry : Registry) (update : ConfigUpdate) :
    (∃ record message, Ready catalog registry update record message ∧
        prepare catalog registry update = .ok ⟨update, record, message⟩) ∨
      ∃ fault, Refused catalog registry update fault ∧
        prepare catalog registry update = .error fault := by
  unfold prepare
  cases targets : update.target with
  | list | object =>
      refine .inr ⟨_, .targetless ?_, ?_⟩
      · simp [targets]
      · simp [targets, Value.toKey, bind, Except.bind]
  | scalar target =>
      simp only [Value.toKey, bind, Except.bind]
      cases found : registry.find? target with
      | none => exact .inr ⟨_, .unknown targets (by simp [Registry.contains, found]), rfl⟩
      | some record =>
          have present : registry.contains target = true := by simp [Registry.contains, found]
          simp only
          cases resolved : registry.resolve update.message none (some target) with
          | error fault =>
            obtain ⟨place, marker, blamed, rfl⟩ := Registry.firstLacking_of_resolve resolved
            exact .inr ⟨_, .unresolved targets present blamed, rfl⟩
          | ok message =>
            simp only
            have fills := Template.resolve_eq_ok_iff.mp resolved
            have filled : Filled registry update message := ⟨⟨target, targets, present⟩, fills⟩
            cases named : update.schemaName with
            | list | object =>
                refine .inr ⟨_, .schemaless filled ?_, ?_⟩
                · simp [named]
                · simp [named, Schema.Catalog.validate, Value.toKey, bind, Except.bind]
            | scalar name =>
                cases judged : catalog.validate .execute (.scalar name) message with
                | ok _ =>
                    have conforms := Schema.Catalog.validate_eq_ok_iff_conforms.mp judged
                    have recorded := Registry.find?_eq_some_iff.mp found
                    exact .inl ⟨record, message,
                      ⟨⟨target, targets, recorded⟩, fills, name, named, conforms⟩, rfl⟩
                | error fault =>
                    obtain ⟨schema, known, violates, ⟨problems, listed, some, rfl⟩ |
                      ⟨cause, failed, rfl⟩⟩ := Schema.Catalog.validate_eq_error judged
                    · exact .inr ⟨_, .violating filled named known violates listed some, rfl⟩
                    · exact .inr ⟨_, .unjudged filled named known violates failed, rfl⟩

/-- What is recorded of the answer to a broadcast: the outcome, or the failure as an error of the
client. -/
inductive Noted : Except Failure Outcome → Outcome → Prop where
  | answered {outcome : Outcome} : Noted (.ok outcome) outcome
  | lost {failure : Failure} {outcome : Outcome} :
      outcome.isError = true → outcome.code = .int (-1) → outcome.codespace = .text "client" →
      outcome.rawLog = .text failure.message → Noted (.error failure) outcome

theorem Noted.succeeded_iff {exchange : Exchange} {outcome : Outcome}
    (noted : Noted exchange.answer outcome) :
    exchange.succeeded = true ↔ outcome.isError = false := by
  obtain ⟨transaction, answer⟩ := exchange
  cases noted with
  | answered => simp [Exchange.succeeded]
  | lost failed => simp [Exchange.succeeded, failed]

/-- The transaction of an update that is fit. -/
def Executes (sender : String) (catalog : Schema.Catalog) (registry : Registry)
    (update : ConfigUpdate) (transaction : Transaction) : Prop :=
  ∃ record message, Ready catalog registry update record message ∧
    transaction = [.execute sender record.address message]

def Prepared.transaction (sender : String) (prepared : Prepared) : Transaction :=
  [.execute sender prepared.record.address prepared.message]

private theorem sendUpdate_conducts (client : Client σ) (prepared : Prepared) (session : Session σ)
    (parts : (Template.ofValue prepared.message).HasParts) :
    ∃ outcome, Noted (client.broadcast (prepared.transaction client.address)
        session.chain).1 outcome ∧
      Action.Conducts client (sendUpdate client prepared) session
        [prepared.transaction client.address] (.ok ⟨prepared.update, outcome⟩) := by
  obtain ⟨variant, named⟩ := Template.firstPart_isOk_iff.mpr parts
  have told : ∀ outcome middle, Action.Conducts client (do
      if outcome.isError then
        sayOfUpdate .warning
          s!"Update of {prepared.update.target.display} failed. {outcome.report}"
      return ⟨prepared.update, outcome⟩) middle [] (.ok (⟨prepared.update, outcome⟩ : UpdateResult))
      := by
    intro outcome middle
    split
    · exact .bind_ok (.report client middle _) fun final _ => .pure client final _
    · exact .pure client middle _
  obtain ⟨outcome, settled⟩ : ∃ outcome,
      (client.broadcast (prepared.transaction client.address) session.chain).1 = .ok outcome ∨
        ∃ failure,
          (client.broadcast (prepared.transaction client.address) session.chain).1 =
              .error failure ∧ outcome = failureOutcome failure := by
    cases (client.broadcast (prepared.transaction client.address) session.chain).1 with
    | ok given => exact ⟨given, .inl rfl⟩
    | error failure => exact ⟨_, .inr ⟨failure, rfl, rfl⟩⟩
  refine ⟨outcome, ?_, ?_⟩
  · rcases settled with answered | ⟨failure, answered, rfl⟩
    · rw [answered]
      exact .answered
    · rw [answered]
      exact .lost rfl rfl rfl rfl
  · refine .bind_ok (.except client session named) fun first sent => ?_
    refine .bind_ok (.report client first _) fun second reported => ?_
    have unchanged : second.chain = session.chain := reported.chain.trans sent.chain
    have asked := Action.Conducts.broadcast client second (prepared.transaction client.address)
    rw [unchanged] at asked
    rcases settled with answered | ⟨failure, answered, rfl⟩
    · rw [answered] at asked
      exact asked.bind_ok fun third _ => told outcome third
    · rw [answered] at asked
      exact asked.bind_ok fun third _ => told _ third

theorem sendUpdates_conduct (client : Client σ) (prepared : List Prepared)
    (parts : ∀ each ∈ prepared, (Template.ofValue each.message).HasParts) :
    ∀ session : Session σ, ∃ results,
      Action.Conducts client (prepared.mapM (sendUpdate client)) session
          (prepared.map (·.transaction client.address)) (.ok results) ∧
        results.map (·.update) = prepared.map (·.update) ∧
        List.Forall₂ Noted
          ((client.exchanges session.chain (prepared.map (·.transaction client.address))).map
            (·.answer))
          (results.map (·.outcome)) := by
  induction prepared with
  | nil =>
      intro session
      exact ⟨[], .pure client session [], rfl, .nil⟩
  | cons first rest ih =>
      intro session
      obtain ⟨outcome, recorded, conducts⟩ :=
        sendUpdate_conducts client first session (parts first List.mem_cons_self)
      have others := ih (fun each member => parts each (List.mem_cons_of_mem _ member))
        ((sendUpdate client first).run.run session).2
      obtain ⟨results, continued, updates, outcomes⟩ := others
      rw [conducts.sends.chain] at outcomes
      refine ⟨⟨first.update, outcome⟩ :: results, ?_, ?_, .cons recorded outcomes⟩
      · rw [List.mapM_cons]
        refine conducts.andThen ?_
        rw [← List.append_nil (rest.map _)]
        exact continued.bind_ok fun final _ => .pure client final _
      · simp [updates]

theorem ready_of_prepare {prepared : Prepared}
    (settled : prepare catalog registry update = .ok prepared) :
    Ready catalog registry update prepared.record prepared.message ∧ prepared.update = update := by
  rcases prepare_cases catalog registry update with
    ⟨record, message, ready, accepted⟩ | ⟨fault, _, failed⟩
  · rw [accepted] at settled
    cases settled
    exact ⟨ready, rfl⟩
  · rw [failed] at settled
    cases settled

private theorem refused_of_prepare {fault : Fault}
    (failed : prepare catalog registry update = .error fault) :
    Refused catalog registry update fault := by
  rcases prepare_cases catalog registry update with
    ⟨record, message, _, accepted⟩ | ⟨_, refused, refusal⟩
  · rw [accepted] at failed
    cases failed
  · rw [refusal] at failed
    cases failed
    exact refused

theorem prepare_isOk_iff :
    (∃ prepared, prepare catalog registry update = .ok prepared) ↔ Fit catalog registry update := by
  rcases prepare_cases catalog registry update with
    ⟨record, message, ready, accepted⟩ | ⟨fault, refused, failed⟩
  · exact iff_of_true ⟨_, accepted⟩ ⟨record, message, ready⟩
  · refine iff_of_false ?_ refused.not_fit
    rintro ⟨_, accepted⟩
    rw [failed] at accepted
    cases accepted

theorem callable_iff {prepared : Prepared}
    (settled : prepare catalog registry update = .ok prepared) :
    Callable registry update ↔ (Template.ofValue prepared.message).HasParts := by
  have filled := (ready_of_prepare settled).1.filled
  constructor
  · rintro ⟨message, fills, parts⟩
    rwa [filled.unique fills]
  · intro parts
    exact ⟨_, filled, parts⟩

theorem executes_of_prepared {updates : List ConfigUpdate} {prepared : List Prepared}
    (each : List.Forall₂ (fun update prepared => prepare catalog registry update = .ok prepared)
      updates prepared) (sender : String) :
    List.Forall₂ (Executes sender catalog registry) updates
      (prepared.map (·.transaction sender)) := by
  refine List.forall₂_map_right_iff.mpr (each.imp ?_)
  intro update prepared settled
  exact ⟨_, _, (ready_of_prepare settled).1, rfl⟩

private theorem updates_of_prepared {updates : List ConfigUpdate} {prepared : List Prepared}
    (each : List.Forall₂ (fun update prepared => prepare catalog registry update = .ok prepared)
      updates prepared) : prepared.map (·.update) = updates := by
  induction each with
  | nil => rfl
  | cons settled _ ih => simp [ih, (ready_of_prepare settled).2]

theorem Fit.callable (fit : Fit catalog registry update) (parts : update.message.HasParts) :
    Callable registry update := by
  obtain ⟨record, message, ready⟩ := fit
  exact ⟨message, ready.filled, ready.filled.hasParts parts⟩

theorem callable_of_object (object : ∃ fields, update.message = .object fields)
    (fit : Fit catalog registry update) : Callable registry update := by
  obtain ⟨fields, shape⟩ := object
  refine fit.callable ?_
  rw [shape]
  trivial

private theorem failedUpdates_eq (results : List UpdateResult) :
    failedUpdates results =
      (((results.map (·.update)).zip (results.map (·.outcome))).filter (·.2.isError)).map
        (·.1) := by
  induction results with
  | nil => rfl
  | cons result rest ih =>
      simp only [failedUpdates, failures] at ih
      cases failed : result.outcome.isError with
      | true => simp [failedUpdates, failures, failed, ih]
      | false => simp [failedUpdates, failures, failed, ih]

theorem requireSuccess_eq (results : List UpdateResult) :
    (requireSuccess results = .ok () ↔ failedUpdates results = []) ∧
      ∀ fault, requireSuccess results = .error fault →
        fault = .incomplete (results.filter (·.outcome.isError)) := by
  unfold requireSuccess failedUpdates failures
  cases results.filter (·.outcome.isError) with
  | nil => simp
  | cons first rest =>
      simp only [List.map_cons, reduceCtorEq, Except.error.injEq, true_and]
      intro fault same
      exact same.symm

theorem accepted_of_requireSuccess {results : List UpdateResult}
    (accepted : requireSuccess results = .ok ()) :
    ∀ outcome ∈ results.map (·.outcome), outcome.isError = false := by
  have none := (requireSuccess_eq results).1.mp accepted
  simpa [failedUpdates, failures] using none

section

variable {client : Client σ} {updates : List ConfigUpdate} {session : Session σ}

/-- The first update that is not fit ends the command before anything is sent. -/
theorem configure_refused (unfit : ∃ update ∈ updates, ¬ Fit catalog registry update) :
    ∃ before culprit rest fault, updates = before ++ culprit :: rest ∧
      (∀ update ∈ before, Fit catalog registry update) ∧
      ¬ Fit catalog registry culprit ∧ prepare catalog registry culprit = .error fault ∧
      Refused catalog registry culprit fault ∧
      Action.Conducts client (configure client catalog registry updates) session []
        (.error fault) := by
  rcases Computation.mapM_cases (prepare catalog registry) updates with
    ⟨before, culprit, rest, fault, split, passed, failed, ended⟩ | ⟨prepared, _, each⟩
  · refine ⟨before, culprit, rest, fault, split, ?_, ?_, failed, ?_, ?_⟩
    · intro update member
      obtain ⟨prepared, settled⟩ := passed update member
      exact ⟨_, _, (ready_of_prepare settled).1⟩
    · exact (refused_of_prepare failed).not_fit
    · exact refused_of_prepare failed
    · exact .bind_error (.except client session ended)
  · obtain ⟨update, member, unready⟩ := unfit
    obtain ⟨_, settled⟩ := Computation.exists_of_mem_left each update member
    exact absurd ⟨_, _, (ready_of_prepare settled).1⟩ unready

theorem fit_of_configure_eq_ok {results : List UpdateResult}
    (configured : ((configure client catalog registry updates).run.run session).1 = .ok results) :
    ∀ update ∈ updates, Fit catalog registry update := by
  by_contra unfit
  push Not at unfit
  obtain ⟨_, _, _, fault, _, _, _, _, _, halted⟩ := configure_refused unfit
  cases halted.answered.symm.trans configured

/-- Updates that are all fit are all sent, whatever becomes of those before. -/
theorem configure_sent (client : Client σ) (session : Session σ)
    (callable : ∀ update ∈ updates, Callable registry update)
    (fit : ∀ update ∈ updates, Fit catalog registry update) :
    ∃ transactions results,
      Action.Conducts client (configure client catalog registry updates) session transactions
          (.ok results) ∧
        List.Forall₂ (Executes client.address catalog registry) updates transactions ∧
        results.map (·.update) = updates ∧
        List.Forall₂ Noted
          ((client.exchanges session.chain transactions).map (·.answer))
          (results.map (·.outcome)) := by
  rcases Computation.mapM_cases (prepare catalog registry) updates with
    ⟨before, culprit, rest, fault, rfl, _, failed, _⟩ | ⟨prepared, ended, each⟩
  · have ready := fit culprit (by simp)
    exact absurd ready (refused_of_prepare failed).not_fit
  · have shaped : ∀ item ∈ prepared, (Template.ofValue item.message).HasParts :=
      (Computation.forall_mem_iff each fun _ _ settled => callable_iff settled).mp callable
    obtain ⟨results, conducts, applied, outcomes⟩ :=
      sendUpdates_conduct client prepared shaped session
    refine ⟨_, results, ?_, executes_of_prepared each client.address,
      applied.trans (updates_of_prepared each), outcomes⟩
    exact (Action.Conducts.except client session ended).andThen conducts

end

/-- Updates are sent all or not at all. If one of them is not fit, the first such ends the command;
otherwise each is sent once, in order, to the contract that it is meant for, and the results tell
what became of every single one. -/
theorem updates_sent_if_all_fit (client : Client σ) (catalog : Schema.Catalog) (registry : Registry)
    (updates : List ConfigUpdate) (session : Session σ)
    (objects : ∀ update ∈ updates, ∃ fields, update.message = .object fields) :
    ((∃ update ∈ updates, ¬ Fit catalog registry update) →
        ∃ before culprit rest fault, updates = before ++ culprit :: rest ∧
          (∀ update ∈ before, Fit catalog registry update) ∧
          ¬ Fit catalog registry culprit ∧ prepare catalog registry culprit = .error fault ∧
          Refused catalog registry culprit fault ∧
          Action.Conducts client (configure client catalog registry updates) session []
            (.error fault)) ∧
      ((∀ update ∈ updates, Fit catalog registry update) →
        ∃ transactions results,
          Action.Conducts client (configure client catalog registry updates) session transactions
              (.ok results) ∧
            List.Forall₂ (Executes client.address catalog registry) updates transactions ∧
            results.map (·.update) = updates ∧
            List.Forall₂ Noted
              ((client.exchanges session.chain transactions).map (·.answer))
              (results.map (·.outcome)) ∧
            failedUpdates results =
              ((updates.zip (results.map (·.outcome))).filter (·.2.isError)).map (·.1) ∧
            (requireSuccess results = .ok () ↔ failedUpdates results = []) ∧
            ∀ fault, requireSuccess results = .error fault →
              fault = .incomplete (results.filter (·.outcome.isError))) := by
  constructor
  · intro unfit
    exact configure_refused unfit
  · intro fit
    obtain ⟨transactions, results, conducts, executed, applied, outcomes⟩ :=
      configure_sent client session
        (fun update member => callable_of_object (objects update member) (fit update member)) fit
    have failed := failedUpdates_eq results
    rw [applied] at failed
    obtain ⟨complete, incomplete⟩ := requireSuccess_eq results
    exact ⟨transactions, results, conducts, executed, applied, outcomes, failed, complete,
      incomplete⟩

/-- Hands a contract over to itself. -/
def handover : ConfigUpdate :=
  ⟨.text "hub", .object [("set_owner", .object [("owner", .reference ⟨"hub", .address⟩)])], .null⟩

def stray : ConfigUpdate :=
  ⟨.text "vault", .object [("ping", .object [])], .null⟩

def ownable : Schema.Catalog :=
  ⟨"terra", [⟨"hub", .struct [] [], [("set_owner", .struct [("owner", .leaf .text)] [])]⟩]⟩

def handoverMessage : Value :=
  .object [("set_owner", .object [("owner", .text "terra1hub")])]

def lossySession : Session (List CommandLine.ChainAnswer) :=
  .start [.error ⟨.timeout, "no reply"⟩, .ok (Outcome.plain false), .ok (Outcome.plain true)]
    ⟨⟨"/", []⟩, []⟩ ""

private theorem handover_fit : Fit ownable hubOnly handover := by
  have recorded : ⟨.text "hub", .int 3, .text "terra1hub"⟩ ∈ hubOnly.records := by
    simp [hubOnly]
  refine ⟨_, handoverMessage, ⟨.text "hub", rfl, recorded, rfl⟩, ?_, ?_⟩
  · refine .object (.cons (.object (.cons ?_ .nil)) .nil)
    exact Template.Fills.reference recorded rfl
  · refine ⟨.text "hub", rfl, ?_⟩
    intro schema known
    cases known
    refine ⟨"set_owner", _, _, rfl, rfl, _, rfl, ⟨⟨_, rfl, rfl⟩, trivial⟩, trivial, ?_⟩
    simp

/-- Of three identical updates the first is lost and the last rejected, and both are told of. One
more update without a recorded target, and none is sent: it is that target the fault names. -/
theorem handovers_sent :
    (∃ transactions results,
      Action.Conducts storesOnce (configure storesOnce ownable hubOnly
          [handover, handover, handover]) lossySession transactions (.ok results) ∧
        transactions = List.replicate 3
          [.execute "deployer" (.text "terra1hub") handoverMessage] ∧
        failedUpdates results = [handover, handover] ∧ requireSuccess results ≠ .ok ()) ∧
      Action.Conducts storesOnce (configure storesOnce ownable hubOnly
        [handover, handover, stray]) lossySession [] (.error (.unknownTarget (.text "vault"))) := by
  constructor
  · obtain ⟨transactions, results, conducts, _, _, _, _, complete, _⟩ :=
      (updates_sent_if_all_fit storesOnce ownable hubOnly [handover, handover, handover]
        lossySession (by simp [handover])).2 (by simp [handover_fit])
    have sent := conducts.sends.sent
    have answered := conducts.answered
    cases answered
    refine ⟨transactions, _, conducts, sent.symm, rfl, ?_⟩
    intro accepted
    cases complete.mp accepted
  · obtain ⟨before, culprit, rest, fault, split, _, unfit, failed, _, halted⟩ :=
      (updates_sent_if_all_fit storesOnce ownable hubOnly [handover, handover, stray]
        lossySession (by simp [handover, stray])).1
        ⟨stray, by simp, (Refused.unknown rfl rfl).not_fit⟩
    have member : culprit ∈ [handover, handover, stray] := by simp [split]
    have blamed : culprit = stray := by
      simp only [List.mem_cons, List.not_mem_nil, or_false] at member
      rcases member with rfl | rfl | rfl
      · exact absurd handover_fit unfit
      · exact absurd handover_fit unfit
      · rfl
    subst blamed
    cases failed
    exact halted

end Deployment

end Rollout
