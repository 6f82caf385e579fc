import Rollout.Plan.Document
import Rollout.Proofs.Deployment.Updates

/-!
# Updates that end midway

An update is told of by the first part of its message before it is sent. Where the message has no
parts that fails, and with it all updates behind: those before have been sent by then. It takes a
contract that the catalog does not know, since messages that conform are objects.
-/

set_option autoImplicit false

namespace Rollout.Deployment

open Rollout.Chain
open Rollout.Computation (FirstRefused)

variable {σ : Type} {client : Client σ} {catalog : Schema.Catalog} {registry : Registry}
  {update : ConfigUpdate} {updates : List ConfigUpdate}

private theorem sendUpdate_partless (client : Client σ) {prepared : Prepared}
    (partless : ¬(Template.ofValue prepared.message).HasParts) (session : Session σ) :
    ∃ kind, Action.Conducts client (sendUpdate client prepared) session []
      (.error (.wrongKind kind)) := by
  obtain ⟨kind, failed⟩ := Template.firstPart_of_partless partless
  exact ⟨kind, .bind_error (.except client session failed)⟩

/-- What stands before a message without parts is sent, and nothing from there on. -/
theorem sendUpdates_partless (client : Client σ) {before : List Prepared} {culprit : Prepared}
    (parts : ∀ each ∈ before, (Template.ofValue each.message).HasParts)
    (partless : ¬(Template.ofValue culprit.message).HasParts) (rest : List Prepared)
    (session : Session σ) :
    ∃ kind, Action.Conducts client ((before ++ culprit :: rest).mapM (sendUpdate client)) session
      (before.map (·.transaction client.address)) (.error (.wrongKind kind)) := by
  obtain ⟨results, sent, _⟩ := sendUpdates_conduct client before parts session
  obtain ⟨kind, failed⟩ := sendUpdate_partless client partless
    ((before.mapM (sendUpdate client)).run.run session).2
  refine ⟨kind, ?_⟩
  rw [List.mapM_append, List.mapM_cons, ← List.append_nil (before.map _)]
  exact sent.andThen (.bind_error (.bind_error failed))

/-- A message that has no parts conforms to no schema of the catalog. -/
theorem Fit.unknown_of_not_callable (fit : Fit catalog registry update)
    (uncallable : ¬Callable registry update) :
    ∃ name, update.schemaName = .scalar name ∧ catalog.find? name = none := by
  obtain ⟨record, message, ready⟩ := fit
  obtain ⟨name, named, conforms⟩ := ready.conforms
  refine ⟨name, named, Option.eq_none_iff_forall_ne_some.mpr fun schema known => ?_⟩
  obtain ⟨variant, body, type, shape, _⟩ := conforms schema known
  refine uncallable ⟨message, ready.filled, ?_⟩
  rw [shape]
  trivial

/-- Every way that a list of updates can go, by what is sent and answered. It is refused for one
that is not fit, it ends at the first whose message has no parts, or all of it is sent. -/
inductive Batch (client : Client σ) (catalog : Schema.Catalog) (registry : Registry) (chain : σ) :
    List ConfigUpdate → List Transaction → Except Fault (List UpdateResult) → Prop where
  | refused {updates : List ConfigUpdate} {fault : Fault} :
      (∃ update ∈ updates, ¬Fit catalog registry update) →
      Batch client catalog registry chain updates [] (.error fault)
  | cut {before rest : List ConfigUpdate} {culprit : ConfigUpdate}
      {transactions : List Transaction} {kind : String} :
      (∀ update ∈ before ++ culprit :: rest, Fit catalog registry update) →
      (∀ update ∈ before, Callable registry update) → ¬Callable registry culprit →
      List.Forall₂ (Executes client.address catalog registry) before transactions →
      Batch client catalog registry chain (before ++ culprit :: rest) transactions
        (.error (.wrongKind kind))
  | sent {updates : List ConfigUpdate} {transactions : List Transaction}
      {results : List UpdateResult} :
      (∀ update ∈ updates, Fit catalog registry update) →
      (∀ update ∈ updates, Callable registry update) →
      List.Forall₂ (Executes client.address catalog registry) updates transactions →
      results.map (·.update) = updates →
      List.Forall₂ Noted ((client.exchanges chain transactions).map (·.answer))
        (results.map (·.outcome)) →
      Batch client catalog registry chain updates transactions (.ok results)

private theorem configure_cut {before rest : List ConfigUpdate} {culprit : ConfigUpdate}
    (fit : ∀ update ∈ before ++ culprit :: rest, Fit catalog registry update)
    (callable : ∀ update ∈ before, Callable registry update)
    (uncallable : ¬Callable registry culprit) (client : Client σ) (session : Session σ) :
    ∃ transactions kind,
      Action.Conducts client (configure client catalog registry (before ++ culprit :: rest)) session
          transactions (.error (.wrongKind kind)) ∧
        List.Forall₂ (Executes client.address catalog registry) before transactions := by
  rcases Computation.mapM_cases (prepare catalog registry) (before ++ culprit :: rest) with
    ⟨_, unfit, _, fault, split, _, failed, _⟩ | ⟨prepared, ended, each⟩
  · have member : unfit ∈ before ++ culprit :: rest := by simp [split]
    obtain ⟨item, settled⟩ := prepare_isOk_iff.mpr (fit unfit member)
    cases settled.symm.trans failed
  · -- what is prepared divides where the updates do
    obtain ⟨front, item, back, rfl, earlier, settled⟩ := Computation.split_of_append each
    have parts : ∀ item ∈ front, (Template.ofValue item.message).HasParts :=
      (Computation.forall_mem_iff earlier fun _ _ settled => callable_iff settled).mp callable
    have partless := (callable_iff settled).not.mp uncallable
    obtain ⟨kind, conducts⟩ := sendUpdates_partless client parts partless back session
    refine ⟨_, kind, ?_, executes_of_prepared earlier client.address⟩
    exact (Action.Conducts.except client session ended).andThen conducts

theorem configure_batch (client : Client σ) (catalog : Schema.Catalog) (registry : Registry)
    (updates : List ConfigUpdate) (session : Session σ) :
    ∃ transactions answer,
      Action.Conducts client (configure client catalog registry updates) session transactions
          answer ∧
        Batch client catalog registry session.chain updates transactions answer := by
  by_cases unfit : ∃ update ∈ updates, ¬Fit catalog registry update
  · obtain ⟨_, _, _, _, _, _, _, _, _, halted⟩ := configure_refused unfit
    exact ⟨_, _, halted, .refused unfit⟩
  push Not at unfit
  by_cases uncallable : ∃ update ∈ updates, ¬Callable registry update
  · obtain ⟨before, culprit, rest, rfl, callable, stopped⟩ :=
      Computation.firstRefused_not_iff.mpr uncallable
    obtain ⟨_, _, conducts, executed⟩ := configure_cut unfit callable stopped client session
    exact ⟨_, _, conducts, .cut unfit callable stopped executed⟩
  · push Not at uncallable
    obtain ⟨_, _, conducts, executed, applied, noted⟩ :=
      configure_sent client session uncallable unfit
    exact ⟨_, _, conducts, .sent unfit uncallable executed applied noted⟩

/-- Once something is sent, all of it is, and each update is told of in the results, unless a
message among them has no parts. That one and those behind it are then not sent, and what came of
those before it is lost. Something is sent if all updates are fit and the first can be told of. -/
theorem sending_stops_at_partless (client : Client σ) (catalog : Schema.Catalog)
    (registry : Registry) (updates : List ConfigUpdate) (session : Session σ) :
    ∃ transactions answer,
      Action.Conducts client (configure client catalog registry updates) session transactions
          answer ∧
        (transactions ≠ [] ↔
          (∀ update ∈ updates, Fit catalog registry update) ∧
            ∃ first rest, updates = first :: rest ∧ Callable registry first) ∧
        (transactions ≠ [] →
          ((∀ update ∈ updates, Callable registry update) →
            ∃ results, answer = .ok results ∧ results.map (·.update) = updates ∧
              List.Forall₂ (Executes client.address catalog registry) updates transactions ∧
              List.Forall₂ Noted ((client.exchanges session.chain transactions).map (·.answer))
                (results.map (·.outcome))) ∧
          ((∃ update ∈ updates, ¬Callable registry update) →
            ∃ before culprit rest kind, updates = before ++ culprit :: rest ∧
              (∀ update ∈ before, Callable registry update) ∧ ¬Callable registry culprit ∧
              (∃ name, culprit.schemaName = .scalar name ∧ catalog.find? name = none) ∧
              answer = .error (.wrongKind kind) ∧
              List.Forall₂ (Executes client.address catalog registry) before transactions)) := by
  obtain ⟨transactions, answer, conducts, batch⟩ :=
    configure_batch client catalog registry updates session
  refine ⟨transactions, answer, conducts, ?_⟩
  cases batch with
  | refused unfit =>
      obtain ⟨update, member, unready⟩ := unfit
      refine ⟨iff_of_false (by simp) ?_, fun sent => absurd rfl sent⟩
      rintro ⟨fit, _⟩
      exact unready (fit update member)
  | @cut before rest culprit _ kind fit callable uncallable executed =>
      -- nothing is sent if the culprit comes first
      refine ⟨?_, fun _ => ⟨fun each => absurd (each culprit (by simp)) uncallable, fun _ => ?_⟩⟩
      · cases executed with
        | nil => simp [uncallable]
        | cons _ _ =>
            exact iff_of_true (List.cons_ne_nil _ _)
              ⟨fit, _, _, rfl, callable _ List.mem_cons_self⟩
      · have unknown := (fit culprit (by simp)).unknown_of_not_callable uncallable
        exact ⟨before, culprit, rest, kind, rfl, callable, uncallable, unknown, rfl, executed⟩
  | @sent _ _ results fit callable executed applied noted =>
      refine ⟨?_, fun _ => ⟨fun _ => ⟨results, rfl, applied, executed, noted⟩, ?_⟩⟩
      · cases executed with
        | nil => simp
        | cons _ _ =>
            exact iff_of_true (List.cons_ne_nil _ _)
              ⟨fit, _, _, rfl, callable _ List.mem_cons_self⟩
      · rintro ⟨update, member, uncallable⟩
        exact absurd (callable update member) uncallable

/-- A plan that pings a contract and then sends it a number. -/
def numberedPlan : Value :=
  .object [("config_updates", .list
    [.object [("target", .text "hub"), ("msg", .object [("ping", .object [])])],
      .object [("target", .text "hub"), ("msg", .int 5)]])]

/-- The contract is recorded and the catalog does not know it. The number ends the command when the
ping is already sent and accepted. -/
theorem number_cuts_sending :
    ∃ plan, Plan.ofValue numberedPlan ⟨"/", []⟩ = .ok plan ∧
      ∃ kind, Action.Conducts storesOnce
        (configure storesOnce ⟨"terra", []⟩ hubOnly plan.updates)
        (.start [.ok (Outcome.plain false)] ⟨⟨"/", []⟩, []⟩ "")
        [[.execute "deployer" (.text "terra1hub") (.object [("ping", .object [])])]]
        (.error (.wrongKind kind)) :=
  ⟨_, rfl, _, rfl, ⟨⟨rfl, rfl⟩, rfl, rfl, rfl, rfl, rfl⟩⟩

end Rollout.Deployment
