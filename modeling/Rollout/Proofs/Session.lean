import Rollout.Proofs.Computation
import Rollout.Session

/-!
# Exchanges of a session

The answers that a client gives to transactions in order, and actions that carry a session on by
broadcasts alone. What an action does is read off one part of it after the other.
-/

set_option autoImplicit false

namespace Rollout

open Rollout.Chain

variable {σ α β : Type}

/-- A transaction and what a client answers to it. -/
structure Chain.Exchange where
  transaction : Transaction
  answer : Except Failure Outcome

namespace Client

/-- What a client answers to transactions in order, from a state on. -/
def exchanges (client : Client σ) : σ → List Transaction → List Exchange
  | _, [] => []
  | chain, transaction :: rest =>
      ⟨transaction, (client.broadcast transaction chain).1⟩ ::
        client.exchanges (client.broadcast transaction chain).2 rest

def after (client : Client σ) : σ → List Transaction → σ
  | chain, [] => chain
  | chain, transaction :: rest => client.after (client.broadcast transaction chain).2 rest

@[simp] theorem exchanges_nil (client : Client σ) (chain : σ) :
    client.exchanges chain [] = [] := rfl

@[simp] theorem after_nil (client : Client σ) (chain : σ) : client.after chain [] = chain := rfl

private theorem after_append (client : Client σ) (chain : σ) (first second : List Transaction) :
    client.after chain (first ++ second) = client.after (client.after chain first) second := by
  induction first generalizing chain with
  | nil => rfl
  | cons transaction rest ih => exact ih _

theorem exchanges_append (client : Client σ) (chain : σ) (first second : List Transaction) :
    client.exchanges chain (first ++ second) =
      client.exchanges chain first ++ client.exchanges (client.after chain first) second := by
  induction first generalizing chain with
  | nil => rfl
  | cons transaction rest ih => exact congrArg _ (ih _)

theorem exchanges_eq_cons {client : Client σ} {chain : σ} {transactions : List Transaction}
    {exchange : Exchange} {rest : List Exchange}
    (made : client.exchanges chain transactions = exchange :: rest) :
    ∃ others, transactions = exchange.transaction :: others ∧
      (client.broadcast exchange.transaction chain).1 = exchange.answer ∧
      client.exchanges (client.broadcast exchange.transaction chain).2 others = rest := by
  cases transactions with
  | nil => cases made
  | cons transaction others =>
      rw [exchanges] at made
      obtain ⟨rfl, behind⟩ := List.cons.inj made
      exact ⟨others, rfl, rfl, behind⟩

/-- Whatever is asked first is answered as the client answers it. -/
theorem exchanges_head {client : Client σ} {chain : σ} {transactions : List Transaction}
    {transaction : Transaction} {answer given : Except Failure Outcome} {rest : List Exchange}
    (answers : (client.broadcast transaction chain).1 = answer)
    (made : client.exchanges chain transactions = ⟨transaction, given⟩ :: rest) :
    given = answer ∧ ∃ others, transactions = transaction :: others ∧
      client.exchanges (client.broadcast transaction chain).2 others = rest := by
  obtain ⟨others, asked, answered, continued⟩ := exchanges_eq_cons made
  exact ⟨answered.symm.trans answers, others, asked, continued⟩

theorem exchanges_eq_nil {client : Client σ} {chain : σ} {transactions : List Transaction}
    (made : client.exchanges chain transactions = []) : transactions = [] := by
  cases transactions with
  | nil => rfl
  | cons transaction others => cases made

theorem broadcast_of_mem_exchanges {client : Client σ} {chain : σ}
    {transactions : List Transaction} {exchange : Exchange}
    (member : exchange ∈ client.exchanges chain transactions) :
    ∃ state, (client.broadcast exchange.transaction state).1 = exchange.answer := by
  induction transactions generalizing chain with
  | nil => cases member
  | cons transaction rest ih =>
      cases member with
      | head => exact ⟨chain, rfl⟩
      | tail _ later => exact ih later

@[simp] theorem exchanges_transactions (client : Client σ) (chain : σ)
    (transactions : List Transaction) :
    (client.exchanges chain transactions).map (·.transaction) = transactions := by
  induction transactions generalizing chain with
  | nil => rfl
  | cons transaction rest ih => exact congrArg _ (ih _)

end Client

/-- A client was asked for transactions between two sessions. -/
structure Session.Broadcasts (client : Client σ) (transactions : List Transaction)
    (before after : Session σ) : Prop where
  chain : after.chain = client.after before.chain transactions
  sent : after.sent = before.sent ++ transactions

/-- Broadcasts are all that happened: besides them only the log may differ. -/
structure Session.Sends (client : Client σ) (transactions : List Transaction)
    (before after : Session σ) : Prop
    extends Session.Broadcasts client transactions before after where
  files : after.files = before.files
  clock : after.clock = before.clock
  printed : after.printed = before.printed
  requests : after.requests = before.requests
  connected : after.connected = before.connected

section

variable {client : Client σ} {first second : List Transaction} {before middle after : Session σ}

theorem Session.Broadcasts.trans (start : Broadcasts client first before middle)
    (rest : Broadcasts client second middle after) :
    Broadcasts client (first ++ second) before after where
  chain := by rw [rest.chain, start.chain, Client.after_append]
  sent := by rw [rest.sent, start.sent, List.append_assoc]

theorem Session.Broadcasts.exchanges_append (start : Broadcasts client first before middle) :
    client.exchanges before.chain (first ++ second) =
      client.exchanges before.chain first ++ client.exchanges middle.chain second := by
  rw [Client.exchanges_append, start.chain]

namespace Session.Sends

theorem refl (client : Client σ) (session : Session σ) : Sends client [] session session :=
  ⟨⟨rfl, (List.append_nil _).symm⟩, rfl, rfl, rfl, rfl, rfl⟩

theorem report (client : Client σ) (entry : Log.Entry) (session : Session σ) :
    Sends client [] session ((Session.report entry).run session).2 :=
  ⟨⟨rfl, (List.append_nil _).symm⟩, rfl, rfl, rfl, rfl, rfl⟩

theorem broadcast (client : Client σ) (transaction : Transaction) (session : Session σ) :
    Sends client [transaction] session ((Session.broadcast client transaction).run session).2 :=
  ⟨⟨rfl, rfl⟩, rfl, rfl, rfl, rfl, rfl⟩

theorem trans (start : Sends client first before middle) (rest : Sends client second middle after) :
    Sends client (first ++ second) before after where
  toBroadcasts := start.toBroadcasts.trans rest.toBroadcasts
  files := rest.files.trans start.files
  clock := rest.clock.trans start.clock
  printed := rest.printed.trans start.printed
  requests := rest.requests.trans start.requests
  connected := rest.connected.trans start.connected

end Session.Sends

end

/-- A change goes on behind a first part. -/
theorem Change.run_bind (first : Change σ α) (next : α → Change σ β) (session : Session σ) :
    (first >>= next).run session = (next (first.run session).1).run (first.run session).2 := rfl

namespace Action

/-- An action broadcasts transactions, ends in an answer and changes nothing else. -/
structure Conducts (client : Client σ) (action : Action σ α) (session : Session σ)
    (transactions : List Transaction) (answer : Except Fault α) : Prop where
  answered : (action.run.run session).1 = answer
  sends : Session.Sends client transactions session (action.run.run session).2

theorem run_get (session : Session σ) :
    (get : Action σ (Session σ)).run.run session = (.ok session, session) := rfl

theorem run_edit (edit : Files.Edit α) (session : Session σ) :
    (Session.edit edit : Action σ α).run.run session =
      ((edit.run.run session.files).1.mapError Fault.file,
        { session with files := (edit.run.run session.files).2 }) := rfl

namespace Conducts

variable {client : Client σ} {session : Session σ} {first : Action σ α} {next : α → Action σ β}
  {start rest : List Transaction}

/-- A first part that succeeds hands on to the next. -/
theorem andThen {value : α} {answer : Except Fault β}
    (begun : Conducts client first session start (.ok value))
    (ended : Conducts client (next value) (first.run.run session).2 rest answer) :
    Conducts client (first >>= next) session (start ++ rest) answer := by
  have unfolded : (first >>= next).run.run session =
      (next value).run.run (first.run.run session).2 :=
    Computation.run_bind_ok (Prod.ext begun.answered rfl)
  exact ⟨unfolded ▸ ended.answered, unfolded ▸ begun.sends.trans ended.sends⟩

/-- The next part may go on in any session that the first can lead to. -/
theorem bind_ok {value : α} {answer : Except Fault β}
    (begun : Conducts client first session start (.ok value))
    (continued : ∀ middle, Session.Sends client start session middle →
      Conducts client (next value) middle rest answer) :
    Conducts client (first >>= next) session (start ++ rest) answer :=
  begun.andThen (continued _ begun.sends)

theorem bind_error {fault : Fault} (failed : Conducts client first session start (.error fault)) :
    Conducts client (first >>= next) session start (.error fault) := by
  have unfolded : (first >>= next).run.run session =
      (.error fault, (first.run.run session).2) :=
    Computation.run_bind_error (Prod.ext failed.answered rfl)
  exact ⟨by rw [unfolded], unfolded ▸ failed.sends⟩

theorem pure (client : Client σ) (session : Session σ) (value : α) :
    Conducts client (Pure.pure value : Action σ α) session [] (.ok value) :=
  ⟨rfl, .refl client session⟩

theorem throw (client : Client σ) (session : Session σ) (fault : Fault) :
    Conducts client (MonadExcept.throw fault : Action σ α) session [] (.error fault) :=
  ⟨rfl, .refl client session⟩

theorem except (client : Client σ) (session : Session σ) {computation answer : Except Fault α}
    (computed : computation = answer) :
    Conducts client (liftM computation : Action σ α) session [] answer :=
  ⟨computed, .refl client session⟩

theorem get (client : Client σ) (session : Session σ) :
    Conducts client (MonadState.get : Action σ (Session σ)) session [] (.ok session) :=
  ⟨rfl, .refl client session⟩

theorem report (client : Client σ) (session : Session σ) (entry : Log.Entry) :
    Conducts client (ExceptT.lift (Session.report entry)) session [] (.ok ()) :=
  ⟨rfl, .report client entry session⟩

theorem broadcast (client : Client σ) (session : Session σ) (transaction : Transaction) :
    Conducts client (liftM (Session.broadcast client transaction)) session [transaction]
      (.ok (client.broadcast transaction session.chain).1) :=
  ⟨rfl, .broadcast client transaction session⟩

end Conducts

end Action

end Rollout
