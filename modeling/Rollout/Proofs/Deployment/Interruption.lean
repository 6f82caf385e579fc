import Rollout.Proofs.Deployment.Halting

/-!
# Interrupted runs

What a run has done when it broadcasts a transaction is what it leaves behind if the client fails at
that broadcast. A client that fails after a number of broadcasts sees the same transactions up to
there, and the run halts with the registry and the files of the contract whose turn it is.
-/

set_option autoImplicit false

namespace Rollout

open Rollout.Chain

variable {σ α β : Type}

/-- A client that answers as another does, as often as its state allows, and fails from then on. -/
def Client.failingAfter (client : Client σ) (failure : Failure) : Client (σ × Nat) where
  toSigner := client.toSigner
  broadcast transaction state :=
    match state with
    | (chain, 0) => (.error failure, (chain, 0))
    | (chain, count + 1) =>
        ((client.broadcast transaction chain).1, ((client.broadcast transaction chain).2, count))

/-- A session in which a number of broadcasts is answered. -/
def Session.allowing (session : Session σ) (count : Nat) : Session (σ × Nat) :=
  { session with chain := (session.chain, count) }

private theorem take_append_of_length_le {first others : List Transaction} {count : Nat}
    (within : first.length ≤ count) :
    (first ++ others).take (count + 1) = first ++ others.take (count - first.length + 1) := by
  have all : first.take (count + 1) = first := List.take_of_length_le (by omega)
  have rest : count + 1 - first.length = count - first.length + 1 := by omega
  rw [List.take_append, all, rest]

namespace Action

/-- An action as a whole, and as a part of it that ends where the client fails. -/
inductive Interrupts (failure : Failure) (whole : Action σ α) (part : Action (σ × Nat) α)
    (session : Session σ) (count : Nat) : Prop where
  | through (transactions : List Transaction) :
      (whole.run.run session).2.sent = session.sent ++ transactions →
      transactions.length ≤ count →
      part.run.run (session.allowing count) = ((whole.run.run session).1,
        (whole.run.run session).2.allowing (count - transactions.length)) →
      Interrupts failure whole part session count
  | stopped (transactions : List Transaction) :
      (whole.run.run session).2.sent = session.sent ++ transactions →
      count < transactions.length →
      (part.run.run (session.allowing count)).1 = .error (.client failure) →
      (part.run.run (session.allowing count)).2.sent =
        session.sent ++ transactions.take (count + 1) →
      Interrupts failure whole part session count

namespace Interrupts

variable {failure : Failure} {whole : Action σ α} {part : Action (σ × Nat) α}
  {session : Session σ} {count : Nat}

private theorem bind_through {next : α → Action σ β} {nextPart : α → Action (σ × Nat) β}
    {transactions : List Transaction}
    (sent : (whole.run.run session).2.sent = session.sent ++ transactions)
    (within : transactions.length ≤ count)
    (same : part.run.run (session.allowing count) = ((whole.run.run session).1,
      (whole.run.run session).2.allowing (count - transactions.length)))
    (continued : ∀ value middle remaining,
      Interrupts failure (next value) (nextPart value) middle remaining) :
    Interrupts failure (whole >>= next) (part >>= nextPart) session count := by
  rcases ran : whole.run.run session with ⟨answer, middle⟩
  rw [ran] at sent same
  cases answer with
  | error fault =>
      have wholeRan : (whole >>= next).run.run session = (.error fault, middle) :=
        Computation.run_bind_error ran
      refine .through transactions (wholeRan ▸ sent) within ?_
      rw [wholeRan]
      exact Computation.run_bind_error same
  | ok value =>
      have wholeRan : (whole >>= next).run.run session = (next value).run.run middle :=
        Computation.run_bind_ok ran
      have partRan : (part >>= nextPart).run.run (session.allowing count) =
          (nextPart value).run.run (middle.allowing (count - transactions.length)) :=
        Computation.run_bind_ok same
      cases continued value middle (count - transactions.length) with
      | through others more withinRest sameRest =>
          refine .through (transactions ++ others) ?_ ?_ ?_
          · rw [wholeRan, more, sent, List.append_assoc]
          · rw [List.length_append]
            omega
          · rw [partRan, sameRest, wholeRan, List.length_append, Nat.sub_sub]
      | stopped others more beyond failed sentRest =>
          refine .stopped (transactions ++ others) ?_ ?_ ?_ ?_
          · rw [wholeRan, more, sent, List.append_assoc]
          · rw [List.length_append]
            omega
          · rw [partRan, failed]
          · rw [partRan, sentRest, sent, take_append_of_length_le within, List.append_assoc]

private theorem bind_stopped {next : α → Action σ β} {nextPart : α → Action (σ × Nat) β}
    {transactions : List Transaction}
    (sent : (whole.run.run session).2.sent = session.sent ++ transactions)
    (beyond : count < transactions.length)
    (failed : (part.run.run (session.allowing count)).1 = .error (.client failure))
    (sentPart : (part.run.run (session.allowing count)).2.sent =
      session.sent ++ transactions.take (count + 1))
    (continued : ∀ value middle remaining,
      Interrupts failure (next value) (nextPart value) middle remaining) :
    Interrupts failure (whole >>= next) (part >>= nextPart) session count := by
  rcases partRan : part.run.run (session.allowing count) with ⟨ending, left⟩
  rw [partRan] at failed sentPart
  dsimp only at failed
  subst failed
  have stops : (part >>= nextPart).run.run (session.allowing count) =
      (.error (.client failure), left) := Computation.run_bind_error partRan
  rcases ran : whole.run.run session with ⟨answer, middle⟩
  rw [ran] at sent
  cases answer with
  | error fault =>
      have wholeRan : (whole >>= next).run.run session = (.error fault, middle) :=
        Computation.run_bind_error ran
      refine .stopped transactions (wholeRan ▸ sent) beyond ?_ ?_
      · rw [stops]
      · rw [stops]
        exact sentPart
  | ok value =>
      have wholeRan : (whole >>= next).run.run session = (next value).run.run middle :=
        Computation.run_bind_ok ran
      obtain ⟨others, more⟩ : ∃ others,
          ((next value).run.run middle).2.sent = middle.sent ++ others := by
        cases continued value middle 0 with
        | through others more => exact ⟨others, more⟩
        | stopped others more => exact ⟨others, more⟩
      refine .stopped (transactions ++ others) ?_ ?_ ?_ ?_
      · rw [wholeRan, more, sent, List.append_assoc]
      · rw [List.length_append]
        omega
      · rw [stops]
      · rw [stops, List.take_append_of_le_length beyond]
        exact sentPart

theorem bind {next : α → Action σ β} {nextPart : α → Action (σ × Nat) β}
    (first : Interrupts failure whole part session count)
    (continued : ∀ value middle remaining,
      Interrupts failure (next value) (nextPart value) middle remaining) :
    Interrupts failure (whole >>= next) (part >>= nextPart) session count := by
  cases first with
  | through transactions sent within same => exact bind_through sent within same continued
  | stopped transactions sent beyond failed sentPart =>
      exact bind_stopped sent beyond failed sentPart continued

theorem of_silent (silent : (whole.run.run session).2.sent = session.sent)
    (same : part.run.run (session.allowing count) =
      ((whole.run.run session).1, (whole.run.run session).2.allowing count)) :
    Interrupts failure whole part session count :=
  .through [] (silent.trans (List.append_nil _).symm) (Nat.zero_le _) same

theorem pure (value : α) :
    Interrupts failure (Pure.pure value : Action σ α) (Pure.pure value) session count :=
  of_silent rfl rfl

theorem except (computation : Except Fault α) :
    Interrupts failure (liftM computation : Action σ α) (liftM computation) session count :=
  of_silent rfl rfl

theorem throw (fault : Fault) :
    Interrupts failure (MonadExcept.throw fault : Action σ α) (MonadExcept.throw fault) session
      count :=
  of_silent rfl rfl

theorem report (entry : Log.Entry) :
    Interrupts failure (ExceptT.lift (Session.report entry) : Action σ Unit)
      (ExceptT.lift (Session.report entry)) session count :=
  of_silent rfl rfl

theorem get {next : Session σ → Action σ β} {nextPart : Session (σ × Nat) → Action (σ × Nat) β}
    (continued : Interrupts failure (next session) (nextPart (session.allowing count)) session
      count) :
    Interrupts failure (MonadState.get >>= next) (MonadState.get >>= nextPart) session count := by
  cases continued with
  | through transactions sent within same => exact .through transactions sent within same
  | stopped transactions sent beyond failed cut =>
      exact .stopped transactions sent beyond failed cut

end Interrupts

end Action

namespace Deployment

open Rollout.Action

variable {failure : Failure} {session : Session σ} {count : Nat}

private theorem run_send (client : Client σ) (message : Message) (session : Session σ) :
    (send client message).run.run session =
      ((client.broadcast [message] session.chain).1.mapError .client,
        ((Session.broadcast client [message]).run session).2) := by
  have asked : (liftM (Session.broadcast client [message]) :
      Action σ (Except Failure Outcome)).run.run session =
        (.ok (client.broadcast [message] session.chain).1,
          ((Session.broadcast client [message]).run session).2) := rfl
  rw [send, Computation.run_bind_ok asked]
  cases (client.broadcast [message] session.chain).1 with
  | error _ => rfl
  | ok _ => rfl

private theorem send_interrupted (client : Client σ) (message : Message) :
    Interrupts failure (send client message) (send (client.failingAfter failure) message) session
      count := by
  have sent : ((send client message).run.run session).2.sent = session.sent ++ [[message]] := by
    rw [run_send]
    rfl
  cases count with
  | zero =>
      refine .stopped [[message]] sent Nat.zero_lt_one ?_ ?_
      · rw [run_send]
        rfl
      · rw [run_send]
        rfl
  | succ count =>
      refine .through [[message]] sent (Nat.succ_le_succ (Nat.zero_le count)) ?_
      rw [run_send, run_send]
      rfl

private theorem store_interrupted (client : Client σ) (descriptor : Descriptor)
    (bytecode : List UInt8) :
    Interrupts failure (store client descriptor bytecode)
      (store (client.failingAfter failure) descriptor bytecode) session count := by
  refine .bind (.report _) fun _ begun left => ?_
  refine .bind (send_interrupted client _) fun outcome answered left => ?_
  have finish (text : String) (middle : Session σ) (remaining : Nat) :
      Interrupts failure (do say text; return outcome.codeId) (do say text; return outcome.codeId)
        middle remaining :=
    .bind (.report _) fun _ _ _ => .pure _
  cases outcome.isError with
  | false => exact finish _ _ _
  | true => exact .bind (.throw _) fun _ _ _ => finish _ _ _

private theorem instantiate_interrupted (client : Client σ) (account : String)
    (descriptor : Descriptor) (message codeId : Value) :
    Interrupts failure (instantiate client account descriptor message codeId)
      (instantiate (client.failingAfter failure) account descriptor message codeId) session
      count := by
  refine .bind (.except _) fun request read left => ?_
  refine .bind (.report _) fun _ said left => ?_
  refine .bind (send_interrupted client request) fun outcome answered left => ?_
  cases outcome.isError with
  | false => exact .except _
  | true => exact .bind (.throw _) fun _ _ _ => .except _

private theorem deployResolved_interrupted (client : Client σ) (catalog : Schema.Catalog)
    (registry : Registry) (descriptor : Descriptor) :
    Interrupts failure (deployResolved client catalog registry descriptor)
      (deployResolved (client.failingAfter failure) catalog registry descriptor) session count := by
  refine .bind (.except _) fun message resolved left => ?_
  refine .bind (.except _) fun finished unmarked left => ?_
  refine .bind (.except _) fun _ judged left => ?_
  refine .get ?_
  refine .bind (.except _) fun bytecode read left => ?_
  refine .bind (store_interrupted client _ bytecode) fun codeId stored left => ?_
  refine .bind (instantiate_interrupted client _ _ _ codeId) fun address placed left => ?_
  exact .bind (.report _) fun _ _ _ => .pure _

section

variable (client : Client σ) (catalog : Schema.Catalog) (path : Option Path) (registry : Registry)
  (descriptor : Descriptor)

private theorem keep_allowing (location : Path) (session : Session σ) (count : Nat) :
    (keep registry location).run.run (session.allowing count) =
      (((keep registry location).run.run session).1,
        ((keep registry location).run.run session).2.allowing count) := by
  simp only [keep, Computation.run_bind, Action.run_get, Action.run_edit, Session.allowing]
  rcases (registry.save location session.clock).run.run session.files with ⟨ending, files⟩
  cases ending with
  | ok _ => rfl
  | error _ => rfl

private theorem keep_sent (location : Path) (session : Session σ) :
    ((keep registry location).run.run session).2.sent = session.sent := by
  simp only [keep, Computation.run_bind, Action.run_get, Action.run_edit]
  rcases (registry.save location session.clock).run.run session.files with ⟨ending, files⟩
  cases ending with
  | ok _ => rfl
  | error _ => rfl

/-- The client has no part in what is done about a contract in the end. -/
theorem conclude_allowing (answer : Except Fault Record) (session : Session σ) (count : Nat) :
    (conclude path registry descriptor answer).run (session.allowing count) =
      (((conclude path registry descriptor answer).run session).1,
        ((conclude path registry descriptor answer).run session).2.allowing count) ∧
      ((conclude path registry descriptor answer).run session).2.sent = session.sent := by
  cases answer with
  | error fault => exact ⟨rfl, rfl⟩
  | ok record =>
      simp only [conclude]
      cases registry.add record with
      | error fault => exact ⟨rfl, rfl⟩
      | ok extended =>
          cases path with
          | none => exact ⟨rfl, rfl⟩
          | some location =>
              have sent := keep_sent extended location session
              simp only [Change.run_bind, keep_allowing]
              rcases kept : (keep extended location).run.run session with ⟨ending, after⟩
              rw [kept] at sent
              cases ending with
              | ok _ => exact ⟨rfl, sent⟩
              | error _ => exact ⟨rfl, sent⟩

/-- A client that fails in the turn of a contract ends the run with the registry and the files that
the turn began with. -/
theorem step_interrupted (failure : Failure) (session : Session σ) (count : Nat) :
    ∃ transactions,
      ((step client catalog path registry descriptor).run session).2.sent =
          session.sent ++ transactions ∧
        (transactions.length ≤ count →
          (step (client.failingAfter failure) catalog path registry descriptor).run
              (session.allowing count) =
            (((step client catalog path registry descriptor).run session).1,
              ((step client catalog path registry descriptor).run session).2.allowing
                (count - transactions.length))) ∧
        (count < transactions.length → ∃ halt after,
          (step (client.failingAfter failure) catalog path registry descriptor).run
              (session.allowing count) = ((registry, .error halt), after) ∧
            after.sent = session.sent ++ transactions.take (count + 1) ∧
            after.files = session.files) := by
  cases found : registry.find? descriptor.name with
  | some record =>
      simp only [step, found]
      exact ⟨[], (List.append_nil _).symm, fun _ => rfl,
        fun beyond => absurd beyond (Nat.not_lt_zero _)⟩
  | none =>
      simp only [step_eq_conclude _ _ _ found, Change.run_bind]
      have parted : Interrupts failure (deployResolved client catalog registry descriptor)
          (deployResolved (client.failingAfter failure) catalog registry descriptor) session
          count := deployResolved_interrupted client catalog registry descriptor
      cases parted with
      | through transactions sent within same =>
          obtain ⟨commutes, silent⟩ := conclude_allowing path registry descriptor
            ((deployResolved client catalog registry descriptor).run.run session).1
            ((deployResolved client catalog registry descriptor).run.run session).2
            (count - transactions.length)
          refine ⟨transactions, silent.trans sent, fun _ => ?_, fun beyond => ?_⟩
          · rw [same]
            exact commutes
          · exact absurd within (Nat.not_le_of_lt beyond)
      | stopped transactions sent beyond failed cut =>
          obtain ⟨_, silent⟩ := conclude_allowing path registry descriptor
            ((deployResolved client catalog registry descriptor).run.run session).1
            ((deployResolved client catalog registry descriptor).run.run session).2 0
          obtain ⟨_, _, conducted, _⟩ := deployResolved_attempt (client.failingAfter failure)
            catalog registry descriptor (session.allowing count)
          refine ⟨transactions, silent.trans sent, fun within => ?_, fun _ => ?_⟩
          · exact absurd within (Nat.not_le_of_lt beyond)
          · rw [failed]
            exact ⟨_, _, rfl, cut, conducted.sends.files⟩

end

/-- A transaction is sent in the turn of a contract, told by its place among all that are sent. -/
def SentIn (client : Client σ) (catalog : Schema.Catalog) (path : Option Path) (known : Registry)
    (descriptor : Descriptor) (middle : Session σ) (place : Nat) : Prop :=
  middle.sent.length ≤ place ∧
    place < ((step client catalog path known descriptor).run middle).2.sent.length

theorem SentIn.absent {client : Client σ} {catalog : Schema.Catalog} {path : Option Path}
    {known : Registry} {descriptor : Descriptor} {middle : Session σ} {place : Nat}
    (sentIn : SentIn client catalog path known descriptor middle place) :
    known.find? descriptor.name = none := by
  cases found : known.find? descriptor.name with
  | none => rfl
  | some record =>
      obtain ⟨start, ending⟩ := sentIn
      simp only [step, found] at ending
      exact absurd ending (Nat.not_lt_of_le start)

section

variable (client : Client σ) (catalog : Schema.Catalog) (path : Option Path) (failure : Failure)

/-- A run against a client that fails at one of its broadcasts is the run up to there: it ends in
the turn of a contract, with what the turn began with. -/
theorem advance_interrupted (descriptors : List Descriptor) :
    ∀ (registry : Registry) (session : Session σ) (count : Nat), ∃ transactions,
      ((advance client catalog path registry descriptors).run session).2.sent =
          session.sent ++ transactions ∧
        (transactions.length ≤ count →
          (advance (client.failingAfter failure) catalog path registry descriptors).run
              (session.allowing count) =
            (((advance client catalog path registry descriptors).run session).1,
              ((advance client catalog path registry descriptors).run session).2.allowing
                (count - transactions.length))) ∧
        (count < transactions.length → ∃ before descriptor rest known middle halt after,
          descriptors = before ++ descriptor :: rest ∧
            (advance client catalog path registry before).run session =
              ((known, .ok ()), middle) ∧
            SentIn client catalog path known descriptor middle (session.sent.length + count) ∧
            (advance (client.failingAfter failure) catalog path registry descriptors).run
              (session.allowing count) = ((known, .error halt), after) ∧
            after.sent = session.sent ++ transactions.take (count + 1) ∧
            after.files = middle.files) := by
  induction descriptors with
  | nil =>
      intro registry session count
      exact ⟨[], (List.append_nil _).symm, fun _ => rfl,
        fun beyond => absurd beyond (Nat.not_lt_zero _)⟩
  | cons descriptor rest ih =>
      intro registry session count
      obtain ⟨first, sent, through, stopped⟩ :=
        step_interrupted client catalog path registry descriptor failure session count
      have sentHere (beyond : count < first.length) :
          SentIn client catalog path registry descriptor session (session.sent.length + count) := by
        rw [SentIn, sent, List.length_append]
        omega
      rcases ran : (step client catalog path registry descriptor).run session with
        ⟨⟨extended, ending⟩, middle⟩
      rw [ran] at sent through
      cases ending with
      | error halt =>
          rw [advance_cons_error ran]
          refine ⟨first, sent, fun within => ?_, fun beyond => ?_⟩
          · exact advance_cons_error (through within)
          · obtain ⟨reported, after, cut, sentCut, files⟩ := stopped beyond
            exact ⟨[], descriptor, rest, registry, session, reported, after, rfl, rfl,
              sentHere beyond, advance_cons_error cut, sentCut, files⟩
      | ok _ =>
          rw [advance_cons_ok ran]
          obtain ⟨others, sentRest, throughRest, stoppedRest⟩ :=
            ih extended middle (count - first.length)
          refine ⟨first ++ others, ?_, fun within => ?_, fun beyond => ?_⟩
          · rw [sentRest, sent, List.append_assoc]
          · rw [List.length_append] at within ⊢
            rw [advance_cons_ok (through (by omega)), throughRest (by omega), Nat.sub_sub]
          · rw [List.length_append] at beyond
            by_cases here : count < first.length
            · obtain ⟨reported, after, cut, sentCut, files⟩ := stopped here
              refine ⟨[], descriptor, rest, registry, session, reported, after, rfl, rfl,
                sentHere here, advance_cons_error cut, ?_, files⟩
              rw [sentCut, List.take_append_of_le_length here]
            · obtain ⟨before, next, others', known, last, halt, after, rfl, advanced,
                sentNext, cut, sentCut, files⟩ := stoppedRest (by omega)
              have place : middle.sent.length + (count - first.length) =
                  session.sent.length + count := by
                rw [sent, List.length_append]
                omega
              rw [place] at sentNext
              refine ⟨descriptor :: before, next, others', known, last, halt, after, rfl, ?_,
                sentNext, ?_, ?_, files⟩
              · rw [advance_cons_ok ran, advanced]
              · rw [advance_cons_ok (through (by omega)), cut]
              · rw [sentCut, sent, take_append_of_length_le (Nat.le_of_not_lt here),
                  List.append_assoc]

variable {client catalog path} {registry : Registry} {descriptors : List Descriptor}
  {session : Session σ} {transactions : List Transaction} {count : Nat}

/-- A run that sends anything has contracts with distinct names. -/
theorem distinct_of_sent
    (sent : ((run client catalog path registry descriptors).run session).2.sent =
      session.sent ++ transactions)
    (within : count < transactions.length) : (descriptors.map (·.name.key)).Nodup := by
  by_contra repeated
  obtain ⟨_, _, ran⟩ := run_of_repeated client catalog path registry session repeated
  rw [ran] at sent
  have none : transactions = [] := List.self_eq_append_right.mp sent
  rw [none] at within
  exact absurd within (Nat.not_lt_zero _)

theorem run_interrupted (failure : Failure)
    (sent : ((run client catalog path registry descriptors).run session).2.sent =
      session.sent ++ transactions)
    (within : count < transactions.length) :
    ∃ descriptor known middle halt after,
      TurnOf client catalog path registry descriptors session descriptor known middle ∧
        SentIn client catalog path known descriptor middle (session.sent.length + count) ∧
        (run (client.failingAfter failure) catalog path registry descriptors).run
          (session.allowing count) = ((known, .error halt), after) ∧
        after.sent = session.sent ++ transactions.take (count + 1) ∧
        after.files = middle.files := by
  have distinct := distinct_of_sent sent within
  obtain ⟨_, quiet⟩ := run_of_distinct client catalog path registry session distinct
  obtain ⟨outcome, silent⟩ := run_of_distinct (client.failingAfter failure) catalog path registry
    (session.allowing count) distinct
  obtain ⟨others, sentAlso, _, stopped⟩ :=
    advance_interrupted client catalog path failure descriptors registry session count
  rw [quiet.sent, List.append_nil, sentAlso] at sent
  obtain rfl := List.append_cancel_left sent
  obtain ⟨before, descriptor, rest, known, middle, halt, after, rfl, advanced, sentHere, cut,
    sentCut, files⟩ := stopped within
  rw [cut] at outcome silent
  rcases finished : (run (client.failingAfter failure) catalog path registry
    (before ++ descriptor :: rest)).run (session.allowing count) with ⟨reached, last⟩
  rw [finished] at outcome silent
  dsimp only at outcome
  subst outcome
  refine ⟨descriptor, known, middle, halt, last, turnOf_of_advance advanced, sentHere, rfl, ?_,
    silent.files.trans files⟩
  rw [silent.sent, List.append_nil, sentCut]

end

end Deployment

end Rollout
