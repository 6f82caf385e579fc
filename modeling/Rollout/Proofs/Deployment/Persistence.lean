import Rollout.Proofs.Deployment.Interruption

/-!
# Persisted registries

What is recorded is in the file before anything more is sent. A run that is cut off at any broadcast
leaves a file that gives back the records made so far, unless none was made and no file was touched.
-/

set_option autoImplicit false

namespace Rollout.Deployment

open Rollout.Chain

variable {σ : Type}

/-- What a run has in memory and what it leaves in the file agree: the file gives the registry back,
or nothing was recorded and no file was touched. -/
def Persisted (path : Path) (registry reached : Registry) (before after : Files) : Prop :=
  (reached = registry ∧ after = before) ∨ Registry.load after path = .ok reached

theorem Course.storable {account : String} {path : Option Path} {recorded : Scalar → Bool}
    {descriptors : List Descriptor} {exchanges : List Exchange} {added : List Record}
    {ending : Except Halt Unit}
    (course : Course account path recorded descriptors exchanges added ending)
    (named : ∀ descriptor ∈ descriptors, ∃ text, descriptor.name = .text text)
    (numbered : Numbered exchanges) : ∀ record ∈ added, record.Storable := by
  induction course with
  | complete => exact fun _ member => absurd member List.not_mem_nil
  | skipped _ _ ih =>
      exact ih (fun other member => named other (List.mem_cons_of_mem _ member)) numbered
  | deployed _ traffic _ ih =>
      intro record member
      obtain rfl | later := List.mem_cons.mp member
      · exact traffic.storable (named _ List.mem_cons_self) numbered.left
      · exact ih (fun other among => named other (List.mem_cons_of_mem _ among)) numbered.right
          record later
  | halted => exact fun _ member => absurd member List.not_mem_nil
  | unkept _ _ traffic =>
      intro record member
      obtain rfl := List.mem_singleton.mp member
      exact traffic.storable (named _ List.mem_cons_self) numbered

section

variable {client : Client σ} {catalog : Schema.Catalog} {registry : Registry}
  {descriptors : List Descriptor} {session : Session σ} {transactions : List Transaction}

private theorem advance_storable {path : Option Path}
    (distinct : (descriptors.map (·.name.key)).Nodup) (storable : registry.Storable)
    (named : ∀ descriptor ∈ descriptors, ∃ text, descriptor.name = .text text)
    (sent : ((advance client catalog path registry descriptors).run session).2.sent =
      session.sent ++ transactions)
    (numbered : Numbered (client.exchanges session.chain transactions)) :
    ((advance client catalog path registry descriptors).run session).1.1.Storable := by
  obtain ⟨asked, added, broadcasts, grown, chainId, course⟩ :=
    advance_course client catalog path registry.contains descriptors registry session distinct
      fun _ _ => rfl
  rw [broadcasts.sent] at sent
  obtain rfl := List.append_cancel_left sent
  refine ⟨chainId ▸ storable.chainId, fun record member => ?_⟩
  rw [grown] at member
  obtain old | new := List.mem_append.mp member
  · exact storable.records record old
  · exact course.storable named numbered record new

variable {path : Path}

private theorem advance_persisted (distinct : (descriptors.map (·.name.key)).Nodup)
    (storable : registry.Storable)
    (named : ∀ descriptor ∈ descriptors, ∃ text, descriptor.name = .text text)
    (sent : ((advance client catalog (some path) registry descriptors).run session).2.sent =
      session.sent ++ transactions)
    (numbered : Numbered (client.exchanges session.chain transactions))
    (saves : ∀ fault, ((advance client catalog (some path) registry descriptors).run session).1.2 ≠
      .error (.bare (.file fault))) :
    Persisted path registry
      ((advance client catalog (some path) registry descriptors).run session).1.1 session.files
      ((advance client catalog (some path) registry descriptors).run session).2.files := by
  refine advance_saved descriptors registry session (fun fault halted => ?_)
    (advance_storable distinct storable named sent numbered)
  obtain ⟨reason, _, rfl, _⟩ := advance_bare halted
  exact saves reason halted

/-- What is sent before the turn of a contract comes first among all that is sent. -/
theorem advance_first {before rest : List Descriptor} {known : Registry} {middle : Session σ}
    (advanced : (advance client catalog (some path) registry before).run session =
      ((known, .ok ()), middle))
    (sent : ((advance client catalog (some path) registry (before ++ rest)).run session).2.sent =
      session.sent ++ transactions) :
    ∃ first more, transactions = first ++ more ∧ middle.sent = session.sent ++ first := by
  obtain ⟨first, _, sentFirst, _⟩ :=
    advance_grown client catalog (some path) before registry session
  obtain ⟨more, _, sentMore, _⟩ := advance_grown client catalog (some path) rest known middle
  rw [advanced] at sentFirst
  rw [advance_append advanced, sentMore, sentFirst, List.append_assoc] at sent
  exact ⟨first, more, (List.append_cancel_left sent).symm, sentFirst⟩

theorem run_grown (client : Client σ) (catalog : Schema.Catalog) (path : Option Path)
    (registry : Registry) (descriptors : List Descriptor) (session : Session σ) :
    session.sent <+: ((run client catalog path registry descriptors).run session).2.sent ∧
      registry.records <+:
        ((run client catalog path registry descriptors).run session).1.1.records := by
  by_cases distinct : (descriptors.map (·.name.key)).Nodup
  · obtain ⟨outcome, quiet⟩ := run_of_distinct client catalog path registry session distinct
    obtain ⟨transactions, added, sent, grown, _⟩ :=
      advance_grown client catalog path descriptors registry session
    rw [quiet.sent, List.append_nil, outcome]
    exact ⟨⟨transactions, sent.symm⟩, ⟨added, grown.symm⟩⟩
  · obtain ⟨_, _, ran⟩ := run_of_repeated client catalog path registry session distinct
    rw [ran]
    exact ⟨List.prefix_rfl, List.prefix_rfl⟩

theorem run_storable {path : Option Path} (storable : registry.Storable)
    (named : ∀ descriptor ∈ descriptors, ∃ text, descriptor.name = .text text)
    (sent : ((run client catalog path registry descriptors).run session).2.sent =
      session.sent ++ transactions)
    (numbered : Numbered (client.exchanges session.chain transactions)) :
    ((run client catalog path registry descriptors).run session).1.1.Storable := by
  by_cases distinct : (descriptors.map (·.name.key)).Nodup
  · obtain ⟨outcome, quiet⟩ := run_of_distinct client catalog path registry session distinct
    rw [quiet.sent, List.append_nil] at sent
    rw [outcome]
    exact advance_storable distinct storable named sent numbered
  · obtain ⟨_, _, ran⟩ := run_of_repeated client catalog path registry session distinct
    rw [ran]
    exact storable

theorem run_persisted (storable : registry.Storable)
    (named : ∀ descriptor ∈ descriptors, ∃ text, descriptor.name = .text text)
    (sent : ((run client catalog (some path) registry descriptors).run session).2.sent =
      session.sent ++ transactions)
    (numbered : Numbered (client.exchanges session.chain transactions))
    (saves : ∀ fault, ((run client catalog (some path) registry descriptors).run session).1.2 ≠
      .error (.bare (.file fault))) :
    Persisted path registry
      ((run client catalog (some path) registry descriptors).run session).1.1 session.files
      ((run client catalog (some path) registry descriptors).run session).2.files := by
  by_cases distinct : (descriptors.map (·.name.key)).Nodup
  · obtain ⟨outcome, quiet⟩ := run_of_distinct client catalog (some path) registry session distinct
    rw [quiet.sent, List.append_nil] at sent
    rw [outcome] at saves ⊢
    rw [quiet.files]
    exact advance_persisted distinct storable named sent numbered saves
  · obtain ⟨_, _, ran⟩ := run_of_repeated client catalog (some path) registry session distinct
    rw [ran]
    exact .inl ⟨rfl, rfl⟩

/-- Whenever the turn of a contract comes, all that was recorded before it is in the file. -/
theorem TurnOf.persisted {descriptor : Descriptor} {known : Registry} {middle : Session σ}
    (turn : TurnOf client catalog (some path) registry descriptors session descriptor known middle)
    (distinct : (descriptors.map (·.name.key)).Nodup) (storable : registry.Storable)
    (named : ∀ descriptor ∈ descriptors, ∃ text, descriptor.name = .text text)
    (sent : ((run client catalog (some path) registry descriptors).run session).2.sent =
      session.sent ++ transactions)
    (numbered : Numbered (client.exchanges session.chain transactions)) :
    Persisted path registry known session.files middle.files := by
  obtain ⟨_, quiet⟩ := run_of_distinct client catalog (some path) registry session distinct
  rw [quiet.sent, List.append_nil] at sent
  obtain ⟨before, rest, _, rfl, advanced, _⟩ := turn
  obtain ⟨first, more, rfl, sentFirst⟩ := advance_first advanced sent
  rw [Client.exchanges_append] at numbered
  rw [List.map_append, List.nodup_append] at distinct
  have persisted : Persisted path registry
      ((advance client catalog (some path) registry before).run session).1.1 session.files
      ((advance client catalog (some path) registry before).run session).2.files := by
    refine advance_persisted distinct.1 storable
      (fun other member => named other (List.mem_append_left _ member)) ?_ numbered.left ?_
    · rw [advanced, sentFirst]
    · intro fault halted
      rw [advanced] at halted
      cases halted
  rw [advanced] at persisted
  exact persisted

/-- The file never lags behind the run: it gives back the registry that the run has in memory when
it ends and at each of its broadcasts, unless nothing was recorded and no file was touched. What a
run has at a broadcast is what is left of it if the client fails there. -/
theorem run_persists (storable : registry.Storable)
    (named : ∀ descriptor ∈ descriptors, ∃ text, descriptor.name = .text text)
    (sent : ((run client catalog (some path) registry descriptors).run session).2.sent =
      session.sent ++ transactions)
    (numbered : Numbered (client.exchanges session.chain transactions))
    (saves : ∀ fault, ((run client catalog (some path) registry descriptors).run session).1.2 ≠
      .error (.bare (.file fault))) :
    Persisted path registry
        ((run client catalog (some path) registry descriptors).run session).1.1 session.files
        ((run client catalog (some path) registry descriptors).run session).2.files ∧
      ∀ count < transactions.length, ∀ failure,
        let stopped := (run (client.failingAfter failure) catalog (some path) registry
          descriptors).run (session.allowing count)
        stopped.2.sent = session.sent ++ transactions.take (count + 1) ∧
          (∃ descriptor middle,
            TurnOf client catalog (some path) registry descriptors session descriptor stopped.1.1
                middle ∧
              SentIn client catalog (some path) stopped.1.1 descriptor middle
                (session.sent.length + count) ∧
              stopped.2.files = middle.files) ∧
          Persisted path registry stopped.1.1 session.files stopped.2.files := by
  refine ⟨run_persisted storable named sent numbered saves, fun count within failure => ?_⟩
  have distinct := distinct_of_sent sent within
  obtain ⟨descriptor, known, middle, halt, after, turn, sentIn, cut, sentCut, files⟩ :=
    run_interrupted failure sent within
  intro stopped
  rw [show stopped = ((known, .error halt), after) from cut]
  refine ⟨sentCut, ⟨descriptor, middle, turn, sentIn, files⟩, ?_⟩
  rw [files]
  exact turn.persisted distinct storable named sent numbered

end

private theorem Persisted.load {path : Path} {registry reached known : Registry}
    {before after : Files}
    (persisted : Persisted path registry reached before after) (same : reached = known)
    (grown : known.records ≠ registry.records) : Registry.load after path = .ok known := by
  subst same
  obtain ⟨untouched, _⟩ | loaded := persisted
  · exact absurd (congrArg Registry.records untouched) grown
  · exact loaded

/-- The first contract is in the file when the run halts at the second, and already when the code of
the second is sent. -/
theorem interrupted_pair_persists :
    let stopped := (run (interrupted.client.failingAfter ⟨.connection, "down"⟩) pairCatalog
      interrupted.path interrupted.registry pair).run (interrupted.session.allowing 2)
    Registry.load (interrupted.finished pairCatalog pair).2.files ⟨"/", ["registry.json"]⟩ =
        .ok hubRecorded ∧
      stopped.2.sent.length = 3 ∧
      Registry.load stopped.2.files ⟨"/", ["registry.json"]⟩ = .ok hubRecorded := by
  intro stopped
  have storable : (Registry.empty .null).Storable := Registry.storable_empty trivial
  have named : ∀ descriptor ∈ pair, ∃ text, descriptor.name = .text text := by simp [pair]
  have saves : ∀ fault,
      (interrupted.finished pairCatalog pair).1.2 ≠ .error (.bare (.file fault)) := by
    intro fault failed
    cases failed
  obtain ⟨persisted, cut⟩ := run_persists storable named (List.nil_append _).symm
    interrupted_faithful.numbered saves
  obtain ⟨sent, _, persistedThen⟩ := cut 2 (by decide) ⟨.connection, "down"⟩
  have reached : (interrupted.finished pairCatalog pair).1.1 = hubRecorded :=
    Registry.eq_of_records rfl rfl
  have reachedThen : stopped.1.1 = hubRecorded := Registry.eq_of_records rfl rfl
  have grown : hubRecorded.records ≠ (Registry.empty .null).records := by
    intro same
    cases same
  exact ⟨persisted.load reached grown, congrArg List.length sent,
    persistedThen.load reachedThen grown⟩

end Rollout.Deployment
