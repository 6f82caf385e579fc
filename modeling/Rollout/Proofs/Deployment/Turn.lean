import Rollout.Proofs.Deployment.Attempt

/-!
# Turns of a run

What one contract of a run comes to: it is skipped, or an attempt is made to deploy it, after which
the registry is extended and kept in a file.
-/

set_option autoImplicit false

namespace Rollout.Deployment

open Rollout.Chain

variable {σ : Type}

/-- A registry is kept in a file if one is asked for. The run ends if the file cannot be written. -/
inductive Keeping (registry : Registry) (session : Session σ) :
    Option Path → Except Halt Unit → Session σ → Prop where
  | unasked : Keeping registry session none (.ok ()) session
  | saved {path : Path} {files : Files} {log : List Log.Entry} :
      (registry.save path session.clock).run.run session.files = (.ok (), files) →
      Keeping registry session (some path) (.ok ()) { session with files, log }
  | failed {path : Path} {fault : FileFault} {files : Files} {log : List Log.Entry} :
      (registry.save path session.clock).run.run session.files = (.error fault, files) →
      Keeping registry session (some path) (.error (.bare (.file fault)))
        { session with files, log }

/-- The turn of a contract: the registry and the ending it leads to, and the session after it. -/
inductive Turn (client : Client σ) (catalog : Schema.Catalog) (path : Option Path)
    (registry : Registry) (descriptor : Descriptor) (session : Session σ) :
    Registry → Except Halt Unit → Session σ → Prop where
  | skipped {after : Session σ} :
      registry.contains descriptor.name = true → Session.Sends client [] session after →
      Turn client catalog path registry descriptor session registry (.ok ()) after
  | halted {transactions : List Transaction} {fault : Fault} {after : Session σ} :
      registry.contains descriptor.name = false →
      Session.Sends client transactions session after →
      Attempt client.toSigner catalog registry session.files descriptor
        (client.exchanges session.chain transactions) (.error fault) →
      Turn client catalog path registry descriptor session registry
        (.error (.resumable (asDeploymentFault descriptor.name fault) descriptor.name registry))
        after
  | recorded {transactions : List Transaction} {record : Record} {middle after : Session σ}
      {extended : Registry} {ending : Except Halt Unit} :
      registry.contains descriptor.name = false →
      Session.Sends client transactions session middle →
      Attempt client.toSigner catalog registry session.files descriptor
        (client.exchanges session.chain transactions) (.ok record) →
      extended.records = registry.records ++ [record] → extended.chainId = registry.chainId →
      Keeping extended middle path ending after →
      Turn client catalog path registry descriptor session extended ending after

theorem Attempt.name_eq {signer : Signer} {catalog : Schema.Catalog} {registry : Registry}
    {files : Files} {descriptor : Descriptor} {exchanges : List Exchange} {record : Record}
    (attempt : Attempt signer catalog registry files descriptor exchanges (.ok record)) :
    record.name = descriptor.name := by
  cases attempt
  rfl

private theorem keep_keeping (registry : Registry) (path : Path) (session : Session σ) :
    (∃ after, (keep registry path).run.run session = (.ok (), after) ∧
      Keeping registry session (some path) (.ok ()) after) ∨
    ∃ fault after, (keep registry path).run.run session = (.error fault, after) ∧
      Keeping registry session (some path) (.error (.bare fault)) after := by
  simp only [keep, Computation.run_bind, Action.run_get, Action.run_edit]
  rcases saved : (registry.save path session.clock).run.run session.files with ⟨ending, files⟩
  cases ending with
  | ok _ => exact .inl ⟨_, rfl, .saved saved⟩
  | error fault => exact .inr ⟨_, _, rfl, .failed saved⟩

/-- Every contract has its turn. -/
theorem step_turn (client : Client σ) (catalog : Schema.Catalog) (path : Option Path)
    (registry : Registry) (descriptor : Descriptor) (session : Session σ) :
    ∃ extended ending after,
      (step client catalog path registry descriptor).run session = ((extended, ending), after) ∧
        Turn client catalog path registry descriptor session extended ending after := by
  suffices turn : Turn client catalog path registry descriptor session
      ((step client catalog path registry descriptor).run session).1.1
      ((step client catalog path registry descriptor).run session).1.2
      ((step client catalog path registry descriptor).run session).2 from ⟨_, _, _, rfl, turn⟩
  cases found : registry.find? descriptor.name with
  | some record =>
      have present : registry.contains descriptor.name = true := by
        rw [Registry.contains, found]; rfl
      simp only [step, found]
      exact .skipped present (.report client _ session)
  | none =>
      have absent : registry.contains descriptor.name = false :=
        Registry.contains_eq_false_iff.mpr found
      obtain ⟨transactions, answer, conducted, attempt⟩ :=
        deployResolved_attempt client catalog registry descriptor session
      rcases ran : (deployResolved client catalog registry descriptor).run.run session with
        ⟨result, middle⟩
      have answered := conducted.answered
      have sends := conducted.sends
      rw [ran] at answered sends
      subst answered
      cases result with
      | error fault =>
          simp only [step, found, Change.run_bind, ran]
          have quiet := sends.trans (Session.Sends.report client ⟨.error, .run,
            s!"Deployment halted at {descriptor.name.display}: {fault.message}"⟩ middle)
          rw [List.append_nil] at quiet
          exact .halted absent quiet attempt
      | ok record =>
          have fresh : registry.find? record.name = none := by rw [attempt.name_eq, found]
          obtain ⟨extended, added, records, chainId⟩ := Registry.add_of_find?_eq_none fresh
          cases path with
          | none =>
              simp only [step, found, Change.run_bind, ran, added]
              exact .recorded absent sends attempt records chainId .unasked
          | some path =>
              rcases keep_keeping extended path middle with
                ⟨after, kept, keeping⟩ | ⟨fault, after, kept, keeping⟩
              · simp only [step, found, Change.run_bind, ran, added, kept]
                exact .recorded absent sends attempt records chainId keeping
              · simp only [step, found, Change.run_bind, ran, added, kept]
                exact .recorded absent sends attempt records chainId keeping

theorem Keeping.broadcasts (client : Client σ) {registry : Registry} {path : Option Path}
    {session after : Session σ} {ending : Except Halt Unit}
    (keeping : Keeping registry session path ending after) :
    Session.Broadcasts client [] session after := by
  cases keeping <;> exact ⟨rfl, (List.append_nil _).symm⟩

theorem Keeping.ending_eq {registry : Registry} {path : Option Path} {session after : Session σ}
    {ending : Except Halt Unit} (keeping : Keeping registry session path ending after) :
    ending = .ok () ∨
      ∃ fault, path.isSome = true ∧ ending = .error (.bare (.file fault)) := by
  cases keeping with
  | unasked => exact .inl rfl
  | saved => exact .inl rfl
  | failed => exact .inr ⟨_, rfl, rfl⟩

section

variable {client : Client σ} {catalog : Schema.Catalog} {path : Option Path}
  {registry extended : Registry} {descriptor : Descriptor} {rest : List Descriptor}
  {session middle : Session σ}

theorem advance_cons_ok
    (ran : (step client catalog path registry descriptor).run session =
      ((extended, .ok ()), middle)) :
    (advance client catalog path registry (descriptor :: rest)).run session =
      (advance client catalog path extended rest).run middle := by
  rw [advance, Change.run_bind, ran]

theorem advance_cons_error {halt : Halt}
    (ran : (step client catalog path registry descriptor).run session =
      ((extended, .error halt), middle)) :
    (advance client catalog path registry (descriptor :: rest)).run session =
      ((extended, .error halt), middle) := by
  rw [advance, Change.run_bind, ran]
  rfl

end

/-- No name is repeated just if the names are distinct and none was seen before. -/
private theorem repeatedName?_eq_none_iff {seen names : List Scalar} :
    repeatedName? seen names = none ↔
      (names.map Scalar.key).Nodup ∧ ∀ name ∈ names, name.key ∉ seen := by
  induction names generalizing seen with
  | nil => simp [repeatedName?]
  | cons name rest ih =>
      rw [repeatedName?, List.map_cons, List.nodup_cons]
      by_cases known : name.key ∈ seen
      · rw [if_pos (List.contains_iff_mem.mpr known)]
        constructor
        · intro repeated; cases repeated
        · intro fresh
          exact absurd known (fresh.2 name List.mem_cons_self)
      · rw [if_neg (mt List.contains_iff_mem.mp known), ih]
        constructor
        · rintro ⟨distinct, fresh⟩
          refine ⟨⟨?_, distinct⟩, ?_⟩
          · intro again
            obtain ⟨other, member, same⟩ := List.mem_map.mp again
            exact fresh other member (same ▸ List.mem_cons_self)
          · intro other member
            cases member with
            | head => exact known
            | tail _ later => exact fun old => fresh other later (List.mem_cons_of_mem _ old)
        · rintro ⟨⟨differs, distinct⟩, fresh⟩
          refine ⟨distinct, fun other member seenNow => ?_⟩
          obtain same | old := List.mem_cons.mp seenNow
          · exact differs (List.mem_map.mpr ⟨other, member, same⟩)
          · exact fresh other (List.mem_cons_of_mem _ member) old

private theorem repeatedName?_mem {seen names : List Scalar} {name : Scalar}
    (again : repeatedName? seen names = some name) : name ∈ names := by
  induction names generalizing seen with
  | nil => cases again
  | cons first rest ih =>
      rw [repeatedName?] at again
      split at again
      · cases again
        exact List.mem_cons_self
      · exact List.mem_cons_of_mem _ (ih again)

section

variable (client : Client σ) (catalog : Schema.Catalog) (path : Option Path) (registry : Registry)
  (session : Session σ) {descriptors : List Descriptor}

theorem run_of_distinct (distinct : (descriptors.map (·.name.key)).Nodup) :
    ((run client catalog path registry descriptors).run session).1 =
        ((advance client catalog path registry descriptors).run session).1 ∧
      Session.Sends client [] ((advance client catalog path registry descriptors).run session).2
        ((run client catalog path registry descriptors).run session).2 := by
  have unrepeated : repeatedName? [] (descriptors.map (·.name)) = none := by
    refine repeatedName?_eq_none_iff.mpr ⟨?_, fun _ _ => List.not_mem_nil⟩
    rw [List.map_map]
    exact distinct
  simp only [run, unrepeated, Change.run_bind]
  rcases (advance client catalog path registry descriptors).run session with
    ⟨⟨extended, ending⟩, after⟩
  cases ending with
  | ok _ => exact ⟨rfl, .report client _ after⟩
  | error halt => exact ⟨rfl, .refl client after⟩

theorem run_of_repeated (repeated : ¬ (descriptors.map (·.name.key)).Nodup) :
    ∃ name ∈ descriptors.map (·.name),
      (run client catalog path registry descriptors).run session =
        ((registry, .error (.bare (.duplicateContract name))), session) := by
  cases again : repeatedName? [] (descriptors.map (·.name)) with
  | none =>
      have distinct := (repeatedName?_eq_none_iff.mp again).1
      rw [List.map_map] at distinct
      exact absurd distinct repeated
  | some name =>
      refine ⟨name, repeatedName?_mem again, ?_⟩
      simp only [run, again]
      rfl

end

end Rollout.Deployment
