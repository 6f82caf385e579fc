import Rollout.Proofs.Deployment.Persistence
import Rollout.Proofs.Plan.Order

/-!
# Completed runs

A run that completes has recorded every contract that it was given, and has sent nothing but what
stores code or instantiates a contract.
-/

set_option autoImplicit false

namespace Rollout

open Rollout.Chain

variable {σ : Type}

/-- A transaction asks for one thing, to store code or to instantiate a contract. -/
def Chain.DeploysOnly (transaction : Transaction) : Prop :=
  ∃ message, transaction = [message] ∧ (message.kind = .store ∨ message.kind = .instantiate)

namespace Deployment

private theorem Traffic.deploys {account : String} {name : Scalar} {exchanges : List Exchange}
    {made : Option Record} (traffic : Traffic account name exchanges made) :
    ∀ exchange ∈ exchanges, DeploysOnly exchange.transaction := by
  cases traffic with
  | silent => exact List.forall_mem_nil _
  | storeAlone => simp [DeploysOnly, Message.kind]
  | unrecorded => simp [DeploysOnly, Message.kind]
  | recorded => simp [DeploysOnly, Message.kind]

private theorem Course.deploys {account : String} {path : Option Path} {recorded : Scalar → Bool}
    {descriptors : List Descriptor} {exchanges : List Exchange} {added : List Record}
    {ending : Except Halt Unit}
    (course : Course account path recorded descriptors exchanges added ending) :
    ∀ exchange ∈ exchanges, DeploysOnly exchange.transaction := by
  induction course with
  | complete => exact List.forall_mem_nil _
  | skipped _ _ ih => exact ih
  | deployed _ traffic _ ih => exact List.forall_mem_append.mpr ⟨traffic.deploys, ih⟩
  | halted _ traffic => exact traffic.deploys
  | unkept _ _ traffic => exact traffic.deploys

section

variable {client : Client σ} {catalog : Schema.Catalog} {path : Path}
  {registry reached : Registry} {descriptors : List Descriptor} {session after : Session σ}

/-- What a run did that completed. -/
structure Completes (client : Client σ) (catalog : Schema.Catalog) (path : Path)
    (registry : Registry) (descriptors : List Descriptor) (session : Session σ)
    (reached : Registry) (after : Session σ) (deploying : List Exchange) : Prop where
  broadcasts : Session.Broadcasts client (deploying.map (·.transaction)) session after
  answered : client.exchanges session.chain (deploying.map (·.transaction)) = deploying
  deploys : ∀ exchange ∈ deploying, DeploysOnly exchange.transaction
  recorded : ∀ descriptor ∈ descriptors, reached.contains descriptor.name = true
  chainId : reached.chainId = registry.chainId
  course : ∃ added, reached.records = registry.records ++ added ∧
    Course catalog.account (some path) registry.contains descriptors deploying added (.ok ())
  kept : Kept path registry reached session.files after.files

theorem run_completes
    (ran : (run client catalog (some path) registry descriptors).run session =
      ((reached, .ok ()), after)) :
    ∃ deploying,
      Completes client catalog path registry descriptors session reached after deploying := by
  by_cases distinct : (descriptors.map (·.name.key)).Nodup
  · obtain ⟨outcome, quiet⟩ :=
      run_of_distinct client catalog (some path) registry session distinct
    rcases advanced : (advance client catalog (some path) registry descriptors).run session with
      ⟨⟨known, ending⟩, middle⟩
    obtain ⟨transactions, added, asked, grown, chainId, course⟩ :=
      advance_course client catalog (some path) registry.contains descriptors registry session
        distinct fun _ _ => rfl
    have kept := @advance_kept σ client catalog path descriptors registry session
    rw [ran, advanced] at outcome quiet
    rw [advanced] at asked grown chainId course kept
    cases outcome
    have sends := asked.trans quiet.toBroadcasts
    rw [List.append_nil] at sends
    refine ⟨client.exchanges session.chain transactions, ?_, ?_, course.deploys, ?_, chainId,
      ⟨added, grown, course⟩, ?_⟩
    · rw [Client.exchanges_transactions]
      exact sends
    · rw [Client.exchanges_transactions]
    · intro descriptor member
      exact (advance_contains_iff advanced _).mpr (.inr ⟨descriptor, member, rfl⟩)
    · rw [quiet.files]
      exact kept (by simp)
  · obtain ⟨_, _, repeated⟩ :=
      run_of_repeated client catalog (some path) registry session distinct
    rw [repeated] at ran
    cases ran

namespace Completes

variable {deploying : List Exchange}
  (completes :
    Completes client catalog path registry descriptors session reached after deploying)
include completes

private theorem named (textual : ∀ record ∈ reached.records, ∃ text, record.name = .text text) :
    ∀ descriptor ∈ descriptors, ∃ text, descriptor.name = .text text := by
  intro descriptor member
  obtain ⟨record, among, same⟩ := Registry.contains_iff.mp (completes.recorded descriptor member)
  obtain ⟨text, named⟩ := textual record among
  rw [named] at same
  exact ⟨text, Scalar.key_eq_text_iff.mp same.symm⟩

/-- What was recorded before can be read again, and so can what the chain assigned. -/
theorem legible (before : registry.Legible)
    (textual : ∀ record ∈ reached.records, ∃ text, record.name = .text text)
    (numbered : Numbered deploying) : reached.Legible := by
  obtain ⟨added, grown, course⟩ := completes.course
  refine ⟨completes.chainId ▸ before.chainId, fun record member => ?_⟩
  rw [grown, List.mem_append] at member
  rcases member with old | new
  · exact before.records record old
  · exact (course.storable (completes.named textual) numbered record new).legible

end Completes

end

end Deployment

end Rollout
