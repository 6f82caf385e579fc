import Rollout.Proofs.CommandLine.Connecting
import Rollout.Proofs.CommandLine.Crashing
import Rollout.Proofs.Deployment.Completing

/-!
# Finished invocations

A deployment that reports success has done all of it: the file records every contract of the plan,
and behind everything that stores code or instantiates a contract each update was sent once and
succeeded. Whatever is left undone shows in the exit code.
-/

set_option autoImplicit false

namespace Rollout

open Rollout.Chain

variable {σ : Type}

private theorem Chain.DeploysOnly.not_executesOnly {transaction : Transaction}
    (deploys : DeploysOnly transaction) : ¬ExecutesOnly transaction := by
  intro executes
  obtain ⟨message, rfl, stores | instantiates⟩ := deploys
  · cases stores.symm.trans (executes message List.mem_cons_self)
  · cases instantiates.symm.trans (executes message List.mem_cons_self)

namespace Deployment

section

variable {client : Client σ} {catalog : Schema.Catalog} {path : Path}
  {registry reached : Registry} {descriptors : List Descriptor} {session after : Session σ}

private theorem Kept.names {before after : Files} (kept : Kept path registry reached before after)
    (legible : reached.Legible) (start : registry.records = recordsIn before path) :
    (recordsIn after path).map (·.name) = reached.names := by
  rcases kept with ⟨rfl, rfl⟩ | ⟨clock, earlier, saved⟩
  · rw [← start, Registry.names]
  · rw [recordsIn_of_load (Registry.load_of_save_returned legible saved)]
    simp [Registry.names, Registry.returned, Record.returned]

namespace Completes

variable {deploying : List Exchange}
  (completes :
    Completes client catalog path registry descriptors session reached after deploying)
include completes

private theorem listed (legible : reached.Legible)
    (start : registry.records = recordsIn session.files path) :
    ∀ descriptor ∈ descriptors, ∃ record ∈ recordsIn after.files path,
      record.name.key = descriptor.name.key := by
  intro descriptor member
  obtain ⟨record, among, same⟩ := Registry.contains_iff.mp (completes.recorded descriptor member)
  have name : record.name ∈ reached.names := List.mem_map_of_mem among
  rw [← completes.kept.names legible start] at name
  obtain ⟨kept, there, named⟩ := List.mem_map.mp name
  exact ⟨kept, there, named ▸ same⟩

end Completes

end

end Deployment

namespace CommandLine

open Rollout.Deployment

/-- Updates that were sent one by one in order and all succeeded. -/
structure Applied (sender : String) (registry : Registry) (updates : List ConfigUpdate)
    (exchanges : List Exchange) : Prop where
  executed : List.Forall₂ (fun update exchange =>
    Executes sender standardCatalog registry update exchange.transaction) updates exchanges
  succeeded : ∀ exchange ∈ exchanges, exchange.succeeded = true

private theorem wire_eq_ok {client : Client σ} {registry : Registry} {updates : List ConfigUpdate}
    {session after : Session σ}
    (ran : (wire client registry updates).run.run session = (.ok (), after)) :
    ∃ updating, Session.Broadcasts client (updating.map (·.transaction)) session after ∧
      client.exchanges session.chain (updating.map (·.transaction)) = updating ∧
      Applied client.address registry updates updating := by
  have calm : ¬Crashes (wire client registry updates) session :=
    not_crashes_of_ok (congrArg Prod.fst ran)
  rw [wire_eq] at ran
  obtain ⟨results, middle, configured, ran⟩ := Computation.run_bind_eq_ok ran
  obtain ⟨_, printed, shown, ran⟩ := Computation.run_bind_eq_ok ran
  rw [run_perform] at configured
  obtain ⟨answer, reached⟩ := Prod.mk.inj configured
  have answer := Computation.mapError_eq_ok.mp answer
  have fit := fit_of_configure_eq_ok answer
  -- a message without parts would have crashed the command before it was sent
  have parts : ∀ update ∈ updates, update.message.HasParts := by
    by_contra partless
    push Not at partless
    exact calm ((crashes_wire_of_fit fit).mpr partless)
  obtain ⟨transactions, given, conducts, executes, _, noted⟩ :=
    configure_sent client session
      (fun update member => (fit update member).callable (parts update member)) fit
  cases conducts.answered.symm.trans answer
  have quiet : Session.Idles middle printed := by
    have idling : Idling (results.forM printResult : Task σ Unit) :=
      .forM Session.Idles.lenient.toComposes idling_printResult results
    have idles := idling middle
    rw [shown] at idles
    exact idles
  have ended : after = printed := (congrArg Prod.snd ran).symm
  have accepted : requireSuccess results = .ok () :=
    Computation.mapError_eq_ok.mp (congrArg Prod.fst ran)
  refine ⟨client.exchanges session.chain transactions, ?_, ?_, ?_, ?_⟩
  · rw [Client.exchanges_transactions, ended]
    constructor
    · rw [quiet.chain, ← reached, conducts.sends.chain]
    · rw [quiet.sent, ← reached, conducts.sends.sent]
  · rw [Client.exchanges_transactions]
  · rw [← List.forall₂_map_right_iff, Client.exchanges_transactions]
    exact executes
  · exact (Computation.forall_mem_iff (List.forall₂_map_left_iff.mp noted)
      fun _ _ => Noted.succeeded_iff).mpr (accepted_of_requireSuccess accepted)

private theorem deployPlan_eq_ok {invocation : Invocation σ} {plan : Plan} {sitting : Sitting σ}
    {after : Session σ} (begins : invocation.Begins plan sitting)
    (ran : (deployPlan invocation.host invocation.options invocation.chainId
      invocation.path).run.run invocation.session = (.ok (), after)) :
    ∃ reached middle shown,
      sitting.finished standardCatalog plan.descriptors = ((reached, .ok ()), middle) ∧
        (∀ record ∈ reached.records, ∃ text, record.name = .text text) ∧
        Session.Idles middle shown ∧
        (wire sitting.client reached plan.updates).run.run shown = (.ok (), after) := by
  rw [deployPlan_eq_of_begins begins] at ran
  have counted : (sitting.finished standardCatalog plan.descriptors).1.1.Counted :=
    run_counted (Registry.legible_of_loadOrCreate begins.found).coded.counted
  rcases finished : sitting.finished standardCatalog plan.descriptors with
    ⟨⟨reached, ending⟩, middle⟩
  rw [finished] at ran counted
  obtain ⟨_, shown, printed, ran⟩ := Computation.run_bind_eq_ok ran
  obtain ⟨_, later, settled, ran⟩ := Computation.run_bind_eq_ok ran
  obtain ⟨rfl, rfl⟩ := Prod.mk.inj settled
  refine ⟨reached, middle, shown, rfl, ?_, ?_, ran⟩
  · by_contra nameless
    push Not at nameless
    exact not_crashes_of_ok (congrArg Prod.fst printed)
      ((crashes_printTable counted).mpr nameless)
  · have idles := idling_printTable reached middle
    rw [printed] at idles
    exact idles

namespace Invocation

variable (invocation : Invocation σ)

/-- A deployment is done: the file records the contracts of the plan, whatever the client was asked
for before the updates deploys, and the updates were applied. -/
structure Finishes (plan : Plan) (sitting : Sitting σ) (deploying updating : List Exchange) :
    Prop where
  recorded : ∀ descriptor ∈ plan.descriptors,
    ∃ record ∈ recordsIn invocation.finished.2.files invocation.path,
      record.name.key = descriptor.name.key
  sent : invocation.finished.2.sent =
    invocation.session.sent ++ (deploying ++ updating).map (·.transaction)
  answered : sitting.client.exchanges sitting.session.chain
    ((deploying ++ updating).map (·.transaction)) = deploying ++ updating
  deploys : ∀ exchange ∈ deploying, DeploysOnly exchange.transaction
  applied : Applied sitting.client.address
    (sitting.finished standardCatalog plan.descriptors).1.1 plan.updates updating

variable {invocation}

private theorem run_of_exit_zero (asked : invocation.options.command = .deploy)
    (zero : invocation.finished.1 = .exit 0) :
    ∃ after, (deployPlan invocation.host invocation.options invocation.chainId
      invocation.path).run.run invocation.session = (.ok (), after) := by
  rw [ending_eq, task, taskOf, asked] at zero
  dsimp only at zero
  rcases ran : (deployPlan invocation.host invocation.options invocation.chainId
    invocation.path).run.run invocation.session with ⟨answer, after⟩
  rw [ran] at zero
  cases answer with
  | ok _ => exact ⟨after, rfl⟩
  | error halt =>
      dsimp only at zero
      split at zero <;> cases zero

private theorem Begins.unsent {plan : Plan} {sitting : Sitting σ}
    (begins : invocation.Begins plan sitting) : sitting.session.sent = invocation.session.sent := by
  obtain ⟨middle, connected, started⟩ := begins.connected
  rw [started]
  rcases connectClient_cases invocation.host invocation.options invocation.session with
    ⟨_, _, failed, _⟩ | ⟨_, _, _, _, idle, _, connects⟩
  · cases failed.symm.trans connected
  · rw [connects] at connected
    obtain ⟨_, rfl⟩ := Prod.mk.inj connected
    exact idle.sent

private theorem Begins.finishes {plan : Plan} {sitting : Sitting σ} {after : Session σ}
    (begins : invocation.Begins plan sitting)
    (numbered : Numbered (sitting.exchanges standardCatalog plan.descriptors))
    (ran : (deployPlan invocation.host invocation.options invocation.chainId
      invocation.path).run.run invocation.session = (.ok (), after)) :
    ∃ deploying updating, invocation.Finishes plan sitting deploying updating := by
  obtain ⟨reached, middle, shown, finished, textual, idles, wired⟩ := deployPlan_eq_ok begins ran
  have told := invocation.deploy_idles begins.asked
  rw [ran] at told
  have completed := finished
  rw [Sitting.finished, begins.placed] at completed
  obtain ⟨deploying, completes⟩ := run_completes completed
  obtain ⟨updating, broadcasts, answered, applied⟩ := wire_eq_ok wired
  have sentFirst := completes.broadcasts.sent
  have made : sitting.exchanges standardCatalog plan.descriptors = deploying := by
    rw [Sitting.exchanges, finished, sentFirst, List.drop_left, completes.answered]
  rw [begins.unsent] at sentFirst
  refine ⟨deploying, updating, ?_, ?_, ?_, completes.deploys, ?_⟩
  · have legible := completes.legible (Registry.legible_of_loadOrCreate begins.found) textual
      (made ▸ numbered)
    have files := begins.finished_wires.files
    rw [finished] at files
    rw [files]
    apply completes.listed legible
    rw [begins.starts.files]
    exact (Registry.loadOrCreate_eq_ok begins.found).1
  · rw [told.sent, broadcasts.sent, idles.sent, sentFirst, List.map_append, List.append_assoc]
  · rw [List.map_append, Client.exchanges_append, completes.answered,
      ← completes.broadcasts.chain, ← idles.chain, answered]
  · rw [finished]
    exact applied

private theorem Finishes.exchanges_eq {plan : Plan} {sitting : Sitting σ}
    {deploying updating : List Exchange}
    (finishes : invocation.Finishes plan sitting deploying updating) :
    sitting.client.exchanges sitting.session.chain
        (invocation.finished.2.sent.drop invocation.session.sent.length) =
      deploying ++ updating := by
  rw [finishes.sent, List.drop_left, finishes.answered]

/-- A deployment that ends with the exit code 0 is done. If a contract is not recorded in the end,
or an update did not succeed, the exit code is another. -/
theorem exit_zero_finishes (invocation : Invocation σ)
    (asked : invocation.options.command = .deploy)
    (numbered : ∀ plan sitting, invocation.Begins plan sitting →
      Numbered (sitting.exchanges standardCatalog plan.descriptors)) :
    (invocation.finished.1 = .exit 0 → ∃ plan sitting deploying updating,
        invocation.Begins plan sitting ∧ invocation.Finishes plan sitting deploying updating) ∧
      ∀ plan sitting, invocation.Begins plan sitting →
        ((∃ descriptor ∈ plan.descriptors,
            ∀ record ∈ recordsIn invocation.finished.2.files invocation.path,
              record.name.key ≠ descriptor.name.key) ∨
          ∃ exchange ∈ sitting.client.exchanges sitting.session.chain
              (invocation.finished.2.sent.drop invocation.session.sent.length),
            ExecutesOnly exchange.transaction ∧ exchange.succeeded = false) →
        invocation.finished.1 ≠ .exit 0 := by
  have done : invocation.finished.1 = .exit 0 → ∃ plan sitting deploying updating,
      invocation.Begins plan sitting ∧ invocation.Finishes plan sitting deploying updating := by
    intro zero
    obtain ⟨after, ran⟩ := run_of_exit_zero asked zero
    obtain ⟨⟨_, failed⟩, _⟩ | ⟨plan, sitting, begins⟩ := deployPlan_begins invocation asked ran.symm
    · cases failed
    · obtain ⟨deploying, updating, finishes⟩ :=
        begins.finishes (numbered plan sitting begins) ran
      exact ⟨plan, sitting, deploying, updating, begins, finishes⟩
  refine ⟨done, ?_⟩
  intro plan sitting begins undone zero
  obtain ⟨_, _, deploying, updating, again, finishes⟩ := done zero
  obtain ⟨rfl, rfl⟩ := begins.unique again
  rcases undone with ⟨descriptor, member, unrecorded⟩ | ⟨exchange, among, executes, failed⟩
  · obtain ⟨record, there, same⟩ := finishes.recorded descriptor member
    exact unrecorded record there same
  · rw [finishes.exchanges_eq, List.mem_append] at among
    rcases among with deployed | updated
    · exact (finishes.deploys exchange deployed).not_executesOnly executes
    · rw [finishes.applied.succeeded exchange updated] at failed
      cases failed

end Invocation

/-- A contract, and a message to it once it is deployed. -/
def wiredPlan : Plan :=
  ⟨[⟨.text "hub", ⟨"/", ["a"]⟩, .object [], .null, .null, .null⟩], pingPlan.updates⟩

def wiredPlanFiles : Files :=
  ⟨⟨"/", []⟩, [(⟨"/", ["a"]⟩, .octets [0]),
    (planPlace, .text (Json.print .compact wiredPlan.toValue))]⟩

/-- The contract is deployed, and the message to it is answered last. -/
def wiringHub (rejected : Bool) : Invocation (List ChainAnswer) :=
  ⟨rehearsalHost, deployPair,
    .start [storedAs 7, instantiatedAt, .ok (Outcome.plain rejected)] wiredPlanFiles ""⟩

private theorem plan_wiringHub (rejected : Bool) : (wiringHub rejected).plan = .ok wiredPlan := by
  have given : (wiringHub rejected).plan =
      Plan.load wiredPlanFiles planPlace ⟨"/", []⟩ := rfl
  have kept : Json.Kept wiredPlan.toValue := by
    simp [wiredPlan, pingPlan, Plan.toValue, Plan.descriptorValue, Plan.updateValue,
      Plan.presentField, Json.Kept, Json.KeptItems, Json.KeptFields, Json.KeptScalar, Value.text,
      Value.isNull, Template.encode, Template.encodeFields]
  have placed : (⟨"/", []⟩ : Path).child "a" = ⟨"/", ["a"]⟩ :=
    Path.child_of_proper _ ⟨by decide, by decide, by decide⟩
  have read : Plan.ofValue wiredPlan.toValue ⟨"/", []⟩ = .ok
      ⟨[⟨.text "hub", (⟨"/", []⟩ : Path).child "a", .object [], .null, .null, .null⟩],
        pingPlan.updates⟩ := rfl
  rw [given, Plan.load_of_find Json.regular_compact Json.plain_compact kept rfl, read, placed]
  rfl

private theorem wiringHub_begins (rejected : Bool) :
    (wiringHub rejected).Begins wiredPlan
      (pairSitting (wiringHub rejected) (.empty (.text "localterra"))) where
  asked := rfl
  connected := ⟨_, rfl, rfl⟩
  planned := plan_wiringHub rejected
  found := by
    have missing : Registry.load wiredPlanFiles registryPlace =
        .error (.registryMissing registryPlace) := rfl
    change Registry.loadOrCreate wiredPlanFiles registryPlace registryPlace.toString
      "localterra" = _
    rw [Registry.loadOrCreate, missing]
    rfl
  placed := rfl
  ordered := rfl

private theorem wiringHub_numbered (rejected : Bool) : ∀ plan sitting,
    (wiringHub rejected).Begins plan sitting →
      Numbered (sitting.exchanges standardCatalog plan.descriptors) := by
  intro plan sitting begins
  obtain ⟨rfl, rfl⟩ := (wiringHub_begins rejected).unique begins
  have made : (pairSitting (wiringHub rejected) (.empty (.text "localterra"))).exchanges
        standardCatalog wiredPlan.descriptors =
      [⟨[.store "deployer" "AA=="], storedAs 7⟩,
        ⟨[.instantiate "deployer" (.text "deployer") 7 (.object []) []], instantiatedAt⟩] := rfl
  rw [made]
  exact .stored rfl (Number.oneDigit_bounded (by decide)) (.instantiated .nil)

private theorem ending_wiringHub (rejected : Bool) :
    (wiringHub rejected).finished.1 = .exit (if rejected then 1 else 0) := by
  rw [Invocation.ending_eq, Invocation.task]
  have chosen : taskOf (wiringHub rejected).host (wiringHub rejected).options
      (wiringHub rejected).chainId (wiringHub rejected).path =
        deployPlan (wiringHub rejected).host (wiringHub rejected).options
          (wiringHub rejected).chainId (wiringHub rejected).path := rfl
  rw [chosen, deployPlan_eq_of_begins (wiringHub_begins rejected)]
  cases rejected
  · rfl
  · rfl

/-- The contract is in the file and was sent the message if that was accepted. If it was rejected,
the exit code tells. -/
theorem wiringHub_finishes :
    (wiringHub true).finished.1 = .exit 1 ∧ (wiringHub false).finished.1 = .exit 0 ∧
      (∃ record ∈ recordsIn (wiringHub false).finished.2.files registryPlace,
        record.name.key = .text "hub") ∧
      ∃ (deploying : List Exchange) (update : Exchange), update.succeeded = true ∧
        (wiringHub false).finished.2.sent = (deploying ++ [update]).map (·.transaction) := by
  have zero := ending_wiringHub false
  obtain ⟨done, _⟩ := Invocation.exit_zero_finishes (wiringHub false) rfl (wiringHub_numbered false)
  obtain ⟨plan, sitting, deploying, updating, begins, finishes⟩ := done zero
  obtain ⟨rfl, rfl⟩ := (wiringHub_begins false).unique begins
  refine ⟨ending_wiringHub true, zero, finishes.recorded _ List.mem_cons_self, deploying, ?_⟩
  have applied := finishes.applied
  cases applied.executed with
  | cons _ none =>
      cases none
      exact ⟨_, applied.succeeded _ List.mem_cons_self, finishes.sent⟩

end CommandLine

end Rollout
