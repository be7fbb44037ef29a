import AutonolasRegistries.Guarantees.MultisigOwners
import AutonolasRegistries.Model.LinkedSafe
import AutonolasRegistries.Source.RecoveryModule

/-!
# A redeployment stays with its own service

The recovery module is not told which service is being deployed. It takes the Id from
the call data and compares the owners it is given with the instances of that service:
`RecoveryModule.sol:353-362`, "this prevents modification of another service Id". As long
as operators register only against listed Ids and never the zero address, two services
never report the same instances, and the comparison fails for every other service.

A list that `terminate` left behind, because its Id was not listed then, is reported again
once the Id is listed again, although its instances have been freed and may be bonded
elsewhere. Two services can then report the same instances.
-/
namespace AutonolasRegistries.Guarantees
open Library Source Model

section Array

/-- An entry of the array is zero or stands on the list of a listed Id. -/
theorem getAgentInstances_mem {service : Service} {serviceId : Nat} {s : RegistryState}
    {owners : List Address}
    (ran : ServiceRegistry.getAgentInstances service serviceId s = .ok owners) :
    ∀ a ∈ owners, a = 0 ∨ ∃ x ∈ service.agentIds, a ∈ (sheet s serviceId).lists x := by
  simp only [ServiceRegistry.getAgentInstances, bind_eq_ok, Prod.exists, pure_eq_ok] at ran
  obtain ⟨array, count, filled, rfl⟩ := ran
  let known : List Address × Nat → Prop := fun done =>
    ∀ a ∈ done.1, a = 0 ∨ ∃ x ∈ service.agentIds, a ∈ (sheet s serviceId).lists x
  have all : known (array, count) := by
    refine loop_invariant known ?_ ?_ filled
    · intro x listed done next before inner
      refine loop_invariant known ?_ before inner
      intro item member done next before ran
      simp only [ServiceRegistry.fillBody, revertIf_bind_eq_ok, pure_eq_ok] at ran
      obtain ⟨-, rfl⟩ := ran
      intro a written
      rcases List.mem_or_eq_of_mem_set written with old | rfl
      · exact before a old
      · exact Or.inr ⟨x, listed, member⟩
    · intro a member
      exact Or.inl (List.eq_of_mem_replicate member)
  exact all

theorem checkOwners_ok {owners agentInstances : List Address} {u : Unit}
    (lengths : owners.length = agentInstances.length)
    (passed : RecoveryModule.checkOwners owners agentInstances = .ok u) :
    owners = agentInstances := by
  induction owners generalizing agentInstances with
  | nil => exact (List.length_eq_zero_iff.mp lengths.symm).symm
  | cons owner rest ih =>
    cases agentInstances with
    | nil => cases lengths
    | cons first others =>
      simp only [RecoveryModule.checkOwners, revertIf_bind_eq_ok, ne_eq, not_not] at passed
      obtain ⟨rfl, passed⟩ := passed
      rw [ih (Nat.succ.inj lengths) passed]

end Array

/-- What passes the module's checks is the array of the service in the call data. -/
theorem checkService_ok {sender : Address} {owners : List Address} {threshold : Nat}
    {data : List Byte} {s : RegistryState} {m : RecoveryState} {found : Address × Address}
    (passed : RecoveryModule.checkService sender owners threshold data s m = .ok found) :
    ServiceRegistry.getAgentInstances (s.mapServices (ofBytes data)) (ofBytes data) s =
      .ok owners := by
  simp only [RecoveryModule.checkService, bind_eq_ok, revertIf_eq_ok, exists_const, pure_eq_ok,
    ne_eq, not_not] at passed
  obtain ⟨-, -, -, serviceOwner, -, -, -, agentInstances, viewed, lengths, _, same, -⟩ := passed
  rw [checkOwners_ok lengths same]
  exact mapError_eq_ok.mp viewed

/-- The accounts two services report are not the same. -/
theorem instances_differ {s : RegistryState} {first second : Nat} (engaged : Engaged s)
    (small : first < 2 ^ 32) (small' : second < 2 ^ 32) (different : first ≠ second)
    (book : OwnersBook (sheet s first)) (book' : OwnersBook (sheet s second))
    (held : (s.mapServices first).state.holdsDeposit = true) {owners : List Address}
    (some : owners ≠ [])
    (report : ServiceRegistry.getAgentInstances (s.mapServices first) first s = .ok owners) :
    ServiceRegistry.getAgentInstances (s.mapServices second) second s ≠ .ok owners := by
  intro again
  have bonded := ownersAreBonded small book engaged held
  rw [getAgentInstances_eq (book.slots.counted held)] at report
  obtain rfl := Except.ok.inj report
  obtain ⟨a, member⟩ := List.exists_mem_of_ne_nil _ some
  have nonzero : a ≠ 0 := fun zero => bonded.nonzero (zero ▸ member)
  obtain ⟨operator, here⟩ := mem_total.mp (bonded.permutation ▸ Multiset.mem_coe.mpr member)
  obtain zero | ⟨x, listed, there⟩ := getAgentInstances_mem again a member
  · exact nonzero zero
  · by_cases open' : (s.mapServices second).state.holdsDeposit = true
    · have bonded' := ownersAreBonded small' book' engaged open'
      have member' := List.mem_flatMap.mpr ⟨x, listed, there⟩
      obtain ⟨operator', here'⟩ :=
        mem_total.mp (bonded'.permutation ▸ Multiset.mem_coe.mpr member')
      have same := engaged.1.apart _ _ a (Multiset.mem_coe.mp here) (Multiset.mem_coe.mp here')
      exact different (operatorService_injective (widen small) (widen small') same).2
    · have closed := book'.slots.closed (Bool.eq_false_iff.mpr open') x
      rw [closed] at there
      cases there

/-- In every run in which registrations name only listed Ids and no zero address, a
redeployment of one service with the Id of another one does not pass the module's
comparison, and reverts as a whole, whatever the code of the Safes is. -/
theorem redeployment_stays (code : SafeCode) (edition : Edition) (deployer : Address)
    {c : Config RegistryWorld RegistryFrame}
    (run : Reachable (registryMachine edition) ownersDiscipline
      (RegistryWorld.deployment deployer) c)
    {serviceId other : Nat} (different : serviceId ≠ other)
    (created : other ≤ c.state.store.totalSupply) {sender serviceOwner : Address}
    {m : RecoveryState} {s : RegistryState} {owners : List Address}
    (deploying : ServiceRegistry.deploy sender serviceOwner serviceId m.self c.state.store =
      .ok (s, owners)) (some : owners ≠ []) :
    (∃ reason, RecoveryModule.checkService m.serviceRegistry owners
      (s.mapServices serviceId).threshold.val (RecoveryModule.encodeServiceId other) s m =
        .error reason) ∧
    ∀ subComponents, ∃ reason, RecoveryModule.deploy code edition sender serviceOwner serviceId
      (RecoveryModule.encodeServiceId other) subComponents c.state.store m = .error reason := by
  have base : Preserved (registryMachine edition) ownersDiscipline always RegistryBase :=
    registryBase_preserved fun _ _ allowed => allowed.1.1
  have start := registryBase_deployment deployer
  obtain ⟨⟨⟨registered, -⟩, supply⟩, books⟩ :=
    run.invariant (base.join (ownersBook_preserved (fun _ _ allowed => allowed.1.1)
      fun _ _ allowed => allowed.2.1))
      ⟨start, fun serviceId _ => ownersBook_deployment deployer serviceId⟩
  obtain ⟨-, engaged⟩ := run.invariant (base.join (engaged_preserved edition))
    ⟨start, engaged_deployment deployer⟩
  obtain ⟨⟨-, -, -, -, -, state⟩, report, rfl⟩ := ServiceRegistry.deploy_ok deploying
  have alive : (c.state.store.mapServices serviceId).state ≠ .nonExistent := by
    rw [state]
    decide
  have small := lt_of_le_of_lt (registered.of_state alive).2 supply
  have small' := lt_of_le_of_lt created supply
  have decoded : ofBytes (RecoveryModule.encodeServiceId other) = other := by
    rw [RecoveryModule.encodeServiceId, ofBytes_toBytes]
    exact Nat.mod_eq_of_lt (lt_of_lt_of_le small' (by decide))
  have refused : ∃ reason, RecoveryModule.checkService m.serviceRegistry owners
      (c.state.store.mapServices serviceId).threshold.val (RecoveryModule.encodeServiceId other)
      { c.state.store with locked := 2 } m = .error reason := by
    cases outcome : RecoveryModule.checkService m.serviceRegistry owners
      (c.state.store.mapServices serviceId).threshold.val (RecoveryModule.encodeServiceId other)
      { c.state.store with locked := 2 } m with
    | error reason => exact ⟨reason, rfl⟩
    | ok found =>
      have again := checkService_ok outcome
      rw [decoded] at again
      have engaged : Engaged { c.state.store with locked := 2 } := engaged
      exact absurd again (instances_differ engaged small small' different (books serviceId small)
        (books other small') (by simp only [state]; rfl) some report)
  refine ⟨refused, fun subComponents => ?_⟩
  obtain ⟨reason, refused⟩ := refused
  refine ⟨reason, ?_⟩
  simp only [RecoveryModule.deploy, RecoveryModule.view, deploying, RecoveryModule.create]
  simp only [Except.mapError, ok_bind, refused]
  rfl

/-- The module at 8, for the registry at 20, with the Safe 9 of the single owner 5. -/
def recoveryModule : RecoveryState where
  self := 8
  serviceRegistry := 20
  locked := 1
  safes a := if a = 9 then some ⟨[5], 1, [8]⟩ else none

/-- Service 2, deployed on the Safe 9 with the single instance `agentInstance`. -/
def otherServiceScript (agentInstance : Address) : List (Move RegistryCall RegistryAnswer) :=
  [.call (.create registryManager 3 9 1 [1] [⟨1, 1⟩] 1), .answer ⟨0, [], true⟩,
    .call (.activateRegistration registryManager 1 3 2),
    .call (.registerAgents registryManager 1 7 2 [agentInstance] [1]),
    .call (.changeMultisigPermission registryOwner 8 true),
    .call (.deploy registryManager 3 2 8), .answer ⟨9, [], true⟩]

/-- Service 1 is complete, with other instances than service 2. -/
theorem redeployment_stays_deployed :
    ∃ c s owners, Reachable (registryMachine .l2) ownersDiscipline
        (RegistryWorld.deployment 1) c ∧
      ServiceRegistry.deploy 2 3 1 recoveryModule.self c.state.store = .ok (s, owners) ∧
      owners = [5, 6] ∧ (c.state.store.mapServices 2).multisig = 9 ∧
      ∃ reason, RecoveryModule.deploy linkedSafe .l2 2 3 1 (RecoveryModule.encodeServiceId 2) []
        c.state.store recoveryModule = .error reason := by
  obtain ⟨c, run, seen⟩ := Machine.play_observed ownersDiscipline (registryMachine .l2)
    (RegistryWorld.deployment 1) (twoSlotsScript ++ fillScript ++ otherServiceScript 10)
    (fun c => (c.state.store.totalSupply, (c.state.store.mapServices 2).multisig,
      (ServiceRegistry.deploy 2 3 1 recoveryModule.self c.state.store).toOption.map Prod.snd))
    (2, 9, some [5, 6]) (by decide +kernel)
  obtain ⟨supply, rest⟩ := Prod.mk.inj seen
  obtain ⟨multisig, deploys⟩ := Prod.mk.inj rest
  obtain ⟨⟨s, owners⟩, deploys, rfl⟩ := Option.map_eq_some_iff.mp deploys
  have deploying := toOption_eq_some.mp deploys
  have stays := redeployment_stays linkedSafe .l2 1 run (by decide : 1 ≠ 2)
    (le_of_eq supply.symm) deploying (List.cons_ne_nil _ _)
  exact ⟨c, s, _, run, deploying, rfl, multisig, stays.2 []⟩

/-- Service 1 gets its only instance 5 registered against Id 1, which it has dropped, so
that the list survives the termination. When Id 1 is listed again the list is reported
again, while 5 is by then the instance of service 2: a deployment of service 1 with the Id
of service 2 goes through and takes over the Safe of service 2. -/
theorem redeployment_takes_other :
    ¬ ∀ c, Reachable (registryMachine .l2) managedDiscipline (RegistryWorld.deployment 1) c →
      ∀ serviceId other, serviceId ≠ other → other ≤ c.state.store.totalSupply →
        ∀ sender serviceOwner m s owners,
          ServiceRegistry.deploy sender serviceOwner serviceId m.self c.state.store =
            .ok (s, owners) → owners ≠ [] →
          ∃ reason, RecoveryModule.deploy linkedSafe .l2 sender serviceOwner serviceId
            (RecoveryModule.encodeServiceId other) [] c.state.store m = .error reason := by
  intro claim
  obtain ⟨c, run, seen⟩ := Machine.play_observed managedDiscipline (registryMachine .l2)
    (RegistryWorld.deployment 1)
    ([.call (.changeManager registryOwner 2),
      .call (.create registryManager 3 9 1 [1] [⟨1, 1⟩] 1), .answer ⟨0, [], true⟩,
      .call (.update registryManager 3 9 1 [2] [⟨1, 1⟩] 1 1),
      .call (.activateRegistration registryManager 1 3 1),
      .call (.registerAgents registryManager 1 4 1 [5] [1]),
      .call (.terminate registryManager 3 1), .answer ⟨0, [], true⟩,
      .call (.unbond registryManager 4 1), .answer ⟨0, [], true⟩,
      .call (.update registryManager 3 9 1 [1] [⟨1, 1⟩] 1 1),
      .call (.activateRegistration registryManager 1 3 1),
      .call (.registerAgents registryManager 1 4 1 [6] [2])] ++ otherServiceScript 5)
    (fun c => (c.state.store.totalSupply,
      (ServiceRegistry.deploy 2 3 1 recoveryModule.self c.state.store).toOption.map Prod.snd,
      (RecoveryModule.deploy linkedSafe .l2 2 3 1 (RecoveryModule.encodeServiceId 2) []
        c.state.store recoveryModule).toOption.map fun after => (after.1.mapServices 1).multisig))
    (2, some [5], some 9) (by decide +kernel)
  obtain ⟨supply, rest⟩ := Prod.mk.inj seen
  obtain ⟨deploys, taken⟩ := Prod.mk.inj rest
  obtain ⟨⟨s, owners⟩, deploys, rfl⟩ := Option.map_eq_some_iff.mp deploys
  obtain ⟨reason, refused⟩ := claim c run 1 2 (by decide) (le_of_eq supply.symm) 2 3
    recoveryModule s _ (toOption_eq_some.mp deploys) (List.cons_ne_nil _ _)
  rw [refused] at taken
  cases taken

end AutonolasRegistries.Guarantees
