import AutonolasRegistries.Guarantees.ServiceLifecycle

/-!
# Services do not touch each other

All services share the registry's maps. An operation on one service leaves the records
of every other one as they are: the packed keys do not collide below `2 ^ 32` services,
and the one map without a service in its key, the engagement map, is only written at
accounts that stand on no list or on a list of the operator that leaves.
`ServiceRegistryL2.sol:159-199`, `:382-475`, `:537-731`.
-/
namespace AutonolasRegistries.Guarantees
open Library Source Model

/-- The service an operation is addressed to. -/
def callService (s : RegistryState) : RegistryCall → Option Nat
  | .create .. => some (s.totalSupply + 1)
  | .update _ _ _ _ _ _ _ serviceId | .activateRegistration _ _ _ serviceId
  | .registerAgents _ _ _ serviceId _ _ | .deploy _ _ serviceId _ | .slash _ _ _ serviceId
  | .terminate _ _ serviceId | .unbond _ _ serviceId => some serviceId
  | .drain .. | .changeOwner .. | .changeManager .. | .changeDrainer ..
  | .changeMultisigPermission .. | .approve .. | .setApprovalForAll .. | .transferFrom .. => none

def frameService : RegistryFrame → Option Nat
  | .deploy serviceId => some serviceId
  | .create | .refund => none

/-- Everything the registry records about a service. -/
structure SameRecords (s s' : RegistryState) (serviceId : Nat) : Prop where
  service : s'.mapServices serviceId = s.mapServices serviceId
  params : ∀ agentId, s'.mapServiceAndAgentIdAgentParams (serviceAgent serviceId agentId) =
    s.mapServiceAndAgentIdAgentParams (serviceAgent serviceId agentId)
  lists : ∀ agentId, s'.mapServiceAndAgentIdAgentInstances (serviceAgent serviceId agentId) =
    s.mapServiceAndAgentIdAgentInstances (serviceAgent serviceId agentId)
  operators : ∀ operator,
    s'.mapOperatorAndServiceIdAgentInstances (operatorService operator serviceId) =
      s.mapOperatorAndServiceIdAgentInstances (operatorService operator serviceId)
  balances : ∀ operator,
    s'.mapOperatorAndServiceIdOperatorBalances (operatorService operator serviceId) =
      s.mapOperatorAndServiceIdOperatorBalances (operatorService operator serviceId)
  hashes : s'.mapConfigHashes serviceId = s.mapConfigHashes serviceId
  engaged : ∀ operator, ∀ a ∈ instancesIn s operator serviceId,
    s'.mapAgentInstanceOperators a = s.mapAgentInstanceOperators a

theorem SameRecords.of_sheet {s s' : RegistryState} {serviceId : Nat}
    (same : sheet s' serviceId = sheet s serviceId)
    (hashes : s'.mapConfigHashes serviceId = s.mapConfigHashes serviceId)
    (engaged : ∀ operator, ∀ a ∈ instancesIn s operator serviceId,
      s'.mapAgentInstanceOperators a = s.mapAgentInstanceOperators a) :
    SameRecords s s' serviceId where
  service := congrArg ServiceSheet.service same
  params := congrFun (congrArg ServiceSheet.params same)
  lists := congrFun (congrArg ServiceSheet.lists same)
  operators := congrFun (congrArg ServiceSheet.operators same)
  balances := congrFun (congrArg ServiceSheet.balances same)
  hashes := hashes
  engaged := engaged

theorem SameRecords.refl (s : RegistryState) (serviceId : Nat) : SameRecords s s serviceId :=
  .of_sheet rfl rfl fun _ _ _ => rfl

/-- The action of a call is one on the service it is addressed to. -/
theorem callAction_service {s : RegistryState} {call : RegistryCall} {target : Nat}
    {action : ServiceAction} (label : callAction s call = some (target, action)) :
    callService s call = some target := by
  cases call <;> cases label <;> rfl

/-- The history of configurations of the other services. -/
theorem enter_hashes {edition : Edition} {w : RegistryWorld} {call : RegistryCall}
    {out : Outcome RegistryWorld RegistryFrame} (taken : RegistryTransition edition w call out)
    {other : Nat} (elsewhere : callService w.store call ≠ some other) :
    out.state.store.mapConfigHashes other = w.store.mapConfigHashes other := by
  cases taken with
  | create ran =>
    obtain ⟨-, rfl, rfl⟩ := ServiceRegistry.create_ok ran
    rfl
  | @update _ _ _ _ _ _ _ serviceId _ ran =>
    have different : other ≠ serviceId := fun same => elsewhere (same ▸ rfl)
    obtain ⟨hash, written⟩ := ServiceRegistry.update_hashes ran
    simp only [Outcome.state_done, written]
    split
    · rw [Function.update_of_ne different]
    · rfl
  | activateRegistration ran =>
    obtain ⟨-, rfl⟩ := ServiceRegistry.activateRegistration_ok ran
    rfl
  | registerAgents ran =>
    obtain ⟨-, -, rfl⟩ := ServiceRegistry.registerAgents_done ran
    rfl
  | deploy ran =>
    obtain ⟨-, -, rfl⟩ := ServiceRegistry.deploy_ok ran
    rfl
  | slash ran =>
    obtain ⟨-, -, rfl, -⟩ := ServiceRegistry.slashLoop_frame (ServiceRegistry.slash_ok ran).2
    rfl
  | terminate ran =>
    obtain ⟨-, -, -, -, rfl⟩ := ServiceRegistry.terminate_ok ran
    rfl
  | unbond ran =>
    obtain ⟨-, -, -, -, rfl⟩ := ServiceRegistry.unbond_ok ran
    rw [RegistryWorld.refunding_store]
    split <;> rfl
  | drain ran =>
    obtain ⟨-, -, rfl⟩ := ServiceRegistry.drain_ok ran
    rw [RegistryWorld.refunding_store]
    split <;> rfl
  | administer => rfl

section Archive

/-- What else the registry stores under the Id of a service. -/
def archive (s : RegistryState) (serviceId : Nat) :
    List Bytes32 × List Uint32 × List Uint32 :=
  (s.mapConfigHashes serviceId, s.mapServiceIdSetComponentIds serviceId,
    s.mapServiceIdSetAgentIds serviceId)

/-- The archive after a termination: on L1 the two sets are cleared. -/
def clearedArchive (edition : Edition) :
    List Bytes32 × List Uint32 × List Uint32 → List Bytes32 × List Uint32 × List Uint32
  | (hashes, components, agents) =>
    if edition = .l1 then (hashes, [], []) else (hashes, components, agents)

theorem terminate_archive {edition : Edition} {sender serviceOwner : Address}
    {serviceId refund : Nat} {s s' : RegistryState}
    (ran : ServiceRegistry.terminate edition sender serviceOwner serviceId s =
      .ok (s', refund)) (other : Nat) :
    archive s' other =
      if other = serviceId then clearedArchive edition (archive s other) else archive s other := by
  simp only [ServiceRegistry.terminate, bind_eq_ok, revertIf_eq_ok, exists_const, pure_eq_ok,
    Prod.mk.injEq] at ran
  obtain ⟨-, -, -, -, -, -, rfl, -⟩ := ran
  cases edition <;> by_cases same : other = serviceId <;>
    simp [archive, clearedArchive, same]

theorem deployReturn_archive (edition : Edition) {serviceId : Nat} (multisig : Address)
    (subComponents : List Uint32) (s : RegistryState) {other : Nat}
    (different : other ≠ serviceId) :
    archive (ServiceRegistry.deployReturn edition serviceId multisig subComponents s) other =
      archive s other := by
  cases edition <;>
    simp [archive, ServiceRegistry.deployReturn, ServiceRegistry.unlock, different]

theorem archive_refunding (w : RegistryWorld) (s : RegistryState) (amount serviceId : Nat) :
    archive (w.refunding s amount).state.store serviceId = archive s serviceId := by
  rw [RegistryWorld.refunding_store]
  split <;> rfl

theorem enter_archive {edition : Edition} {w : RegistryWorld} {call : RegistryCall}
    {out : Outcome RegistryWorld RegistryFrame} (taken : RegistryTransition edition w call out)
    {other : Nat} (elsewhere : callService w.store call ≠ some other) :
    archive out.state.store other = archive w.store other := by
  have hashes := enter_hashes taken elsewhere
  cases taken with
  | create ran =>
    obtain ⟨-, rfl, rfl⟩ := ServiceRegistry.create_ok ran
    rfl
  | update ran =>
    obtain ⟨kept, -, -, written, rfl⟩ := ServiceRegistry.update_ok ran
    simp only [archive, Outcome.state_done] at hashes ⊢
    rw [hashes]
  | activateRegistration ran =>
    obtain ⟨-, rfl⟩ := ServiceRegistry.activateRegistration_ok ran
    rfl
  | registerAgents ran =>
    obtain ⟨-, -, rfl⟩ := ServiceRegistry.registerAgents_done ran
    rfl
  | deploy ran =>
    obtain ⟨-, -, rfl⟩ := ServiceRegistry.deploy_ok ran
    rfl
  | slash ran =>
    obtain ⟨-, -, rfl, -⟩ := ServiceRegistry.slashLoop_frame (ServiceRegistry.slash_ok ran).2
    rfl
  | @terminate _ _ serviceId _ _ ran =>
    have different : other ≠ serviceId := fun same => elsewhere (same ▸ rfl)
    exact (terminate_archive ran other).trans (if_neg different)
  | unbond ran =>
    obtain ⟨-, -, -, -, rfl⟩ := ServiceRegistry.unbond_ok ran
    rw [archive_refunding]
    rfl
  | drain ran =>
    obtain ⟨-, -, rfl⟩ := ServiceRegistry.drain_ok ran
    rw [archive_refunding]
    rfl
  | administer => rfl

end Archive

/-- Who is engaged with whom in the other services: a registration only takes free
accounts, and an operator that leaves only frees its own. -/
theorem enter_engaged {edition : Edition} {w : RegistryWorld} {call : RegistryCall}
    {out : Outcome RegistryWorld RegistryFrame} (registered : Registered w.store)
    (supply : w.store.totalSupply < 2 ^ 32) (roster : Enrolled w.store)
    (someone : RealOperator call) (taken : RegistryTransition edition w call out) {other : Nat}
    (small : other < 2 ^ 32) (elsewhere : callService w.store call ≠ some other)
    {operator : Address} {a : Address} (member : a ∈ instancesIn w.store operator other) :
    out.state.store.mapAgentInstanceOperators a = w.store.mapAgentInstanceOperators a := by
  have here : a ∈ enrolled w.store (operator, ⟨other, small⟩) := member
  cases taken with
  | create ran =>
    obtain ⟨-, rfl, rfl⟩ := ServiceRegistry.create_ok ran
    rfl
  | update ran =>
    obtain ⟨-, -, -, -, rfl⟩ := ServiceRegistry.update_ok ran
    rfl
  | activateRegistration ran =>
    obtain ⟨-, rfl⟩ := ServiceRegistry.activateRegistration_ok ran
    rfl
  | registerAgents ran =>
    obtain ⟨mid, run, rfl⟩ := ServiceRegistry.registerAgents_done ran
    obtain ⟨-, free, read⟩ := ServiceRegistry.registerLoop_engaged someone run
    simp only [Outcome.state_done, read a]
    rw [if_neg fun new => roster.hired _ a here (free a new)]
  | deploy ran =>
    obtain ⟨-, -, rfl⟩ := ServiceRegistry.deploy_ok ran
    rfl
  | slash ran =>
    obtain ⟨-, -, rfl, -⟩ := ServiceRegistry.slashLoop_frame (ServiceRegistry.slash_ok ran).2
    rfl
  | terminate ran =>
    obtain ⟨-, -, -, -, rfl⟩ := ServiceRegistry.terminate_ok ran
    rfl
  | @unbond _ leaving serviceId _ _ ran =>
    have different : other ≠ serviceId := fun same => elsewhere (same ▸ rfl)
    obtain ⟨instances, rfl, ⟨-, -, -, state, -⟩, -, rfl⟩ := ServiceRegistry.unbond_ok ran
    have below := registered.of_state (by rw [state]; decide)
    have bound := lt_of_le_of_lt below.2 supply
    have stays : a ∉ enrolled w.store (leaving, ⟨serviceId, bound⟩) := by
      intro gone
      have same := roster.apart _ _ a here gone
      exact different (congrArg Fin.val (Prod.mk.inj same).2)
    have kept := (ServiceRegistry.freeInstances_read
      (w.store.mapOperatorAndServiceIdAgentInstances (operatorService leaving serviceId))
      w.store.mapAgentInstanceOperators a).trans (if_neg stays)
    rw [RegistryWorld.refunding_store]
    split <;> exact kept
  | drain ran =>
    obtain ⟨-, -, rfl⟩ := ServiceRegistry.drain_ok ran
    rw [RegistryWorld.refunding_store]
    split <;> rfl
  | administer => rfl

theorem sheet_elsewhere {s s' : RegistryState} {label : Option (Nat × ServiceAction)}
    (moved : SheetsMove s s' label) {other : Nat} (small : other < 2 ^ 32)
    (elsewhere : ∀ action, label ≠ some (other, action)) : sheet s' other = sheet s other := by
  cases label with
  | none => exact moved other small
  | some label =>
    obtain ⟨target, action⟩ := label
    refine moved.2.2 other small ?_
    rintro rfl
    exact elsewhere action rfl

theorem enter_sameRecords {edition : Edition} {w : RegistryWorld} {call : RegistryCall}
    {out : Outcome RegistryWorld RegistryFrame} {frames : List RegistryFrame}
    (base : RegistryBase w frames) (after : out.state.store.totalSupply < 2 ^ 32)
    (roster : Enrolled w.store) (someone : RealOperator call)
    (taken : RegistryTransition edition w call out) {other : Nat} (small : other < 2 ^ 32)
    (elsewhere : callService w.store call ≠ some other) :
    SameRecords w.store out.state.store other := by
  refine .of_sheet ?_ (enter_hashes taken elsewhere) fun operator a member =>
    enter_engaged base.1.registered base.2 roster someone taken small elsewhere member
  refine sheet_elsewhere (enter_moves base.1 base.2 after taken) small fun action label => ?_
  exact elsewhere (callAction_service label)

theorem resume_sameRecords {edition : Edition} {w : RegistryWorld} {frame : RegistryFrame}
    {answer : RegistryAnswer} {out : Outcome RegistryWorld RegistryFrame}
    {frames : List RegistryFrame} (base : RegistryBase w (frame :: frames))
    (ran : w.resume edition frame answer = .ok out) {other : Nat} (small : other < 2 ^ 32)
    (elsewhere : frameService frame ≠ some other) :
    SameRecords w.store out.state.store other := by
  refine .of_sheet ?_ ?_ ?_
  · refine sheet_elsewhere (resume_moves base.1 base.2 ran) small fun action label => ?_
    cases frame <;> cases label
    exact elsewhere rfl
  · cases RegistryWorld.resume_return ran <;> rfl
  · intro operator a _
    cases RegistryWorld.resume_return ran <;> rfl

/-- The storage after an attempted call: a call that reverts leaves it as it was. -/
def attempted (edition : Edition) (call : RegistryCall) (w : RegistryWorld) :
    RegistryWorld :=
  match w.enter edition call with
  | .ok out => out.state
  | .error _ => w

/-- In every run of a manager that passes no zero operator, an operation on one service,
successful or not, leaves the records of every other service unchanged, up to its external
call as well as after it. -/
theorem services_isolated (edition : Edition) (deployer : Address)
    {c : Config RegistryWorld RegistryFrame}
    (run : Reachable (registryMachine edition) managedDiscipline
      (RegistryWorld.deployment deployer) c)
    {other : Nat} (created : other ≤ c.state.store.totalSupply) :
    (∀ call, managedDiscipline.call call c.state → callService c.state.store call ≠ some other →
      SameRecords c.state.store (attempted edition call c.state).store other) ∧
    ∀ frame frames answer out, c.frames = frame :: frames →
      c.state.resume edition frame answer = .ok out → frameService frame ≠ some other →
      SameRecords c.state.store out.state.store other := by
  have base : Preserved (registryMachine edition) managedDiscipline always RegistryBase :=
    registryBase_preserved fun _ _ allowed => allowed.1
  obtain ⟨before, roster⟩ := run.invariant
    (base.join (enrolled_preserved fun _ _ allowed => allowed.2))
    ⟨registryBase_deployment deployer, enrolled_deployment deployer⟩
  have small := lt_of_le_of_lt created before.2
  refine ⟨fun call allowed elsewhere => ?_, fun frame frames answer out top ran elsewhere => ?_⟩
  · unfold attempted
    split
    · next out ran =>
      have kind := RegistryWorld.enter_transition before.1.registered.guarded ran
      have after := enter_supply kind allowed.1 before.2
      exact enter_sameRecords before after roster allowed.2 kind small elsewhere
    · exact .refl _ _
  · rw [top] at before
    exact resume_sameRecords before ran small elsewhere

/-- Service 1 is complete while service 2 is terminated. -/
theorem services_isolated_terminate :
    ∃ c, Reachable (registryMachine .l2) managedDiscipline (RegistryWorld.deployment 1) c ∧
      (c.state.store.mapServices 1).state = .finishedRegistration ∧
      SameRecords c.state.store
        (attempted .l2 (.terminate registryManager 3 2) c.state).store 1 := by
  obtain ⟨c, run, seen⟩ := Machine.play_observed managedDiscipline (registryMachine .l2)
    (RegistryWorld.deployment 1)
    (twoSlotsScript ++ fillScript ++
      [.call (.create registryManager 3 9 1 [1] [⟨1, 1⟩] 1), .answer ⟨0, [], true⟩,
        .call (.activateRegistration registryManager 1 3 2)])
    (fun c => (c.state.store.totalSupply, (c.state.store.mapServices 1).state))
    (2, .finishedRegistration) (by decide +kernel)
  obtain ⟨supply, state⟩ := Prod.mk.inj seen
  have below : 1 ≤ c.state.store.totalSupply := by
    change c.state.store.totalSupply = 2 at supply
    omega
  have isolated := (services_isolated .l2 1 run below).1 (.terminate registryManager 3 2)
    ⟨trivial, trivial⟩ (by simp [callService])
  exact ⟨c, run, state, isolated⟩

end AutonolasRegistries.Guarantees
