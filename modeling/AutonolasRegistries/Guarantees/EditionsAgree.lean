import AutonolasRegistries.Library.Lockstep
import AutonolasRegistries.Source.RegistryTransitions

/-!
# ServiceRegistry and ServiceRegistryL2 agree

The two contracts are copies of each other but for the bound on agent Ids in
`_initialChecks` and the component and agent sets of `deploy` and `terminate`. As long
as the agent Ids passed are within the supply of the agent registry, they accept and
reject the same calls for the same reasons, reply the same and keep the same shared
storage. `ServiceRegistry.sol:135-901`, `ServiceRegistryL2.sol:127-871`.
-/
namespace AutonolasRegistries.Guarantees
open Library Source

/-- The storage of L2 with the sets L1 keeps beside it. -/
def withSets (components agents : Nat → List Uint32) (s : RegistryState) : RegistryState :=
  { s with mapServiceIdSetComponentIds := components, mapServiceIdSetAgentIds := agents }

section Functions
variable {components agents : Nat → List Uint32} {s : RegistryState}

/-- Loop rule: a change of the state the body does not notice can be made afterwards. -/
theorem loop_map {ε α γ : Type} {body : α → γ → Except ε γ} (f : γ → γ)
    (commutes : ∀ item state, body item (f state) = f <$> body item state) (items : List α)
    (state : γ) : loop body items (f state) = f <$> loop body items state := by
  induction items generalizing state with
  | nil => rfl
  | cons item rest ih =>
    simp only [loop, commutes, map_bind, bind_map_left]
    exact bind_congr fun next => ih next

theorem checkAgentIds_editions {agentTotalSupply : Nat} {agentIds : List Uint32}
    (known : ∀ x ∈ agentIds, x.val ≤ agentTotalSupply) (supply lastId : Nat) :
    ServiceRegistry.checkAgentIds .l1 agentTotalSupply lastId agentIds =
      ServiceRegistry.checkAgentIds .l2 supply lastId agentIds := by
  induction agentIds generalizing lastId with
  | nil => rfl
  | cons agentId rest ih =>
    have within := known agentId List.mem_cons_self
    have same : (agentId.val < lastId + 1 ∨ (Edition.l1 = .l1 ∧ agentTotalSupply < agentId.val)) ↔
        (agentId.val < lastId + 1 ∨ (Edition.l2 = .l1 ∧ supply < agentId.val)) := by
      simp only [true_and, reduceCtorEq, false_and, or_false]
      omega
    rw [ServiceRegistry.checkAgentIds, ServiceRegistry.checkAgentIds, revertIf_congr same,
      ih fun x member => known x (List.mem_cons_of_mem _ member)]

theorem initialChecks_editions {agentTotalSupply : Nat} {agentIds : List Uint32}
    (known : ∀ x ∈ agentIds, x.val ≤ agentTotalSupply) (supply : Nat) (configHash : Bytes32)
    (agentParams : List AgentParams) :
    ServiceRegistry.initialChecks .l1 agentTotalSupply configHash agentIds agentParams =
      ServiceRegistry.initialChecks .l2 supply configHash agentIds agentParams := by
  simp only [ServiceRegistry.initialChecks, checkAgentIds_editions known supply]

theorem setServiceData_withSets (service : Service) (entries : List (Uint32 × AgentParams))
    (serviceId : Nat) :
    ServiceRegistry.setServiceData service entries serviceId (withSets components agents s) =
      (fun p => (withSets components agents p.1, p.2)) <$>
        ServiceRegistry.setServiceData service entries serviceId s := by
  simp only [ServiceRegistry.setServiceData, withSets, map_bind, map_pure]

theorem setServiceData_bind {β : Type} (service : Service)
    (entries : List (Uint32 × AgentParams)) (serviceId : Nat)
    (next : RegistryState × Service → Except Revert β) :
    (ServiceRegistry.setServiceData service entries serviceId (withSets components agents s) >>=
        next) =
      ServiceRegistry.setServiceData service entries serviceId s >>= fun p =>
        next (withSets components agents p.1, p.2) := by
  rw [setServiceData_withSets, bind_map_left]

theorem create_withSets {agentTotalSupply : Nat} {agentIds : List Uint32}
    (known : ∀ x ∈ agentIds, x.val ≤ agentTotalSupply) (sender serviceOwner : Address)
    (configHash : Bytes32) (agentParams : List AgentParams) (threshold : Uint32) :
    ServiceRegistry.create .l1 agentTotalSupply sender serviceOwner configHash agentIds
        agentParams threshold (withSets components agents s) =
      (fun p => (withSets components agents p.1, p.2)) <$>
        ServiceRegistry.create .l2 agentTotalSupply sender serviceOwner configHash agentIds
          agentParams threshold s := by
  simp only [ServiceRegistry.create, initialChecks_editions known agentTotalSupply, map_bind,
    map_pure]
  refine bind_congr fun _ => bind_congr fun _ => bind_congr fun _ => bind_congr fun _ =>
    bind_congr fun _ => bind_congr fun serviceId => ?_
  exact setServiceData_bind (s := { s with locked := 2 }) _ _ _ _

theorem update_withSets {agentTotalSupply : Nat} {agentIds : List Uint32}
    (known : ∀ x ∈ agentIds, x.val ≤ agentTotalSupply) (sender serviceOwner : Address)
    (configHash : Bytes32) (agentParams : List AgentParams) (threshold : Uint32)
    (serviceId : Nat) :
    ServiceRegistry.update .l1 agentTotalSupply sender serviceOwner configHash agentIds
        agentParams threshold serviceId (withSets components agents s) =
      withSets components agents <$>
        ServiceRegistry.update .l2 agentTotalSupply sender serviceOwner configHash agentIds
          agentParams threshold serviceId s := by
  simp only [ServiceRegistry.update, initialChecks_editions known agentTotalSupply, map_bind,
    map_pure]
  refine bind_congr fun _ => bind_congr fun _ => bind_congr fun _ => bind_congr fun _ =>
    bind_congr fun _ => ?_
  exact setServiceData_bind (s := { s with
    mapServiceAndAgentIdAgentParams := _, mapConfigHashes := _ }) _ _ _ _

theorem activateRegistration_withSets (sender : Address) (value : Nat) (serviceOwner : Address)
    (serviceId : Nat) :
    ServiceRegistry.activateRegistration sender value serviceOwner serviceId
        (withSets components agents s) =
      withSets components agents <$>
        ServiceRegistry.activateRegistration sender value serviceOwner serviceId s := by
  simp only [ServiceRegistry.activateRegistration, map_bind, map_pure]
  rfl

theorem registerAgentBody_withSets (operator : Address) (serviceId : Nat)
    (entry : Address × Uint32) (s : RegistryState) :
    ServiceRegistry.registerAgentBody operator serviceId entry (withSets components agents s) =
      withSets components agents <$>
        ServiceRegistry.registerAgentBody operator serviceId entry s := by
  simp only [ServiceRegistry.registerAgentBody, map_bind, map_pure]
  rfl

theorem registerAgents_withSets (sender : Address) (value : Nat) (operator : Address)
    (serviceId : Nat) (agentInstances : List Address) (agentIds : List Uint32) :
    ServiceRegistry.registerAgents sender value operator serviceId agentInstances agentIds
        (withSets components agents s) =
      withSets components agents <$>
        ServiceRegistry.registerAgents sender value operator serviceId agentInstances agentIds
          s := by
  have entries := loop_map (withSets components agents)
    (registerAgentBody_withSets operator serviceId) (agentInstances.zip agentIds) s
  simp only [ServiceRegistry.registerAgents, entries, map_bind, map_pure, bind_map_left]
  rfl

theorem deploy_withSets (sender serviceOwner : Address) (serviceId : Nat)
    (multisigImplementation : Address) :
    ServiceRegistry.deploy sender serviceOwner serviceId multisigImplementation
        (withSets components agents s) =
      (fun p => (withSets components agents p.1, p.2)) <$>
        ServiceRegistry.deploy sender serviceOwner serviceId multisigImplementation s := by
  simp only [ServiceRegistry.deploy, ServiceRegistry.getAgentInstances, map_bind, map_pure]
  rfl

theorem slashBody_withSets (serviceId : Nat) (entry : Address × Uint96) (s : RegistryState) :
    ServiceRegistry.slashBody serviceId entry (withSets components agents s) =
      withSets components agents <$> ServiceRegistry.slashBody serviceId entry s := by
  simp only [ServiceRegistry.slashBody, map_bind, map_pure]
  rfl

theorem slash_withSets (sender : Address) (agentInstances : List Address)
    (amounts : List Uint96) (serviceId : Nat) :
    ServiceRegistry.slash sender agentInstances amounts serviceId
        (withSets components agents s) =
      withSets components agents <$>
        ServiceRegistry.slash sender agentInstances amounts serviceId s := by
  have entries := loop_map (withSets components agents) (slashBody_withSets serviceId)
    (agentInstances.zip amounts) s
  simp only [ServiceRegistry.slash, entries, map_bind]
  rfl

theorem unbond_withSets (sender operator : Address) (serviceId : Nat) :
    ServiceRegistry.unbond sender operator serviceId (withSets components agents s) =
      (fun p => (withSets components agents p.1, p.2)) <$>
        ServiceRegistry.unbond sender operator serviceId s := by
  simp only [ServiceRegistry.unbond, map_bind, map_pure]
  rfl

theorem drain_withSets (sender : Address) :
    ServiceRegistry.drain sender (withSets components agents s) =
      (fun p => (withSets components agents p.1, p.2)) <$> ServiceRegistry.drain sender s := by
  simp only [ServiceRegistry.drain, map_bind, map_pure]
  rfl

/-- L1 clears the two sets of the service; L2 has none. -/
theorem terminate_withSets (sender serviceOwner : Address) (serviceId : Nat) :
    ServiceRegistry.terminate .l1 sender serviceOwner serviceId
        (withSets components agents s) =
      (fun p => (withSets (Function.update components serviceId [])
        (Function.update agents serviceId []) p.1, p.2)) <$>
        ServiceRegistry.terminate .l2 sender serviceOwner serviceId s := by
  simp only [ServiceRegistry.terminate, map_bind, map_pure]
  rfl

end Functions

/-- The L1 world is the L2 world with the two sets of every service beside it: all
shared storage, and the ETH received and paid, are the same. -/
def SharedStorage (l1 l2 : RegistryWorld) : Prop :=
  ∃ components agents, l1 = { l2 with store := withSets components agents l2.store }

/-- `create` and `update` pass only agent Ids the agent registry has. -/
def KnownAgents : RegistryCall → Prop
  | .create _ _ agentTotalSupply _ agentIds _ _ => ∀ x ∈ agentIds, x.val ≤ agentTotalSupply
  | .update _ _ agentTotalSupply _ agentIds _ _ _ => ∀ x ∈ agentIds, x.val ≤ agentTotalSupply
  | _ => True

section Machines
variable {l1 l2 : RegistryWorld}

theorem finish_agree {value : Nat} {run run' : Except Revert RegistryState}
    (components agents : Nat → List Uint32) (related : SharedStorage l1 l2)
    (same : run = withSets components agents <$> run') :
    Agree SharedStorage (l1.finish value run) (l2.finish value run') := by
  subst same
  obtain ⟨_, _, rfl⟩ := related
  cases run' with
  | error reason => exact .failed reason
  | ok s => exact .done ⟨components, agents, rfl⟩

theorem refunding_agree {s : RegistryState} {amount : Nat}
    {components agents : Nat → List Uint32} (related : SharedStorage l1 l2) :
    Agree (ε := Revert) SharedStorage
      (.ok (l1.refunding (withSets components agents s) amount)) (.ok (l2.refunding s amount)) := by
  obtain ⟨_, _, rfl⟩ := related
  unfold RegistryWorld.refunding
  split
  · exact .suspended _ ⟨components, agents, rfl⟩
  · exact .done ⟨components, agents, rfl⟩

theorem enter_agree {call : RegistryCall} (known : KnownAgents call)
    (related : SharedStorage l1 l2) :
    Agree SharedStorage (l1.enter .l1 call) (l2.enter .l2 call) := by
  obtain ⟨components, agents, rfl⟩ := id related
  cases call with
  | create sender serviceOwner agentTotalSupply configHash agentIds agentParams threshold =>
    simp only [RegistryWorld.enter, create_withSets known, bind_map_left]
    cases ServiceRegistry.create .l2 agentTotalSupply sender serviceOwner configHash agentIds
      agentParams threshold l2.store with
    | error reason => exact .failed reason
    | ok result => exact .suspended _ ⟨components, agents, rfl⟩
  | update sender serviceOwner agentTotalSupply configHash agentIds agentParams threshold
      serviceId =>
    exact finish_agree components agents related (update_withSets known sender serviceOwner
      configHash agentParams threshold serviceId)
  | activateRegistration sender value serviceOwner serviceId =>
    exact finish_agree components agents related
      (activateRegistration_withSets sender value serviceOwner serviceId)
  | registerAgents sender value operator serviceId agentInstances agentIds =>
    exact finish_agree components agents related
      (registerAgents_withSets sender value operator serviceId agentInstances agentIds)
  | deploy sender serviceOwner serviceId multisigImplementation =>
    simp only [RegistryWorld.enter, deploy_withSets, bind_map_left]
    cases ServiceRegistry.deploy sender serviceOwner serviceId multisigImplementation
      l2.store with
    | error reason => exact .failed reason
    | ok result => exact .suspended _ ⟨components, agents, rfl⟩
  | slash sender agentInstances amounts serviceId =>
    exact finish_agree components agents related
      (slash_withSets sender agentInstances amounts serviceId)
  | terminate sender serviceOwner serviceId =>
    simp only [RegistryWorld.enter, terminate_withSets, bind_map_left]
    cases ServiceRegistry.terminate .l2 sender serviceOwner serviceId l2.store with
    | error reason => exact .failed reason
    | ok result => exact .suspended _ ⟨_, _, rfl⟩
  | unbond sender operator serviceId =>
    simp only [RegistryWorld.enter, unbond_withSets, bind_map_left]
    cases ServiceRegistry.unbond sender operator serviceId l2.store with
    | error reason => exact .failed reason
    | ok result => exact refunding_agree related
  | drain sender =>
    simp only [RegistryWorld.enter, drain_withSets, bind_map_left]
    cases ServiceRegistry.drain sender l2.store with
    | error reason => exact .failed reason
    | ok result => exact refunding_agree related
  | changeOwner sender newOwner =>
    refine finish_agree components agents related ?_
    simp only [ServiceRegistry.changeOwner, map_bind, map_pure]
    rfl
  | changeManager sender newManager =>
    refine finish_agree components agents related ?_
    simp only [ServiceRegistry.changeManager, map_bind, map_pure]
    rfl
  | changeDrainer sender newDrainer =>
    refine finish_agree components agents related ?_
    simp only [ServiceRegistry.changeDrainer, map_bind, map_pure]
    rfl
  | changeMultisigPermission sender multisig permission =>
    refine finish_agree components agents related ?_
    simp only [ServiceRegistry.changeMultisigPermission, map_bind, map_pure]
    rfl
  | approve sender spender id =>
    refine finish_agree components agents related ?_
    simp only [map_bind, map_pure]
    rfl
  | setApprovalForAll sender operator approved => exact .done ⟨components, agents, rfl⟩
  | transferFrom sender owner recipient id =>
    refine finish_agree components agents related ?_
    simp only [map_bind, map_pure]
    rfl

theorem resume_agree (frame : RegistryFrame) (answer : RegistryAnswer)
    (related : SharedStorage l1 l2) :
    Agree SharedStorage (l1.resume .l1 frame answer) (l2.resume .l2 frame answer) := by
  obtain ⟨components, agents, rfl⟩ := related
  cases frame with
  | create => exact .done ⟨components, agents, rfl⟩
  | refund =>
    cases taken : answer.result with
    | false =>
      simp only [RegistryWorld.resume, taken]
      exact .failed Revert.externalFailure
    | true =>
      rw [RegistryWorld.refund_taken taken, RegistryWorld.refund_taken taken]
      exact .done ⟨components, agents, rfl⟩
  | deploy serviceId => exact .done ⟨_, _, rfl⟩

theorem reply_agree {call : RegistryCall} (known : KnownAgents call)
    (related : SharedStorage l1 l2) : l1.reply .l1 call = l2.reply .l2 call := by
  obtain ⟨components, agents, rfl⟩ := related
  cases call with
  | create =>
    simp only [RegistryWorld.reply, create_withSets known, bind_map_left]
  | deploy =>
    simp only [RegistryWorld.reply, deploy_withSets, bind_map_left]
  | terminate =>
    simp only [RegistryWorld.reply, terminate_withSets, bind_map_left]
  | unbond =>
    simp only [RegistryWorld.reply, unbond_withSets, bind_map_left]
  | drain =>
    simp only [RegistryWorld.reply, drain_withSets, bind_map_left]
    rfl
  | update | activateRegistration | registerAgents | slash | changeOwner | changeManager
  | changeDrainer | changeMultisigPermission | approve | setApprovalForAll | transferFrom => rfl

end Machines

/-- What is seen of a call that went through. -/
def seenReply (edition : Edition) (call : RegistryCall) (w : RegistryWorld) :
    Option RegistryReply :=
  (w.reply edition call).toOption

theorem editions_lockstep :
    Lockstep (registryMachine .l1) (registryMachine .l2) SharedStorage KnownAgents
      (seenReply .l1) (seenReply .l2) where
  enter _ _ _ known related := enter_agree known related
  resume frame answer _ _ related := resume_agree frame answer related
  replies _ _ _ known related := by rw [seenReply, reply_agree known related, seenReply]

/-- For every sequence of calls, answers and failures of external calls in which `create`
and `update` pass only Ids of existing agents, the same is seen of both registries, and
their shared storage stays equal. -/
theorem editions_agree {l1 l2 : RegistryWorld} (start : SharedStorage l1 l2)
    (acts : List (Act RegistryCall RegistryAnswer))
    (known : ∀ act ∈ acts, act.Allowed KnownAgents) :
    let onL1 := (registryMachine .l1).history (seenReply .l1) acts ⟨l1, []⟩
    let onL2 := (registryMachine .l2).history (seenReply .l2) acts ⟨l2, []⟩
    onL1.1 = onL2.1 ∧ onL1.2.frames = onL2.2.frames ∧
      SharedStorage onL1.2.state onL2.2.state := by
  obtain ⟨seen, related⟩ := editions_lockstep.history acts known (.empty start)
  exact ⟨seen, related.frames, related.state⟩

/-- Service 1 is created, rejected once, filled, deployed and terminated. -/
def sharedActs : List (Act RegistryCall RegistryAnswer) :=
  let manager : Caller := ⟨2, by decide⟩
  [.call (.changeManager ⟨1, by decide⟩ 2),
    .call (.changeMultisigPermission ⟨1, by decide⟩ 7 true),
    .call (.create manager 3 9 1 [1] [⟨1, 1⟩] 1), .answer ⟨0, [], true⟩,
    .call (.activateRegistration manager 2 3 1),
    .call (.activateRegistration manager 1 3 1),
    .call (.registerAgents manager 1 4 1 [5] [1]),
    .call (.deploy manager 3 1 7), .answer ⟨8, [6], true⟩,
    .call (.terminate manager 3 1)]

theorem editions_agree_terminated :
    let onL1 := (registryMachine .l1).history (seenReply .l1) sharedActs
      ⟨RegistryWorld.deployment 1, []⟩
    let onL2 := (registryMachine .l2).history (seenReply .l2) sharedActs
      ⟨RegistryWorld.deployment 1, []⟩
    onL2.2.frames = [.refund] ∧ (onL2.2.state.store.mapServices 1).state = .terminatedBonded ∧
      onL1.1 = onL2.1 ∧ SharedStorage onL1.2.state onL2.2.state := by
  have start : SharedStorage (RegistryWorld.deployment 1) (RegistryWorld.deployment 1) :=
    ⟨fun _ => [], fun _ => [], rfl⟩
  have known : ∀ act ∈ sharedActs, act.Allowed KnownAgents := by
    simp [sharedActs, Act.Allowed, KnownAgents]
  obtain ⟨seen, -, related⟩ := editions_agree start sharedActs known
  exact ⟨by decide +kernel, by decide +kernel, seen, related⟩

end AutonolasRegistries.Guarantees
