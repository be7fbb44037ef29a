import AutonolasRegistries.Guarantees.OperatorLedger

/-!
# The registry's ETH

The ETH received through the payable functions and not paid out again is, in
every configuration, the deposits of the services that hold one, the operator
balances and the slashed funds. A suspended `terminate`, `unbond` or `drain` has
already been charged for the refund in flight, so whatever the recipient does with
the control it gets, it acts on a solvent ledger.
-/
namespace AutonolasRegistries.Guarantees
open Library Source Model

/-- What the registry owes the owner of a service. -/
def depositOwed (service : Service) : Nat :=
  if service.state.holdsDeposit then service.securityDeposit else 0

def depositsOwed (supply : Nat) (services : Nat → Service) : Nat :=
  ∑ serviceId ∈ Finset.range (supply + 1), depositOwed (services serviceId)

noncomputable def liabilities (s : RegistryState) : Nat :=
  depositsOwed s.totalSupply s.mapServices + total s.mapOperatorAndServiceIdOperatorBalances +
    s.slashedFunds

def Solvent (w : RegistryWorld) : Prop := w.received = w.paid + liabilities w.store

/-- Every value sent fits the total native supply. -/
def Funded : RegistryCall → Prop
  | .activateRegistration _ value _ _ => value < 2 ^ 96
  | .registerAgents _ value _ _ _ _ => value < 2 ^ 96
  | _ => True

instance (call : RegistryCall) : Decidable (Funded call) :=
  match call with
  | .activateRegistration _ value _ _ => inferInstanceAs (Decidable (value < 2 ^ 96))
  | .registerAgents _ value _ _ _ _ => inferInstanceAs (Decidable (value < 2 ^ 96))
  | .create .. | .update .. | .deploy .. | .slash .. | .terminate .. | .unbond .. | .drain ..
  | .changeOwner .. | .changeManager .. | .changeDrainer .. | .changeMultisigPermission ..
  | .approve .. | .setApprovalForAll .. | .transferFrom .. => .isTrue trivial

theorem depositOwed_idle {service : Service} (idle : service.state.holdsDeposit = false) :
    depositOwed service = 0 := by
  rw [depositOwed, idle]
  rfl

theorem depositOwed_held {service : Service} (held : service.state.holdsDeposit = true) :
    depositOwed service = service.securityDeposit := by
  rw [depositOwed, held]
  rfl

/-- Rewriting the record of one service. -/
theorem depositsOwed_rewrite {supply serviceId : Nat} (below : serviceId ≤ supply)
    (services : Nat → Service) (service : Service) :
    depositsOwed supply (Function.update services serviceId service) +
        depositOwed (services serviceId) =
      depositsOwed supply services + depositOwed service :=
  sum_map_update_add_of_mem depositOwed services
    (Finset.mem_range.mpr (Nat.lt_succ_of_le below)) service

theorem depositsOwed_same {supply serviceId : Nat} (below : serviceId ≤ supply)
    {services : Nat → Service} {service : Service}
    (owed : depositOwed service = depositOwed (services serviceId)) :
    depositsOwed supply (Function.update services serviceId service) =
      depositsOwed supply services := by
  have moved := depositsOwed_rewrite below services service
  omega

theorem depositsOwed_create {supply : Nat} (services : Nat → Service) {service : Service}
    (idle : service.state.holdsDeposit = false) :
    depositsOwed (supply + 1) (Function.update services (supply + 1) service) =
      depositsOwed supply services := by
  rw [depositsOwed, Finset.sum_range_succ, Function.update_self, depositOwed_idle idle,
    Nat.add_zero]
  refine Finset.sum_congr rfl fun id member => ?_
  have different : id ≠ supply + 1 := by
    have := Finset.mem_range.mp member
    omega
  rw [Function.update_of_ne different]

/-- The lock plays no part in what is owed. -/
theorem liabilities_refunding (w : RegistryWorld) (s : RegistryState) (amount : Nat) :
    liabilities (w.refunding s amount).state.store = liabilities s := by
  rw [RegistryWorld.refunding_store]
  split <;> rfl

section Calls
variable {edition : Edition} {s s' : RegistryState} {serviceId : Nat}

theorem create_liabilities {sender serviceOwner : Address} {agentTotalSupply : Nat}
    {configHash : Bytes32} {agentIds : List Uint32} {agentParams : List AgentParams}
    {threshold : Uint32}
    (ran : ServiceRegistry.create edition agentTotalSupply sender serviceOwner configHash
      agentIds agentParams threshold s = .ok (s', serviceId)) :
    liabilities s' = liabilities s := by
  obtain ⟨-, rfl, rfl⟩ := ServiceRegistry.create_ok ran
  simp only [liabilities]
  rw [depositsOwed_create _ rfl]

theorem update_liabilities {sender serviceOwner : Address} {agentTotalSupply : Nat}
    {configHash : Bytes32} {agentIds : List Uint32} {agentParams : List AgentParams}
    {threshold : Uint32} (below : serviceId ≤ s.totalSupply)
    (ran : ServiceRegistry.update edition agentTotalSupply sender serviceOwner configHash
      agentIds agentParams threshold serviceId s = .ok s') :
    liabilities s' = liabilities s := by
  obtain ⟨kept, -, ⟨-, -, -, state, -⟩, hashes, rfl⟩ := ServiceRegistry.update_ok ran
  simp only [liabilities]
  rw [depositsOwed_same below]
  rw [depositOwed_idle (by simp only [state]; rfl), depositOwed_idle (by rw [state]; rfl)]

/-- The deposit becomes owed when it is paid in. -/
theorem activateRegistration_liabilities {sender serviceOwner : Address} {value : Nat}
    (below : serviceId ≤ s.totalSupply)
    (ran : ServiceRegistry.activateRegistration sender value serviceOwner serviceId s = .ok s') :
    liabilities s' = liabilities s + value := by
  obtain ⟨⟨-, -, -, state, rfl⟩, rfl⟩ := ServiceRegistry.activateRegistration_ok ran
  have moved := depositsOwed_rewrite below s.mapServices
    { s.mapServices serviceId with state := .activeRegistration }
  rw [depositOwed_idle (by rw [state]; rfl), depositOwed_held rfl] at moved
  simp only [liabilities] at moved ⊢
  omega

theorem registerAgents_liabilities {sender operator : Address} {value : Nat}
    {agentInstances : List Address} {agentIds : List Uint32} (below : serviceId ≤ s.totalSupply)
    (funded : value < 2 ^ 96)
    (ran : ServiceRegistry.registerAgents sender value operator serviceId agentInstances
      agentIds s = .ok s') :
    liabilities s' = liabilities s + value := by
  obtain ⟨-, ⟨-, -, state, -⟩, -⟩ := ServiceRegistry.registerAgents_ok ran
  obtain ⟨mid, -, rfl⟩ := ServiceRegistry.registerAgents_done ran
  have credited := total_update_add s.mapOperatorAndServiceIdOperatorBalances
    (operatorService operator serviceId)
    (s.mapOperatorAndServiceIdOperatorBalances (operatorService operator serviceId) +
      value % 2 ^ 96)
  rw [Nat.mod_eq_of_lt funded] at credited
  simp only [liabilities, Nat.mod_eq_of_lt funded]
  rw [depositsOwed_same below]
  · omega
  · rw [depositOwed_held (by simp only [state]; split <;> rfl),
      depositOwed_held (by rw [state]; rfl)]

theorem slash_liabilities {sender : Address} {agentInstances : List Address}
    {amounts : List Uint96}
    (ran : ServiceRegistry.slash sender agentInstances amounts serviceId s = .ok s') :
    liabilities s' = liabilities s := by
  obtain ⟨slashed, balances, rfl, conserved, -⟩ :=
    ServiceRegistry.slashLoop_frame (ServiceRegistry.slash_ok ran).2
  simp only [liabilities]
  omega

/-- The refund of `terminate` is the deposit that stops being owed. -/
theorem terminate_liabilities {sender serviceOwner : Address} {refund : Nat}
    (registered : Registered s)
    (ran : ServiceRegistry.terminate edition sender serviceOwner serviceId s =
      .ok (s', refund)) :
    liabilities s = liabilities s' + refund := by
  obtain ⟨⟨-, -, minted, -, idle, bonded⟩, rfl, components, agents, rfl⟩ :=
    ServiceRegistry.terminate_ok ran
  obtain ⟨positive, below⟩ := registered.of_owner minted
  have held : (s.mapServices serviceId).state.holdsDeposit = true := by
    have alive := registered.listed _ positive below
    cases state : (s.mapServices serviceId).state <;> simp_all [ServiceState.holdsDeposit]
  have moved := depositsOwed_rewrite below s.mapServices
    { s.mapServices serviceId with
      state := if 0 < (s.mapServices serviceId).numAgentInstances then .terminatedBonded
        else .preRegistration }
  rw [depositOwed_held held, depositOwed_idle (by simp only; split <;> rfl)] at moved
  simp only [liabilities] at moved ⊢
  omega

/-- The refund of `unbond` is the whole balance of the operator. -/
theorem unbond_liabilities {sender operator : Address} {refund : Nat}
    (below : serviceId ≤ s.totalSupply) (book : OperatorBook (sheet s serviceId))
    (ran : ServiceRegistry.unbond sender operator serviceId s = .ok (s', refund)) :
    liabilities s = liabilities s' + refund := by
  obtain ⟨instances, rfl, ⟨-, -, -, state, -⟩, paid, rfl⟩ := ServiceRegistry.unbond_ok ran
  have whole : refund = s.mapOperatorAndServiceIdOperatorBalances
      (operatorService operator serviceId) := paid.trans (book.refund_eq operator)
  have cleared : (if 0 < refund then 0 else s.mapOperatorAndServiceIdOperatorBalances
      (operatorService operator serviceId)) = 0 := by
    split
    · rfl
    · omega
  have taken := total_update_add s.mapOperatorAndServiceIdOperatorBalances
    (operatorService operator serviceId) 0
  simp only [liabilities, cleared]
  rw [depositsOwed_same below]
  · omega
  · rw [depositOwed_idle (by simp only [state]; split <;> rfl),
      depositOwed_idle (by rw [state]; rfl)]

theorem drain_liabilities {sender : Address} {amount : Nat}
    (ran : ServiceRegistry.drain sender s = .ok (s', amount)) :
    liabilities s = liabilities s' + amount := by
  obtain ⟨-, rfl, rfl⟩ := ServiceRegistry.drain_ok ran
  simp only [liabilities, Nat.add_zero]

theorem deployReturn_liabilities {multisig : Address} {subComponents : List Uint32}
    (below : serviceId ≤ s.totalSupply)
    (state : (s.mapServices serviceId).state = .finishedRegistration) :
    liabilities (ServiceRegistry.deployReturn edition serviceId multisig subComponents s) =
      liabilities s := by
  simp only [liabilities, ServiceRegistry.deployReturn, ServiceRegistry.unlock]
  rw [depositsOwed_same below]
  rw [depositOwed_held rfl, depositOwed_held (by rw [state]; rfl)]

end Calls

/-- The shape of the registry together with the ledgers of its operators. -/
def RegistryLedger (w : RegistryWorld) (frames : List RegistryFrame) : Prop :=
  RegistryBase w frames ∧ ∀ serviceId < 2 ^ 32, OperatorBook (sheet w.store serviceId)

theorem Solvent.enter {edition : Edition} {w : RegistryWorld} {call : RegistryCall}
    {out : Outcome RegistryWorld RegistryFrame} {frames : List RegistryFrame}
    (ledger : RegistryLedger w frames) (funded : Funded call) (before : Solvent w)
    (taken : RegistryTransition edition w call out) : Solvent out.state := by
  obtain ⟨⟨⟨registered, -⟩, supply⟩, books⟩ := ledger
  have below : ∀ {serviceId}, (w.store.mapServices serviceId).state ≠ .nonExistent →
      serviceId ≤ w.store.totalSupply := fun state => (registered.of_state state).2
  unfold Solvent at before ⊢
  cases taken with
  | create ran =>
    have same := create_liabilities ran
    simp only [Outcome.state_suspended]
    omega
  | update ran =>
    obtain ⟨-, -, ⟨-, -, -, state, -⟩, -⟩ := ServiceRegistry.update_ok ran
    have same := update_liabilities (below (by rw [state]; decide)) ran
    simp only [Outcome.state_done]
    omega
  | activateRegistration ran =>
    obtain ⟨⟨-, -, -, state, -⟩, -⟩ := ServiceRegistry.activateRegistration_ok ran
    have grown := activateRegistration_liabilities (below (by rw [state]; decide)) ran
    simp only [Outcome.state_done]
    omega
  | registerAgents ran =>
    obtain ⟨-, ⟨-, -, state, -⟩, -⟩ := ServiceRegistry.registerAgents_ok ran
    have grown := registerAgents_liabilities (below (by rw [state]; decide)) funded ran
    simp only [Outcome.state_done]
    omega
  | deploy ran =>
    obtain ⟨-, -, rfl⟩ := ServiceRegistry.deploy_ok ran
    exact before
  | slash ran =>
    have same := slash_liabilities ran
    simp only [Outcome.state_done]
    omega
  | terminate ran =>
    have paid := terminate_liabilities registered ran
    simp only [Outcome.state_suspended]
    omega
  | unbond ran =>
    obtain ⟨-, -, ⟨-, -, -, state, -⟩, -⟩ := ServiceRegistry.unbond_ok ran
    have here := below (by rw [state]; decide)
    have paid := unbond_liabilities here (books _ (lt_of_le_of_lt here supply)) ran
    simp only [RegistryWorld.refunding_received, RegistryWorld.refunding_paid,
      liabilities_refunding]
    omega
  | drain ran =>
    have paid := drain_liabilities ran
    simp only [RegistryWorld.refunding_received, RegistryWorld.refunding_paid,
      liabilities_refunding]
    omega
  | administer => exact before

theorem Solvent.resume {edition : Edition} {w : RegistryWorld} {frame : RegistryFrame}
    {answer : RegistryAnswer} {out : Outcome RegistryWorld RegistryFrame}
    {frames : List RegistryFrame} (shape : RegistryShape w.store (frame :: frames))
    (before : Solvent w) (ran : w.resume edition frame answer = .ok out) :
    Solvent out.state := by
  cases RegistryWorld.resume_return ran with
  | create | refund => exact before
  | deploy serviceId =>
    cases shape.lock with
    | deploying _ state =>
      have here := (shape.registered.of_state (by rw [state]; decide)).2
      unfold Solvent
      simp only [Outcome.state_done]
      rw [deployReturn_liabilities here state]
      exact before

/-- At most `2 ^ 32 - 1` services, and less than `2 ^ 96` wei in any call. -/
def fundedDiscipline : Discipline RegistryWorld RegistryCall RegistryFrame RegistryAnswer where
  call call w := Bounded call w ∧ Funded call
  answer _ _ _ := True

instance (call : RegistryCall) (w : RegistryWorld) : Decidable (fundedDiscipline.call call w) :=
  inferInstanceAs (Decidable (Bounded call w ∧ Funded call))

instance (frame : RegistryFrame) (answer : RegistryAnswer) (w : RegistryWorld) :
    Decidable (fundedDiscipline.answer frame answer w) := .isTrue trivial

theorem registryLedger_preserved (edition : Edition)
    {D : Discipline RegistryWorld RegistryCall RegistryFrame RegistryAnswer}
    (bounded : ∀ call w, D.call call w → Bounded call w) :
    Preserved (registryMachine edition) D always RegistryLedger :=
  (registryBase_preserved bounded).join (operatorBook_preserved bounded)

theorem solvent_preserved (edition : Edition) :
    Preserved (registryMachine edition) fundedDiscipline RegistryLedger
      fun w _ => Solvent w := by
  intro w frames w' frames' taken ledger before
  cases taken with
  | entered call allowed ran =>
    have kind := RegistryWorld.enter_transition ledger.1.1.registered.guarded ran
    exact before.enter ledger allowed.2 kind
  | resumed answer allowed ran => exact before.resume ledger.1.1 ran

theorem registryLedger_deployment (deployer : Address) :
    RegistryLedger (RegistryWorld.deployment deployer) [] :=
  ⟨registryBase_deployment deployer,
    fun serviceId _ => operatorBook_deployment deployer serviceId⟩

theorem solvent_deployment (deployer : Address) :
    Solvent (RegistryWorld.deployment deployer) := by
  unfold Solvent liabilities
  have none : total (RegistryWorld.deployment deployer).store.mapOperatorAndServiceIdOperatorBalances
      = 0 := total_zero
  rw [none]
  rfl

/-- In every configuration of every run, suspended refunds included, the ETH held
is exactly what the registry owes. -/
theorem registry_conserves_eth (edition : Edition) (deployer : Address)
    {c : Config RegistryWorld RegistryFrame}
    (run : Reachable (registryMachine edition) fundedDiscipline
      (RegistryWorld.deployment deployer) c) :
    c.state.received = c.state.paid +
      ((∑ serviceId ∈ Finset.range (c.state.store.totalSupply + 1),
          if (c.state.store.mapServices serviceId).state.holdsDeposit then
            (c.state.store.mapServices serviceId).securityDeposit else 0) +
        (∑ key, c.state.store.mapOperatorAndServiceIdOperatorBalances key) +
        c.state.store.slashedFunds) := by
  have ledger : Preserved (registryMachine edition) fundedDiscipline always RegistryLedger :=
    registryLedger_preserved edition fun _ _ allowed => allowed.1
  have kept := ledger.join (solvent_preserved edition)
  have solvent := (run.invariant kept
    ⟨registryLedger_deployment deployer, solvent_deployment deployer⟩).2
  rw [Solvent, liabilities, total_eq_sum] at solvent
  exact solvent

/-- A service with two bonded instances, suspended in the refund of its deposit:
three received, one on its way out, two still owed. -/
theorem registry_conserves_eth_refunding :
    ∃ c, Reachable (registryMachine .l2) fundedDiscipline (RegistryWorld.deployment 1) c ∧
      c.frames = [.refund] ∧ c.state.received = 3 ∧ c.state.paid = 1 ∧
      3 = 1 + ((∑ serviceId ∈ Finset.range (c.state.store.totalSupply + 1),
          if (c.state.store.mapServices serviceId).state.holdsDeposit then
            (c.state.store.mapServices serviceId).securityDeposit else 0) +
        (∑ key, c.state.store.mapOperatorAndServiceIdOperatorBalances key) +
        c.state.store.slashedFunds) := by
  obtain ⟨c, run, seen⟩ := Machine.play_observed fundedDiscipline (registryMachine .l2)
    (RegistryWorld.deployment 1)
    (twoSlotsScript ++ fillScript ++ [.call (.terminate registryManager 3 1)])
    (fun c => (c.frames, c.state.received, c.state.paid)) ([.refund], 3, 1) (by decide +kernel)
  obtain ⟨frames, amounts⟩ := Prod.mk.inj seen
  obtain ⟨received, paid⟩ := Prod.mk.inj amounts
  have conserved := registry_conserves_eth .l2 1 run
  rw [received, paid] at conserved
  exact ⟨c, run, frames, received, paid, conserved⟩

end AutonolasRegistries.Guarantees
