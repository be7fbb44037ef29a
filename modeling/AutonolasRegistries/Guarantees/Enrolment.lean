import AutonolasRegistries.Guarantees.MultisigOwners
import AutonolasRegistries.Library.Roster

/-!
# Who is engaged with whom

`mapAgentInstanceOperators` and the lists of instances by operator and service are
written by different statements of `registerAgents` and `unbond`. As long as no zero
operator registers, they are a roster: an account is engaged with an operator exactly
while it stands on one list of that operator, and then on no other list and only once.
The Ids the instances are registered for play no part in this.
-/
namespace AutonolasRegistries.Guarantees
open Library Source Model

/-- An operator in a service whose key is its own. -/
abbrev Enrolment := Address × Fin (2 ^ 32)

def enrolled (s : RegistryState) (key : Enrolment) : List Address :=
  ((sheet s key.2.val).operators key.1).map AgentInstance.inst

def Enrolled (s : RegistryState) : Prop :=
  Roster Prod.fst (enrolled s) s.mapAgentInstanceOperators

theorem enrolled_update {s s' : RegistryState} {operator : Address} {serviceId : Nat}
    (small : serviceId < 2 ^ 32) {instances : List AgentInstance}
    (after : s'.mapOperatorAndServiceIdAgentInstances =
      Function.update s.mapOperatorAndServiceIdAgentInstances
        (operatorService operator serviceId) instances) :
    enrolled s' = Function.update (enrolled s) (operator, ⟨serviceId, small⟩)
      (instances.map AgentInstance.inst) := by
  funext ⟨a, id⟩
  simp only [enrolled, sheet, after,
    update_operatorService (widen small) (widen id.isLt), Function.update_apply]
  by_cases same : id.val = serviceId ∧ a = operator
  · obtain ⟨rfl, rfl⟩ := same
    rw [if_pos ⟨rfl, rfl⟩, if_pos rfl]
  · rw [if_neg same, if_neg]
    intro key
    obtain ⟨rfl, rfl⟩ := Prod.mk.inj key
    exact same ⟨rfl, rfl⟩

theorem Enrolled.register {sender operator : Address} {value serviceId : Nat}
    {agentInstances : List Address} {agentIds : List Uint32} {s s' : RegistryState}
    (before : Enrolled s) (someone : operator ≠ 0) (small : serviceId < 2 ^ 32)
    (ran : ServiceRegistry.registerAgents sender value operator serviceId agentInstances
      agentIds s = .ok s') : Enrolled s' := by
  obtain ⟨mid, run, rfl⟩ := ServiceRegistry.registerAgents_done ran
  obtain ⟨fresh, free, read⟩ := ServiceRegistry.registerLoop_engaged someone run
  unfold Enrolled
  rw [enrolled_update small rfl, List.map_append, List.map_map]
  have after := before.join (operator, ⟨serviceId, small⟩) someone fresh free
  rw [← funext read] at after
  exact after

theorem Enrolled.unbond {sender operator : Address} {serviceId refund : Nat}
    {s s' : RegistryState} (before : Enrolled s) (small : serviceId < 2 ^ 32)
    (ran : ServiceRegistry.unbond sender operator serviceId s = .ok (s', refund)) :
    Enrolled s' := by
  obtain ⟨instances, rfl, -, -, rfl⟩ := ServiceRegistry.unbond_ok ran
  unfold Enrolled
  rw [enrolled_update small rfl, List.map_nil]
  have after := before.leave (operator, ⟨serviceId, small⟩)
  have read := fun a => ServiceRegistry.freeInstances_read
    (s.mapOperatorAndServiceIdAgentInstances (operatorService operator serviceId))
    s.mapAgentInstanceOperators a
  simp only [funext read]
  exact after

theorem Enrolled.enter {edition : Edition} {w : RegistryWorld} {call : RegistryCall}
    {out : Outcome RegistryWorld RegistryFrame} (registered : Registered w.store)
    (supply : w.store.totalSupply < 2 ^ 32) (before : Enrolled w.store)
    (someone : RealOperator call) (taken : RegistryTransition edition w call out) :
    Enrolled out.state.store := by
  have small : ∀ {serviceId}, (w.store.mapServices serviceId).state ≠ .nonExistent →
      serviceId < 2 ^ 32 :=
    fun state => lt_of_le_of_lt (registered.of_state state).2 supply
  cases taken with
  | create ran =>
    obtain ⟨-, rfl, rfl⟩ := ServiceRegistry.create_ok ran
    exact before
  | update ran =>
    obtain ⟨-, -, -, -, rfl⟩ := ServiceRegistry.update_ok ran
    exact before
  | activateRegistration ran =>
    obtain ⟨-, rfl⟩ := ServiceRegistry.activateRegistration_ok ran
    exact before
  | registerAgents ran =>
    obtain ⟨-, ⟨-, -, state, -⟩, -⟩ := ServiceRegistry.registerAgents_ok ran
    exact before.register someone (small (by rw [state]; decide)) ran
  | deploy ran =>
    obtain ⟨-, -, rfl⟩ := ServiceRegistry.deploy_ok ran
    exact before
  | slash ran =>
    obtain ⟨-, -, rfl, -⟩ := ServiceRegistry.slashLoop_frame (ServiceRegistry.slash_ok ran).2
    exact before
  | terminate ran =>
    obtain ⟨-, -, -, -, rfl⟩ := ServiceRegistry.terminate_ok ran
    exact before
  | unbond ran =>
    obtain ⟨-, -, ⟨-, -, -, state, -⟩, -⟩ := ServiceRegistry.unbond_ok ran
    have after := before.unbond (small (by rw [state]; decide)) ran
    rw [RegistryWorld.refunding_store]
    split <;> exact after
  | drain ran =>
    obtain ⟨-, -, rfl⟩ := ServiceRegistry.drain_ok ran
    rw [RegistryWorld.refunding_store]
    split <;> exact before
  | administer => exact before

theorem Enrolled.resume {edition : Edition} {w : RegistryWorld} {frame : RegistryFrame}
    {answer : RegistryAnswer} {out : Outcome RegistryWorld RegistryFrame}
    (before : Enrolled w.store) (ran : w.resume edition frame answer = .ok out) :
    Enrolled out.state.store := by
  cases RegistryWorld.resume_return ran <;> exact before

theorem enrolled_preserved {edition : Edition}
    {D : Discipline RegistryWorld RegistryCall RegistryFrame RegistryAnswer}
    (someone : ∀ call w, D.call call w → RealOperator call) :
    Preserved (registryMachine edition) D RegistryBase fun w _ => Enrolled w.store := by
  intro w frames w' frames' taken base before
  cases taken with
  | entered call allowed ran =>
    have kind := RegistryWorld.enter_transition base.1.registered.guarded ran
    exact before.enter base.1.registered base.2 (someone call w allowed) kind
  | resumed answer allowed ran => exact before.resume ran

theorem enrolled_deployment (deployer : Address) :
    Enrolled (RegistryWorld.deployment deployer).store := Roster.empty

end AutonolasRegistries.Guarantees
