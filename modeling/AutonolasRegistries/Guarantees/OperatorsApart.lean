import AutonolasRegistries.Guarantees.RegistryShape
import AutonolasRegistries.Guarantees.SheetRuns

/-!
# Operators and agent instances

`registerAgents` refuses an operator that is somebody's agent instance, and an operator
that names itself. It does not ask whether an account it engages as an agent instance has
agent instances of its own, `ServiceRegistryL2.sol:424-446`. With that asked of the caller
the two roles stay apart.
-/
namespace AutonolasRegistries.Source
open Library

namespace ServiceRegistry

/-- The registration loop engages the accounts it is given, none of them the operator. -/
theorem registerLoop_others {operator : Address} {serviceId : Nat}
    {entries : List (Address × Uint32)} {s s' : RegistryState}
    (h : loop (registerAgentBody operator serviceId) entries s = .ok s') :
    operator ∉ entries.map Prod.fst ∧ ∀ a ∉ entries.map Prod.fst,
      s'.mapAgentInstanceOperators a = s.mapAgentInstanceOperators a := by
  induction entries generalizing s with
  | nil =>
    cases h
    simp
  | cons entry rest ih =>
    obtain ⟨next, ran, h⟩ := loop_cons_eq_ok.mp h
    obtain ⟨⟨own, -⟩, rfl⟩ := registerAgentBody_ok ran
    obtain ⟨apart, kept⟩ := ih h
    simp only [List.map_cons, List.mem_cons, not_or]
    refine ⟨⟨own, apart⟩, fun a outside => ?_⟩
    rw [kept a outside.2]
    exact Function.update_of_ne outside.1 _ _

end ServiceRegistry
end AutonolasRegistries.Source

namespace AutonolasRegistries.Guarantees
open Library Source

/-- The operators with instances are no instances; `listed` says which keys are in use. -/
structure Apart (s : RegistryState) : Prop where
  listed : ∀ key, s.mapOperatorAndServiceIdAgentInstances key ≠ [] →
    ∃ operator serviceId, serviceId ≤ s.totalSupply ∧ key = operatorService operator serviceId
  apart : ∀ operator serviceId,
    s.mapOperatorAndServiceIdAgentInstances (operatorService operator serviceId) ≠ [] →
    s.mapAgentInstanceOperators operator = 0

/-- An account that operates instances in a service that exists. -/
def Operates (s : RegistryState) (a : Address) : Prop :=
  ∃ serviceId ∈ List.range (s.totalSupply + 1),
    s.mapOperatorAndServiceIdAgentInstances (operatorService a serviceId) ≠ []

instance (s : RegistryState) (a : Address) : Decidable (Operates s a) :=
  inferInstanceAs (Decidable (∃ serviceId ∈ List.range (s.totalSupply + 1),
    s.mapOperatorAndServiceIdAgentInstances (operatorService a serviceId) ≠ []))

/-- No operator is registered as an agent instance. -/
def OnlyInstances : RegistryCall → RegistryWorld → Prop
  | .registerAgents _ _ _ _ agentInstances _, w => ∀ a ∈ agentInstances, ¬ Operates w.store a
  | _, _ => True

instance (call : RegistryCall) (w : RegistryWorld) : Decidable (OnlyInstances call w) :=
  match call with
  | .registerAgents _ _ _ _ agentInstances _ =>
    -- over the list: `Address` is a `Fin`, whose own instance runs through all its values
    List.decidableBAll (fun a => ¬ Operates w.store a) agentInstances
  | .create .. | .update .. | .activateRegistration .. | .deploy .. | .slash .. | .terminate ..
  | .unbond .. | .drain .. | .changeOwner .. | .changeManager .. | .changeDrainer ..
  | .changeMultisigPermission .. | .approve .. | .setApprovalForAll .. | .transferFrom .. =>
    .isTrue trivial

def apartDiscipline : Discipline RegistryWorld RegistryCall RegistryFrame RegistryAnswer where
  call := OnlyInstances
  answer _ _ _ := True

instance (call : RegistryCall) (w : RegistryWorld) : Decidable (apartDiscipline.call call w) :=
  inferInstanceAs (Decidable (OnlyInstances call w))

instance (frame : RegistryFrame) (answer : RegistryAnswer) (w : RegistryWorld) :
    Decidable (apartDiscipline.answer frame answer w) := .isTrue trivial

namespace Apart
variable {s s' : RegistryState}

/-- Fewer instances, fewer engagements and more services. -/
theorem shrink (before : Apart s)
    (lists : ∀ key, s'.mapOperatorAndServiceIdAgentInstances key ≠ [] →
      s.mapOperatorAndServiceIdAgentInstances key ≠ [])
    (engaged : ∀ a, s.mapAgentInstanceOperators a = 0 → s'.mapAgentInstanceOperators a = 0)
    (supply : s.totalSupply ≤ s'.totalSupply) : Apart s' := by
  refine ⟨fun key some => ?_, fun operator serviceId some => ?_⟩
  · obtain ⟨operator, serviceId, below, same⟩ := before.listed key (lists key some)
    exact ⟨operator, serviceId, le_trans below supply, same⟩
  · exact engaged operator (before.apart operator serviceId (lists _ some))

theorem register {sender operator : Address} {value serviceId : Nat}
    {agentInstances : List Address} {agentIds : List Uint32} (before : Apart s)
    (registered : Registered s) (onlyInstances : ∀ a ∈ agentInstances, ¬ Operates s a)
    (ran : ServiceRegistry.registerAgents sender value operator serviceId agentInstances
      agentIds s = .ok s') : Apart s' := by
  obtain ⟨-, ⟨-, lengths, state, -, -, free⟩, -⟩ := ServiceRegistry.registerAgents_ok ran
  obtain ⟨mid, run, rfl⟩ := ServiceRegistry.registerAgents_done ran
  obtain ⟨own, others⟩ := ServiceRegistry.registerLoop_others run
  rw [List.map_fst_zip (le_of_eq lengths)] at own others
  refine ⟨fun key some => ?_, fun a other some => ?_⟩
  · by_cases here : key = operatorService operator serviceId
    · exact ⟨operator, serviceId, (registered.of_state (by rw [state]; decide)).2, here⟩
    · simp only [Function.update_of_ne here] at some
      exact before.listed key some
  · by_cases here : a = operator
    · subst here
      exact (others a own).trans free
    · have different : operatorService a other ≠ operatorService operator serviceId :=
        fun same => here (operatorService_operator same)
      simp only [Function.update_of_ne different] at some
      have outside : a ∉ agentInstances := by
        intro member
        obtain ⟨holder, id, below, same⟩ := before.listed _ some
        obtain rfl := operatorService_operator same
        refine onlyInstances a member ⟨id, List.mem_range.mpr (Nat.lt_succ_of_le below), ?_⟩
        rw [← same]
        exact some
      exact (others a outside).trans (before.apart a other some)

theorem unbond {sender operator : Address} {serviceId refund : Nat} (before : Apart s)
    (ran : ServiceRegistry.unbond sender operator serviceId s = .ok (s', refund)) :
    Apart s' := by
  obtain ⟨instances, rfl, -, -, rfl⟩ := ServiceRegistry.unbond_ok ran
  refine before.shrink ?_ ?_ (le_refl _)
  · intro key some
    by_cases here : key = operatorService operator serviceId
    · subst here
      simp only [Function.update_self] at some
      exact absurd rfl some
    · simpa only [Function.update_of_ne here] using some
  · intro a none
    simp only [ServiceRegistry.freeInstances_read]
    split
    · rfl
    · exact none

theorem enter {edition : Edition} {w : RegistryWorld} {call : RegistryCall}
    {out : Outcome RegistryWorld RegistryFrame} (registered : Registered w.store)
    (before : Apart w.store) (onlyInstances : OnlyInstances call w)
    (taken : RegistryTransition edition w call out) : Apart out.state.store := by
  cases taken with
  | create ran =>
    obtain ⟨-, rfl, rfl⟩ := ServiceRegistry.create_ok ran
    exact before.shrink (fun _ some => some) (fun _ none => none) (Nat.le_succ _)
  | update ran =>
    obtain ⟨-, -, -, hashes, rfl⟩ := ServiceRegistry.update_ok ran
    exact before.shrink (fun _ some => some) (fun _ none => none) (le_refl _)
  | activateRegistration ran =>
    obtain ⟨-, rfl⟩ := ServiceRegistry.activateRegistration_ok ran
    exact before.shrink (fun _ some => some) (fun _ none => none) (le_refl _)
  | registerAgents ran => exact before.register registered onlyInstances ran
  | deploy ran =>
    obtain ⟨-, -, rfl⟩ := ServiceRegistry.deploy_ok ran
    exact before.shrink (fun _ some => some) (fun _ none => none) (le_refl _)
  | slash ran =>
    obtain ⟨_, _, rfl, -⟩ := ServiceRegistry.slashLoop_frame (ServiceRegistry.slash_ok ran).2
    exact before.shrink (fun _ some => some) (fun _ none => none) (le_refl _)
  | terminate ran =>
    obtain ⟨-, -, _, _, rfl⟩ := ServiceRegistry.terminate_ok ran
    exact before.shrink (fun _ some => some) (fun _ none => none) (le_refl _)
  | unbond ran =>
    have after := before.unbond ran
    rw [RegistryWorld.refunding_store]
    split
    · exact after
    · exact after.shrink (fun _ some => some) (fun _ none => none) (le_refl _)
  | drain ran =>
    obtain ⟨-, -, rfl⟩ := ServiceRegistry.drain_ok ran
    rw [RegistryWorld.refunding_store]
    split <;> exact before.shrink (fun _ some => some) (fun _ none => none) (le_refl _)
  | administer => exact before.shrink (fun _ some => some) (fun _ none => none) (le_refl _)

theorem resume {edition : Edition} {w : RegistryWorld} {frame : RegistryFrame}
    {answer : RegistryAnswer} {out : Outcome RegistryWorld RegistryFrame}
    (before : Apart w.store) (ran : w.resume edition frame answer = .ok out) :
    Apart out.state.store := by
  cases RegistryWorld.resume_return ran <;>
    exact before.shrink (fun _ some => some) (fun _ none => none) (le_refl _)

end Apart

theorem apart_preserved (edition : Edition) :
    Preserved (registryMachine edition) apartDiscipline
      (fun w frames => RegistryShape w.store frames) fun w _ => Apart w.store := by
  intro w frames w' frames' taken shape before
  cases taken with
  | entered call allowed ran =>
    exact before.enter shape.registered allowed
      (RegistryWorld.enter_transition shape.registered.guarded ran)
  | resumed answer allowed ran => exact before.resume ran

/-- In every run in which no operator is registered as an agent instance, the operators
with instances are no instances. -/
theorem operators_apart (edition : Edition) (deployer : Address)
    {c : Config RegistryWorld RegistryFrame}
    (run : Reachable (registryMachine edition) apartDiscipline
      (RegistryWorld.deployment deployer) c) (x : Address) (serviceId : Nat)
    (operates : c.state.store.mapOperatorAndServiceIdAgentInstances
      (operatorService x serviceId) ≠ []) :
    c.state.store.mapAgentInstanceOperators x = 0 := by
  have shape : Preserved (registryMachine edition) apartDiscipline always
      fun w frames => RegistryShape w.store frames :=
    (registryShape_preserved edition).restrict (fun _ _ _ => trivial) fun _ _ _ _ => trivial
  have initial : Apart (RegistryWorld.deployment deployer).store :=
    ⟨fun _ some => absurd rfl some, fun _ _ some => absurd rfl some⟩
  have kept := run.invariant (shape.join (apart_preserved edition))
    ⟨(registryBase_deployment deployer).1, initial⟩
  exact kept.2.apart x serviceId operates

/-- Operator 4 registers instance 5 in a run that keeps to the condition. -/
theorem operators_apart_registered :
    ∃ c, Reachable (registryMachine .l2) apartDiscipline (RegistryWorld.deployment 1) c ∧
      c.state.store.mapOperatorAndServiceIdAgentInstances (operatorService 4 1) ≠ [] ∧
      c.state.store.mapAgentInstanceOperators 4 = 0 := by
  obtain ⟨c, run, seen⟩ := Machine.play_observed apartDiscipline (registryMachine .l2)
    (RegistryWorld.deployment 1) (twoSlotsScript ++ fillScript)
    (fun c => (c.state.store.mapOperatorAndServiceIdAgentInstances (operatorService 4 1)).length)
    2 (by decide +kernel)
  have some : c.state.store.mapOperatorAndServiceIdAgentInstances (operatorService 4 1) ≠ [] := by
    intro none
    rw [none] at seen
    cases seen
  exact ⟨c, run, some, operators_apart .l2 1 run 4 1 some⟩

/-- Operator 4 registers instance 5, then operator 6 registers operator 4. -/
theorem operator_registered_as_instance :
    ¬ ∀ (edition : Edition) (deployer : Address) (c : Config RegistryWorld RegistryFrame),
      Reachable (registryMachine edition) .free (RegistryWorld.deployment deployer) c →
      ∀ x serviceId, c.state.store.mapOperatorAndServiceIdAgentInstances
          (operatorService x serviceId) ≠ [] →
        c.state.store.mapAgentInstanceOperators x = 0 := by
  intro apart
  obtain ⟨c, run, seen⟩ := Machine.play_observed .free (registryMachine .l2)
    (RegistryWorld.deployment 1)
    (twoSlotsScript ++ [.call (.activateRegistration registryManager 1 3 1),
      .call (.registerAgents registryManager 1 4 1 [5] [1]),
      .call (.registerAgents registryManager 1 6 1 [4] [1])])
    (fun c => ((c.state.store.mapOperatorAndServiceIdAgentInstances
      (operatorService 4 1)).length, c.state.store.mapAgentInstanceOperators 4)) (1, 6)
    (by decide +kernel)
  obtain ⟨held, engaged⟩ := Prod.mk.inj seen
  have none := apart .l2 1 c run 4 1 fun none => by
    rw [none] at held
    cases held
  rw [none] at engaged
  cases engaged

end AutonolasRegistries.Guarantees
