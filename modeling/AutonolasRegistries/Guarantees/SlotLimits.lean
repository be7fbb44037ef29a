import AutonolasRegistries.Guarantees.SheetRuns
import AutonolasRegistries.Library.Grouping

/-!
# Slot limits

A service never has more instances than slots, in total and for each of its agent
Ids, as long as operators register only against the Ids the service currently
lists. `registerAgents` does not check that: it accepts every Id that has slots
recorded, and `update` leaves the parameters of an Id it drops in place unless the
Id is passed with no slots. `ServiceRegistryL2.sol:382-475`, `:278-350`.

The counterexample at the end runs the registry through such an update.
-/
namespace AutonolasRegistries.Guarantees
open Library Source Model

/-- How the counters, the slots and the lists by Id of one service agree. -/
structure SlotBook (t : ServiceSheet) : Prop where
  unique : t.service.agentIds.Nodup
  outside : ∀ x, x ∉ t.service.agentIds → t.lists x = []
  closed : t.service.state.holdsDeposit = false → ∀ x, t.lists x = []
  counted : t.service.state.holdsDeposit = true →
    t.service.numAgentInstances = (t.service.agentIds.flatMap t.lists).length
  capacity : t.service.maxNumAgentInstances = slotsOf t.params t.service.agentIds
  room : ∀ x ∈ t.service.agentIds, (t.lists x).length ≤ (t.params x).slots.val
  bounded : t.service.numAgentInstances ≤ t.service.maxNumAgentInstances
  idle : t.service.state = .nonExistent ∨ t.service.state = .preRegistration →
    t.service.numAgentInstances = 0

/-- Registrations name only Ids the service lists. -/
def Listed : ServiceAction → ServiceSheet → Prop
  | .register _ entries, t => ∀ e ∈ entries, e.2 ∈ t.service.agentIds
  | _, _ => True

theorem holdsDeposit_idle {state : ServiceState}
    (idle : state = .nonExistent ∨ state = .preRegistration) : state.holdsDeposit = false := by
  rcases idle with rfl | rfl <;> rfl

theorem flatMap_length_le {ids : List Uint32} {lists : Uint32 → List Address}
    {params : Uint32 → AgentParams}
    (room : ∀ x ∈ ids, (lists x).length ≤ (params x).slots.val) :
    (ids.flatMap lists).length ≤ slotsOf params ids := by
  rw [List.length_flatMap, slotsOf]
  exact List.sum_le_sum room

theorem SlotBook.configure {t t' : ServiceSheet} {entries : List (Uint32 × AgentParams)}
    (before : SlotBook t) (step : t.Step t' (.configure entries)) : SlotBook t' := by
  cases step with
  | configure idle unique positive written state ids capacity count lists =>
    have empty := before.closed (holdsDeposit_idle idle)
    have none : t'.service.numAgentInstances = 0 := count.trans (before.idle idle)
    refine ⟨ids ▸ unique, fun x _ => ?_, fun _ x => ?_, ?_, capacity, ?_, ?_, fun _ => none⟩
    · rw [lists, empty]
    · rw [lists, empty]
    · intro holds
      rw [state] at holds
      cases holds
    · intro x _
      rw [lists, empty]
      exact Nat.zero_le _
    · omega

theorem SlotBook.activate {t t' : ServiceSheet}
    (before : SlotBook t) (step : t.Step t' .activate) : SlotBook t' := by
  cases step with
  | activate state after =>
    subst after
    have empty := before.closed (by rw [state]; rfl)
    refine ⟨before.unique, before.outside, fun _ => empty, fun _ => ?_, before.capacity,
      before.room, before.bounded, ?_⟩
    · have none := before.idle (Or.inr state)
      simp only [none, List.length_flatMap, empty, List.length_nil, List.map_const',
        List.sum_replicate, smul_eq_mul, mul_zero]
    · rintro (h | h) <;> cases h

/-- The instances of listed Ids fill their groups; the total follows. -/
theorem SlotBook.register {t t' : ServiceSheet} {operator : Address} {entries : List (Address × Uint32)}
    (before : SlotBook t)
    (listed : ∀ e ∈ entries, e.2 ∈ t.service.agentIds) (step : t.Step t' (.register operator entries)) : SlotBook t' := by
  cases step with
  | register state service _ params lists room _ _ =>
    have holds : t.service.state.holdsDeposit = true := by rw [state]; rfl
    have ids : t'.service.agentIds = t.service.agentIds := by rw [service]
    have kept : t'.service.state.holdsDeposit = true := by
      rw [service]
      simp only
      split
      · rfl
      · exact holds
    have grouped := groups_append_perm Prod.snd before.unique listed Prod.fst t.lists
    have count : t'.service.numAgentInstances = (t'.service.agentIds.flatMap t'.lists).length := by
      rw [ids, funext lists, grouped.length_eq, List.length_append, List.length_map,
        ← before.counted holds, service]
    have fits : ∀ x ∈ t'.service.agentIds, (t'.lists x).length ≤ (t'.params x).slots.val := by
      intro x member
      rw [params]
      exact room x (before.room x (ids ▸ member))
    have capacity : t'.service.maxNumAgentInstances = slotsOf t'.params t'.service.agentIds := by
      rw [ids, params, ← before.capacity, service]
    refine ⟨ids ▸ before.unique, ?_, ?_, fun _ => count, capacity, fits, ?_, ?_⟩
    · intro x absent
      rw [ids] at absent
      rw [lists, before.outside x absent, List.nil_append, List.map_eq_nil_iff,
        List.filter_eq_nil_iff]
      intro e member
      have : e.2 ≠ x := fun same => absent (same ▸ listed e member)
      simpa using this
    · intro closed
      rw [kept] at closed
      cases closed
    · rw [count, capacity]
      exact flatMap_length_le fits
    · intro idle
      rw [holdsDeposit_idle idle] at kept
      cases kept

theorem SlotBook.deploy {t t' : ServiceSheet}
    (before : SlotBook t) (step : t.Step t' .deploy) : SlotBook t' := by
  cases step with
  | deploy multisig state after =>
    subst after
    refine ⟨before.unique, before.outside, ?_, fun _ => before.counted (by rw [state]; rfl),
      before.capacity, before.room, before.bounded, ?_⟩
    · intro closed
      cases closed
    · rintro (h | h) <;> cases h

theorem SlotBook.slash {t t' : ServiceSheet}
    (before : SlotBook t) (step : t.Step t' .slash) : SlotBook t' := by
  cases step with
  | slash state below after =>
    subst after
    exact ⟨before.unique, before.outside, before.closed, before.counted, before.capacity,
      before.room, before.bounded, before.idle⟩

/-- Every list outside the listed Ids was empty already. -/
theorem SlotBook.terminate {t t' : ServiceSheet}
    (before : SlotBook t) (step : t.Step t' .terminate) : SlotBook t' := by
  cases step with
  | terminate state after =>
    subst after
    have empty : ∀ x, (if x ∈ t.service.agentIds then [] else t.lists x) = [] := by
      intro x
      split
      · rfl
      · next absent => exact before.outside x absent
    refine ⟨before.unique, fun x _ => empty x, fun _ => empty, ?_, before.capacity, ?_,
      before.bounded, ?_⟩
    · intro holds
      simp only at holds
      split at holds <;> cases holds
    · intro x member
      simp only [empty x]
      exact Nat.zero_le _
    · intro idle
      simp only at idle ⊢
      split at idle
      · rcases idle with h | h <;> cases h
      · omega

theorem SlotBook.unbond {t t' : ServiceSheet} {operator : Address}
    (before : SlotBook t) (step : t.Step t' (.unbond operator)) : SlotBook t' := by
  cases step with
  | unbond state bonded enough after =>
    subst after
    have empty := before.closed (by rw [state]; rfl)
    refine ⟨before.unique, before.outside, fun _ => empty, ?_, before.capacity, before.room,
      ?_, ?_⟩
    · intro holds
      simp only [state] at holds
      split at holds <;> cases holds
    · exact le_trans (Nat.sub_le _ _) before.bounded
    · intro idle
      simp only [state] at idle ⊢
      split at idle
      · assumption
      · rcases idle with h | h <;> cases h

theorem SlotBook.step {t t' : ServiceSheet} {action : ServiceAction} (before : SlotBook t)
    (listed : Listed action t) (step : t.Step t' action) : SlotBook t' := by
  cases action with
  | configure entries => exact before.configure step
  | activate => exact before.activate step
  | register operator entries => exact before.register listed step
  | deploy => exact before.deploy step
  | slash => exact before.slash step
  | terminate => exact before.terminate step
  | unbond operator => exact before.unbond step

theorem SlotBook.blank (s : RegistryState) (serviceId : Nat)
    (service : s.mapServices serviceId = Service.empty)
    (lists : ∀ x, s.mapServiceAndAgentIdAgentInstances (serviceAgent serviceId x) = []) :
    SlotBook (sheet s serviceId) := by
  refine ⟨?_, fun x _ => lists x, fun _ => lists, ?_, ?_, ?_, ?_, ?_⟩ <;>
    simp [sheet, service, Service.empty, slotsOf, ServiceState.holdsDeposit]

/-- Operators register only against the Ids the service lists at that moment. -/
def CurrentIds : RegistryCall → RegistryWorld → Prop
  | .registerAgents _ _ _ serviceId agentInstances agentIds, w =>
    ∀ e ∈ agentInstances.zip agentIds, e.2 ∈ (w.store.mapServices serviceId).agentIds
  | _, _ => True

instance (call : RegistryCall) (w : RegistryWorld) : Decidable (CurrentIds call w) :=
  match call with
  | .registerAgents _ _ _ serviceId agentInstances agentIds =>
    List.decidableBAll (fun e : Address × Uint32 => e.2 ∈ (w.store.mapServices serviceId).agentIds)
      (agentInstances.zip agentIds)
  | .create .. | .update .. | .activateRegistration .. | .deploy .. | .slash ..
  | .terminate .. | .unbond .. | .drain .. | .changeOwner .. | .changeManager ..
  | .changeDrainer .. | .changeMultisigPermission .. | .approve .. | .setApprovalForAll ..
  | .transferFrom .. => .isTrue trivial

def currentIdsDiscipline :
    Discipline RegistryWorld RegistryCall RegistryFrame RegistryAnswer where
  call call w := Bounded call w ∧ CurrentIds call w
  answer _ _ _ := True

instance (call : RegistryCall) (w : RegistryWorld) :
    Decidable (currentIdsDiscipline.call call w) :=
  inferInstanceAs (Decidable (Bounded call w ∧ CurrentIds call w))

instance (frame : RegistryFrame) (answer : RegistryAnswer) (w : RegistryWorld) :
    Decidable (currentIdsDiscipline.answer frame answer w) := .isTrue trivial

/-- The limits on the instances of a service, as the source states them. -/
def WithinSlots (s : RegistryState) (serviceId : Nat) : Prop :=
  (s.mapServices serviceId).numAgentInstances ≤
    (s.mapServices serviceId).maxNumAgentInstances ∧
  ∀ x ∈ (s.mapServices serviceId).agentIds,
    (s.mapServiceAndAgentIdAgentInstances (serviceAgent serviceId x)).length ≤
      (s.mapServiceAndAgentIdAgentParams (serviceAgent serviceId x)).slots.val

instance (s : RegistryState) (serviceId : Nat) : Decidable (WithinSlots s serviceId) :=
  have := List.decidableBAll (fun x =>
    (s.mapServiceAndAgentIdAgentInstances (serviceAgent serviceId x)).length ≤
      (s.mapServiceAndAgentIdAgentParams (serviceAgent serviceId x)).slots.val)
    (s.mapServices serviceId).agentIds
  inferInstanceAs (Decidable (_ ∧ _))

/-- Rule for what the actions keep of a service when registrations name listed Ids. -/
theorem listed_preserved {edition : Edition} {P : ServiceSheet → Prop}
    {D : Discipline RegistryWorld RegistryCall RegistryFrame RegistryAnswer}
    (bounded : ∀ call w, D.call call w → Bounded call w)
    (current : ∀ call w, D.call call w → CurrentIds call w)
    (keep : ∀ t t' action, P t → Listed action t → t.Step t' action → P t') :
    Preserved (registryMachine edition) D RegistryBase
      fun w _ => ∀ serviceId < 2 ^ 32, P (sheet w.store serviceId) := by
  refine sheets_preserved Listed bounded ?_ (fun _ => trivial) keep
  intro call w target action allowed label
  have listed := current call w allowed
  cases call <;> cases label <;> exact listed

theorem slotBook_preserved {edition : Edition}
    {D : Discipline RegistryWorld RegistryCall RegistryFrame RegistryAnswer}
    (bounded : ∀ call w, D.call call w → Bounded call w)
    (current : ∀ call w, D.call call w → CurrentIds call w) :
    Preserved (registryMachine edition) D RegistryBase
      fun w _ => ∀ serviceId < 2 ^ 32, SlotBook (sheet w.store serviceId) :=
  listed_preserved bounded current fun _ _ _ before listed step => before.step listed step

theorem slotBook_deployment (deployer : Address) :
    RegistryBase (RegistryWorld.deployment deployer) [] ∧
      ∀ serviceId < 2 ^ 32, SlotBook (sheet (RegistryWorld.deployment deployer).store serviceId) :=
  ⟨registryBase_deployment deployer,
    fun serviceId _ => SlotBook.blank _ serviceId rfl fun _ => rfl⟩

/-- In every run in which operators register only against the Ids a service
lists at that moment, every service keeps within its slots. -/
theorem registry_within_slots (edition : Edition) (deployer : Address)
    {c : Config RegistryWorld RegistryFrame}
    (run : Reachable (registryMachine edition) currentIdsDiscipline
      (RegistryWorld.deployment deployer) c)
    {serviceId : Nat} (created : serviceId ≤ c.state.store.totalSupply) : WithinSlots c.state.store serviceId := by
  have bounded : ∀ call w, currentIdsDiscipline.call call w → Bounded call w :=
    fun _ _ allowed => allowed.1
  have base : Preserved (registryMachine edition) currentIdsDiscipline always RegistryBase :=
    registryBase_preserved bounded
  have kept := base.join (slotBook_preserved bounded fun _ _ allowed => allowed.2)
  obtain ⟨⟨-, supply⟩, books⟩ := run.invariant kept (slotBook_deployment deployer)
  have book := books serviceId (lt_of_le_of_lt created supply)
  exact ⟨book.bounded, book.room⟩

theorem registry_within_slots_filled :
    ∃ c, Reachable (registryMachine .l2) currentIdsDiscipline (RegistryWorld.deployment 1) c ∧
      (c.state.store.mapServices 1).numAgentInstances = 2 ∧ WithinSlots c.state.store 1 := by
  obtain ⟨c, run, seen⟩ := Machine.play_observed currentIdsDiscipline (registryMachine .l2)
    (RegistryWorld.deployment 1) (twoSlotsScript ++ fillScript)
    (fun c => (c.state.store.totalSupply, (c.state.store.mapServices 1).numAgentInstances))
    (1, 2) (by decide +kernel)
  obtain ⟨supply, count⟩ := Prod.mk.inj seen
  exact ⟨c, run, count, registry_within_slots .l2 1 run (le_of_eq supply.symm)⟩

/-- `update` drops Id 1 and leaves its two slots recorded; two instances register
against it although the service has a single slot. -/
theorem registry_exceeds_slots :
    ¬ ∀ c, Reachable (registryMachine .l2) .free (RegistryWorld.deployment 1) c →
      ∀ serviceId, 0 < serviceId → serviceId ≤ c.state.store.totalSupply →
        WithinSlots c.state.store serviceId := by
  intro claim
  obtain ⟨c, run, seen⟩ := Machine.play_observed .free (registryMachine .l2)
    (RegistryWorld.deployment 1)
    (twoSlotsScript ++ .call (.update registryManager 3 9 1 [2] [⟨1, 1⟩] 1 1) :: fillScript)
    (fun c => (c.state.store.totalSupply, decide (WithinSlots c.state.store 1)))
    (1, false) (by decide +kernel)
  obtain ⟨supply, exceeded⟩ := Prod.mk.inj seen
  exact of_decide_eq_false exceeded (claim c run 1 Nat.one_pos (le_of_eq supply.symm))

end AutonolasRegistries.Guarantees
