import AutonolasRegistries.Library.Roster
import AutonolasRegistries.Guarantees.OperatorLedger
import AutonolasRegistries.Guarantees.SlotLimits

/-!
# The owners handed to the multisig

`deploy` gives the multisig implementation the array built by `_getAgentInstances`.
It is a permutation of the instances the operators of the service hold, without
duplicates and without the zero address, as long as operators register only
against the Ids the service lists and never the zero address.
`ServiceRegistryL2.sol:778-792`.

Neither is checked by `registerAgents`. An instance registered against an Id that
`update` dropped is counted but never read back, and the array keeps a zero address
in its place.
-/
namespace AutonolasRegistries.Guarantees
open Library Source Model

section Array

/-- Writing a list into the free part of the array. -/
theorem fill_loop (items filled : List Address) (free : Nat) :
    loop ServiceRegistry.fillBody items
        (filled ++ List.replicate (items.length + free) 0, filled.length) =
      .ok (filled ++ items ++ List.replicate free 0, (filled ++ items).length) := by
  induction items generalizing filled with
  | nil => simp
  | cons item rest ih =>
    have shape : (item :: rest).length + free = rest.length + free + 1 := by
      rw [List.length_cons]
      omega
    have written : (filled ++ List.replicate (rest.length + free + 1) (0 : Address)).set
        filled.length item =
        (filled ++ [item]) ++ List.replicate (rest.length + free) 0 := by
      rw [List.replicate_succ, List.set_append_right _ _ (le_refl _), Nat.sub_self]
      simp
    have first : ServiceRegistry.fillBody item
        (filled ++ List.replicate (rest.length + free + 1) 0, filled.length) =
        .ok ((filled ++ [item]) ++ List.replicate (rest.length + free) 0,
          (filled ++ [item]).length) := by
      refine revertIf_bind_eq_ok.mpr ⟨?_, ?_⟩
      · simp only [List.length_append, List.length_replicate]
        omega
      · rw [written, List.length_append, List.length_singleton]
        rfl
    have next := ih (filled ++ [item])
    rw [List.append_assoc filled [item] rest, List.singleton_append] at next
    rw [shape]
    exact loop_cons_eq_ok.mpr ⟨_, first, next⟩

/-- Writing all groups, one after the other. -/
theorem fill_groups (groups : Uint32 → List Address) (ids : List Uint32)
    (filled : List Address) (free : Nat) :
    loop (fun x acc => loop ServiceRegistry.fillBody (groups x) acc) ids
        (filled ++ List.replicate ((ids.flatMap groups).length + free) 0, filled.length) =
      .ok (filled ++ ids.flatMap groups ++ List.replicate free 0,
        (filled ++ ids.flatMap groups).length) := by
  induction ids generalizing filled with
  | nil => simp
  | cons x rest ih =>
    have size : ((x :: rest).flatMap groups).length + free =
        (groups x).length + ((rest.flatMap groups).length + free) := by
      rw [List.flatMap_cons, List.length_append]
      omega
    have next := ih (filled ++ groups x)
    rw [List.append_assoc filled (groups x) (rest.flatMap groups), ← List.flatMap_cons] at next
    rw [size]
    exact loop_cons_eq_ok.mpr ⟨_, fill_loop (groups x) filled _, next⟩

/-- When the counter agrees with the lists, the array is the lists in order. -/
theorem getAgentInstances_eq {s : RegistryState} {serviceId : Nat}
    (counted : (s.mapServices serviceId).numAgentInstances =
      ((s.mapServices serviceId).agentIds.flatMap (sheet s serviceId).lists).length) :
    ServiceRegistry.getAgentInstances (s.mapServices serviceId) serviceId s =
      .ok ((s.mapServices serviceId).agentIds.flatMap (sheet s serviceId).lists) := by
  have filled := fill_groups (sheet s serviceId).lists (s.mapServices serviceId).agentIds [] 0
  simp only [List.nil_append, List.length_nil, Nat.add_zero, List.replicate_zero,
    List.append_nil, ← counted] at filled
  simp only [ServiceRegistry.getAgentInstances]
  refine bind_eq_ok.mpr ⟨_, filled, rfl⟩

end Array

/-- The two indexes of a service's registrations hold the same accounts. -/
def Paired (t : ServiceSheet) : Prop :=
  t.service.state.holdsDeposit = true →
    (↑(t.service.agentIds.flatMap t.lists) : Multiset Address) =
      total fun a => (↑((t.operators a).map AgentInstance.inst) : Multiset Address)

structure OwnersBook (t : ServiceSheet) : Prop where
  slots : SlotBook t
  operators : OperatorBook t
  paired : Paired t

theorem Paired.activate {t t' : ServiceSheet} (slots : SlotBook t) (operators : OperatorBook t)
    (step : t.Step t' .activate) : Paired t' := by
  cases step with
  | activate state after =>
    subst after
    intro _
    have empty : t.service.agentIds.flatMap t.lists = [] := by
      rw [List.flatMap_eq_nil_iff]
      exact fun x _ => slots.closed (by rw [state]; rfl) x
    have none : (fun a => (↑((t.operators a).map AgentInstance.inst) : Multiset Address)) =
        fun _ => 0 := by
      funext a
      rw [(operators.vacant (Or.inr state) a).1]
      rfl
    simp only [empty, none, total_zero]
    rfl

theorem Paired.register {t t' : ServiceSheet} {operator : Address}
    {entries : List (Address × Uint32)} (slots : SlotBook t) (before : Paired t)
    (listed : ∀ e ∈ entries, e.2 ∈ t.service.agentIds)
    (step : t.Step t' (.register operator entries)) : Paired t' := by
  cases step with
  | register state service _ _ lists _ operators _ =>
    intro _
    have held := before (by rw [state]; rfl)
    have ids : t'.service.agentIds = t.service.agentIds := by rw [service]
    have grouped := groups_append_perm Prod.snd slots.unique listed Prod.fst t.lists
    have added : (instancesOf entries).map AgentInstance.inst = entries.map Prod.fst := by
      rw [instancesOf, List.map_map]
      rfl
    have moved := total_map_update_add
      (fun l : List AgentInstance => (↑(l.map AgentInstance.inst) : Multiset Address))
      t.operators operator (t.operators operator ++ instancesOf entries)
    rw [List.map_append, ← Multiset.coe_add, added, ← held, ← add_assoc, add_right_comm] at moved
    rw [ids, funext lists, operators, Multiset.coe_eq_coe.mpr grouped, ← Multiset.coe_add]
    exact (add_right_cancel moved).symm

theorem OwnersBook.step {t t' : ServiceSheet} {action : ServiceAction} (before : OwnersBook t)
    (listed : Listed action t) (step : t.Step t' action) : OwnersBook t' := by
  refine ⟨before.slots.step listed step, before.operators.step step, ?_⟩
  cases action with
  | activate => exact Paired.activate before.slots before.operators step
  | register operator entries => exact Paired.register before.slots before.paired listed step
  | configure entries =>
    cases step with
    | configure _ _ _ _ state =>
      intro held
      rw [state] at held
      cases held
  | deploy =>
    cases step with
    | deploy multisig state after =>
      subst after
      exact fun _ => before.paired (by rw [state]; rfl)
  | slash =>
    cases step with
    | slash state below after =>
      subst after
      exact before.paired
  | terminate =>
    cases step with
    | terminate state after =>
      subst after
      intro held
      simp only at held
      split at held <;> cases held
  | unbond operator =>
    cases step with
    | unbond state bonded enough after =>
      subst after
      intro held
      simp only [state] at held
      split at held <;> cases held

def instancesAt (s : RegistryState) (key : Word) : List Address :=
  (s.mapOperatorAndServiceIdAgentInstances key).map AgentInstance.inst

/-- An account is an instance of at most one operator in at most one service, once, and is
engaged exactly as long as it is; the zero address is none. -/
def Engaged (s : RegistryState) : Prop :=
  Roster keyOperator (instancesAt s) s.mapAgentInstanceOperators ∧ ∀ key, 0 ∉ instancesAt s key

/-- The manager passes no zero operator. -/
def RealOperator : RegistryCall → Prop
  | .registerAgents _ _ operator _ _ _ => operator ≠ 0
  | _ => True

/-- The zero address is not registered as an instance. -/
def RealInstances : RegistryCall → Prop
  | .registerAgents _ _ _ _ agentInstances _ => 0 ∉ agentInstances
  | _ => True

theorem instancesAt_update (s s' : RegistryState) {key : Word} {instances : List AgentInstance}
    (after : s'.mapOperatorAndServiceIdAgentInstances =
      Function.update s.mapOperatorAndServiceIdAgentInstances key instances) :
    instancesAt s' = Function.update (instancesAt s) key (instances.map AgentInstance.inst) := by
  funext k
  rw [instancesAt, after]
  by_cases same : k = key
  · subst same
    rw [Function.update_self, Function.update_self]
  · rw [Function.update_of_ne same, Function.update_of_ne same]
    rfl

theorem Engaged.register {sender operator : Address} {value serviceId : Nat}
    {agentInstances : List Address} {agentIds : List Uint32} {s s' : RegistryState}
    (before : Engaged s) (someone : operator ≠ 0) (real : 0 ∉ agentInstances)
    (ran : ServiceRegistry.registerAgents sender value operator serviceId agentInstances
      agentIds s = .ok s') : Engaged s' := by
  obtain ⟨mid, run, rfl⟩ := ServiceRegistry.registerAgents_done ran
  obtain ⟨fresh, free, read⟩ := ServiceRegistry.registerLoop_engaged someone run
  have someone : keyOperator (operatorService operator serviceId) ≠ 0 := by
    rwa [keyOperator_operatorService]
  have joined := before.1.join (operatorService operator serviceId) someone fresh free
  simp only [keyOperator_operatorService, ← read] at joined
  unfold Engaged
  rw [instancesAt_update s _ rfl, List.map_append, List.map_map]
  refine ⟨joined, fun key zero => ?_⟩
  rw [Function.update_apply] at zero
  split at zero
  · rcases List.mem_append.mp zero with old | new
    · exact before.2 _ old
    · obtain ⟨e, listed, same⟩ := List.mem_map.mp new
      have same : e.1 = 0 := same
      exact real (same ▸ (List.of_mem_zip listed).1)
  · exact before.2 key zero

theorem Engaged.unbond {sender operator : Address} {serviceId refund : Nat}
    {s s' : RegistryState} (before : Engaged s)
    (ran : ServiceRegistry.unbond sender operator serviceId s = .ok (s', refund)) :
    Engaged s' := by
  obtain ⟨instances, rfl, -, -, rfl⟩ := ServiceRegistry.unbond_ok ran
  have left := before.1.leave (operatorService operator serviceId)
  have read := fun a => ServiceRegistry.freeInstances_read
    (s.mapOperatorAndServiceIdAgentInstances (operatorService operator serviceId))
    s.mapAgentInstanceOperators a
  unfold Engaged
  rw [instancesAt_update s _ rfl, List.map_nil]
  simp only [funext read]
  refine ⟨left, fun key zero => ?_⟩
  rw [Function.update_apply] at zero
  split at zero
  · cases zero
  · exact before.2 key zero

theorem Engaged.enter {edition : Edition} {w : RegistryWorld} {call : RegistryCall}
    {out : Outcome RegistryWorld RegistryFrame} (before : Engaged w.store)
    (someone : RealOperator call) (real : RealInstances call)
    (taken : RegistryTransition edition w call out) : Engaged out.state.store := by
  cases taken with
  | create ran =>
    obtain ⟨-, rfl, rfl⟩ := ServiceRegistry.create_ok ran
    exact before
  | update ran =>
    obtain ⟨-, -, -, -, rfl⟩ := ServiceRegistry.update_ok ran
    exact before
  | activateRegistration ran =>
    obtain ⟨-, rfl⟩ := ServiceRegistry.activateRegistration_ok ran
    exact before
  | registerAgents ran => exact before.register someone real ran
  | deploy ran =>
    obtain ⟨-, -, rfl⟩ := ServiceRegistry.deploy_ok ran
    exact before
  | slash ran =>
    obtain ⟨-, -, rfl, -⟩ := ServiceRegistry.slashLoop_frame (ServiceRegistry.slash_ok ran).2
    exact before
  | terminate ran =>
    obtain ⟨-, -, -, -, rfl⟩ := ServiceRegistry.terminate_ok ran
    exact before
  | unbond ran =>
    have after := before.unbond ran
    rw [RegistryWorld.refunding_store]
    split <;> exact after
  | drain ran =>
    obtain ⟨-, -, rfl⟩ := ServiceRegistry.drain_ok ran
    rw [RegistryWorld.refunding_store]
    split <;> exact before
  | administer => exact before

theorem Engaged.resume {edition : Edition} {w : RegistryWorld} {frame : RegistryFrame}
    {answer : RegistryAnswer} {out : Outcome RegistryWorld RegistryFrame}
    (before : Engaged w.store) (ran : w.resume edition frame answer = .ok out) :
    Engaged out.state.store := by
  cases RegistryWorld.resume_return ran <;> exact before

/-- The runs the owner list is promised for: fewer than `2 ^ 32` services and a
manager that passes no zero operator. -/
def managedDiscipline : Discipline RegistryWorld RegistryCall RegistryFrame RegistryAnswer where
  call call w := Bounded call w ∧ RealOperator call
  answer _ _ _ := True

/-- In addition every registration names only Ids the service lists and no zero
instance. -/
def ownersDiscipline : Discipline RegistryWorld RegistryCall RegistryFrame RegistryAnswer where
  call call w := managedDiscipline.call call w ∧ CurrentIds call w ∧ RealInstances call
  answer _ _ _ := True

section Decidable
variable (call : RegistryCall) (w : RegistryWorld) (frame : RegistryFrame)
  (answer : RegistryAnswer)

instance : Decidable (RealOperator call) :=
  match call with
  | .registerAgents _ _ operator _ _ _ => inferInstanceAs (Decidable (operator ≠ 0))
  | .create .. | .update .. | .activateRegistration .. | .deploy .. | .slash ..
  | .terminate .. | .unbond .. | .drain .. | .changeOwner .. | .changeManager ..
  | .changeDrainer .. | .changeMultisigPermission .. | .approve .. | .setApprovalForAll ..
  | .transferFrom .. => .isTrue trivial

instance : Decidable (RealInstances call) :=
  match call with
  | .registerAgents _ _ _ _ agentInstances _ =>
    inferInstanceAs (Decidable (0 ∉ agentInstances))
  | .create .. | .update .. | .activateRegistration .. | .deploy .. | .slash ..
  | .terminate .. | .unbond .. | .drain .. | .changeOwner .. | .changeManager ..
  | .changeDrainer .. | .changeMultisigPermission .. | .approve .. | .setApprovalForAll ..
  | .transferFrom .. => .isTrue trivial

instance : Decidable (managedDiscipline.call call w) :=
  inferInstanceAs (Decidable (Bounded call w ∧ RealOperator call))

instance : Decidable (managedDiscipline.answer frame answer w) := .isTrue trivial

instance : Decidable (ownersDiscipline.call call w) :=
  inferInstanceAs (Decidable
    (managedDiscipline.call call w ∧ CurrentIds call w ∧ RealInstances call))

instance : Decidable (ownersDiscipline.answer frame answer w) := .isTrue trivial

end Decidable

/-- The owner list is the instances of the operators, up to order. -/
structure OwnersAreBonded (s : RegistryState) (serviceId : Nat) (owners : List Address) :
    Prop where
  length : owners.length = (s.mapServices serviceId).numAgentInstances
  permutation : (↑owners : Multiset Address) = ∑ᶠ operator,
    (↑((s.mapOperatorAndServiceIdAgentInstances (operatorService operator serviceId)).map
      AgentInstance.inst) : Multiset Address)
  nonzero : 0 ∉ owners
  unique : owners.Nodup
  engaged : ∀ a ∈ owners, s.mapAgentInstanceOperators a ≠ 0

theorem ownersAreBonded {s : RegistryState} {serviceId : Nat} (small : serviceId < 2 ^ 32)
    (book : OwnersBook (sheet s serviceId)) (engaged : Engaged s)
    (held : (s.mapServices serviceId).state.holdsDeposit = true) :
    OwnersAreBonded s serviceId
      ((s.mapServices serviceId).agentIds.flatMap (sheet s serviceId).lists) := by
  have paired := book.paired held
  have member : ∀ a ∈ (s.mapServices serviceId).agentIds.flatMap (sheet s serviceId).lists,
      ∃ operator, a ∈ instancesAt s (operatorService operator serviceId) := by
    intro a h
    exact mem_total.mp (paired ▸ Multiset.mem_coe.mpr h)
  refine ⟨(book.slots.counted held).symm, paired, ?_, ?_, ?_⟩
  · intro zero
    obtain ⟨operator, h⟩ := member 0 zero
    exact engaged.2 _ h
  · refine Multiset.coe_nodup.mp (paired ▸ nodup_total ?_ ?_)
    · exact fun operator =>
        Multiset.coe_nodup.mpr (engaged.1.unique (operatorService operator serviceId))
    · intro operator operator' a h h'
      have same := engaged.1.apart _ _ a (Multiset.mem_coe.mp h) (Multiset.mem_coe.mp h')
      exact (operatorService_injective (widen small) (widen small) same).1
  · intro a h
    obtain ⟨operator, h⟩ := member a h
    exact engaged.1.hired _ a h

theorem ownersBook_preserved {edition : Edition}
    {D : Discipline RegistryWorld RegistryCall RegistryFrame RegistryAnswer}
    (bounded : ∀ call w, D.call call w → Bounded call w)
    (current : ∀ call w, D.call call w → CurrentIds call w) :
    Preserved (registryMachine edition) D RegistryBase
      fun w _ => ∀ serviceId < 2 ^ 32, OwnersBook (sheet w.store serviceId) :=
  listed_preserved bounded current fun _ _ _ before listed step => before.step listed step

theorem engaged_preserved (edition : Edition) :
    Preserved (registryMachine edition) ownersDiscipline RegistryBase
      fun w _ => Engaged w.store := by
  intro w frames w' frames' taken base before
  cases taken with
  | entered call allowed ran =>
    have kind := RegistryWorld.enter_transition base.1.registered.guarded ran
    exact before.enter allowed.1.2 allowed.2.2 kind
  | resumed answer allowed ran => exact before.resume ran

theorem ownersBook_deployment (deployer : Address) (serviceId : Nat) :
    OwnersBook (sheet (RegistryWorld.deployment deployer).store serviceId) := by
  refine ⟨SlotBook.blank _ serviceId rfl fun _ => rfl,
    operatorBook_deployment deployer serviceId, ?_⟩
  intro held
  cases held

theorem engaged_deployment (deployer : Address) :
    Engaged (RegistryWorld.deployment deployer).store := by
  refine ⟨Roster.empty, fun key zero => ?_⟩
  cases zero

/-- In every run in which registrations name only listed Ids and no zero address,
the owners `deploy` hands over are exactly the bonded instances. -/
theorem multisig_owners_bonded (edition : Edition) (deployer : Address)
    {c : Config RegistryWorld RegistryFrame}
    (run : Reachable (registryMachine edition) ownersDiscipline
      (RegistryWorld.deployment deployer) c) {serviceId : Nat}
    (state : (c.state.store.mapServices serviceId).state = .finishedRegistration ∨
      (c.state.store.mapServices serviceId).state = .deployed) :
    ∃ owners, ServiceRegistry.getAgentInstances (c.state.store.mapServices serviceId) serviceId
        c.state.store = .ok owners ∧ OwnersAreBonded c.state.store serviceId owners := by
  have base : Preserved (registryMachine edition) ownersDiscipline always RegistryBase :=
    registryBase_preserved fun _ _ allowed => allowed.1.1
  have start := registryBase_deployment deployer
  obtain ⟨⟨⟨registered, -⟩, supply⟩, books⟩ :=
    run.invariant (base.join (ownersBook_preserved (fun _ _ allowed => allowed.1.1)
      fun _ _ allowed => allowed.2.1))
      ⟨start, fun serviceId _ => ownersBook_deployment deployer serviceId⟩
  obtain ⟨-, engaged⟩ := run.invariant (base.join (engaged_preserved edition))
    ⟨start, engaged_deployment deployer⟩
  have held : (c.state.store.mapServices serviceId).state.holdsDeposit = true := by
    rcases state with state | state <;> rw [state] <;> rfl
  have alive : (c.state.store.mapServices serviceId).state ≠ .nonExistent := by
    rcases state with state | state <;> rw [state] <;> decide
  have small := lt_of_le_of_lt (registered.of_state alive).2 supply
  have book := books serviceId small
  exact ⟨_, getAgentInstances_eq (book.slots.counted held),
    ownersAreBonded small book engaged held⟩

theorem multisig_owners_bonded_filled :
    ∃ c, Reachable (registryMachine .l2) ownersDiscipline (RegistryWorld.deployment 1) c ∧
      (c.state.store.mapServices 1).state = .finishedRegistration ∧
      ∃ owners, ServiceRegistry.getAgentInstances (c.state.store.mapServices 1) 1
        c.state.store = .ok owners ∧ OwnersAreBonded c.state.store 1 owners := by
  obtain ⟨c, run, state⟩ := Machine.play_observed ownersDiscipline (registryMachine .l2)
    (RegistryWorld.deployment 1) (twoSlotsScript ++ fillScript)
    (fun c => (c.state.store.mapServices 1).state) .finishedRegistration (by decide +kernel)
  exact ⟨c, run, state, multisig_owners_bonded .l2 1 run (Or.inl state)⟩

/-- The service drops Id 1 for Id 2, and the only instance registers against Id 1:
the service is complete, and its owner list is the zero address. -/
theorem multisig_owners_zero :
    ¬ ∀ c, Reachable (registryMachine .l2) managedDiscipline (RegistryWorld.deployment 1) c →
      ∀ serviceId, (c.state.store.mapServices serviceId).state = .finishedRegistration ∨
          (c.state.store.mapServices serviceId).state = .deployed →
        ∃ owners, ServiceRegistry.getAgentInstances (c.state.store.mapServices serviceId)
          serviceId c.state.store = .ok owners ∧
          OwnersAreBonded c.state.store serviceId owners := by
  intro claim
  obtain ⟨c, run, seen⟩ := Machine.play_observed managedDiscipline (registryMachine .l2)
    (RegistryWorld.deployment 1)
    [.call (.changeManager registryOwner 2),
      .call (.create registryManager 3 9 1 [1] [⟨1, 1⟩] 1),
      .answer ⟨0, [], true⟩,
      .call (.update registryManager 3 9 1 [2] [⟨1, 1⟩] 1 1),
      .call (.activateRegistration registryManager 1 3 1),
      .call (.registerAgents registryManager 1 4 1 [5] [1])]
    (fun c => ((c.state.store.mapServices 1).state,
      (ServiceRegistry.getAgentInstances (c.state.store.mapServices 1) 1
        c.state.store).toOption))
    (.finishedRegistration, some [0]) (by decide +kernel)
  obtain ⟨state, array⟩ := Prod.mk.inj seen
  obtain ⟨owners, returned, bonded⟩ := claim c run 1 (Or.inl state)
  rw [returned] at array
  obtain rfl : owners = [0] := Option.some.inj array
  exact bonded.nonzero List.mem_cons_self

end AutonolasRegistries.Guarantees
