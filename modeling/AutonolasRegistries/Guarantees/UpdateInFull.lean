import AutonolasRegistries.Guarantees.ServiceLifecycle

/-!
# Updating a service in full

`registerAgents` accepts every Id that has slots recorded, listed or not. The
recommendation of `docs/Vulnerabilities_list_registries.md:161-164` is to pass every Id
that is taken out of a service with no slots. A run that follows it has slots recorded
for exactly the listed Ids, so the registrations cannot miss them, and the four maps of
a service stay in agreement through any number of cycles.
-/
namespace AutonolasRegistries.Guarantees
open Library Source Model

/-- Slots are recorded for the listed Ids and no others. -/
def ExactIds (t : ServiceSheet) : Prop :=
  ∀ x, (t.params x).slots ≠ 0 ↔ x ∈ t.service.agentIds

/-- A reconfiguration that passes every Id the service has. -/
def Covers (entries : List (Uint32 × AgentParams)) (t : ServiceSheet) : Prop :=
  ∀ x ∈ t.service.agentIds, x ∈ entries.map Prod.fst

theorem ExactIds.same {t t' : ServiceSheet} (before : ExactIds t)
    (kept : SameConfiguration t t') : ExactIds t' := by
  obtain ⟨params, _, _, _, service⟩ := kept
  intro x
  rw [params, service]
  exact before x

theorem ExactIds.configure {t t' : ServiceSheet} {entries : List (Uint32 × AgentParams)}
    (before : ExactIds t) (covers : Covers entries t) (step : Configures t t' entries) :
    ExactIds t' := by
  intro x
  rw [step.ids]
  by_cases passed : x ∈ entries.map Prod.fst
  · obtain ⟨e, member, rfl⟩ := List.mem_map.mp passed
    by_cases zero : e.2.slots = 0
    · rw [step.dropped e member zero]
      refine ⟨fun some => absurd rfl some, fun listed => ?_⟩
      exact absurd listed (kept_ids_of_dropped step.sorted member zero)
    · have kept := mem_keptEntries.mpr ⟨member, zero⟩
      rw [step.written e kept]
      exact ⟨fun _ => List.mem_map.mpr ⟨e, kept, rfl⟩, fun _ => zero⟩
  · -- An Id that was not passed was not listed, so it had no slots and keeps none.
    rw [step.rest x passed, before x]
    refine ⟨fun listed => absurd (covers x listed) passed, fun listed => ?_⟩
    obtain ⟨e, kept, rfl⟩ := List.mem_map.mp listed
    exact absurd (List.mem_map.mpr ⟨e, (mem_keptEntries.mp kept).1, rfl⟩) passed

/-- `update` passes at least the Ids the service has at that moment. -/
def ListsAll : RegistryCall → RegistryWorld → Prop
  | .update _ _ _ _ agentIds _ _ serviceId, w =>
    ∀ x ∈ (w.store.mapServices serviceId).agentIds, x ∈ agentIds
  | _, _ => True

instance (call : RegistryCall) (w : RegistryWorld) : Decidable (ListsAll call w) :=
  match call with
  | .update _ _ _ _ agentIds _ _ serviceId =>
    List.decidableBAll (fun x => x ∈ agentIds) (w.store.mapServices serviceId).agentIds
  | .create .. | .activateRegistration .. | .registerAgents .. | .deploy .. | .slash ..
  | .terminate .. | .unbond .. | .drain .. | .changeOwner .. | .changeManager ..
  | .changeDrainer .. | .changeMultisigPermission .. | .approve .. | .setApprovalForAll ..
  | .transferFrom .. => .isTrue trivial

def inFullDiscipline : Discipline RegistryWorld RegistryCall RegistryFrame RegistryAnswer where
  call call w := managedDiscipline.call call w ∧ ListsAll call w
  answer _ _ _ := True

instance (call : RegistryCall) (w : RegistryWorld) : Decidable (inFullDiscipline.call call w) :=
  inferInstanceAs (Decidable (managedDiscipline.call call w ∧ ListsAll call w))

instance (frame : RegistryFrame) (answer : RegistryAnswer) (w : RegistryWorld) :
    Decidable (inFullDiscipline.answer frame answer w) := .isTrue trivial

/-- Every service beyond the supply has no Ids, so `create` covers it. -/
theorem covers_fresh {w : RegistryWorld} (registered : Registered w.store)
    (entries : List (Uint32 × AgentParams)) :
    Covers entries (sheet w.store (w.store.totalSupply + 1)) := by
  have fresh := (registered.unlisted _ (Or.inr (Nat.lt_succ_self w.store.totalSupply))).1
  intro x member
  simp only [sheet, fresh] at member
  cases member

theorem exactIds_preserved (edition : Edition) :
    Preserved (registryMachine edition) inFullDiscipline RegistryBase
      fun w _ => ∀ serviceId < 2 ^ 32, ExactIds (sheet w.store serviceId) := by
  refine configuration_preserved Covers (fun _ _ allowed => allowed.1.1) ?_
    (fun _ _ _ kept before => before.same kept) fun _ _ _ covers step before =>
      before.configure covers step
  intro call w out target entries registered allowed taken label
  cases taken with
  | create ran =>
    cases label
    exact covers_fresh registered _
  | update ran =>
    cases label
    obtain ⟨-, -, ⟨-, -, -, -, lengths, -⟩, -⟩ := ServiceRegistry.update_ok ran
    intro x member
    rw [List.map_fst_zip (le_of_eq lengths)]
    exact allowed.2 x member
  | @administer call _ _ _ _ _ kind _ _ => cases call <;> cases kind <;> cases label
  | activateRegistration | registerAgents | deploy | slash | terminate | unbond | drain =>
    cases label

/-- A registration that went through named only Ids with slots. -/
theorem listed_of_exact {edition : Edition} {call : RegistryCall} {w : RegistryWorld}
    {out : Outcome RegistryWorld RegistryFrame} {target : Nat} {action : ServiceAction}
    (taken : RegistryTransition edition w call out)
    (label : callAction w.store call = some (target, action))
    (exact : target < 2 ^ 32 → ExactIds (sheet w.store target)) (small : target < 2 ^ 32) :
    Listed action (sheet w.store target) := by
  cases taken with
  | registerAgents ran =>
    cases label
    obtain ⟨-, ⟨-, -, -, slots, -⟩, -⟩ := ServiceRegistry.registerAgents_ok ran
    intro e member
    exact (exact small e.2).mp (slots e.2 (List.of_mem_zip member).2)
  | @administer call _ _ _ _ _ kind _ _ => cases call <;> cases kind <;> cases label
  | create | update | activateRegistration | deploy | slash | terminate | unbond | drain =>
    cases label <;> exact trivial

theorem ownersBook_in_full (edition : Edition) :
    Preserved (registryMachine edition) inFullDiscipline
      (fun w frames => RegistryBase w frames ∧
        ∀ serviceId < 2 ^ 32, ExactIds (sheet w.store serviceId))
      fun w _ => ∀ serviceId < 2 ^ 32, OwnersBook (sheet w.store serviceId) := by
  refine sheets_preserved_given Listed (fun _ _ known => known.1) (fun _ _ known => known.2)
    (fun _ _ allowed => allowed.1.1) ?_ (fun _ => trivial)
    fun t t' action _ before listed step => before.step listed step
  intro call w out frames target action known allowed taken label
  have after := enter_supply taken allowed.1.1 known.1.2
  have moved := enter_moves known.1.1 known.1.2 after taken
  rw [label] at moved
  exact listed_of_exact taken label (known.2 target) moved.1

/-- What an update in full keeps in agreement. -/
structure InAgreement (s : RegistryState) (serviceId : Nat) : Prop where
  exact : ∀ x, 0 < (s.mapServiceAndAgentIdAgentParams (serviceAgent serviceId x)).slots.val ↔
    x ∈ (s.mapServices serviceId).agentIds
  outside : ∀ x, x ∉ (s.mapServices serviceId).agentIds →
    s.mapServiceAndAgentIdAgentInstances (serviceAgent serviceId x) = []
  closed : (s.mapServices serviceId).state = .preRegistration ∨
      (s.mapServices serviceId).state = .terminatedBonded →
    ∀ x, s.mapServiceAndAgentIdAgentInstances (serviceAgent serviceId x) = []
  counted : (s.mapServices serviceId).state.holdsDeposit = true →
    (s.mapServices serviceId).numAgentInstances =
      ((s.mapServices serviceId).agentIds.map fun x =>
        (s.mapServiceAndAgentIdAgentInstances (serviceAgent serviceId x)).length).sum
  room : (s.mapServices serviceId).state.holdsDeposit = true →
    ∀ x ∈ (s.mapServices serviceId).agentIds,
      (s.mapServiceAndAgentIdAgentInstances (serviceAgent serviceId x)).length ≤
        (s.mapServiceAndAgentIdAgentParams (serviceAgent serviceId x)).slots.val
  full : (s.mapServices serviceId).state = .finishedRegistration ∨
      (s.mapServices serviceId).state = .deployed →
    (∀ x ∈ (s.mapServices serviceId).agentIds,
      (s.mapServiceAndAgentIdAgentInstances (serviceAgent serviceId x)).length =
        (s.mapServiceAndAgentIdAgentParams (serviceAgent serviceId x)).slots.val) ∧
    ∃ agentInstances,
      ServiceRegistry.getAgentInstances (s.mapServices serviceId) serviceId s =
        .ok agentInstances ∧
      agentInstances.Nodup ∧
      agentInstances = (s.mapServices serviceId).agentIds.flatMap (fun x =>
        s.mapServiceAndAgentIdAgentInstances (serviceAgent serviceId x)) ∧
      (↑agentInstances : Multiset Address) = ∑ᶠ operator,
        (↑(instancesIn s operator serviceId) : Multiset Address)

/-- Accounts on the lists of a service stand there once. -/
theorem agentInstances_nodup {s : RegistryState} {serviceId : Nat} (small : serviceId < 2 ^ 32)
    (paired : Paired (sheet s serviceId)) (roster : Enrolled s)
    (held : (s.mapServices serviceId).state.holdsDeposit = true) :
    ((s.mapServices serviceId).agentIds.flatMap (sheet s serviceId).lists).Nodup := by
  refine Multiset.coe_nodup.mp ((paired held).symm ▸ nodup_total ?_ ?_)
  · exact fun operator =>
      Multiset.coe_nodup.mpr (roster.unique (operator, ⟨serviceId, small⟩))
  · intro operator operator' a h h'
    have same := roster.apart (operator, ⟨serviceId, small⟩) (operator', ⟨serviceId, small⟩) a
      (Multiset.mem_coe.mp h) (Multiset.mem_coe.mp h')
    exact (Prod.mk.inj same).1

theorem inAgreement {w : RegistryWorld} {frames : List RegistryFrame}
    (books : RegistryBooks w frames) (roster : Enrolled w.store) {serviceId : Nat}
    (small : serviceId < 2 ^ 32) (exact : ExactIds (sheet w.store serviceId))
    (owners : OwnersBook (sheet w.store serviceId)) : InAgreement w.store serviceId := by
  have sums : ((w.store.mapServices serviceId).agentIds.flatMap
      (sheet w.store serviceId).lists).length = ((w.store.mapServices serviceId).agentIds.map
        fun x => ((sheet w.store serviceId).lists x).length).sum := by
    rw [List.length_flatMap]
  refine ⟨fun x => ?_, owners.slots.outside, ?_, ?_, fun _ => owners.slots.room, ?_⟩
  · rw [Nat.pos_iff_ne_zero, ne_eq, Fin.val_eq_zero_iff]
    exact exact x
  · intro closed
    refine owners.slots.closed ?_
    rcases closed with state | state <;> simp [sheet, state, ServiceState.holdsDeposit]
  · exact fun held => (owners.slots.counted held).trans sums
  · intro full
    have held : (w.store.mapServices serviceId).state.holdsDeposit = true := by
      rcases full with state | state <;> rw [state] <;> rfl
    have counted := owners.slots.counted held
    refine ⟨?_, _, getAgentInstances_eq counted,
      agentInstances_nodup small owners.paired roster held, rfl, owners.paired held⟩
    refine eq_of_sum_eq owners.slots.room ?_
    have capacity := owners.slots.capacity
    have life := (books.lives serviceId small).full full
    rw [slotsOf] at capacity
    exact sums.symm.trans (counted.symm.trans (life.trans capacity))

/-- In every run in which `update` passes at least the Ids a service has, the Ids, the
slots, the lists and the counters of every service stay in agreement. -/
theorem update_in_full_suffices (edition : Edition) (deployer : Address)
    {c : Config RegistryWorld RegistryFrame}
    (run : Reachable (registryMachine edition) inFullDiscipline
      (RegistryWorld.deployment deployer) c)
    {serviceId : Nat} (created : serviceId ≤ c.state.store.totalSupply) :
    InAgreement c.state.store serviceId := by
  have bounded : ∀ call w, inFullDiscipline.call call w → Bounded call w :=
    fun _ _ allowed => allowed.1.1
  have base : Preserved (registryMachine edition) inFullDiscipline always RegistryBase :=
    registryBase_preserved bounded
  have kept : Preserved (registryMachine edition) inFullDiscipline always RegistryBooks :=
    registryBooks_preserved bounded
  have start := registryBase_deployment deployer
  have books := run.invariant kept (registryBooks_deployment deployer)
  have roster := (run.invariant (base.join (enrolled_preserved fun _ _ allowed => allowed.1.2))
    ⟨start, enrolled_deployment deployer⟩).2
  have ids := base.join (exactIds_preserved edition)
  have blank : ∀ serviceId, ExactIds (sheet (RegistryWorld.deployment deployer).store serviceId) := by
    intro serviceId x
    exact ⟨fun some => absurd rfl some, fun listed => by cases listed⟩
  obtain ⟨⟨-, exact⟩, owners⟩ := run.invariant (ids.join (ownersBook_in_full edition))
    ⟨⟨start, fun serviceId _ => blank serviceId⟩,
      fun serviceId _ => ownersBook_deployment deployer serviceId⟩
  have small := lt_of_le_of_lt created books.base.2
  exact inAgreement books roster small (exact serviceId small) (owners serviceId small)

/-- Id 1 is replaced by Id 2 as recommended; both instances register for Id 2. -/
theorem update_in_full_suffices_replaced :
    ∃ c, Reachable (registryMachine .l2) inFullDiscipline (RegistryWorld.deployment 1) c ∧
      (c.state.store.mapServices 1).state = .finishedRegistration ∧
      (c.state.store.mapServices 1).agentIds = [2] ∧ InAgreement c.state.store 1 := by
  obtain ⟨c, run, seen⟩ := Machine.play_observed inFullDiscipline (registryMachine .l2)
    (RegistryWorld.deployment 1)
    (twoSlotsScript ++
      [.call (.update registryManager 3 9 1 [1, 2] [⟨0, 0⟩, ⟨2, 1⟩] 2 1),
        .call (.activateRegistration registryManager 1 3 1),
        .call (.registerAgents registryManager 2 4 1 [5, 6] [2, 2])])
    (fun c => (c.state.store.totalSupply, (c.state.store.mapServices 1).state,
      (c.state.store.mapServices 1).agentIds))
    (1, .finishedRegistration, [2]) (by decide +kernel)
  obtain ⟨supply, seen⟩ := Prod.mk.inj seen
  obtain ⟨state, ids⟩ := Prod.mk.inj seen
  exact ⟨c, run, state, ids, update_in_full_suffices .l2 1 run (le_of_eq supply.symm)⟩

end AutonolasRegistries.Guarantees
