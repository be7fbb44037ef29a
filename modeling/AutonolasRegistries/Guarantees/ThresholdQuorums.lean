import Mathlib.Algebra.Order.Floor.Div
import Mathlib.Data.Finset.Card
import AutonolasRegistries.Guarantees.Configuration

/-!
# Thresholds

The threshold of a service is at least two thirds of its slots and at most all of them,
so any two quorums of its multisig share more owners than a Byzantine third. The bound is
computed in 32 bits: a configuration whose doubled number of slots does not fit is
refused, whatever the threshold. `ServiceRegistryL2.sol:159-199`, `:278-340`.
-/
namespace AutonolasRegistries.Guarantees
open Library Source Model

/-- The hand-written rounding is the ceiling. -/
theorem checkThreshold_eq (n : Nat) : ServiceRegistry.checkThreshold n = (2 * n + 1) ⌈/⌉ 3 := by
  rw [Nat.ceilDiv_eq_add_pred_div, ServiceRegistry.checkThreshold]
  split <;> omega

/-- The thresholds accepted for `n` slots. -/
structure ThresholdRange (n threshold : Nat) : Prop where
  low : (2 * n + 1) ⌈/⌉ 3 ≤ threshold
  high : threshold ≤ n

/-- Any two sets of `threshold` out of `n` owners share more than a third of the others. -/
def QuorumsIntersect (n threshold : Nat) : Prop :=
  ∀ owners A B : Finset Address, owners.card = n → A ⊆ owners → B ⊆ owners →
    A.card = threshold → B.card = threshold → (n - 1) / 3 < (A ∩ B).card

namespace ThresholdRange
variable {n threshold : Nat}

theorem of_check (low : ServiceRegistry.checkThreshold n ≤ threshold) (high : threshold ≤ n) :
    ThresholdRange n threshold :=
  ⟨checkThreshold_eq n ▸ low, high⟩

theorem check_le (range : ThresholdRange n threshold) :
    ServiceRegistry.checkThreshold n ≤ threshold :=
  (checkThreshold_eq n).symm ▸ range.low

theorem two_thirds (range : ThresholdRange n threshold) : 2 * n + 1 ≤ 3 * threshold := by
  have low := range.low
  rw [Nat.ceilDiv_eq_add_pred_div] at low
  omega

theorem slots_pos (range : ThresholdRange n threshold) : 1 ≤ n := by
  have := range.two_thirds
  have := range.high
  omega

theorem quorums_intersect (range : ThresholdRange n threshold) : QuorumsIntersect n threshold := by
  intro owners A B size inA inB first second
  have counted := Finset.card_union_add_card_inter A B
  have together : (A ∪ B).card ≤ n := size ▸ Finset.card_le_card (Finset.union_subset inA inB)
  have := range.two_thirds
  omega

end ThresholdRange

section Runs

/-- What `create` and `update` leave in the record of a service. -/
structure Quorate (service : Service) : Prop where
  range : ThresholdRange service.maxNumAgentInstances service.threshold.val
  fits : 2 * service.maxNumAgentInstances + 1 < 2 ^ 32

theorem quorate_of_check {service : Service}
    (low : ServiceRegistry.checkThreshold service.maxNumAgentInstances ≤ service.threshold.val)
    (high : service.threshold.val ≤ service.maxNumAgentInstances)
    (fits : service.maxNumAgentInstances * 2 + 1 < 2 ^ 32) : Quorate service :=
  ⟨.of_check low high, by omega⟩

/-- The records of all services that exist. -/
def AllQuorate (s : RegistryState) : Prop :=
  ∀ serviceId, (s.mapServices serviceId).state ≠ .nonExistent → Quorate (s.mapServices serviceId)

theorem AllQuorate.update {s : RegistryState} (before : AllQuorate s) {target : Nat}
    {service : Service} (quorate : service.state ≠ .nonExistent → Quorate service) :
    ∀ serviceId, (Function.update s.mapServices target service serviceId).state ≠ .nonExistent →
      Quorate (Function.update s.mapServices target service serviceId) := by
  intro serviceId
  by_cases here : serviceId = target
  · subst here
    rw [Function.update_self]
    exact quorate
  · rw [Function.update_of_ne here]
    exact before serviceId

variable {edition : Edition} {w : RegistryWorld} {out : Outcome RegistryWorld RegistryFrame}

theorem AllQuorate.enter {call : RegistryCall} (registered : Registered w.store)
    (before : AllQuorate w.store) (taken : RegistryTransition edition w call out) :
    AllQuorate out.state.store := by
  cases taken with
  | create ran =>
    obtain ⟨⟨-, -, -, -, -, -, -, low, high, fits⟩, rfl, rfl⟩ := ServiceRegistry.create_ok ran
    exact before.update fun _ => quorate_of_check low high fits
  | update ran =>
    obtain ⟨kept, -, ⟨-, -, -, -, -, -, low, high, fits⟩, hashes, rfl⟩ :=
      ServiceRegistry.update_ok ran
    exact before.update fun _ => quorate_of_check low high fits
  | activateRegistration ran =>
    obtain ⟨⟨-, -, -, state, -⟩, rfl⟩ := ServiceRegistry.activateRegistration_ok ran
    have known := before _ (by rw [state]; decide)
    exact before.update fun _ => ⟨known.range, known.fits⟩
  | registerAgents ran =>
    obtain ⟨-, ⟨-, -, state, -⟩, -, -⟩ := ServiceRegistry.registerAgents_ok ran
    obtain ⟨mid, -, rfl⟩ := ServiceRegistry.registerAgents_done ran
    have known := before _ (by rw [state]; decide)
    exact before.update fun _ => ⟨known.range, known.fits⟩
  | deploy ran =>
    obtain ⟨-, -, rfl⟩ := ServiceRegistry.deploy_ok ran
    exact before
  | slash ran =>
    obtain ⟨slashed, balances, rfl, -⟩ :=
      ServiceRegistry.slashLoop_frame (ServiceRegistry.slash_ok ran).2
    exact before
  | terminate ran =>
    obtain ⟨⟨-, -, minted, -⟩, -, components, agents, rfl⟩ := ServiceRegistry.terminate_ok ran
    obtain ⟨positive, below⟩ := registered.of_owner minted
    have known := before _ (registered.listed _ positive below)
    exact before.update fun _ => ⟨known.range, known.fits⟩
  | unbond ran =>
    obtain ⟨instances, -, ⟨-, -, -, state, -⟩, -, rfl⟩ := ServiceRegistry.unbond_ok ran
    have known := before _ (by rw [state]; decide)
    rw [RegistryWorld.refunding_store]
    split <;> exact before.update fun _ => ⟨known.range, known.fits⟩
  | drain ran =>
    obtain ⟨-, -, rfl⟩ := ServiceRegistry.drain_ok ran
    rw [RegistryWorld.refunding_store]
    split <;> exact before
  | administer => exact before

theorem AllQuorate.resume {frame : RegistryFrame} {answer : RegistryAnswer}
    {frames : List RegistryFrame} (shape : RegistryShape w.store (frame :: frames))
    (before : AllQuorate w.store) (ran : w.resume edition frame answer = .ok out) :
    AllQuorate out.state.store := by
  obtain ⟨-, lock⟩ := shape
  cases lock with
  | creating held | refunding held =>
    cases RegistryWorld.resume_return ran
    exact before
  | deploying held state =>
    cases RegistryWorld.resume_return ran
    have known := before _ (by rw [state]; decide)
    exact before.update fun _ => ⟨known.range, known.fits⟩

/-- While the service Ids fit their field, the sheets are configured as recorded. -/
structure QuorumBook (w : RegistryWorld) : Prop where
  quorate : AllQuorate w.store
  configured : w.store.totalSupply < 2 ^ 32 →
    ∀ serviceId < 2 ^ 32, ConfigBook (sheet w.store serviceId)

theorem quorumBook_preserved (edition : Edition) :
    Preserved (registryMachine edition) .free (fun w frames => RegistryShape w.store frames)
      fun w _ => QuorumBook w := by
  intro w frames w' frames' taken shape before
  cases taken with
  | entered call permitted ran =>
    have kind := RegistryWorld.enter_transition shape.registered.guarded ran
    refine ⟨before.quorate.enter shape.registered kind, fun after => ?_⟩
    have supply := lt_of_le_of_lt kind.supply_le after
    exact configuration_entered (fun _ _ => True) (fun _ _ alive kept book => book.same alive kept)
      (fun _ _ _ _ step _ => ConfigBook.configure step) shape supply after kind
      (fun _ _ _ => trivial) (before.configured supply)
  | resumed answer permitted ran =>
    refine ⟨before.quorate.resume shape ran, fun after => ?_⟩
    have supply : w.store.totalSupply < 2 ^ 32 := resume_supply ran ▸ after
    exact configuration_resumed (fun _ _ alive kept book => book.same alive kept) shape supply ran
      (before.configured supply)

theorem quorumBook_reachable {deployer : Address} {c : Config RegistryWorld RegistryFrame}
    (run : Reachable (registryMachine edition) .free (RegistryWorld.deployment deployer) c) :
    RegistryShape c.state.store c.frames ∧ QuorumBook c.state := by
  have shape := registryShape_preserved edition
  have initial : RegistryShape (RegistryWorld.deployment deployer).store [] :=
    ⟨Registered.deployment deployer, .idle rfl⟩
  refine run.invariant (shape.join (quorumBook_preserved edition)) ⟨initial, ?_, fun _ id _ => ?_⟩
  · exact fun serviceId alive => absurd rfl alive
  · exact configBook_deployment deployer id

end Runs

section Accepted
variable (edition : Edition) (agentTotalSupply : Nat) (sender serviceOwner : Address)
  (configHash : Bytes32) (agentIds : List Uint32) (agentParams : List AgentParams)

/-- The checks of `create` besides the one on the threshold. -/
structure CreateChecks (s : RegistryState) : Prop where
  unlocked : s.locked ≤ 1
  manager : s.manager = sender
  owner : serviceOwner ≠ 0
  initial : ServiceRegistry.initialChecks edition agentTotalSupply configHash agentIds agentParams =
    .ok ()
  filled : ∀ p ∈ agentParams, p.slots ≠ 0 ∧ p.bond ≠ 0
  supply : s.totalSupply + 1 < 2 ^ 256
  unminted : s.erc721.owners (s.totalSupply + 1) = 0

/-- The checks of `update` besides the one on the threshold. -/
structure UpdateChecks (serviceId : Nat) (s : RegistryState) : Prop where
  manager : s.manager = sender
  owner : s.erc721.ownerOf serviceId = .ok serviceOwner
  state : (s.mapServices serviceId).state = .preRegistration
  initial : ServiceRegistry.initialChecks edition agentTotalSupply configHash agentIds agentParams =
    .ok ()

/-- What is left to check: the threshold is in range, and the range can be computed. -/
structure ThresholdFits (n threshold : Nat) : Prop extends ThresholdRange n threshold where
  fits : 2 * n + 1 < 2 ^ 32

theorem thresholdFits_iff {n threshold : Nat} :
    ThresholdFits n threshold ↔ ServiceRegistry.checkThreshold n ≤ threshold ∧ threshold ≤ n ∧
      n * 2 + 1 < 2 ^ 32 := by
  constructor
  · intro held
    exact ⟨held.check_le, held.high, by have := held.fits; omega⟩
  · rintro ⟨low, high, fits⟩
    exact ⟨.of_check low high, by omega⟩

variable {edition agentTotalSupply sender serviceOwner configHash agentIds agentParams}
variable {s : RegistryState} {threshold : Uint32}

theorem create_accepts
    (checks : CreateChecks edition agentTotalSupply sender serviceOwner configHash agentIds
      agentParams s) :
    (∃ result, ServiceRegistry.create edition agentTotalSupply sender serviceOwner configHash
        agentIds agentParams threshold s = .ok result) ↔
      ThresholdFits (ServiceRegistry.slotSum (agentIds.zip agentParams)) threshold.val := by
  constructor
  · rintro ⟨⟨s', serviceId⟩, ran⟩
    obtain ⟨⟨-, -, -, -, -, -, -, low, high, fits⟩, -⟩ := ServiceRegistry.create_ok ran
    exact thresholdFits_iff.mpr ⟨low, high, fits⟩
  · intro held
    have empty : ¬ ∃ p ∈ agentParams, p.slots = 0 ∨ p.bond = 0 := by
      rintro ⟨p, member, zero | zero⟩
      · exact (checks.filled p member).1 zero
      · exact (checks.filled p member).2 zero
    obtain ⟨⟨s', service⟩, data⟩ := (@ServiceRegistry.setServiceData_accepts
      { Service.empty with threshold, configHash, state := .preRegistration }
      (agentIds.zip agentParams) (s.totalSupply + 1) { s with locked := 2 }).mpr
        (thresholdFits_iff.mp held)
    obtain ⟨-, rfl, -⟩ := ServiceRegistry.setServiceData_ok data
    have minted := ERC721.mint_eq_ok.mpr ⟨checks.owner, checks.unminted, rfl⟩
    simp only [ServiceRegistry.create, bind_eq_ok, revertIf_eq_ok, exists_const, ne_eq, not_not]
    exact ⟨_, not_lt.mpr checks.unlocked, checks.manager, checks.owner, (), checks.initial, empty, _,
      checkedAdd_eq_ok.mpr ⟨checks.supply, rfl⟩, _, data, _, minted, rfl⟩

theorem update_accepts {serviceId : Nat}
    (checks : UpdateChecks edition agentTotalSupply sender serviceOwner configHash agentIds
      agentParams serviceId s) :
    (∃ s', ServiceRegistry.update edition agentTotalSupply sender serviceOwner configHash
        agentIds agentParams threshold serviceId s = .ok s') ↔
      ThresholdFits (ServiceRegistry.slotSum (keptEntries (agentIds.zip agentParams)))
        threshold.val := by
  constructor
  · rintro ⟨s', ran⟩
    obtain ⟨kept, rfl, ⟨-, -, -, -, -, -, low, high, fits⟩, -⟩ := ServiceRegistry.update_ok ran
    exact thresholdFits_iff.mpr ⟨low, high, fits⟩
  · intro held
    have data (service : Service) (s : RegistryState) := (@ServiceRegistry.setServiceData_accepts
      { service with threshold, configHash } (keptEntries (agentIds.zip agentParams)) serviceId
        s).mpr (thresholdFits_iff.mp held)
    simp only [ServiceRegistry.update, bind_eq_ok, revertIf_eq_ok, exists_const, ne_eq, not_not]
    obtain ⟨result, ran⟩ := data (s.mapServices serviceId) _
    exact ⟨_, checks.manager, _, checks.owner, rfl, checks.state, (), checks.initial, result, ran,
      rfl⟩

end Accepted

/-- What a service in the registry satisfies. -/
structure QuorumSound (s : RegistryState) (serviceId : Nat) : Prop where
  slots : 1 ≤ (s.mapServices serviceId).maxNumAgentInstances
  range : ThresholdRange (s.mapServices serviceId).maxNumAgentInstances
    (s.mapServices serviceId).threshold.val
  intersect : QuorumsIntersect (s.mapServices serviceId).maxNumAgentInstances
    (s.mapServices serviceId).threshold.val
  fits : 2 * (s.mapServices serviceId).maxNumAgentInstances + 1 < 2 ^ 32
  summed : s.totalSupply < 2 ^ 32 → (s.mapServices serviceId).maxNumAgentInstances =
    ((s.mapServices serviceId).agentIds.map fun agentId =>
      (s.mapServiceAndAgentIdAgentParams (serviceAgent serviceId agentId)).slots.val).sum

/-- Every service of every run has quorums that intersect in more than a Byzantine third,
and `create` and `update` refuse exactly the other thresholds. The slots are added up
without wrapping around. -/
theorem quorum_intersection (edition : Edition) (deployer : Address) :
    (∀ c, Reachable (registryMachine edition) .free (RegistryWorld.deployment deployer) c →
      ∀ serviceId, 0 < serviceId → serviceId ≤ c.state.store.totalSupply →
        QuorumSound c.state.store serviceId) ∧
    (∀ agentTotalSupply sender serviceOwner configHash agentIds agentParams threshold s,
      CreateChecks edition agentTotalSupply sender serviceOwner configHash agentIds agentParams s →
      ((∃ result, ServiceRegistry.create edition agentTotalSupply sender serviceOwner configHash
          agentIds agentParams threshold s = .ok result) ↔
        ThresholdFits (ServiceRegistry.slotSum (agentIds.zip agentParams)) threshold.val) ∧
      ∀ s' serviceId, ServiceRegistry.create edition agentTotalSupply sender serviceOwner
          configHash agentIds agentParams threshold s = .ok (s', serviceId) →
        (s'.mapServices serviceId).maxNumAgentInstances =
          ServiceRegistry.slotSum (agentIds.zip agentParams)) ∧
    (∀ agentTotalSupply sender serviceOwner configHash agentIds agentParams threshold serviceId s,
      UpdateChecks edition agentTotalSupply sender serviceOwner configHash agentIds agentParams
        serviceId s →
      ((∃ s', ServiceRegistry.update edition agentTotalSupply sender serviceOwner configHash
          agentIds agentParams threshold serviceId s = .ok s') ↔
        ThresholdFits (ServiceRegistry.slotSum (keptEntries (agentIds.zip agentParams)))
          threshold.val) ∧
      ∀ s', ServiceRegistry.update edition agentTotalSupply sender serviceOwner configHash
          agentIds agentParams threshold serviceId s = .ok s' →
        (s'.mapServices serviceId).maxNumAgentInstances =
          ServiceRegistry.slotSum (keptEntries (agentIds.zip agentParams))) := by
  refine ⟨fun c run serviceId positive listed => ?_,
    fun _ _ _ _ _ _ _ _ checks => ⟨create_accepts checks, fun s' serviceId ran => ?_⟩,
    fun _ _ _ _ _ _ _ _ _ checks => ⟨update_accepts checks, fun s' ran => ?_⟩⟩
  · obtain ⟨shape, book⟩ := quorumBook_reachable run
    obtain ⟨range, fits⟩ := book.quorate serviceId (shape.registered.listed _ positive listed)
    refine ⟨range.slots_pos, range, range.quorums_intersect, fits, fun supply => ?_⟩
    exact (book.configured supply serviceId (lt_of_le_of_lt listed supply)).capacity
  · obtain ⟨-, rfl, rfl⟩ := ServiceRegistry.create_ok ran
    simp only [Function.update_self]
  · obtain ⟨kept, rfl, -, hashes, rfl⟩ := ServiceRegistry.update_ok ran
    simp only [Function.update_self]
    rfl

/-- Three slots for one agent Id need all three owners. -/
theorem quorum_intersection_three :
    ∃ c, Reachable (registryMachine .l2) .free (RegistryWorld.deployment 1) c ∧
      (c.state.store.mapServices 1).maxNumAgentInstances = 3 ∧
      QuorumSound c.state.store 1 := by
  obtain ⟨c, run, seen⟩ := Machine.play_observed .free (registryMachine .l2)
    (RegistryWorld.deployment 1)
    [.call (.changeManager registryOwner 2),
      .call (.create registryManager 3 0 1 [1] [⟨3, 1⟩] 3), .answer ⟨0, [], true⟩]
    (fun c => (c.state.store.totalSupply, (c.state.store.mapServices 1).maxNumAgentInstances))
    (1, 3) (by decide +kernel)
  obtain ⟨supply, slots⟩ := Prod.mk.inj seen
  have sound := (quorum_intersection .l2 1).1 c run 1 (by decide) (le_of_eq supply.symm)
  exact ⟨c, run, slots, sound⟩

end AutonolasRegistries.Guarantees
