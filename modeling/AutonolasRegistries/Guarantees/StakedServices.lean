import AutonolasRegistries.Guarantees.MultisigOwners
import AutonolasRegistries.Guarantees.StakedRuns
import AutonolasRegistries.Guarantees.TokenConservation

/-!
# A staked service is frozen

`_stake` checks the service once. From then on nothing about it changes in the registry
until it is unstaked: the staking contract owns the NFT, so nobody passes the owner checks
of `update`, `activateRegistration`, `deploy` and `terminate`; the service is deployed, so
`registerAgents` and `unbond` are closed; and `slash` writes balances only.
`StakingBase.sol:761-958`, `ServiceManager.sol:276-687`, `ServiceRegistryL2.sol:278-731`.
-/
namespace AutonolasRegistries.Guarantees
open Library Source Model StakingBase

/-- The registry says the same of a service, but for the operators' balances. -/
structure Frozen (s s' : RegistryState) (serviceId : Nat) : Prop where
  service : s'.mapServices serviceId = s.mapServices serviceId
  params : ∀ agentId, s'.mapServiceAndAgentIdAgentParams (serviceAgent serviceId agentId) =
    s.mapServiceAndAgentIdAgentParams (serviceAgent serviceId agentId)
  lists : ∀ agentId, s'.mapServiceAndAgentIdAgentInstances (serviceAgent serviceId agentId) =
    s.mapServiceAndAgentIdAgentInstances (serviceAgent serviceId agentId)
  operators : ∀ operator,
    s'.mapOperatorAndServiceIdAgentInstances (operatorService operator serviceId) =
      s.mapOperatorAndServiceIdAgentInstances (operatorService operator serviceId)
  engaged : ∀ operator, ∀ a ∈ instancesIn s operator serviceId,
    s'.mapAgentInstanceOperators a = s.mapAgentInstanceOperators a

namespace Frozen
variable {s s' s'' : RegistryState} {serviceId : Nat}

theorem of_records (same : SameRecords s s' serviceId) : Frozen s s' serviceId :=
  ⟨same.service, same.params, same.lists, same.operators, same.engaged⟩

theorem refl (s : RegistryState) (serviceId : Nat) : Frozen s s serviceId :=
  of_records (.refl s serviceId)

theorem trans (first : Frozen s s' serviceId) (second : Frozen s' s'' serviceId) :
    Frozen s s'' serviceId where
  service := second.service.trans first.service
  params x := (second.params x).trans (first.params x)
  lists x := (second.lists x).trans (first.lists x)
  operators a := (second.operators a).trans (first.operators a)
  engaged operator a member := by
    have moved : a ∈ instancesIn s' operator serviceId := by
      rw [instancesIn, first.operators]
      exact member
    exact (second.engaged operator a moved).trans (first.engaged operator a member)

end Frozen

section Registry
variable {edition : Edition} {self : Address} {r r' : RegistryWorld} {serviceId : Nat}

/-- Slashing leaves everything but the balances. -/
theorem slash_frozen {sender : Address} {agentInstances : List Address} {amounts : List Uint96}
    {s s' : RegistryState}
    (ran : ServiceRegistry.slash sender agentInstances amounts serviceId s = .ok s') :
    Frozen s s' serviceId := by
  obtain ⟨slashed, balances, rfl, -⟩ :=
    ServiceRegistry.slashLoop_frame (ServiceRegistry.slash_ok ran).2
  exact ⟨rfl, fun _ => rfl, fun _ => rfl, fun _ => rfl, fun _ _ _ => rfl⟩

/-- The calls addressed to a deployed service that go through slash it or terminate it. -/
theorem enter_deployed {call : RegistryCall} {out : Outcome RegistryWorld RegistryFrame}
    {frames : List RegistryFrame} (base : RegistryBase r frames)
    (deployed : (r.store.mapServices serviceId).state = .deployed)
    (target : callService r.store call = some serviceId)
    (taken : RegistryTransition edition r call out) :
    Frozen r.store out.state.store serviceId ∨
      (r.store.manager = call.sender ∧
        ∃ sender, call = .terminate sender (r.store.erc721.owners serviceId) serviceId) := by
  cases taken with
  | create ran =>
    cases target
    have fresh := (base.1.registered.unlisted _ (Or.inr (Nat.lt_succ_self _))).1
    rw [fresh] at deployed
    cases deployed
  | update ran =>
    cases target
    obtain ⟨-, -, ⟨-, -, -, state, -⟩, -⟩ := ServiceRegistry.update_ok ran
    rw [state] at deployed
    cases deployed
  | activateRegistration ran =>
    cases target
    obtain ⟨⟨-, -, -, state, -⟩, -⟩ := ServiceRegistry.activateRegistration_ok ran
    rw [state] at deployed
    cases deployed
  | registerAgents ran =>
    cases target
    obtain ⟨-, ⟨-, -, state, -⟩, -⟩ := ServiceRegistry.registerAgents_ok ran
    rw [state] at deployed
    cases deployed
  | deploy ran =>
    obtain ⟨-, -, rfl⟩ := ServiceRegistry.deploy_ok ran
    exact .inl ⟨rfl, fun _ => rfl, fun _ => rfl, fun _ => rfl, fun _ _ _ => rfl⟩
  | slash ran =>
    cases target
    exact .inl (slash_frozen ran)
  | @terminate sender _ _ _ _ ran =>
    cases target
    obtain ⟨⟨-, manager, -, rfl, -⟩, -⟩ := ServiceRegistry.terminate_ok ran
    exact .inr ⟨manager, sender, rfl⟩
  | unbond ran =>
    cases target
    obtain ⟨-, -, ⟨-, -, -, state, -⟩, -⟩ := ServiceRegistry.unbond_ok ran
    rw [state] at deployed
    cases deployed
  | drain => cases target
  | administer kind => exact .inl ⟨rfl, fun _ => rfl, fun _ => rfl, fun _ => rfl, fun _ _ _ => rfl⟩

/-- What the registry's code leaves of a deployed service that nobody terminates. -/
theorem registryPart_frozen {allowed : RegistryCall → Prop}
    {before after rest : List RegistryFrame} (base : RegistryBase r (before ++ rest))
    (supply : r'.store.totalSupply < 2 ^ 32) (roster : Enrolled r.store)
    (real : ∀ call, allowed call → r.store.manager = call.sender → RealOperator call)
    (kept : ∀ sender, r.store.manager = sender.val →
      ¬ allowed (.terminate sender (r.store.erc721.owners serviceId) serviceId))
    (deployed : (r.store.mapServices serviceId).state = .deployed)
    (part : RegistryPart edition allowed r before r' after) :
    Frozen r.store r'.store serviceId := by
  have here := base.1.registered.of_state (by rw [deployed]; decide)
  have small : serviceId < 2 ^ 32 := lt_of_le_of_lt here.2 base.2
  cases part with
  | untouched => exact .refl _ _
  | @called call out permitted ran =>
    have taken := RegistryWorld.enter_transition base.1.registered.guarded ran
    by_cases target : callService r.store call = some serviceId
    · rcases enter_deployed base deployed target taken with same | ⟨manager, sender, rfl⟩
      · exact same
      · exact absurd permitted (kept sender manager)
    · exact .of_records (enter_sameRecords base supply roster
        (real_operator taken (real _ permitted)) taken small target)
  | @resumed frame _ _ ran =>
    refine .of_records (resume_sameRecords base ran small ?_)
    intro target
    cases frame <;> cases target
    cases base.1.lock with
    | deploying _ state =>
      rw [state] at deployed
      cases deployed

end Registry

section Staking
variable {self : Address} {w : StakingWorld} {out : Outcome StakingWorld StakingFrame}

/-- What a stake that went through found. -/
theorem stake_found {sender : Caller} {answers : Nat → ActivityAnswer} {view : StakeView}
    {serviceId info : Nat}
    (ran : StakingWorld.enter self (.stake sender answers view serviceId info) w = .ok out) :
    view.service.state = .deployed ∧
      (out.state.store.mapServiceInfo serviceId).multisig = view.service.multisig := by
  simp only [StakingWorld.enter, bind_eq_ok, Prod.exists, pure_eq_ok] at ran
  obtain ⟨s', nft, result, staked, rfl⟩ := ran
  obtain ⟨-, s₁, nonces, -, -, -, config, -, rfl⟩ := stake_spec staked
  simp only [checkServiceConfiguration, bind_eq_ok, revertIf_eq_ok, exists_const, ne_eq,
    not_not] at config
  obtain ⟨-, -, -, state, -⟩ := config
  exact ⟨state, by simp only [Outcome.state_done, Function.update_self]⟩

end Staking

/-- What is written down at every stake: the service, and the registry as it was. -/
def stakeNote : StakedCall → StakedWorld → StakedWorld → List (Nat × RegistryState)
  | .staking (.stake _ _ _ serviceId _), _, after => [(serviceId, after.system.registry.store)]
  | _, _, _ => []

/-- The registry at the last stake of a service. -/
def lastStake (stakes : List (Nat × RegistryState)) (serviceId : Nat) : Option RegistryState :=
  (stakes.filter fun entry => entry.1 = serviceId).getLast?.map Prod.snd

theorem lastStake_own (stakes : List (Nat × RegistryState)) (serviceId : Nat)
    (s : RegistryState) : lastStake (stakes ++ [(serviceId, s)]) serviceId = some s := by
  simp [lastStake]

theorem lastStake_other (stakes : List (Nat × RegistryState)) {serviceId other : Nat}
    (different : serviceId ≠ other) (s : RegistryState) :
    lastStake (stakes ++ [(other, s)]) serviceId = lastStake stakes serviceId := by
  simp [lastStake, different.symm]

/-- The service is deployed with the multisig of its record, and as it was when staked. -/
structure StakedAs (w : StakedWorld) (serviceId : Nat) (s : RegistryState) : Prop where
  frozen : Frozen s w.system.registry.store serviceId
  deployed : (w.system.registry.store.mapServices serviceId).state = .deployed
  multisig : (w.system.registry.store.mapServices serviceId).multisig =
    (w.staking.mapServiceInfo serviceId).multisig

def StakedBook (w : StakedWorld) (stakes : List (Nat × RegistryState)) : Prop :=
  ∀ id, 0 < (w.staking.mapServiceInfo id).tsStart →
    ∃ s, lastStake stakes id = some s ∧ StakedAs w id s

section Book
variable {setup : Setup} {self : Address} {w w' : StakedWorld} {id : Nat} {s : RegistryState}

theorem StakedAs.moved (before : StakedAs w id s) (staking : w'.staking = w.staking)
    (same : Frozen w.system.registry.store w'.system.registry.store id) : StakedAs w' id s := by
  refine ⟨before.frozen.trans same, ?_, ?_⟩
  · rw [same.service]
    exact before.deployed
  · rw [same.service, staking]
    exact before.multisig

/-- The staking contract writes nothing of the registry but the NFT. -/
theorem frozen_staking (w : StakedWorld) (t : StakingWorld) (id : Nat) :
    Frozen w.system.registry.store (w.withStaking t).system.registry.store id :=
  ⟨rfl, fun _ => rfl, fun _ => rfl, fun _ => rfl, fun _ _ _ => rfl⟩

theorem StakedAs.recorded {t : StakingWorld} (before : StakedAs w id s)
    (multisig : (t.store.mapServiceInfo id).multisig = (w.staking.mapServiceInfo id).multisig) :
    StakedAs (w.withStaking t) id s :=
  ⟨before.frozen.trans (frozen_staking w t id), before.deployed,
    before.multisig.trans multisig.symm⟩

/-- A call of the registries, by whoever it is. -/
theorem StakedAs.called {frames : List StakedFrame} {call : SystemCall}
    {inner : Outcome SystemWorld SystemFrame} (base : StakedBase setup self w frames)
    (supply : inner.state.registry.store.totalSupply < 2 ^ 32)
    (staked : 0 < (w.staking.mapServiceInfo id).tsStart) (before : StakedAs w id s)
    (outside : call.sender ≠ setup.self) (other : call.sender.val ≠ self)
    (entered : w.system.enter setup call = .ok inner) :
    StakedAs (w.withSystem inner.state) id s := by
  have held : w.system.registry.store.erc721.owners id = self := base.staking.book.held id staked
  have authority := base.system.shape.authority
  have registry : RegistryBase w.system.registry
      ([] ++ (frames.flatMap systemFrames).flatMap registryFrame) := base.system.registry
  refine before.moved rfl (registryPart_frozen registry supply base.system.roster
    (fun passed => passed_real authority outside) ?_ before.deployed
    (move_registryPart (SystemWorld.enter_move entered)))
  rintro sender manager (rfl | forwarded)
  · exact outside (Subtype.ext (manager.symm.trans authority))
  · rw [held] at forwarded
    cases forwarded
    exact other rfl

/-- A suspended call of the registries that goes on. -/
theorem StakedAs.resumed {rest : List StakedFrame} {frame : SystemFrame} {answer : SystemAnswer}
    {inner : Outcome SystemWorld SystemFrame}
    (base : StakedBase setup self w (.system frame :: rest))
    (supply : inner.state.registry.store.totalSupply < 2 ^ 32)
    (staked : 0 < (w.staking.mapServiceInfo id).tsStart) (before : StakedAs w id s)
    (resumed : w.system.resume setup frame answer = .ok inner) :
    StakedAs (w.withSystem inner.state) id s := by
  have held : w.system.registry.store.erc721.owners id = self := base.staking.book.held id staked
  have mine : frame ∈ (StakedFrame.system frame :: rest).flatMap systemFrames :=
    List.mem_cons_self
  have registry : RegistryBase w.system.registry
      (registryFrame frame ++ (rest.flatMap systemFrames).flatMap registryFrame) :=
    base.system.registry
  refine before.moved rfl (registryPart_frozen registry supply base.system.roster ?_ ?_
    before.deployed (return_registryPart (base.system.shape.real frame mine)
      (SystemWorld.resume_return resumed)))
  · intro passed forwarded _
    exact forwarded.real
  · intro sender _ forwarded
    rw [held] at forwarded
    have other := base.others frame mine
    cases forwarded
    exact other rfl

/-- A call of the staking contract. -/
theorem StakedBook.staking {log : List (Nat × RegistryState)} {call : StakingCall}
    {inner : Outcome StakingWorld StakingFrame} {frames : List StakedFrame}
    (base : StakedBase setup self w frames) (before : StakedBook w log)
    (entered : StakingWorld.enter self (w.reading call) w.stakingWorld = .ok inner) :
    StakedBook (w.withStaking inner.state)
      (log ++ stakeNote (.staking call) w (w.withStaking inner.state)) := by
  intro id staked
  by_cases joins : stakes call = some id
  · cases call <;> cases joins
    obtain ⟨state, multisig⟩ := stake_found entered
    exact ⟨_, lastStake_own _ _ _, .refl _ _, state, multisig.symm⟩
  · have unread : stakes (w.reading call) ≠ some id := by
      cases call <;> exact joins
    obtain ⟨staked, multisig, -⟩ := enter_records base.staking.book.sound unread entered staked
    obtain ⟨s, last, here⟩ := before id staked
    refine ⟨s, ?_, here.recorded multisig⟩
    cases call with
    | stake _ _ _ serviceId =>
      have different : id ≠ serviceId := fun same => joins (same ▸ rfl)
      rw [stakeNote, lastStake_other log different, last]
    | _ => simpa only [stakeNote, List.append_nil] using last

theorem stakedBook_preserved (valid : self ≠ 0) (apart : self ≠ setup.self.val) :
    Preserved ((stakedMachine setup self).logged stakeNote)
      (stakedDiscipline self (boundedDiscipline setup)).logged
      (fun w frames => StakedBase setup self w.1 frames) fun w _ => StakedBook w.1 w.2 := by
  rintro ⟨w, log⟩ frames ⟨w', log'⟩ frames' taken base before
  obtain ⟨piece, noted⟩ := logged_cases taken
  have after := stakedBase_preserved valid apart _ _ _ _ piece trivial base
  have supply := after.system.registry.2
  dsimp only at base before supply noted ⊢
  rcases noted with ⟨call, out, allowed, entered, moved, logged⟩ |
    ⟨frame, rest, answer, out, stack, resumed, moved, logged⟩
  · subst moved logged
    cases call with
    | system call =>
      obtain ⟨inner, ran, same⟩ := inSystem_eq_ok entered
      subst same
      rw [Outcome.state_embed] at supply ⊢
      simp only [stakeNote, List.append_nil]
      intro id staked
      obtain ⟨s, last, here⟩ := before id staked
      exact ⟨s, last, here.called base supply staked allowed.1.1.1 allowed.2 ran⟩
    | staking call =>
      obtain ⟨own, inner, ran, same⟩ := staking_entered entered
      subst same
      rw [Outcome.state_embed]
      exact before.staking base ran
  · subst stack moved logged
    cases frame with
    | system frame =>
      obtain ⟨inner, ran, same⟩ := inSystem_eq_ok resumed
      subst same
      rw [Outcome.state_embed] at supply ⊢
      intro id staked
      obtain ⟨s, last, here⟩ := before id staked
      exact ⟨s, last, here.resumed base supply staked ran⟩
    | staking frame =>
      obtain ⟨inner, ran, same⟩ := inStaking_eq_ok resumed
      subst same
      rw [Outcome.state_embed]
      intro id staked
      have records := resume_records ran
      obtain ⟨staked, multisig, -⟩ := recordKept_of_eq records id staked
      obtain ⟨s, last, here⟩ := before id staked
      exact ⟨s, last, here.recorded multisig⟩

end Book

section Listed

/-- A registration names only Ids the service lists at that moment. -/
def NamesListed (s : RegistryState) : Option Registration → Prop
  | none => True
  | some registration =>
    ∀ x ∈ registration.agentIds, x ∈ (s.mapServices registration.serviceId).agentIds

instance (s : RegistryState) (asked : Option Registration) : Decidable (NamesListed s asked) :=
  match asked with
  | none => .isTrue trivial
  | some registration => List.decidableBAll
      (fun x => x ∈ (s.mapServices registration.serviceId).agentIds) registration.agentIds

/-- In addition every registration names only Ids its service lists, when it is asked for
and, after the transfer of a token, when it is made. -/
def listedDiscipline (setup : Setup) :
    Discipline SystemWorld SystemCall SystemFrame SystemAnswer where
  call call w := (boundedDiscipline setup).call call w ∧
    NamesListed w.registry.store call.registration
  answer frame _ w := NamesListed w.registry.store (frameRegistration frame)

instance (setup : Setup) (call : SystemCall) (w : SystemWorld) :
    Decidable ((listedDiscipline setup).call call w) :=
  inferInstanceAs (Decidable ((boundedDiscipline setup).call call w ∧
    NamesListed w.registry.store call.registration))

instance (setup : Setup) (frame : SystemFrame) (answer : SystemAnswer) (w : SystemWorld) :
    Decidable ((listedDiscipline setup).answer frame answer w) :=
  inferInstanceAs (Decidable (NamesListed w.registry.store (frameRegistration frame)))

variable {setup : Setup}

theorem namesListed_current {s : RegistryState} {asked : Option Registration}
    {passed : RegistryCall} (listed : NamesListed s asked) (registers : Registers asked passed)
    (r : RegistryWorld) (same : r.store = s) : CurrentIds passed r := by
  subst same
  cases passed with
  | registerAgents _ _ operator serviceId agentInstances agentIds =>
    rw [registers _ rfl] at listed
    exact fun e member => listed e.2 (List.of_mem_zip member).2
  | _ => trivial

theorem systemOwners_preserved (setup : Setup) :
    Preserved (systemMachine setup) (listedDiscipline setup) always fun w frames =>
      SystemBase setup w frames ∧
        ∀ serviceId < 2 ^ 32, OwnersBook (sheet w.registry.store serviceId) := by
  have books : Preserved (registryMachine setup.edition) currentIdsDiscipline always
      fun r frames => RegistryBase r frames ∧
        ∀ serviceId < 2 ^ 32, OwnersBook (sheet r.store serviceId) :=
    (registryBase_preserved (D := currentIdsDiscipline) fun _ _ allowed => allowed.1).join
      (ownersBook_preserved (fun _ _ allowed => allowed.1) fun _ _ allowed => allowed.2)
  have lifted : Preserved (systemMachine setup) (listedDiscipline setup) (ManagerShape setup)
      fun w frames => RegistryBase w.registry (frames.flatMap registryFrame) ∧
        ∀ serviceId < 2 ^ 32, OwnersBook (sheet w.registry.store serviceId) := by
    refine registrations_lift books ?_ ?_ fun _ _ _ => trivial
    · intro call w passed allowed passes registers
      exact ⟨passed_bounded allowed.1.2 passes, namesListed_current allowed.2 registers _ rfl⟩
    · intro frame answer w passed allowed forwarded registers
      refine ⟨?_, namesListed_current allowed registers _ rfl⟩
      cases forwarded with
      | create asked => cases asked
      | _ => trivial
  have bases : Preserved (systemMachine setup) (listedDiscipline setup) always
      (SystemBase setup) :=
    (systemBase_preserved setup).restrict (fun _ _ allowed => allowed.1) fun _ _ _ _ => trivial
  intro w frames w' frames' taken _ before
  exact ⟨bases _ _ _ _ taken trivial before.1,
    (lifted _ _ _ _ taken before.1.shape ⟨before.1.registry, before.2⟩).2⟩

theorem systemOwners_fresh {first : SystemWorld} (fresh : Fresh setup first) :
    SystemBase setup first [] ∧
      ∀ serviceId < 2 ^ 32, OwnersBook (sheet first.registry.store serviceId) := by
  have known := fresh.managed
  obtain ⟨⟨deployer, registry⟩, -, -⟩ := fresh
  refine ⟨⟨known.shape, known.registry, ?_⟩, ?_⟩
  · rw [registry]
    exact enrolled_deployment deployer
  · intro serviceId _
    rw [registry]
    exact ownersBook_deployment deployer serviceId

/-- The two restrictions on a run, in the system with the staking contract. -/
theorem listed_bounded {self : Address} {η : Type}
    {Q P : StakedWorld × List η → List StakedFrame → Prop}
    {M : Machine (StakedWorld × List η) StakedCall StakedFrame SystemAnswer
      (Revert ⊕ StakingError)}
    (keep : Preserved M (stakedDiscipline self (boundedDiscipline setup)).logged Q P) :
    Preserved M (stakedDiscipline self (listedDiscipline setup)).logged Q P := by
  refine keep.restrict ?_ ?_
  · rintro (call | call) w allowed
    · exact ⟨allowed.1.1, allowed.2⟩
    · exact allowed
  · rintro (frame | frame) answer w allowed <;> trivial

end Listed

/-- Everything the registry says of a service is as it was when it was staked, and the
service is deployed with the multisig of its record. -/
structure HeldAsStaked (w : StakedWorld) (serviceId : Nat) (s : RegistryState) : Prop where
  deployed : (w.system.registry.store.mapServices serviceId).state = .deployed
  multisig : (w.system.registry.store.mapServices serviceId).multisig =
    (w.staking.mapServiceInfo serviceId).multisig
  service : w.system.registry.store.mapServices serviceId = s.mapServices serviceId
  params : ∀ agentId, w.system.registry.store.mapServiceAndAgentIdAgentParams
      (serviceAgent serviceId agentId) =
    s.mapServiceAndAgentIdAgentParams (serviceAgent serviceId agentId)
  lists : ∀ agentId, w.system.registry.store.mapServiceAndAgentIdAgentInstances
      (serviceAgent serviceId agentId) =
    s.mapServiceAndAgentIdAgentInstances (serviceAgent serviceId agentId)
  engaged : ∀ agentId, ∀ a ∈ s.mapServiceAndAgentIdAgentInstances
      (serviceAgent serviceId agentId),
    w.system.registry.store.mapAgentInstanceOperators a = s.mapAgentInstanceOperators a

/-- The instances on the lists of a deployed service are instances of its operators. -/
theorem OwnersBook.enlisted {t : ServiceSheet} (book : OwnersBook t)
    (held : t.service.state.holdsDeposit = true) {x : Uint32} {a : Address}
    (member : a ∈ t.lists x) : ∃ operator, a ∈ (t.operators operator).map AgentInstance.inst := by
  have listed : x ∈ t.service.agentIds := by
    by_contra outside
    rw [book.slots.outside x outside] at member
    cases member
  have counted : a ∈ t.service.agentIds.flatMap t.lists :=
    List.mem_flatMap.mpr ⟨x, listed, member⟩
  exact mem_total.mp (book.paired held ▸ Multiset.mem_coe.mpr counted)

theorem StakedAs.held {w : StakedWorld} {id : Nat} {s : RegistryState} (staked : StakedAs w id s)
    (book : OwnersBook (sheet w.system.registry.store id)) : HeldAsStaked w id s := by
  refine ⟨staked.deployed, staked.multisig, staked.frozen.service, staked.frozen.params,
    staked.frozen.lists, ?_⟩
  intro agentId a member
  have now : a ∈ (sheet w.system.registry.store id).lists agentId := by
    rw [← staked.frozen.lists agentId] at member
    exact member
  have held : (w.system.registry.store.mapServices id).state.holdsDeposit = true := by
    rw [staked.deployed]
    rfl
  obtain ⟨operator, instances⟩ := book.enlisted held now
  refine staked.frozen.engaged operator a ?_
  rw [instancesIn, ← staked.frozen.operators operator]
  exact instances

/-- In every run of the registries and a staking contract in which registrations name only
listed Ids, a staked service is as it was when it was staked. -/
theorem staked_service_held (setup : Setup) {self : Address} (apart : self ≠ setup.self.val)
    {first : SystemWorld} (fresh : Fresh setup first) {start : StakedWorld}
    (before : Reachable (systemMachine setup) (listedDiscipline setup) first ⟨start.system, []⟩)
    (ready : start.stakingWorld.Fresh self)
    {c : Config (StakedWorld × List (Nat × RegistryState)) StakedFrame}
    (run : Reachable ((stakedMachine setup self).logged stakeNote)
      (stakedDiscipline self (listedDiscipline setup)).logged (start, []) c) {id : Nat}
    (staked : 0 < (c.state.1.staking.mapServiceInfo id).tsStart) :
    ∃ s, lastStake c.state.2 id = some s ∧ HeldAsStaked c.state.1 id s := by
  have valid : self ≠ 0 := ready.nonzero
  obtain ⟨base, books⟩ := before.invariant (systemOwners_preserved setup)
    (systemOwners_fresh fresh)
  have initial : StakedBase setup self start [] :=
    ⟨base, by simp, stakingBaseline_fresh ready⟩
  have unstaked : StakedBook start [] := by
    intro id staked
    exact absurd (StakingWorld.Fresh.unstaked ready id) staked.ne'
  have bases : Preserved ((stakedMachine setup self).logged stakeNote)
      (stakedDiscipline self (listedDiscipline setup)).logged always
      fun w frames => StakedBase setup self w.1 frames :=
    listed_bounded (stakedBase_preserved valid apart).logged
  obtain ⟨-, recorded⟩ := run.invariant
    (bases.join (listed_bounded (stakedBook_preserved valid apart))) ⟨initial, unstaked⟩
  have owners := staked_lift valid
    (fun owner recipient id w => (⟨bounded_transfer apart valid owner recipient id w, trivial⟩ :
      (listedDiscipline setup).call _ w)) (systemOwners_preserved setup)
  obtain ⟨⟨shape, registry, -⟩, books⟩ := run.invariant owners.logged ⟨base, books⟩
  obtain ⟨s, last, here⟩ := recorded id staked
  have bound : id < 2 ^ 32 := by
    have alive := registry.1.registered.of_state (by rw [here.deployed]; decide)
    exact lt_of_le_of_lt alive.2 registry.2
  exact ⟨s, last, here.held (books id bound)⟩

section Scripts

/-- The registries of the other scripts with the staking contract at address 5. -/
def exampleStaked : StakedWorld := ⟨exampleTakeover, sampleStaking.store, 1000, []⟩

theorem exampleStaked_fresh : exampleStaked.stakingWorld.Fresh 5 where
  nonzero := by decide
  clock := by decide
  setup := ⟨0, 1, false, rfl⟩
  guarded := ⟨fun _ => rfl, fun _ _ => rfl⟩
  keeps := ⟨fun _ => rfl, fun _ _ => rfl⟩
  unborn := rfl
  empty := rfl

/-- A service with one slot for agent Id 1, secured by ether. -/
def createScript (agentId : Uint32) : List (Move StakedCall SystemAnswer) :=
  [.call (.system (.manager (.create exampleOwner true 2 3 ServiceManager.ethTokenAddress 1
      [agentId] [⟨1, 2⟩] 1))),
    .answer ⟨⟨0, [], true⟩, ⟨true, 0⟩⟩]

/-- The service takes an instance for the agent Id. -/
def registerScript (serviceId : Nat) (instance_ : Address) (agentId : Uint32) :
    List (Move StakedCall SystemAnswer) :=
  [.call (.system (.manager (.activateRegistration exampleOwner 2 ⟨0, 0⟩ serviceId))),
    .call (.system (.manager (.registerAgents exampleOperator 2 true ⟨0, 0⟩ serviceId
      [instance_] [agentId])))]

/-- Service 1 is deployed with the multisig 9 and staked. -/
def stakeScript : List (Move StakedCall SystemAnswer) :=
  [.call (.system (.registry (.changeMultisigPermission registryOwner 8 true))),
    .call (.system (.manager (.deploy exampleOwner 1 8))),
    .answer ⟨⟨9, [], true⟩, ⟨true, 0⟩⟩,
    .call (.system (.registry (.approve exampleOwner 5 1))),
    .call (.staking (.receive sampleOwner 100000)),
    .call (.staking (.stake exampleOwner (activeAnswer 1) deployedView 1 0))]

/-- Another configuration, of which the previous one keeps its parameters. -/
def reconfigure (agentId : Uint32) : List (Move StakedCall SystemAnswer) :=
  [.call (.system (.manager (.update exampleOwner true 2 ServiceManager.ethTokenAddress 1
    [agentId] [⟨1, 2⟩] 1 1)))]

def leaveScript : List (Move StakedCall SystemAnswer) :=
  [.call (.system (.manager (.terminate exampleOwner 1))),
    .answer ⟨⟨0, [], true⟩, ⟨true, 0⟩⟩,
    .call (.system (.manager (.unbond exampleOperator 1))),
    .answer ⟨⟨0, [], true⟩, ⟨true, 0⟩⟩]

end Scripts

theorem staked_service_held_once :
    ∃ c, Reachable ((stakedMachine exampleSetup 5).logged stakeNote)
        (stakedDiscipline 5 (listedDiscipline exampleSetup)).logged (exampleStaked, []) c ∧
      0 < (c.state.1.staking.mapServiceInfo 1).tsStart ∧
      ∃ s, lastStake c.state.2 1 = some s ∧ HeldAsStaked c.state.1 1 s := by
  obtain ⟨c, run, staked⟩ := Machine.play_observed
    (stakedDiscipline 5 (listedDiscipline exampleSetup)).logged
    ((stakedMachine exampleSetup 5).logged stakeNote) (exampleStaked, [])
    (createScript 1 ++ registerScript 1 15 1 ++ stakeScript)
    (fun c => (c.state.1.staking.mapServiceInfo 1).tsStart) 1000 (by decide +kernel)
  have positive : 0 < (c.state.1.staking.mapServiceInfo 1).tsStart := by
    rw [staked]
    decide
  exact ⟨c, run, positive, staked_service_held exampleSetup (by decide) exampleTakeover_fresh .start
    exampleStaked_fresh run positive⟩

/-- In every run of the registries and a staking contract, whatever agent Ids are registered
for: a staked service is deployed with the multisig of its record, and its record, its
parameters, the lists of its instances, who registered them and whom those are engaged with
are as they were at its last stake. -/
theorem staked_record_frozen (setup : Setup) {self : Address} (apart : self ≠ setup.self.val)
    {first : SystemWorld} (fresh : Fresh setup first) {start : StakedWorld}
    (before : Reachable (systemMachine setup) (boundedDiscipline setup) first ⟨start.system, []⟩)
    (ready : start.stakingWorld.Fresh self)
    {c : Config (StakedWorld × List (Nat × RegistryState)) StakedFrame}
    (run : Reachable ((stakedMachine setup self).logged stakeNote)
      (stakedDiscipline self (boundedDiscipline setup)).logged (start, []) c) {id : Nat}
    (staked : 0 < (c.state.1.staking.mapServiceInfo id).tsStart) :
    ∃ s, lastStake c.state.2 id = some s ∧ StakedAs c.state.1 id s := by
  have valid : self ≠ 0 := ready.nonzero
  have base := before.invariant (systemBase_preserved setup) (systemOwners_fresh fresh).1
  have initial : StakedBase setup self start [] :=
    ⟨base, by simp, stakingBaseline_fresh ready⟩
  have unstaked : StakedBook start [] := by
    intro id staked
    exact absurd (StakingWorld.Fresh.unstaked ready id) staked.ne'
  obtain ⟨-, recorded⟩ := run.invariant
    ((stakedBase_preserved valid apart).logged.join (stakedBook_preserved valid apart))
    ⟨initial, unstaked⟩
  exact recorded id staked

/-- Also where the last registration named an Id the service does not list. -/
theorem staked_record_frozen_stale :
    ∃ c, Reachable ((stakedMachine exampleSetup 5).logged stakeNote)
        (stakedDiscipline 5 (boundedDiscipline exampleSetup)).logged (exampleStaked, []) c ∧
      (c.state.1.system.registry.store.mapOperatorAndServiceIdAgentInstances
        (operatorService 4 1)) = [⟨16, 1⟩] ∧
      (c.state.1.system.registry.store.mapServices 1).agentIds = [2] ∧
      ∃ s, lastStake c.state.2 1 = some s ∧ StakedAs c.state.1 1 s := by
  obtain ⟨c, run, seen⟩ := Machine.play_observed
    (stakedDiscipline 5 (boundedDiscipline exampleSetup)).logged
    ((stakedMachine exampleSetup 5).logged stakeNote) (exampleStaked, [])
    (createScript 2 ++ reconfigure 1 ++ registerScript 1 15 2 ++ leaveScript ++ reconfigure 2 ++
      registerScript 1 16 1 ++ stakeScript)
    (fun c => ((c.state.1.staking.mapServiceInfo 1).tsStart,
      c.state.1.system.registry.store.mapOperatorAndServiceIdAgentInstances (operatorService 4 1),
      (c.state.1.system.registry.store.mapServices 1).agentIds)) (1000, [⟨16, 1⟩], [2])
    (by decide +kernel)
  obtain ⟨staked, seen⟩ := Prod.mk.inj seen
  obtain ⟨instances, ids⟩ := Prod.mk.inj seen
  refine ⟨c, run, instances, ids, ?_⟩
  exact staked_record_frozen exampleSetup (by decide) exampleTakeover_fresh .start
    exampleStaked_fresh run (by rw [staked]; decide)

/-- Instance 15 registers against the dropped Id 2 and leaves, but stays on the list of Id 2.
The service returns to Id 2 and is completed by an instance for the dropped Id 1. Its only
owner is then 15, which is free, and after the stake registers with another service. -/
theorem staked_service_instance_moves :
    ¬ ∀ c, Reachable ((stakedMachine exampleSetup 5).logged stakeNote)
        (stakedDiscipline 5 (boundedDiscipline exampleSetup)).logged (exampleStaked, []) c →
      ∀ id, 0 < (c.state.1.staking.mapServiceInfo id).tsStart →
        ∃ s, lastStake c.state.2 id = some s ∧ HeldAsStaked c.state.1 id s := by
  intro claim
  obtain ⟨c, run, seen⟩ := Machine.play_observed
    (stakedDiscipline 5 (boundedDiscipline exampleSetup)).logged
    ((stakedMachine exampleSetup 5).logged stakeNote) (exampleStaked, [])
    (createScript 2 ++ reconfigure 1 ++ registerScript 1 15 2 ++ leaveScript ++ reconfigure 2 ++
      registerScript 1 16 1 ++ stakeScript ++ createScript 1 ++ registerScript 2 15 1)
    (fun c => ((c.state.1.staking.mapServiceInfo 1).tsStart,
      c.state.1.system.registry.store.mapAgentInstanceOperators 15,
      (lastStake c.state.2 1).map fun s =>
        (s.mapServiceAndAgentIdAgentInstances (serviceAgent 1 2), s.mapAgentInstanceOperators 15)))
    (1000, 4, some ([15], 0)) (by decide +kernel)
  obtain ⟨staked, seen⟩ := Prod.mk.inj seen
  obtain ⟨now, snapshot⟩ := Prod.mk.inj seen
  obtain ⟨s, last, held⟩ := claim c run 1 (by rw [staked]; decide)
  rw [last] at snapshot
  obtain ⟨list, free⟩ := Prod.mk.inj (Option.some.inj snapshot)
  have same := held.engaged 2 15 (by rw [list]; exact List.mem_cons_self)
  rw [now, free] at same
  exact absurd same (by decide)

end AutonolasRegistries.Guarantees
