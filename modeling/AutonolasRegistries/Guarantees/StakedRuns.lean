import AutonolasRegistries.Guarantees.EscrowRuns
import AutonolasRegistries.Guarantees.ServiceIsolation
import AutonolasRegistries.Guarantees.StakingRuns
import AutonolasRegistries.Source.StakingSystem

/-!
# The registries and a staking contract side by side

For the registries, the staking contract is one more account that transfers services; for
the staking contract, the registries are somebody who mints and moves services. So what
was proved of either alone holds of both together.
-/
namespace AutonolasRegistries.Guarantees
open Library Source

/-- The suspended call of the registries behind a suspended call of the whole system. -/
def systemFrames : StakedFrame → List SystemFrame
  | .system frame => [frame]
  | .staking _ => []

def stakingFrames : StakedFrame → List StakingFrame
  | .system _ => []
  | .staking frame => [frame]

/-- What is assumed of the registries' calls, and that the staking contract makes no calls
besides those of its own code. -/
def stakedDiscipline (self : Address)
    (D : Discipline SystemWorld SystemCall SystemFrame SystemAnswer) :
    Discipline StakedWorld StakedCall StakedFrame SystemAnswer where
  call call w :=
    match call with
    | .system call => D.call call w.system ∧ call.sender.val ≠ self
    | .staking call => call.sender ≠ some self
  answer frame answer w :=
    match frame with
    | .system frame => D.answer frame answer w.system
    | .staking _ => True

section Decidable
variable (self : Address) (D : Discipline SystemWorld SystemCall SystemFrame SystemAnswer)
  [∀ call w, Decidable (D.call call w)] [∀ frame answer w, Decidable (D.answer frame answer w)]

instance (call : StakedCall) (w : StakedWorld) :
    Decidable ((stakedDiscipline self D).call call w) :=
  match call with
  | .system call => inferInstanceAs (Decidable (D.call call w.system ∧ call.sender.val ≠ self))
  | .staking call => inferInstanceAs (Decidable (call.sender ≠ some self))

instance (frame : StakedFrame) (answer : SystemAnswer) (w : StakedWorld) :
    Decidable ((stakedDiscipline self D).answer frame answer w) :=
  match frame with
  | .system frame => inferInstanceAs (Decidable (D.answer frame answer w.system))
  | .staking _ => .isTrue trivial

end Decidable

section Inversion
variable {setup : Setup} {self : Address} {w : StakedWorld}
  {out : Outcome StakedWorld StakedFrame}

theorem inSystem_eq_ok {run : SystemRun} (ran : w.inSystem run = .ok out) :
    ∃ inner, run = .ok inner ∧ out = inner.embed w.withSystem .system := by
  cases run with
  | error reason => cases ran
  | ok inner =>
    cases ran
    exact ⟨inner, rfl, rfl⟩

theorem inStaking_eq_ok {run : Except StakingError (Outcome StakingWorld StakingFrame)}
    (ran : w.inStaking run = .ok out) :
    ∃ inner, run = .ok inner ∧ out = inner.embed w.withStaking .staking := by
  cases run with
  | error reason => cases ran
  | ok inner =>
    cases ran
    exact ⟨inner, rfl, rfl⟩

/-- The calls that reach the staking contract, and the time that passes. -/
def StakingCall.own : StakingCall → Bool
  | .mint .. | .approve .. | .setApprovalForAll .. | .transferFrom .. => false
  | _ => true

theorem staking_entered {call : StakingCall}
    (ran : StakedWorld.enter setup self (.staking call) w = .ok out) :
    StakingCall.own call = true ∧ ∃ inner,
      StakingWorld.enter self (w.reading call) w.stakingWorld = .ok inner ∧
        out = inner.embed w.withStaking .staking := by
  cases call with
  | mint | approve | setApprovalForAll | transferFrom => cases ran
  | tick | deposit | receive | checkpoint | stake | unstake | claim =>
    exact ⟨rfl, inStaking_eq_ok ran⟩

theorem reading_own {call : StakingCall} (own : StakingCall.own call = true) :
    StakingCall.own (w.reading call) = true := by
  cases call <;> first | rfl | cases own

theorem reading_sender (call : StakingCall) : (w.reading call).sender = call.sender := by
  cases call <;> rfl

/-- Either half of the system writes nothing of the other's but the NFT. -/
@[simp] theorem withSystem_system (s : SystemWorld) : (w.withSystem s).system = s := rfl
@[simp] theorem withSystem_staking (s : SystemWorld) : (w.withSystem s).staking = w.staking := rfl

end Inversion

/-- The manager is the registry's only manager, and the bound on the service Ids. -/
def boundedDiscipline (setup : Setup) :
    Discipline SystemWorld SystemCall SystemFrame SystemAnswer where
  call call w := (soleDiscipline setup).call call w ∧
    (SystemCall.mints call = true → w.registry.store.totalSupply + 1 < 2 ^ 32)
  answer _ _ _ := True

instance (setup : Setup) (call : SystemCall) (w : SystemWorld) :
    Decidable ((boundedDiscipline setup).call call w) :=
  inferInstanceAs (Decidable ((soleDiscipline setup).call call w ∧
    (SystemCall.mints call = true → w.registry.store.totalSupply + 1 < 2 ^ 32)))

instance (setup : Setup) (frame : SystemFrame) (answer : SystemAnswer) (w : SystemWorld) :
    Decidable ((boundedDiscipline setup).answer frame answer w) := .isTrue trivial

/-- What is known of the registries at every piece of code. -/
structure SystemBase (setup : Setup) (w : SystemWorld) (frames : List SystemFrame) : Prop where
  shape : ManagerShape setup w frames
  registry : RegistryBase w.registry (frames.flatMap registryFrame)
  roster : Enrolled w.registry.store

section Base
variable {setup : Setup}

/-- A call that goes through names a real operator if the manager's calls do. -/
theorem real_operator {edition : Edition} {r : RegistryWorld} {call : RegistryCall}
    {out : Outcome RegistryWorld RegistryFrame} (taken : RegistryTransition edition r call out)
    (manager : r.store.manager = call.sender → RealOperator call) : RealOperator call := by
  cases taken with
  | registerAgents ran =>
    obtain ⟨-, ⟨own, -⟩, -⟩ := ServiceRegistry.registerAgents_ok ran
    exact manager own
  | administer kind => cases call <;> trivial
  | _ => trivial

theorem registryPart_enrolled {edition : Edition} {allowed : RegistryCall → Prop}
    {r r' : RegistryWorld} {before after rest : List RegistryFrame}
    (base : RegistryBase r (before ++ rest)) (roster : Enrolled r.store)
    (real : ∀ call, allowed call → r.store.manager = call.sender → RealOperator call)
    (part : RegistryPart edition allowed r before r' after) : Enrolled r'.store := by
  cases part with
  | untouched => exact roster
  | called permitted ran =>
    have taken := RegistryWorld.enter_transition base.1.registered.guarded ran
    exact roster.enter base.1.registered base.2 (real_operator taken (real _ permitted)) taken
  | resumed ran => exact roster.resume ran

theorem Forwarded.real {actor : Address} {creates : Bool} {passed : RegistryCall}
    (forwarded : Forwarded setup actor creates passed) : RealOperator passed := by
  cases forwarded with
  | registerAgents someone => exact someone
  | _ => trivial

/-- The manager passes on real operators, and nobody else is the manager. -/
theorem passed_real {w : SystemWorld} {call : SystemCall} {passed : RegistryCall}
    (authority : w.registry.store.manager = setup.self) (outside : call.sender ≠ setup.self)
    (passes : Passed setup call passed) (manager : w.registry.store.manager = passed.sender) :
    RealOperator passed := by
  rcases passes with rfl | forwarded
  · exact absurd (Subtype.ext (manager.symm.trans authority)) outside
  · exact forwarded.real

theorem systemBase_preserved (setup : Setup) :
    Preserved (systemMachine setup) (boundedDiscipline setup) always (SystemBase setup) := by
  have shapes : Preserved (systemMachine setup) (boundedDiscipline setup) always
      (ManagerShape setup) :=
    (managerShape_preserved setup).restrict (fun _ _ allowed => allowed.1) fun _ _ _ _ => trivial
  have registries : Preserved (systemMachine setup) (boundedDiscipline setup)
      (ManagerShape setup) fun w frames => RegistryBase w.registry (frames.flatMap registryFrame) := by
    refine registry_lift (D := ⟨Bounded, fun _ _ _ => True⟩)
      (registryBase_preserved fun _ _ allowed => allowed) ?_ ?_ fun _ _ _ => trivial
    · exact fun call w passed allowed passes => passed_bounded allowed.2 passes
    · intro actor passed r forwarded
      cases forwarded with
      | create asked => cases asked
      | _ => trivial
  intro w frames w' frames' taken _ before
  refine ⟨shapes _ _ _ _ taken trivial before.shape,
    registries _ _ _ _ taken before.shape before.registry, ?_⟩
  cases taken with
  | entered call allowed ran =>
    have registry : RegistryBase w.registry ([] ++ frames.flatMap registryFrame) :=
      before.registry
    exact registryPart_enrolled registry before.roster
      (fun passed => passed_real before.shape.authority allowed.1.1)
      (move_registryPart (SystemWorld.enter_move ran))
  | @resumed frame rest out answer allowed ran =>
    have registry := before.registry
    rw [List.flatMap_cons] at registry
    refine registryPart_enrolled registry before.roster ?_ (return_registryPart
      (before.shape.real frame List.mem_cons_self) (SystemWorld.resume_return ran))
    exact fun passed forwarded _ => forwarded.real

end Base

section Transfers
variable {self : Address} {w : StakingWorld} {out : Outcome StakingWorld StakingFrame}

/-- What the code of the staking contract does with the NFT. -/
def Transfers (self : Address) (w w' : StakingWorld) : Prop :=
  w'.supply = w.supply ∧ (w'.nft = w.nft ∨ ∃ owner recipient id,
    w.nft.transferFrom self owner recipient id = .ok w'.nft)

theorem giveBack_transfers {w' : StakingWorld} {serviceId : Nat} {owner : Address}
    (ran : w.giveBack self serviceId owner = .ok w') : Transfers self w w' := by
  simp only [StakingWorld.giveBack, bind_eq_ok, StakingBase.tokenCall_eq_ok, pure_eq_ok] at ran
  obtain ⟨nft, moved, rfl⟩ := ran
  exact ⟨rfl, .inr ⟨_, _, _, moved⟩⟩

theorem withdraw_transfers {l : Withdrawal} (ran : w.withdraw self l = .ok out) :
    Transfers self w out.state := by
  rw [StakingWorld.withdraw] at ran
  split at ran
  · split at ran
    · cases ran
      exact ⟨rfl, .inl rfl⟩
    · simp only [bind_eq_ok, pure_eq_ok] at ran
      obtain ⟨w', back, rfl⟩ := ran
      have given := giveBack_transfers back
      exact given
  · simp only [bind_eq_ok, pure_eq_ok] at ran
    obtain ⟨_, -, rfl⟩ := ran
    exact ⟨rfl, .inl rfl⟩

theorem enter_transfers {call : StakingCall} (own : StakingCall.own call = true)
    (ran : StakingWorld.enter self call w = .ok out) : Transfers self w out.state := by
  cases call with
  | mint | approve | setApprovalForAll | transferFrom => cases own
  | tick elapsed =>
    cases ran
    exact ⟨rfl, .inl rfl⟩
  | deposit sender amount =>
    simp only [StakingWorld.enter] at ran
    split at ran
    · simp only [bind_eq_ok, pure_eq_ok] at ran
      obtain ⟨s, -, rfl⟩ := ran
      exact ⟨rfl, .inl rfl⟩
    · cases ran
  | receive sender value =>
    simp only [StakingWorld.enter] at ran
    split at ran
    · cases ran
    · simp only [bind_eq_ok, pure_eq_ok] at ran
      obtain ⟨s, -, rfl⟩ := ran
      exact ⟨rfl, .inl rfl⟩
  | checkpoint sender answers =>
    simp only [StakingWorld.enter, bind_eq_ok, Prod.exists, pure_eq_ok] at ran
    obtain ⟨_, -, _, _, -, rfl⟩ := ran
    exact ⟨rfl, .inl rfl⟩
  | stake sender answers view serviceId info =>
    simp only [StakingWorld.enter, bind_eq_ok, Prod.exists, pure_eq_ok] at ran
    obtain ⟨s', nft, result, staked, rfl⟩ := ran
    obtain ⟨-, _, _, -, -, -, -, moved, -⟩ := StakingBase.stake_spec staked
    exact ⟨rfl, .inr ⟨_, _, _, moved⟩⟩
  | unstake sender answers view serviceId enforced =>
    simp only [StakingWorld.enter, bind_eq_ok, Prod.exists] at ran
    obtain ⟨s', payout, -, ran⟩ := ran
    split at ran
    · have paid := withdraw_transfers ran
      exact paid
    · simp only [bind_eq_ok, pure_eq_ok] at ran
      obtain ⟨w', back, rfl⟩ := ran
      have given := giveBack_transfers back
      exact given
  | claim sender answers view serviceId execCheckPoint =>
    simp only [StakingWorld.enter, bind_eq_ok, Prod.exists] at ran
    obtain ⟨s', payout, -, ran⟩ := ran
    have paid := withdraw_transfers ran
    exact paid

theorem resume_transfers {frame : StakingFrame}
    (ran : StakingWorld.resume self frame () w = .ok out) : Transfers self w out.state := by
  cases frame with
  | deposit =>
    cases ran
    exact ⟨rfl, .inl rfl⟩
  | withdraw l => exact withdraw_transfers ran

end Transfers

section Registries
variable {setup : Setup} {self : Address} {w w' : StakedWorld}
  {frames frames' : List StakedFrame}
  {D : Discipline SystemWorld SystemCall SystemFrame SystemAnswer}

/-- The transfers of the staking contract are calls of the registry. -/
theorem transfers_system {s : StakingWorld} (valid : self ≠ 0)
    (allowed : ∀ owner recipient id,
      D.call (.registry (.transferFrom ⟨self, valid⟩ owner recipient id)) w.system)
    (moved : Transfers self w.stakingWorld s) (open_ : List SystemFrame) :
    Locals (systemMachine setup) D w.system open_ (w.withStaking s).system open_ := by
  rcases moved.2 with same | ⟨owner, recipient, id, moved⟩
  · have still : (w.withStaking s).system = w.system := by
      simp only [StakedWorld.withStaking, same]
      rfl
    rw [still]
    exact .refl
  · have called : (systemMachine setup).enter
        (.registry (.transferFrom ⟨self, valid⟩ owner recipient id)) w.system =
          .ok (.done (w.withStaking s).system) := by
      change w.system.registry.store.erc721.transferFrom self owner recipient id = .ok s.nft at moved
      simp only [systemMachine, SystemWorld.enter, RegistryWorld.enter, RegistryWorld.finish, moved,
        ok_bind]
      rfl
    exact .tail .refl (.entered _ (allowed owner recipient id) called)

/-- Seen from the registries, every piece of code is some of their own. -/
theorem staked_projects (valid : self ≠ 0)
    (allowed : ∀ owner recipient id w,
      D.call (.registry (.transferFrom ⟨self, valid⟩ owner recipient id)) w) :
    Projects (stakedMachine setup self) (stakedDiscipline self D) (systemMachine setup) D
      StakedWorld.system systemFrames := by
  intro w frames w' frames' taken
  cases taken with
  | entered call permitted ran =>
    cases call with
    | system call =>
      obtain ⟨inner, entered, rfl⟩ := inSystem_eq_ok ran
      rw [Outcome.state_embed, Outcome.pending_embed, frames_own fun _ => rfl]
      exact .tail .refl (.entered call permitted.1 entered)
    | staking call =>
      obtain ⟨own, inner, entered, rfl⟩ := staking_entered ran
      rw [Outcome.state_embed, Outcome.pending_embed, frames_other fun _ => rfl]
      exact transfers_system valid (fun _ _ _ => allowed _ _ _ _)
        (enter_transfers (reading_own own) entered) _
  | @resumed frame rest _ answer permitted ran =>
    cases frame with
    | system frame =>
      obtain ⟨inner, resumed, rfl⟩ := inSystem_eq_ok ran
      rw [Outcome.state_embed, Outcome.pending_embed, frames_own fun _ => rfl]
      exact .tail .refl (.resumed answer permitted resumed)
    | staking frame =>
      obtain ⟨inner, resumed, rfl⟩ := inStaking_eq_ok ran
      rw [Outcome.state_embed, Outcome.pending_embed, frames_other fun _ => rfl]
      exact transfers_system valid (fun _ _ _ => allowed _ _ _ _) (resume_transfers resumed) _

/-- An invariant of the registries is one of the whole system. -/
theorem staked_lift {P : SystemWorld → List SystemFrame → Prop} (valid : self ≠ 0)
    (allowed : ∀ owner recipient id w,
      D.call (.registry (.transferFrom ⟨self, valid⟩ owner recipient id)) w)
    (keep : Preserved (systemMachine setup) D always P) :
    Preserved (stakedMachine setup self) (stakedDiscipline self D) always
      fun w frames => P w.system (frames.flatMap systemFrames) :=
  keep.lift (staked_projects valid allowed)

end Registries

section Staking
variable {setup : Setup} {self : Address}

/-- What a call of the registry is for the NFT. -/
def nftCall : RegistryCall → Option StakingCall
  | .create _ serviceOwner .. => some (.mint serviceOwner)
  | .approve sender spender id => some (.approve sender spender id)
  | .setApprovalForAll sender operator approved => some (.setApprovalForAll sender operator approved)
  | .transferFrom sender owner recipient id => some (.transferFrom sender owner recipient id)
  | _ => none

/-- The staking contract's world with the NFT of a registry. -/
def StakingWorld.over (w : StakingWorld) (r : RegistryState) : StakingWorld :=
  { w with nft := r.erc721, supply := r.totalSupply }

/-- What a call of the registry did to the NFT, if anything. -/
def NftMoved (self : Address) (w : StakingWorld) (call : RegistryCall) (s s' : RegistryState) :
    Prop :=
  (nftCall call = none ∧ StakingWorld.over w s' = StakingWorld.over w s) ∨
    ∃ moved, nftCall call = some moved ∧
      StakingWorld.enter self moved (StakingWorld.over w s) =
        .ok (.done (StakingWorld.over w s'))

theorem administer_nft {edition : Edition} {r : RegistryWorld} {call : RegistryCall}
    {out : Outcome RegistryWorld RegistryFrame} (kind : call.administrative = true)
    (ran : r.enter edition call = .ok out) (w : StakingWorld) :
    NftMoved self w call r.store out.state.store := by
  cases call with
  | approve sender spender id =>
    obtain ⟨s, run, rfl⟩ := RegistryWorld.finish_eq_ok.mp ran
    simp only [bind_eq_ok, pure_eq_ok] at run
    obtain ⟨t, moved, rfl⟩ := run
    refine .inr ⟨_, rfl, ?_⟩
    simp only [StakingWorld.enter, StakingWorld.over, StakingWorld.token, moved]
    rfl
  | setApprovalForAll sender operator approved =>
    cases ran
    exact .inr ⟨_, rfl, rfl⟩
  | transferFrom sender owner recipient id =>
    obtain ⟨s, run, rfl⟩ := RegistryWorld.finish_eq_ok.mp ran
    simp only [bind_eq_ok, pure_eq_ok] at run
    obtain ⟨t, moved, rfl⟩ := run
    refine .inr ⟨_, rfl, ?_⟩
    simp only [StakingWorld.enter, StakingWorld.over, StakingWorld.token, moved]
    rfl
  | changeOwner | changeManager | changeDrainer | changeMultisigPermission =>
    obtain ⟨s, run, rfl⟩ := RegistryWorld.finish_eq_ok.mp ran
    simp only [ServiceRegistry.changeOwner, ServiceRegistry.changeManager,
      ServiceRegistry.changeDrainer, ServiceRegistry.changeMultisigPermission,
      revertIf_bind_eq_ok, pure_eq_ok] at run
    obtain ⟨-, -, rfl⟩ := run
    exact .inl ⟨rfl, rfl⟩
  | _ => cases kind

theorem enter_nft {edition : Edition} {r : RegistryWorld} {call : RegistryCall}
    {out : Outcome RegistryWorld RegistryFrame} (registered : Registered r.store)
    (ran : r.enter edition call = .ok out) (w : StakingWorld) :
    NftMoved self w call r.store out.state.store := by
  have taken := RegistryWorld.enter_transition registered.guarded ran
  cases taken with
  | create run =>
    obtain ⟨⟨-, -, someone, -⟩, rfl, rfl⟩ := ServiceRegistry.create_ok run
    have fresh := (registered.unlisted _ (Or.inr (Nat.lt_succ_self _))).2
    have minted := ERC721.mint_eq_ok.mpr ⟨someone, fresh, rfl⟩
    refine .inr ⟨_, rfl, ?_⟩
    simp only [StakingWorld.enter, StakingWorld.over, minted]
    rfl
  | update run =>
    obtain ⟨-, -, -, -, rfl⟩ := ServiceRegistry.update_ok run
    exact .inl ⟨rfl, rfl⟩
  | activateRegistration run =>
    obtain ⟨-, rfl⟩ := ServiceRegistry.activateRegistration_ok run
    exact .inl ⟨rfl, rfl⟩
  | registerAgents run =>
    obtain ⟨-, -, rfl⟩ := ServiceRegistry.registerAgents_done run
    exact .inl ⟨rfl, rfl⟩
  | deploy run =>
    obtain ⟨-, -, rfl⟩ := ServiceRegistry.deploy_ok run
    exact .inl ⟨rfl, rfl⟩
  | slash run =>
    obtain ⟨-, -, rfl, -⟩ := ServiceRegistry.slashLoop_frame (ServiceRegistry.slash_ok run).2
    exact .inl ⟨rfl, rfl⟩
  | terminate run =>
    obtain ⟨-, -, -, -, rfl⟩ := ServiceRegistry.terminate_ok run
    exact .inl ⟨rfl, rfl⟩
  | unbond run =>
    obtain ⟨-, -, -, -, rfl⟩ := ServiceRegistry.unbond_ok run
    rw [RegistryWorld.refunding_store]
    split <;> exact .inl ⟨rfl, rfl⟩
  | drain run =>
    obtain ⟨-, -, rfl⟩ := ServiceRegistry.drain_ok run
    rw [RegistryWorld.refunding_store]
    split <;> exact .inl ⟨rfl, rfl⟩
  | administer kind => exact administer_nft kind ran w

/-- Seen from the staking contract, a piece of the registries' code is at most one step of
somebody else. -/
theorem registryPart_staking {edition : Edition} {allowed : RegistryCall → Prop}
    {r r' : RegistryWorld} {before after : List RegistryFrame} {frames : List StakingFrame}
    (registered : Registered r.store)
    (others : ∀ call moved, allowed call → nftCall call = some moved → moved.sender ≠ some self)
    (part : RegistryPart edition allowed r before r' after) (w : StakingWorld) :
    Locals (stakingMachine self) (stakingDiscipline self) (StakingWorld.over w r.store) frames
      (StakingWorld.over w r'.store) frames := by
  cases part with
  | untouched => exact .refl
  | called permitted ran =>
    have moves : NftMoved self w _ _ _ := enter_nft registered ran w
    rcases moves with ⟨-, same⟩ | ⟨moved, asked, entered⟩
    · rw [same]
      exact .refl
    · have taken : Local (stakingMachine self) (stakingDiscipline self)
          (StakingWorld.over w r.store) frames _ _ :=
        .entered moved (others _ _ permitted asked) entered
      exact .tail .refl taken
  | resumed ran => cases RegistryWorld.resume_return ran <;> exact .refl

theorem stakingWorld_withStaking {w : StakedWorld} {s : StakingWorld}
    (supply : s.supply = w.stakingWorld.supply) : (w.withStaking s).stakingWorld = s := by
  have same : w.system.registry.store.totalSupply = s.supply := supply.symm
  simp only [StakedWorld.stakingWorld, StakedWorld.withStaking, SystemWorld.withRegistry, same]

/-- The registries' code leaves the staking contract to its own invariants. -/
theorem staking_locals {D : Discipline SystemWorld SystemCall SystemFrame SystemAnswer}
    {w w' : StakedWorld} {frames frames' : List StakedFrame}
    (base : SystemBase setup w.system (frames.flatMap systemFrames))
    (taken : Local (stakedMachine setup self) (stakedDiscipline self D) w frames w' frames') :
    Locals (stakingMachine self) (stakingDiscipline self) w.stakingWorld
      (frames.flatMap stakingFrames) w'.stakingWorld (frames'.flatMap stakingFrames) := by
  have registered := base.registry.1.registered
  cases taken with
  | entered call permitted ran =>
    cases call with
    | system call =>
      obtain ⟨inner, entered, rfl⟩ := inSystem_eq_ok ran
      rw [Outcome.state_embed, Outcome.pending_embed, frames_other fun _ => rfl]
      refine registryPart_staking registered ?_
        (move_registryPart (SystemWorld.enter_move entered)) w.stakingWorld
      intro passed moved passes asked
      rcases passes with rfl | forwarded
      · have outside := permitted.2
        cases passed <;> cases asked <;> simp_all [StakingCall.sender, SystemCall.sender,
          RegistryCall.sender]
      · cases forwarded <;> cases asked
        simp [StakingCall.sender]
    | staking call =>
      obtain ⟨own, inner, entered, rfl⟩ := staking_entered ran
      rw [Outcome.state_embed, Outcome.pending_embed, frames_own fun _ => rfl]
      have supply := (enter_transfers (reading_own own) entered).1
      rw [stakingWorld_withStaking supply]
      refine .tail .refl (.entered (w.reading call) ?_ entered)
      exact (reading_sender call).trans_ne permitted
  | @resumed frame rest _ answer permitted ran =>
    cases frame with
    | system frame =>
      obtain ⟨inner, resumed, rfl⟩ := inSystem_eq_ok ran
      rw [Outcome.state_embed, Outcome.pending_embed, frames_other fun _ => rfl]
      refine registryPart_staking registered ?_ (return_registryPart
        (base.shape.real frame List.mem_cons_self) (SystemWorld.resume_return resumed))
        w.stakingWorld
      intro passed moved forwarded asked
      cases forwarded <;> cases asked
      simp [StakingCall.sender]
    | staking frame =>
      obtain ⟨inner, resumed, rfl⟩ := inStaking_eq_ok ran
      rw [Outcome.state_embed, Outcome.pending_embed, frames_own fun _ => rfl]
      have supply := (resume_transfers resumed).1
      rw [stakingWorld_withStaking supply]
      exact .tail .refl (.resumed () trivial resumed)

end Staking

section Actors
variable {setup : Setup} {w w' : SystemWorld} {pending : List SystemFrame}

/-- The manager waits on behalf of whoever called it. -/
theorem move_actor {call : SystemCall} (move : SystemMove setup w call w' pending) :
    ∀ frame ∈ pending, frameActor frame = 0 ∨ frameActor frame = call.sender := by
  cases move with
  | updateEth | updateToken | activate | register | bindMultisig | administer => simp
  | createEth | createToken | deploy | terminate | registerToken | unbondToken =>
    simp [frameActor]
  | activateToken | terminateToken => simp [frameActor]
  | unbond | registry | utility =>
    intro frame member
    obtain ⟨inner, -, rfl⟩ := List.mem_map.mp member
    exact .inl rfl

theorem return_actor {frame : SystemFrame} {answer : SystemAnswer}
    (move : SystemReturn setup w answer frame w' pending) :
    ∀ next ∈ pending, frameActor next = 0 := by
  intro next member
  rcases move.waits member with ⟨_, rfl⟩ | ⟨_, rfl⟩ <;> rfl

end Actors

/-- What holds of the registries and the staking contract together at every external call. -/
structure StakedBase (setup : Setup) (contract : Address) (w : StakedWorld)
    (frames : List StakedFrame) : Prop where
  system : SystemBase setup w.system (frames.flatMap systemFrames)
  -- The manager never acts for the staking contract.
  others : ∀ frame ∈ frames.flatMap systemFrames, frameActor frame ≠ contract
  staking : StakingBaseline contract w.stakingWorld (frames.flatMap stakingFrames)

section Together
variable {setup : Setup} {self : Address}
  {D : Discipline SystemWorld SystemCall SystemFrame SystemAnswer}

/-- Calls of the staking contract as an account like any other. -/
theorem bounded_transfer (apart : self ≠ setup.self.val) (valid : self ≠ 0)
    (owner recipient : Address) (id : Nat) (w : SystemWorld) :
    (boundedDiscipline setup).call
      (.registry (.transferFrom ⟨self, valid⟩ owner recipient id)) w :=
  ⟨⟨fun same => apart (congrArg Subtype.val same), trivial⟩, fun minted => by cases minted⟩

theorem actors_preserved (valid : self ≠ 0) :
    Preserved (stakedMachine setup self) (stakedDiscipline self D) always
      fun _ frames => ∀ frame ∈ frames.flatMap systemFrames, frameActor frame ≠ self := by
  intro w frames w' frames' taken _ before
  cases taken with
  | entered call permitted ran =>
    cases call with
    | system call =>
      obtain ⟨inner, entered, rfl⟩ := inSystem_eq_ok ran
      rw [Outcome.pending_embed, frames_own fun _ => rfl]
      intro frame member
      rcases List.mem_append.mp member with new | old
      · rcases move_actor (SystemWorld.enter_move entered) frame new with none | asked
        · exact none ▸ valid.symm
        · exact asked ▸ permitted.2
      · exact before frame old
    | staking call =>
      obtain ⟨own, inner, entered, rfl⟩ := staking_entered ran
      rw [Outcome.pending_embed, frames_other fun _ => rfl]
      exact before
  | @resumed frame rest _ answer permitted ran =>
    have below : ∀ next ∈ rest.flatMap systemFrames, frameActor next ≠ self := by
      intro next member
      refine before next ?_
      rw [List.flatMap_cons]
      exact List.mem_append_right _ member
    cases frame with
    | system frame =>
      obtain ⟨inner, resumed, rfl⟩ := inSystem_eq_ok ran
      rw [Outcome.pending_embed, frames_own fun _ => rfl]
      intro next member
      rcases List.mem_append.mp member with new | old
      · exact return_actor (SystemWorld.resume_return resumed) next new ▸ valid.symm
      · exact below next old
    | staking frame =>
      obtain ⟨inner, resumed, rfl⟩ := inStaking_eq_ok ran
      rw [Outcome.pending_embed, frames_other fun _ => rfl]
      exact below

theorem stakedBase_preserved (valid : self ≠ 0) (apart : self ≠ setup.self.val) :
    Preserved (stakedMachine setup self) (stakedDiscipline self (boundedDiscipline setup)) always
      (StakedBase setup self) := by
  intro w frames w' frames' taken _ before
  refine ⟨?_, actors_preserved valid _ _ _ _ taken trivial before.others, ?_⟩
  · exact staked_lift valid (bounded_transfer apart valid) (systemBase_preserved setup) _ _ _ _
      taken trivial before.system
  · exact (staking_locals before.system taken).keep (stakingBaseline_preserved valid)
      before.staking

end Together

end AutonolasRegistries.Guarantees
