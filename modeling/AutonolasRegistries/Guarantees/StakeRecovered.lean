import AutonolasRegistries.Guarantees.StakedCollateral
import AutonolasRegistries.Guarantees.StakingExit
import AutonolasRegistries.Guarantees.TokenExit

/-!
# What a staker gets back

A staking contract for a token takes services whose deposit is in that token, and while it
has a service nobody touches the deposit. When the minimum time is over, the owner takes the
service out by force, terminates it, and gets at least the least deposit of the staking
contract. `StakingBase.sol:883-958`, `StakingToken.sol:74-98`, `ServiceManager.sol:507-526`,
`ServiceRegistryTokenUtility.sol:474-503`.
-/
namespace AutonolasRegistries.Guarantees
open Library Source Model StakingBase

section Deposits
variable {e e' : Escrow} {id : Uint32}

/-- Nothing replaces the token or the deposit of a deployed service. -/
theorem deployed_deposit (step : e.Step e')
    (deployed : (e.folios id).service.service.state = .deployed) :
    (e'.folios id).tokens.token = (e.folios id).tokens.token ∧
      (e'.folios id).tokens.deposit = (e.folios id).tokens.deposit := by
  have written {target : Uint32} {f : Folio}
      (token : f.tokens.token = (e.folios target).tokens.token)
      (deposit : f.tokens.deposit = (e.folios target).tokens.deposit) :
      ((e.write target f).folios id).tokens.token = (e.folios id).tokens.token ∧
        ((e.write target f).folios id).tokens.deposit = (e.folios id).tokens.deposit := by
    by_cases own : id = target
    · subst own
      simp only [Escrow.write, Function.update_self]
      exact ⟨token, deposit⟩
    · simp [Escrow.write, Function.update_of_ne own]
  cases step with
  | idle | activating | terminating | drain => exact ⟨rfl, rfl⟩
  | registry | activated | registered | terminated | unbonded => exact written rfl rfl
  | registering here | unbonding here | slash here =>
    subst here
    exact written rfl rfl
  | @configure target f kept free step =>
    by_cases own : id = target
    · subst own
      have idle : (e.folios id).service.service.state = .nonExistent ∨
          (e.folios id).service.service.state = .preRegistration := by
        cases step with
        | created fresh => exact .inl fresh
        | reset _ service | secured _ _ service =>
          cases service with
          | configure idle => exact idle
      rw [deployed] at idle
      rcases idle with wrong | wrong <;> cases wrong
    · simp [Escrow.write, Function.update_of_ne own]

end Deposits

section Solid
variable {self : Address}

theorem stakingSolid_preserved (valid : self ≠ 0) :
    Preserved (stakingMachine self) (stakingDiscipline self) always (StakingSolid self) := by
  intro w frames w' frames' taken _ before
  constructor
  · exact stakingBaseline_preserved valid _ _ _ _ taken trivial before.base
  · exact stakingLedger_preserved _ _ _ _ taken before.base before.ledger
  · exact fundsFit_preserved _ _ _ _ taken ⟨before.base, before.ledger⟩ before.funds
  · exact moves_preserved valid PastBound.move _ _ _ _ taken before.base before.past

theorem stakingSolid_fresh {w : StakingWorld} (fresh : w.Fresh self) : StakingSolid self w [] :=
  stakingSolid_always fresh .start

end Solid

/-- A staked service is deployed, and a deposit of the staking token is recorded for it. -/
structure SecuredStake (stakingToken : Address) (least : Nat) (w : StakedWorld) (id : Nat) :
    Prop where
  staked : StakedAs w id w.system.registry.store
  token : (w.system.utility.store.mapServiceIdTokenDeposit id).token = stakingToken
  deposit : least ≤ (w.system.utility.store.mapServiceIdTokenDeposit id).securityDeposit

def SecuredStakes (stakingToken : Address) (least : Nat) (w : StakedWorld) : Prop :=
  ∀ id, 0 < (w.staking.mapServiceInfo id).tsStart → SecuredStake stakingToken least w id

section Steps
variable {setup : Setup} {self stakingToken : Address} {least : Nat} {w : StakedWorld} {id : Nat}
  {frames : List StakedFrame} {s' : SystemWorld} {inner : List SystemFrame}

/-- Whatever the registries do, a staked service keeps its deposit. -/
theorem SecuredStake.system (before : SecuredStake stakingToken least w id)
    (known : Managed setup w.system (frames.flatMap systemFrames))
    (taken : Local (systemMachine setup) (jointDiscipline setup) w.system
      (frames.flatMap systemFrames) s' inner)
    (staked : StakedAs (w.withSystem s') id w.system.registry.store) :
    SecuredStake stakingToken least (w.withSystem s') id := by
  have small : id < 2 ^ 32 := known.small (by rw [before.staked.deployed]; decide)
  have deployed : ((escrow w.system (frames.flatMap systemFrames)).folios
      (serviceKey id)).service.service.state = .deployed := by
    rw [escrow_folio small]
    exact before.staked.deployed
  obtain ⟨token, deposit⟩ := deployed_deposit (local_escrow known taken) deployed
  rw [escrow_folio small, escrow_folio small] at token deposit
  refine ⟨⟨.refl _ _, staked.deployed, staked.multisig⟩, token.trans before.token, ?_⟩
  exact le_of_le_of_eq before.deposit deposit.symm

/-- The staking contract writes nothing about deposits. -/
theorem SecuredStake.staking (before : SecuredStake stakingToken least w id) {t : StakingWorld}
    (multisig : (t.store.mapServiceInfo id).multisig = (w.staking.mapServiceInfo id).multisig) :
    SecuredStake stakingToken least (w.withStaking t) id :=
  ⟨⟨.refl _ _, before.staked.deployed, before.staked.multisig.trans multisig.symm⟩,
    before.token, before.deposit⟩

end Steps

/-- What holds of a token staking contract over the registries at every external call. -/
structure StakedAccounts (setup : Setup) (contract stakingToken : Address)
    (terms : StakingAsset × StakingParams × Nat) (w : StakedWorld) (frames : List StakedFrame) :
    Prop where
  base : StakedBase setup contract w frames
  accounts : Accounts setup w.system (frames.flatMap systemFrames)
  solid : StakingSolid contract w.stakingWorld (frames.flatMap stakingFrames)
  same : w.staking.terms = terms
  stakes : SecuredStakes stakingToken terms.2.1.minStakingDeposit w

section Runs
variable {setup : Setup} {self stakingToken : Address}
  {terms : StakingAsset × StakingParams × Nat} {w : StakedWorld} {frames : List StakedFrame}

/-- Calls of the staking contract as an account like any other. -/
theorem joint_transfer (apart : self ≠ setup.self.val) (valid : self ≠ 0)
    (owner recipient : Address) (id : Nat) (w : SystemWorld) :
    (jointDiscipline setup).call
      (.registry (.transferFrom ⟨self, valid⟩ owner recipient id)) w :=
  ⟨⟨fun same => apart (congrArg Subtype.val same), trivial⟩, trivial,
    fun minted => by cases minted⟩

theorem joint_staked_bounded (call : StakedCall) (w : StakedWorld)
    (allowed : (stakedDiscipline self (jointDiscipline setup)).call call w) :
    (stakedDiscipline self (boundedDiscipline setup)).call call w := by
  cases call with
  | system call => exact ⟨⟨allowed.1.1, allowed.1.2.2⟩, allowed.2⟩
  | staking call => exact allowed

theorem joint_staked_bounded_answer (frame : StakedFrame) (answer : SystemAnswer)
    (w : StakedWorld) (_ : (stakedDiscipline self (jointDiscipline setup)).answer frame answer w) :
    (stakedDiscipline self (boundedDiscipline setup)).answer frame answer w := by
  cases frame <;> trivial

/-- A call of the staking contract stakes a service with a sufficient deposit or leaves the
staked services as they are. -/
theorem SecuredStakes.called {call : StakingCall} {out : Outcome StakingWorld StakingFrame}
    (before : SecuredStakes stakingToken terms.2.1.minStakingDeposit w)
    (base : StakedBase setup self w frames) (same : w.staking.terms = terms)
    (asset : terms.1 = .token stakingToken)
    (entered : StakingWorld.enter self (w.reading call) w.stakingWorld = .ok out) :
    SecuredStakes stakingToken terms.2.1.minStakingDeposit (w.withStaking out.state) := by
  have token : w.staking.asset = .token stakingToken := (congrArg Prod.fst same).trans asset
  have params : w.staking.params = terms.2.1 := congrArg (fun terms => terms.2.1) same
  intro id staked
  by_cases joins : stakes call = some id
  · cases call <;> cases joins
    obtain ⟨state, multisig⟩ := stake_found entered
    obtain ⟨-, secured, deposit, -⟩ := stake_checked entered token
    have deposit : w.staking.params.minStakingDeposit ≤ _ := deposit
    rw [params] at deposit
    exact ⟨⟨.refl _ _, state, multisig.symm⟩, secured, deposit⟩
  · have unread : stakes (w.reading call) ≠ some id := by
      cases call <;> exact joins
    obtain ⟨staked, multisig, -⟩ := enter_records base.staking.book.sound unread entered staked
    exact (before id staked).staking multisig

/-- A piece of code keeps the terms of the contract and the deposits of the staked services. -/
theorem SecuredStakes.local {w' : StakedWorld} {frames' : List StakedFrame}
    (before : SecuredStakes stakingToken terms.2.1.minStakingDeposit w)
    (base : StakedBase setup self w frames)
    (known : Managed setup w.system (frames.flatMap systemFrames))
    (after : StakedBase setup self w' frames') (same : w.staking.terms = terms)
    (asset : terms.1 = .token stakingToken)
    (taken : Local (stakedMachine setup self) (stakedDiscipline self (jointDiscipline setup)) w
      frames w' frames') :
    w'.staking.terms = terms ∧ SecuredStakes stakingToken terms.2.1.minStakingDeposit w' := by
  have supply := after.system.registry.2
  cases taken with
  | entered call allowed ran =>
    cases call with
    | system call =>
      obtain ⟨inner, entered, rfl⟩ := inSystem_eq_ok ran
      rw [Outcome.state_embed] at supply ⊢
      refine ⟨same, fun id staked => ?_⟩
      have here := before id staked
      refine here.system known (.entered call allowed.1 entered) ?_
      exact here.staked.called base supply staked allowed.1.1.1 allowed.2 entered
    | staking call =>
      obtain ⟨own, inner, entered, rfl⟩ := staking_entered ran
      rw [Outcome.state_embed]
      exact ⟨(staking_enter_terms entered).trans same, before.called base same asset entered⟩
  | @resumed frame rest out answer allowed ran =>
    cases frame with
    | system frame =>
      obtain ⟨inner, resumed, rfl⟩ := inSystem_eq_ok ran
      rw [Outcome.state_embed] at supply ⊢
      refine ⟨same, fun id staked => ?_⟩
      have here := before id staked
      refine here.system known (.resumed answer allowed resumed) ?_
      exact here.staked.resumed base supply staked resumed
    | staking frame =>
      obtain ⟨inner, resumed, rfl⟩ := inStaking_eq_ok ran
      rw [Outcome.state_embed]
      refine ⟨(staking_resume_terms resumed).trans same, fun id staked => ?_⟩
      obtain ⟨staked, multisig, -⟩ := recordKept_of_eq (resume_records resumed) id staked
      exact (before id staked).staking multisig

theorem stakedAccounts_preserved (valid : self ≠ 0) (apart : self ≠ setup.self.val)
    (asset : terms.1 = .token stakingToken) :
    Preserved (stakedMachine setup self) (stakedDiscipline self (jointDiscipline setup)) always
      (StakedAccounts setup self stakingToken terms) := by
  intro w frames w' frames' taken _ before
  have base := ((stakedBase_preserved valid apart).restrict joint_staked_bounded
    joint_staked_bounded_answer) _ _ _ _ taken trivial before.base
  have kept := before.stakes.local before.base before.accounts.known base before.same asset taken
  refine ⟨base, ?_, ?_, kept.1, kept.2⟩
  · exact staked_lift valid (joint_transfer apart valid) (accounts_preserved setup) _ _ _ _
      taken trivial before.accounts
  · exact (staking_locals before.base.system taken).keep (stakingSolid_preserved valid)
      before.solid

end Runs

section Recovery
variable {setup : Setup} {self stakingToken : Address}
  {c : Config StakedWorld StakedFrame} {answers : Nat → ActivityAnswer} {serviceId : Nat}
  {owner : Caller}

theorem stakedAccounts_fresh {first : SystemWorld} (fresh : Fresh setup first)
    {start : StakedWorld}
    (before : Reachable (systemMachine setup) (jointDiscipline setup) first ⟨start.system, []⟩)
    (ready : start.stakingWorld.Fresh self) :
    StakedAccounts setup self stakingToken start.staking.terms start [] := by
  have accounts := before.invariant (accounts_preserved setup) fresh.accounts
  have calls : ∀ call w, (jointDiscipline setup).call call w →
      (boundedDiscipline setup).call call w := fun _ _ allowed => ⟨allowed.1, allowed.2.2⟩
  have bounded : Preserved (systemMachine setup) (jointDiscipline setup) always
      (SystemBase setup) := (systemBase_preserved setup).restrict calls fun _ _ _ _ => trivial
  have base := before.invariant bounded (systemOwners_fresh fresh).1
  refine ⟨⟨base, by simp, stakingBaseline_fresh ready⟩, accounts, stakingSolid_fresh ready, rfl, ?_⟩
  intro id staked
  exact absurd (StakingWorld.Fresh.unstaked ready id) staked.ne'

/-- The owner of a service staked with a token contract gets the NFT and the deposit back once
the minimum time is over: `forcedUnstake` goes through, `terminate` after it sends at least the
least deposit of the staking contract, in the staking token, and goes through as well whatever
runs while it waits, if the token accepts the transfer, the owner keeps the NFT and takes the
registry's refund in ETH. -/
theorem stake_recovered (setup : Setup) (apart : self ≠ setup.self.val) {first : SystemWorld}
    (fresh : Fresh setup first) {start : StakedWorld}
    (before : Reachable (systemMachine setup) (jointDiscipline setup) first ⟨start.system, []⟩)
    (ready : start.stakingWorld.Fresh self) (asset : start.staking.asset = .token stakingToken)
    (run : Reachable (stakedMachine setup self) (stakedDiscipline self (jointDiscipline setup))
      start c)
    (idle : c.frames = []) (word : c.state.timestamp < 2 ^ 256)
    (readable : ∀ i, Readable (answers i))
    (fits : RewardsFit c.state.staking c.state.timestamp) (view : RewardView)
    (owned : (c.state.staking.mapServiceInfo serviceId).owner = owner)
    (other : owner ≠ setup.self) (outside : owner.val ≠ self)
    (late : c.state.staking.minStakingDuration <
      c.state.timestamp - (c.state.staking.mapServiceInfo serviceId).tsStart) :
    ∃ w' push paying,
      c.state.enter setup self (.staking (.unstake owner answers view serviceId true)) =
        .ok (.done w') ∧
      w'.staking.mapServiceInfo serviceId = ServiceInfo.empty ∧
      w'.system.registry.store.erc721.owners serviceId = owner ∧
      w'.system.enter setup (.manager (.terminate owner serviceId)) =
        .ok (.suspended paying (.terminate owner serviceId (.refund push))) ∧
      push.token = stakingToken ∧ push.account = owner ∧
      start.staking.params.minStakingDeposit ≤ push.amount ∧
      paying.utility.sent stakingToken ≤ paying.utility.pulled stakingToken ∧
      GoesThrough (systemMachine setup) (Meanwhile setup) Accepts
        (fun w => (w.registry.store.mapServices serviceId).state.holdsDeposit = false)
        (.suspended paying (.terminate owner serviceId (.refund push))) := by
  have valid := ready.nonzero
  have accounts := run.invariant (stakedAccounts_preserved valid apart asset)
    (stakedAccounts_fresh fresh before ready)
  rw [idle] at accounts
  have staked : 0 < (c.state.staking.mapServiceInfo serviceId).tsStart := by
    refine Nat.pos_of_ne_zero fun none => owner.property ?_
    rw [← owned]
    exact congrArg ServiceInfo.owner (accounts.solid.base.book.blank serviceId none)
  obtain ⟨-, -, -, left, -, -, unstaked, gone, -, back, -⟩ :=
    StakingSolid.leaves accounts.solid word readable fits view owned (.inl late)
  have entered : c.state.enter setup self
      (.staking (.unstake owner answers view serviceId true)) =
        .ok (.done (c.state.withStaking left)) := by
    simp only [StakedWorld.enter, StakedWorld.reading, unstaked]
    rfl
  have allowed : (stakedDiscipline self (jointDiscipline setup)).call
      (.staking (.unstake owner answers view serviceId true)) c.state :=
    fun same => outside (Option.some.inj same)
  have after := stakedAccounts_preserved valid apart asset _ _ _ _
    (.entered _ allowed entered) trivial accounts
  have secured := accounts.stakes serviceId staked
  have real := fresh_token ready asset
  have here : Between setup (c.state.withStaking left).system := after.accounts.between
  have token : ((c.state.withStaking left).system.utility.store.mapServiceIdTokenDeposit
      serviceId).token = stakingToken := secured.token
  have held : ((c.state.withStaking left).system.registry.store.mapServices
      serviceId).state.holdsDeposit = true :=
    congrArg ServiceState.holdsDeposit secured.staked.deployed
  obtain ⟨paying, terminated, -, covered, goes⟩ :=
    here.terminates (by rwa [token]) held other back
  refine ⟨_, depositPush (c.state.withStaking left).system serviceId, paying, entered, gone, back,
    terminated, secured.token, back, secured.deposit, ?_, goes⟩
  rw [← secured.token]
  exact covered

end Recovery

/-- Service 1, with a deposit of 100 of token 20, is staked at time 1000 and leaves at 1150. -/
theorem stake_recovered_late : ∃ c w' push paying,
    Reachable (stakedMachine exampleSetup 5) (stakedDiscipline 5 (jointDiscipline exampleSetup))
      exampleSecured c ∧
    c.state.enter exampleSetup 5
      (.staking (.unstake exampleOwner (activeAnswer 1) operatorView 1 true)) = .ok (.done w') ∧
    w'.system.enter exampleSetup (.manager (.terminate exampleOwner 1)) =
      .ok (.suspended paying (.terminate 3 1 (.refund push))) ∧
    push.token = 20 ∧ 100 ≤ push.amount ∧
    GoesThrough (systemMachine exampleSetup) (Meanwhile exampleSetup) Accepts
      (fun w => (w.registry.store.mapServices 1).state.holdsDeposit = false)
      (.suspended paying (.terminate 3 1 (.refund push))) := by
  obtain ⟨c, run, seen⟩ := Machine.play_observed
    (stakedDiscipline 5 (jointDiscipline exampleSetup)) (stakedMachine exampleSetup 5)
    exampleSecured (secureScript 1 100 ++ joinScript 100 100 15 1 ++ readyScript ++ stakeOne ++
      [.call (.staking (.tick 150))])
    (fun c => ([c.stack.length, c.state.timestamp, c.state.staking.minStakingDuration,
      (c.state.staking.mapServiceInfo 1).tsStart, nominalReward c.state.staking 1150 1,
      c.state.staking.availableRewards], c.state.staking.setServiceIds,
        (c.state.staking.mapServiceInfo 1).owner))
    ([0, 1150, 100, 1000, 1500, 100000], [1], 3) (by decide +kernel)
  simp only [Prod.mk.injEq, List.cons.injEq] at seen
  obtain ⟨⟨idle, now, duration, begun, nominal, available, -⟩, ids, owned⟩ := seen
  have fits : RewardsFit c.state.staking c.state.timestamp := by
    intro _
    rw [ids, now, available, List.map_singleton, List.sum_singleton, nominal]
    exact ⟨by decide, fun short => absurd short (by decide)⟩
  have owned : (c.state.staking.mapServiceInfo 1).owner = exampleOwner := owned
  obtain ⟨w', push, paying, entered, -, -, terminated, token, -, least, -, goes⟩ :=
    stake_recovered exampleSetup (by decide) exampleTakeover_fresh .start exampleSecured_fresh rfl
      run (frames_settled idle) (by rw [now]; decide) (activeAnswer_readable 1 (by decide)) fits
      operatorView owned (by decide) (by decide) (by rw [now, duration, begun]; decide)
  exact ⟨c, w', push, paying, run, entered, terminated, token, least, goes⟩

end AutonolasRegistries.Guarantees
