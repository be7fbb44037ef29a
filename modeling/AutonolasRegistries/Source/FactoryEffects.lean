import Mathlib.Tactic.Ring
import AutonolasRegistries.Source.StakingFactory
import AutonolasRegistries.Source.StakingTransitions

/-!
# What the factory, the verifier and the proxies do

The terms of a staking contract are what its `initialize` fixes: no other function of it
writes them, and `initialize` itself runs only once. What the verifier checks of them
bounds the emissions.
-/
namespace AutonolasRegistries.Source
open Library

/-- What is fixed when a staking contract is initialised. -/
def StakingState.terms (s : StakingState) : StakingAsset × StakingParams × Nat :=
  (s.asset, s.params, s.emissionsAmount)

section Terms
variable {self : Address} {s s' : StakingState}
open StakingBase

theorem checkpoint_terms {timestamp : Nat} {answers : Nat → ActivityAnswer}
    {result : CheckpointResult} (ran : checkpoint timestamp answers s = .ok (s', result)) :
    s'.terms = s.terms := by
  simp only [checkpoint, bind_eq_ok] at ran
  obtain ⟨c, -, d, -, ran⟩ := ran
  split at ran
  · simp only [closeEpoch, bind_eq_ok, Prod.exists, pure_eq_ok, Prod.mk.injEq] at ran
    obtain ⟨_, _, ⟨_, -, _, _, -, _, -, _, -, rfl, -⟩, rfl, -⟩ := ran
    rfl
  · rw [pure_eq_ok, Prod.mk.injEq] at ran
    obtain ⟨rfl, -⟩ := ran
    rfl

theorem stake_terms {sender : Address} {timestamp : Nat} {answers : Nat → ActivityAnswer}
    {view : StakeView} {serviceId info : Nat} {nft nft' : ERC721} {result : CheckpointResult}
    (ran : stake self sender timestamp answers view serviceId info nft s =
      .ok (s', nft', result)) : s'.terms = s.terms := by
  obtain ⟨-, s₁, nonces, checkpointed, -, -, -, -, rfl⟩ := stake_spec ran
  have kept := checkpoint_terms checkpointed
  exact kept

theorem unstake_terms {sender : Address} {timestamp : Nat} {answers : Nat → ActivityAnswer}
    {view : RewardView} {serviceId : Nat} {enforced : Bool} {payout : PayoutResult}
    (ran : unstake self sender timestamp answers view serviceId enforced s = .ok (s', payout)) :
    s'.terms = s.terms := by
  simp only [unstake, bind_eq_ok, Prod.exists, lock_eq_ok, revertIf_eq_ok, exists_const] at ran
  obtain ⟨_, ⟨-, rfl⟩, s₁, result, checkpointed, -, _, -, -, items, -, ran⟩ := ran
  have kept := checkpoint_terms checkpointed
  split at ran
  · split at ran
    · simp only [bind_eq_ok, pure_eq_ok, Prod.mk.injEq] at ran
      obtain ⟨_, -, rfl, -⟩ := ran
      exact kept
    · simp only [bind_eq_ok, pure_eq_ok, Prod.mk.injEq] at ran
      obtain ⟨_, -, rfl, -⟩ := ran
      exact kept
  · rw [pure_eq_ok, Prod.mk.injEq] at ran
    obtain ⟨rfl, -⟩ := ran
    exact kept

theorem claim_terms {sender : Address} {timestamp : Nat} {answers : Nat → ActivityAnswer}
    {view : RewardView} {serviceId : Nat} {execCheckPoint : Bool} {payout : PayoutResult}
    (ran : claim self sender timestamp answers view serviceId execCheckPoint s =
      .ok (s', payout)) : s'.terms = s.terms := by
  obtain ⟨-, -, s₁, checkpointed, -, -, rfl⟩ := claim_spec ran
  rcases checkpointIf_spec checkpointed with ⟨rfl, -⟩ | ⟨result, checkpointed, -⟩
  · rfl
  · have kept := checkpoint_terms checkpointed
    exact kept

variable {w : StakingWorld} {out : Outcome StakingWorld StakingFrame}

theorem giveBack_terms {w' : StakingWorld} {serviceId : Nat} {owner : Address}
    (ran : w.giveBack self serviceId owner = .ok w') : w'.store.terms = w.store.terms := by
  simp only [StakingWorld.giveBack, bind_eq_ok, pure_eq_ok] at ran
  obtain ⟨nft, -, rfl⟩ := ran
  rfl

theorem withdraw_terms {l : Withdrawal} (ran : w.withdraw self l = .ok out) :
    out.state.store.terms = w.store.terms := by
  rw [StakingWorld.withdraw] at ran
  split at ran
  · split at ran
    · rw [pure_eq_ok] at ran
      subst ran
      rfl
    · simp only [bind_eq_ok, pure_eq_ok] at ran
      obtain ⟨w', back, rfl⟩ := ran
      have kept := giveBack_terms back
      exact kept
  · simp only [bind_eq_ok, pure_eq_ok] at ran
    obtain ⟨_, -, rfl⟩ := ran
    rfl

/-- No call changes the terms. -/
theorem staking_enter_terms {call : StakingCall} (ran : StakingWorld.enter self call w = .ok out) :
    out.state.store.terms = w.store.terms := by
  cases call with
  | tick | mint | approve | setApprovalForAll | transferFrom =>
    rw [(foreign_enter (by trivial) ran).1]
  | deposit sender amount =>
    simp only [StakingWorld.enter] at ran
    split at ran
    · simp only [bind_eq_ok, pure_eq_ok] at ran
      obtain ⟨s, credited, rfl⟩ := ran
      obtain ⟨-, rfl⟩ := credit_spec credited
      rfl
    · cases ran
  | receive sender value =>
    simp only [StakingWorld.enter] at ran
    split at ran
    · cases ran
    · simp only [bind_eq_ok, pure_eq_ok] at ran
      obtain ⟨s, credited, rfl⟩ := ran
      obtain ⟨-, rfl⟩ := credit_spec credited
      rfl
  | checkpoint sender answers =>
    simp only [StakingWorld.enter, bind_eq_ok, Prod.exists, lock_eq_ok, pure_eq_ok] at ran
    obtain ⟨_, ⟨-, rfl⟩, s₁, result, checkpointed, rfl⟩ := ran
    have kept := checkpoint_terms checkpointed
    exact kept
  | stake sender answers view serviceId info =>
    simp only [StakingWorld.enter, bind_eq_ok, Prod.exists, pure_eq_ok] at ran
    obtain ⟨s', nft, result, staked, rfl⟩ := ran
    exact stake_terms staked
  | unstake sender answers view serviceId enforced =>
    simp only [StakingWorld.enter, bind_eq_ok, Prod.exists] at ran
    obtain ⟨s', payout, unstaked, ran⟩ := ran
    have kept := unstake_terms unstaked
    split at ran
    · exact (withdraw_terms ran).trans kept
    · simp only [bind_eq_ok, pure_eq_ok] at ran
      obtain ⟨w', back, rfl⟩ := ran
      exact (giveBack_terms back).trans kept
  | claim sender answers view serviceId execCheckPoint =>
    simp only [StakingWorld.enter, bind_eq_ok, Prod.exists] at ran
    obtain ⟨s', payout, claimed, ran⟩ := ran
    exact (withdraw_terms ran).trans (claim_terms claimed)

theorem staking_resume_terms {frame : StakingFrame}
    (ran : StakingWorld.resume self frame () w = .ok out) :
    out.state.store.terms = w.store.terms := by
  cases frame with
  | deposit =>
    cases ran
    rfl
  | withdraw l => exact withdraw_terms ran

end Terms

namespace StakingVerifier

/-- A verifier as its constructor and its owner's calls leave it. -/
inductive Reached : VerifierState → Prop where
  | deployed {sender olas serviceRegistry serviceRegistryTokenUtility : Address}
      {minStakingDepositLimit timeForEmissionsLimit numServicesLimit apyLimit : Nat}
      {v : VerifierState}
      (ran : deployment sender olas serviceRegistry serviceRegistryTokenUtility
        minStakingDepositLimit timeForEmissionsLimit numServicesLimit apyLimit = .ok v) :
      Reached v
  | called {sender : Address} {call : VerifierCall} {v v' : VerifierState} (before : Reached v)
      (ran : call.run sender v = .ok v') : Reached v'

/-- The service registry of a verifier is set once and for all. -/
theorem Reached.registry {v : VerifierState} (reached : Reached v) : v.serviceRegistry ≠ 0 := by
  induction reached with
  | deployed ran =>
    simp only [deployment, bind_eq_ok, revertIf_eq_ok, exists_const, pure_eq_ok, not_or] at ran
    obtain ⟨⟨-, some⟩, -, rfl⟩ := ran
    exact some
  | @called sender call v v' before ran ih =>
    cases call with
    | changeOwner newOwner =>
      simp only [VerifierCall.run, changeOwner, bind_eq_ok, revertIf_eq_ok, exists_const,
        pure_eq_ok] at ran
      obtain ⟨-, -, rfl⟩ := ran
      exact ih
    | setImplementationsCheck setCheck =>
      simp only [VerifierCall.run, setImplementationsCheck, bind_eq_ok, revertIf_eq_ok,
        exists_const, pure_eq_ok] at ran
      obtain ⟨-, rfl⟩ := ran
      exact ih
    | setImplementationsStatuses implementations statuses setCheck =>
      simp only [VerifierCall.run, setImplementationsStatuses, bind_eq_ok, revertIf_eq_ok,
        exists_const, pure_eq_ok] at ran
      obtain ⟨-, -, _, -, rfl⟩ := ran
      exact ih
    | changeStakingLimits =>
      simp only [VerifierCall.run, changeStakingLimits, bind_eq_ok, revertIf_eq_ok,
        exists_const, pure_eq_ok] at ran
      obtain ⟨-, -, rfl⟩ := ran
      exact ih

/-- What a verifier that accepts a contract has checked of its parameters. -/
structure WithinLimits (v : VerifierState) (p : StakingParams) : Prop where
  registry : p.serviceRegistry = v.serviceRegistry
  deposit : p.minStakingDeposit ≤ v.minStakingDepositLimit
  some : p.minStakingDeposit ≠ 0
  apy : p.rewardsPerSecond * oneYear * 10 ^ 18 / p.minStakingDeposit ≤ v.apyLimit
  time : p.timeForEmissions ≤ v.timeForEmissionsLimit
  services : p.maxNumServices ≤ v.numServicesLimit

theorem verifyInstance_accepts {v : VerifierState} {i : StakingInstance}
    {implementation : Address}
    (ran : verifyInstance v (.some i) implementation = .ok true) :
    WithinLimits v i.store.params := by
  rw [verifyInstance] at ran
  split at ran
  · cases ran
  dsimp only at ran
  split at ran
  · cases ran
  next registry =>
  split at ran
  · cases ran
  next deposit =>
  simp only [bind_eq_ok, checkedMul_eq_ok, revertIf_eq_ok, exists_const] at ran
  obtain ⟨_, ⟨-, rfl⟩, _, ⟨-, rfl⟩, some, ran⟩ := ran
  split at ran
  · cases ran
  next apy =>
  split at ran
  · cases ran
  next time =>
  split at ran
  · cases ran
  next services =>
  exact ⟨not_not.mp registry, not_lt.mp deposit, some, not_lt.mp apy, not_lt.mp time,
    not_lt.mp services⟩

/-- The quotient the verifier bounds was rounded down, hence the one more. -/
theorem WithinLimits.emissions {v : VerifierState} {p : StakingParams} (within : WithinLimits v p)
    (services : 0 < p.maxNumServices) (time : 0 < p.timeForEmissions) :
    p.rewardsPerSecond * p.maxNumServices * p.timeForEmissions * oneYear * 10 ^ 18 <
      (v.apyLimit + 1) * v.minStakingDepositLimit * v.numServicesLimit *
        v.timeForEmissionsLimit := by
  have rate : p.rewardsPerSecond * oneYear * 10 ^ 18 < (v.apyLimit + 1) * p.minStakingDeposit :=
    (Nat.div_lt_iff_lt_mul (Nat.pos_iff_ne_zero.mpr within.some)).mp
      (Nat.lt_succ_of_le within.apy)
  calc p.rewardsPerSecond * p.maxNumServices * p.timeForEmissions * oneYear * 10 ^ 18
      = p.rewardsPerSecond * oneYear * 10 ^ 18 * (p.maxNumServices * p.timeForEmissions) := by
        ring
    _ < (v.apyLimit + 1) * p.minStakingDeposit * (p.maxNumServices * p.timeForEmissions) :=
        Nat.mul_lt_mul_of_pos_right rate (Nat.mul_pos services time)
    _ ≤ (v.apyLimit + 1) * v.minStakingDepositLimit *
          (v.numServicesLimit * v.timeForEmissionsLimit) :=
        Nat.mul_le_mul (Nat.mul_le_mul_left _ within.deposit)
          (Nat.mul_le_mul within.services within.time)
    _ = (v.apyLimit + 1) * v.minStakingDepositLimit * v.numServicesLimit *
          v.timeForEmissionsLimit := by ring

end StakingVerifier

/-- What a proxy reports that was initialised. -/
structure StakingState.SetUp (s : StakingState) : Prop where
  registry : s.params.serviceRegistry ≠ 0
  services : 0 < s.params.maxNumServices
  time : 0 < s.params.timeForEmissions
  emissions : s.emissionsAmount =
    s.params.rewardsPerSecond * s.params.maxNumServices * s.params.timeForEmissions

section Proxies
variable {i i' : StakingInstance}

theorem StakingState.SetUp.of_terms {s s' : StakingState} (set : s.SetUp)
    (same : s'.terms = s.terms) : s'.SetUp := by
  simp only [StakingState.terms, Prod.mk.injEq] at same
  obtain ⟨-, params, emissions⟩ := same
  refine ⟨?_, ?_, ?_, ?_⟩
  · rw [params]
    exact set.registry
  · rw [params]
    exact set.services
  · rw [params]
    exact set.time
  · rw [params, emissions]
    exact set.emissions

theorem initializeStaking_setUp {asset : StakingAsset} {tokenUtility : Address}
    {p : StakingParams} {checkerCodeLength timestamp : Nat} {viaProxy : Bool} {s : StakingState}
    (ran : StakingBase.initializeStaking asset tokenUtility p checkerCodeLength timestamp
      viaProxy = .ok s) : s.SetUp := by
  simp only [StakingBase.initializeStaking, bind_eq_ok, revertIf_eq_ok, exists_const,
    checkedMul_eq_ok] at ran
  obtain ⟨values, -, -, addresses, -, _, -, -, _, -, _, -, _, ⟨-, rfl⟩, _, ⟨-, rfl⟩, ran⟩ := ran
  simp only [not_or] at values addresses
  have set : ∀ t : StakingState, t.params = p → t.emissionsAmount =
      p.rewardsPerSecond * p.maxNumServices * p.timeForEmissions → t.SetUp := by
    rintro t rfl emissions
    exact ⟨addresses.1, Nat.pos_iff_ne_zero.mpr values.2.1,
      Nat.pos_iff_ne_zero.mpr values.2.2.2.2.2.1, emissions⟩
  cases asset with
  | token stakingToken =>
    simp only [bind_eq_ok, revertIf_eq_ok, exists_const, pure_eq_ok] at ran
    obtain ⟨-, rfl⟩ := ran
    exact set _ rfl rfl
  | native =>
    rw [pure_eq_ok] at ran
    subst ran
    exact set _ rfl rfl

theorem setUp_ok {asset : StakingAsset} {tokenUtility : Address} {p : StakingParams}
    {checkerCodeLength timestamp : Nat}
    (ran : i.setUp asset tokenUtility p checkerCodeLength timestamp = .ok i') :
    i.store.params.serviceRegistry = 0 ∧ i'.store.SetUp := by
  simp only [StakingInstance.setUp, bind_eq_ok, revertIf_eq_ok, exists_const, pure_eq_ok,
    ne_eq, not_not] at ran
  obtain ⟨blank, s, set, rfl⟩ := ran
  exact ⟨blank, (initializeStaking_setUp set).of_terms rfl⟩

end Proxies

/-- Code that leaves the factory alone, and the terms of every proxy. -/
structure Undisturbed (w w' : FactoryWorld) : Prop where
  factory : w'.factory = w.factory
  verifiers : w'.verifiers = w.verifiers
  history : w'.history = w.history
  instances : ∀ proxy, (w'.instances proxy).map (StakingState.terms ∘ StakingInstance.store) =
    (w.instances proxy).map (StakingState.terms ∘ StakingInstance.store)

/-- A proxy that was initialised. -/
structure Initialised (w : FactoryWorld) (proxy : Address) (w' : FactoryWorld) : Prop where
  factory : w'.factory = w.factory
  verifiers : w'.verifiers = w.verifiers
  history : w'.history = w.history ++ [.initialised proxy]
  before : ∃ i, w.instances proxy = some i ∧ i.store.params.serviceRegistry = 0
  after : ∃ i, w'.instances proxy = some i ∧ i.store.SetUp
  others : ∀ other, other ≠ proxy → w'.instances other = w.instances other

section Calls
variable {w w' : FactoryWorld} {proxy : Address}

theorem Undisturbed.refl (w : FactoryWorld) : Undisturbed w w :=
  ⟨rfl, rfl, rfl, fun _ => rfl⟩

theorem stakingRun_eq_ok {α β : Type} {name : α → β} {run : Except StakingError α} {result : β}
    (ran : FactoryWorld.stakingRun name run = .ok result) :
    ∃ value, run = .ok value ∧ result = name value := by
  cases run with
  | error reason => cases ran
  | ok value =>
    cases ran
    exact ⟨value, rfl, rfl⟩

/-- Code of a staking contract that keeps its terms. -/
theorem embed_undisturbed {i : StakingInstance} (found : w.instances proxy = some i)
    {run : Except StakingError (Outcome StakingWorld StakingFrame)}
    {out : Outcome FactoryWorld InstanceFrame} (ran : w.embed proxy i run = .ok out)
    (kept : ∀ out, run = .ok out → out.state.store.terms = i.store.terms) :
    Undisturbed w out.state := by
  obtain ⟨inner, began, rfl⟩ := stakingRun_eq_ok ran
  have same := kept inner began
  rw [Outcome.state_embed]
  refine ⟨rfl, rfl, rfl, fun other => ?_⟩
  by_cases here : other = proxy
  · rw [here, found]
    simp only [FactoryWorld.absorb, FactoryWorld.withInstance, Function.update_self,
      Option.map_some, Function.comp_apply, same]
  · simp only [FactoryWorld.absorb, FactoryWorld.withInstance, Function.update_of_ne here]

theorem initialise_ok {i : StakingInstance} (found : w.instances proxy = some i)
    {kind : StakingKind} {asset : StakingAsset} {tokenUtility : Address} {p : StakingParams}
    {checkerCodeLength : Nat} {out : Outcome FactoryWorld InstanceFrame}
    (ran : w.initialise proxy i kind asset tokenUtility p checkerCodeLength = .ok out) :
    Initialised w proxy out.state ∧ out.pending = [] := by
  rw [FactoryWorld.initialise] at ran
  split at ran
  · obtain ⟨i', set, rfl⟩ := stakingRun_eq_ok ran
    obtain ⟨blank, ready⟩ := setUp_ok set
    refine ⟨⟨rfl, rfl, rfl, ⟨i, found, blank⟩, ⟨i', ?_, ready⟩, fun other different => ?_⟩, rfl⟩
    · simp [FactoryWorld.withInstance]
    · simp [FactoryWorld.withInstance, Function.update_of_ne different]
  · cases ran

/-- A call of a proxy initialises it, or leaves its terms. -/
theorem callInstance_cases {sender : Caller} {call : InstanceCall}
    {out : Outcome FactoryWorld InstanceFrame}
    (ran : w.callInstance sender proxy call = .ok out) :
    (Initialised w proxy out.state ∧ out.pending = []) ∨ Undisturbed w out.state := by
  rw [FactoryWorld.callInstance] at ran
  split at ran
  · cases ran
  · next i found =>
    cases call with
    | initializeToken | initializeNative => exact .inl (initialise_ok found ran)
    | deposit | receive | checkpoint | stake | unstake | claim =>
      exact .inr (embed_undisturbed found ran fun _ began => staking_enter_terms began)
    | view =>
      cases ran
      exact .inr (.refl w)

theorem resume_undisturbed {frame : InstanceFrame} {out : Outcome FactoryWorld InstanceFrame}
    (ran : w.resume frame () = .ok out) : Undisturbed w out.state := by
  rw [FactoryWorld.resume] at ran
  split at ran
  · cases ran
  · next i found =>
    exact embed_undisturbed found ran fun _ began => staking_resume_terms began

theorem Undisturbed.trans {w'' : FactoryWorld} (first : Undisturbed w w')
    (second : Undisturbed w' w'') : Undisturbed w w'' :=
  ⟨second.factory.trans first.factory, second.verifiers.trans first.verifiers,
    second.history.trans first.history,
    fun proxy => (second.instances proxy).trans (first.instances proxy)⟩

theorem callPayload_cases {self : Caller} {payload : InitPayload}
    (ran : StakingFactory.callPayload self proxy payload w = .ok w') :
    Initialised w proxy w' ∨ Undisturbed w w' := by
  rw [StakingFactory.callPayload] at ran
  split at ran
  · cases ran
  · obtain ⟨out, called, ran⟩ := bind_eq_ok.mp ran
    rcases callInstance_cases called with ⟨set, none⟩ | kept
    · cases out with
      | done w₁ =>
        cases ran
        exact .inl set
      | suspended => cases none
    · cases out with
      | done w₁ =>
        cases ran
        exact .inr kept
      | suspended w₁ frame =>
        obtain ⟨out, resumed, ran⟩ := bind_eq_ok.mp ran
        cases out with
        | done w₂ =>
          cases ran
          exact .inr (kept.trans (resume_undisturbed resumed))
        | suspended => cases ran

theorem localVerifier_eq_ok {verifier : Option VerifierState}
    (ran : w.localVerifier = .ok verifier) (set : w.factory.verifier ≠ 0) :
    ∃ v, w.verifiers w.factory.verifier = some v ∧ verifier = some v := by
  rw [FactoryWorld.localVerifier, if_neg set] at ran
  split at ran
  · cases ran
  · next v found =>
    cases ran
    exact ⟨v, found, rfl⟩

theorem create2_eq {address : Address} (created : StakingFactory.create2 w address ≠ 0) :
    StakingFactory.create2 w address = address ∧ w.instances address = none := by
  rw [StakingFactory.create2] at created ⊢
  split at created
  · exact absurd rfl created
  · next free => exact ⟨if_neg free, Option.not_isSome_iff_eq_none.mp free⟩

/-- A payload that does not initialise the proxy leaves it without a service registry, and
every verifier has one. -/
theorem blank_refused {v : VerifierState} (reached : StakingVerifier.Reached v)
    {kind : StakingKind} {implementation : Address}
    (kept : Undisturbed (w.withInstance proxy (.blank kind)) w')
    (passed : StakingFactory.checkInstance (some v) implementation proxy w' = .ok ()) : False := by
  have same := kept.instances proxy
  simp only [FactoryWorld.withInstance, Function.update_self, Option.map_some] at same
  obtain ⟨i, found, terms⟩ := Option.map_eq_some_iff.mp same
  simp only [StakingFactory.checkInstance, bind_eq_ok, revertIf_eq_ok, not_not,
    found] at passed
  obtain ⟨verified, ran, rfl⟩ := passed
  have within := StakingVerifier.verifyInstance_accepts ran
  simp only [StakingState.terms, Function.comp_apply, Prod.mk.injEq] at terms
  rw [terms.2.1] at within
  exact reached.registry within.registry.symm

/-- What `createStakingInstance` does where there is a verifier. -/
theorem createStakingInstance_ok {self sender : Caller} {code : Address → Option StakingKind}
    {implementation address : Address} {payload : InitPayload}
    (ran : StakingFactory.createStakingInstance self code sender implementation payload address
      w = .ok w') (set : w.factory.verifier ≠ 0)
    (reached : ∀ a v, w.verifiers a = some v → StakingVerifier.Reached v) :
    ∃ v snapshot, w.instances address = none ∧
      StakingVerifier.verifyInstance v (some snapshot) implementation = .ok true ∧
      snapshot.store.SetUp ∧
      w'.factory = { w.factory with
        mapInstanceParams := Function.update w.factory.mapInstanceParams address
          ⟨implementation, sender, true⟩
        nonce := w.factory.nonce + 1
        locked := 1 } ∧
      w'.verifiers = w.verifiers ∧
      w'.history = w.history ++ [.initialised address,
        .created address implementation sender (some v) snapshot] ∧
      w'.instances address = some snapshot ∧
      ∀ other, other ≠ address → w'.instances other = w.instances other := by
  simp only [StakingFactory.createStakingInstance, bind_eq_ok, revertIf_eq_ok, exists_const] at ran
  obtain ⟨-, -, ran⟩ := ran
  split at ran
  · cases ran
  next kind _ =>
  simp only [bind_eq_ok, revertIf_eq_ok, exists_const, checkedAdd_eq_ok, pure_eq_ok] at ran
  obtain ⟨-, verifier, chosen, _, -, created, w₁, called, _, verified, _, ⟨-, rfl⟩, rfl⟩ :=
    ran
  obtain ⟨v, known, rfl⟩ := localVerifier_eq_ok chosen set
  obtain ⟨same, free⟩ := create2_eq created
  rw [same] at called verified ⊢
  rcases callPayload_cases called with done | kept
  · obtain ⟨snapshot, found, ready⟩ := done.after
    simp only [StakingFactory.checkInstance, bind_eq_ok, revertIf_eq_ok, not_not,
      found] at verified
    obtain ⟨accepted, passed, rfl⟩ := verified
    refine ⟨v, snapshot, free, passed, ready, ?_, done.verifiers, ?_, found, ?_⟩
    · rw [done.factory]
      rfl
    · rw [done.history, found, List.append_assoc]
      rfl
    · intro other different
      rw [done.others other different]
      exact Function.update_of_ne different _ _
  · exact absurd verified (blank_refused (reached _ _ known) kept)

end Calls
end AutonolasRegistries.Source
