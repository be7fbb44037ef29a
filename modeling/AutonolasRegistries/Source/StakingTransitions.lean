import Mathlib.Logic.Relation
import AutonolasRegistries.Source.StakingEffects
import AutonolasRegistries.Source.StakingMachine

/-!
# What the staking functions do

One lemma for each function behind an external call, and the moves every piece of code
of the staking machine is made of: a checkpoint, then a service joins, is paid or
leaves. Invariants that do not look at the balance are proved move by move.
-/
namespace AutonolasRegistries.Source
open Library

namespace StakingBase

theorem lock_eq_ok {s s' : StakingState} :
    lock s = .ok s' ↔ s.locked ≤ 1 ∧ { s with locked := 2 } = s' := by
  simp only [lock, revertIf_bind_eq_ok, pure_eq_ok, not_lt]

theorem tokenCall_eq_ok {α : Type} {run : Except Revert α} {value : α} :
    tokenCall run = .ok value ↔ run = .ok value := by
  cases run <;> simp [tokenCall]

theorem credit_spec {amount : Nat} {s s' : StakingState} (ran : credit amount s = .ok s') :
    s.locked ≤ 1 ∧ s' = { s with
      balance := s.balance + amount
      availableRewards := s.availableRewards + amount
      locked := 2 } := by
  simp only [credit, bind_eq_ok, lock_eq_ok, checkedAdd_eq_ok, pure_eq_ok] at ran
  obtain ⟨_, ⟨free, rfl⟩, _, ⟨-, rfl⟩, _, ⟨-, rfl⟩, rfl⟩ := ran
  exact ⟨free, rfl⟩

section Payments

theorem proportionalAmounts_spec {numInstances reward : Nat} {amounts : List Nat}
    (ran : proportionalAmounts numInstances reward = .ok amounts) :
    amounts.length = numInstances + 1 ∧ amounts.sum = reward := by
  simp only [proportionalAmounts, bind_eq_ok, checkedMul_eq_ok, checkedSub_eq_ok,
    pure_eq_ok] at ran
  obtain ⟨_, ⟨-, rfl⟩, _, ⟨enough, rfl⟩, rfl⟩ := ran
  simp only [List.length_append, List.length_replicate, List.length_singleton, List.sum_append,
    List.sum_replicate, List.sum_singleton, smul_eq_mul, true_and]
  omega

theorem checkDistribution_spec {self : Address} {reward : Nat} {receivers : List Address}
    {amounts : List Nat} (ran : checkDistribution self reward receivers amounts = .ok ()) :
    ((receivers.zip amounts).map Prod.snd).sum = reward := by
  simp only [checkDistribution, bind_eq_ok, revertIf_eq_ok, exists_const, not_not, ne_eq] at ran
  obtain ⟨-, amountCheck, summed, rfl⟩ := ran
  have sum := loop_total (fun amountCheck : Nat => amountCheck) Prod.snd
    (fun entry _ before after body => by
      simp only [distributionBody, bind_eq_ok, revertIf_eq_ok, exists_const,
        checkedAdd_eq_ok] at body
      exact body.2.2.2.symm) summed
  rw [sum, Nat.zero_add]

/-- Whatever the distribution type, the payments add up to the reward. -/
theorem payments_sum {self : Address} {view : RewardView} {sInfo : ServiceInfo} {reward : Nat}
    {payments : List (Address × Nat)}
    (ran : getRewardReceiversAndAmounts self view sInfo reward = .ok payments) :
    (payments.map Prod.snd).sum = reward := by
  simp only [getRewardReceiversAndAmounts] at ran
  split at ran
  · cases ran
  · simp only [bind_eq_ok, pure_eq_ok] at ran
    obtain ⟨amounts, shares, rfl⟩ := ran
    obtain ⟨length, sum⟩ := proportionalAmounts_spec shares
    rw [List.map_snd_zip (by simp [length]), sum]
  · cases ran
    simp
  · cases ran
    simp
  · split at ran
    · cases ran
    · simp only [bind_eq_ok, pure_eq_ok] at ran
      obtain ⟨_, checked, rfl⟩ := ran
      exact checkDistribution_spec checked

end Payments

/-- A service that joins keeps the rest of its record, which is empty. -/
theorem stake_spec {self sender : Address} {timestamp : Nat} {answers : Nat → ActivityAnswer}
    {view : StakeView} {serviceId info : Nat} {nft nft' : ERC721} {s s' : StakingState}
    {result : CheckpointResult}
    (ran : stake self sender timestamp answers view serviceId info nft s =
      .ok (s', nft', result)) :
    s.locked ≤ 1 ∧ ∃ s₁ nonces, checkpoint timestamp answers { s with locked := 2 } =
        .ok (s₁, result) ∧
      (s₁.mapServiceInfo serviceId).tsStart = 0 ∧
      s₁.setServiceIds.length ≠ s₁.params.maxNumServices ∧
      checkServiceConfiguration view serviceId s₁ = .ok () ∧
      nft.transferFrom self sender self serviceId = .ok nft' ∧
      s' = { s₁ with
        mapServiceInfo := Function.update s₁.mapServiceInfo serviceId
          { s₁.mapServiceInfo serviceId with
            multisig := view.service.multisig
            owner := sender
            nonces
            tsStart := timestamp
            rewardDistributionInfo := info }
        setServiceIds := s₁.setServiceIds ++ [serviceId]
        locked := 1 } := by
  simp only [stake, bind_eq_ok, Prod.exists, lock_eq_ok, revertIf_eq_ok, exists_const] at ran
  obtain ⟨_, ⟨free, rfl⟩, s₁, result', checkpointed, -, unstaked, room, _, config, ran⟩ := ran
  split at ran
  · cases ran
  · simp only [bind_eq_ok, tokenCall_eq_ok, pure_eq_ok, Prod.mk.injEq] at ran
    obtain ⟨_, -, _, moved, rfl, rfl, rfl⟩ := ran
    exact ⟨free, s₁, _, checkpointed, Nat.eq_zero_of_not_pos unstaked, room, config, moved, rfl⟩

/-- A service only joins with distribution info that was checked. -/
theorem stake_distribution {self sender : Address} {timestamp : Nat}
    {answers : Nat → ActivityAnswer} {view : StakeView} {serviceId info : Nat} {nft : ERC721}
    {s : StakingState} {after : StakingState × ERC721 × CheckpointResult}
    (ran : stake self sender timestamp answers view serviceId info nft s = .ok after) :
    checkRewardDistribution view info = .ok () := by
  simp only [stake, bind_eq_ok, Prod.exists, revertIf_eq_ok, exists_const] at ran
  obtain ⟨_, -, _, _, -, -, -, -, _, -, ran⟩ := ran
  split at ran
  · cases ran
  · simp only [bind_eq_ok] at ran
    obtain ⟨_, checked, -⟩ := ran
    exact checked

theorem popLast_eq_ok {site : StakingSite} {items : List Nat} (nonempty : items ≠ []) :
    popLast site items = .ok items.dropLast := by
  rw [popLast, if_neg nonempty]

theorem removeFromSet_spec {items : List Nat} {idx : Nat} (inside : idx < items.length) :
    removeFromSet idx items = .ok (swapRemove items idx) := by
  have nonempty : items ≠ [] := List.ne_nil_of_length_pos (by omega)
  simp only [removeFromSet, checkedSub, if_pos (by omega : 1 ≤ items.length), ok_bind]
  split
  · exact swapPop_spec .unstakeSet inside
  · rw [popLast_eq_ok nonempty]
    obtain ⟨item, rfl⟩ := List.length_eq_one_iff.mp (by omega : items.length = 1)
    obtain rfl : idx = 0 := by
      rw [List.length_singleton] at inside
      omega
    rfl

/-- The unstaked service leaves the set if it is in it. -/
theorem removeIfFound_spec (serviceId : Nat) (items : List Nat) :
    ∃ items', removeIfFound serviceId items items = .ok items' ∧
      ((serviceId ∉ items ∧ items' = items) ∨ (items' ++ [serviceId]).Perm items) := by
  rw [removeIfFound]
  split
  · next idx found =>
    obtain ⟨inside, here, -⟩ := List.findIdx?_eq_some_iff_getElem.mp found
    refine ⟨_, removeFromSet_spec inside, .inr ?_⟩
    have removed := swapRemove_perm inside
    rwa [List.getD_eq_getElem?_getD, List.getElem?_eq_getElem inside, Option.getD_some,
      eq_of_beq here] at removed
  · next missing =>
    refine ⟨items, rfl, .inl ⟨fun member => ?_, rfl⟩⟩
    have := List.findIdx?_eq_none_iff.mp missing serviceId member
    simp at this

theorem unstake_spec {self sender : Address} {timestamp : Nat} {answers : Nat → ActivityAnswer}
    {view : RewardView} {serviceId : Nat} {enforced : Bool} {s s' : StakingState}
    {payout : PayoutResult}
    (sound : SoundSet s.setServiceIds)
    (ran : unstake self sender timestamp answers view serviceId enforced s = .ok (s', payout)) :
    s.locked ≤ 1 ∧ ∃ s₁ result items, checkpoint timestamp answers { s with locked := 2 } =
        .ok (s₁, result) ∧
      sender = (s₁.mapServiceInfo serviceId).owner ∧
      ((serviceId ∉ s₁.setServiceIds ∧ items = s₁.setServiceIds) ∨
        (items ++ [serviceId]).Perm s₁.setServiceIds) ∧
      payout.checkpoint = some result ∧
      payout.reward = (s₁.mapServiceInfo serviceId).reward ∧
      (¬ enforced → 0 < payout.reward → (payout.payments.map Prod.snd).sum = payout.reward) ∧
      s' = { s₁ with
        mapServiceInfo := Function.update s₁.mapServiceInfo serviceId ServiceInfo.empty
        setServiceIds := items
        availableRewards := s₁.availableRewards + if enforced then payout.reward else 0 } := by
  simp only [unstake, bind_eq_ok, Prod.exists, lock_eq_ok, revertIf_eq_ok, exists_const,
    checkedSub_eq_ok, ne_eq, not_not] at ran
  obtain ⟨_, ⟨free, rfl⟩, s₁, result, checkpointed, owned, _, -, -, items, removed, ran⟩ := ran
  have returned := checkpoint_returned (show SoundSet (StakingState.setServiceIds
    { s with locked := 2 }) from sound) checkpointed
  obtain ⟨items', removed', left⟩ := removeIfFound_spec serviceId s₁.setServiceIds
  rw [returned, removed'] at removed
  cases removed
  refine ⟨free, s₁, result, items, checkpointed, owned, left, ?_⟩
  split at ran
  · next rewarded =>
    split at ran
    · next forced =>
      simp only [bind_eq_ok, checkedAdd_eq_ok, pure_eq_ok, Prod.mk.injEq] at ran
      obtain ⟨_, ⟨-, rfl⟩, rfl, rfl⟩ := ran
      exact ⟨rfl, rfl, fun free => absurd forced free, by rw [if_pos forced]⟩
    · next free =>
      simp only [bind_eq_ok, pure_eq_ok, Prod.mk.injEq] at ran
      obtain ⟨payments, split, rfl, rfl⟩ := ran
      exact ⟨rfl, rfl, fun _ _ => payments_sum split, by rw [if_neg free]; rfl⟩
  · next none =>
    rw [pure_eq_ok, Prod.mk.injEq] at ran
    obtain ⟨rfl, rfl⟩ := ran
    refine ⟨rfl, (Nat.eq_zero_of_not_pos none).symm, fun _ some => absurd some (lt_irrefl 0), ?_⟩
    rw [ite_self]
    rfl

theorem checkpointIf_spec {execCheckPoint : Bool} {timestamp : Nat}
    {answers : Nat → ActivityAnswer} {s s' : StakingState} {result : Option CheckpointResult}
    (ran : checkpointIf execCheckPoint timestamp answers s = .ok (s', result)) :
    (s' = s ∧ result = none) ∨
      ∃ r, checkpoint timestamp answers s = .ok (s', r) ∧ result = some r := by
  rw [checkpointIf] at ran
  split at ran
  · simp only [bind_eq_ok, Prod.exists, pure_eq_ok, Prod.mk.injEq] at ran
    obtain ⟨_, r, checkpointed, rfl, rfl⟩ := ran
    exact .inr ⟨r, checkpointed, rfl⟩
  · cases ran
    exact .inl ⟨rfl, rfl⟩

/-- A claim pays what the record holds after the checkpoint, if one is made. -/
theorem claim_spec {self sender : Address} {timestamp : Nat} {answers : Nat → ActivityAnswer}
    {view : RewardView} {serviceId : Nat} {execCheckPoint : Bool} {s s' : StakingState}
    {payout : PayoutResult}
    (ran : claim self sender timestamp answers view serviceId execCheckPoint s =
      .ok (s', payout)) :
    s.locked ≤ 1 ∧ sender = (s.mapServiceInfo serviceId).owner ∧ ∃ s₁,
      checkpointIf execCheckPoint timestamp answers { s with locked := 2 } =
        .ok (s₁, payout.checkpoint) ∧
      payout.reward = (s₁.mapServiceInfo serviceId).reward ∧
      (payout.payments.map Prod.snd).sum = payout.reward ∧
      s' = { s₁ with
        mapServiceInfo := Function.update s₁.mapServiceInfo serviceId
          { s₁.mapServiceInfo serviceId with reward := 0 } } := by
  simp only [claim, bind_eq_ok, Prod.exists, lock_eq_ok, revertIf_eq_ok, exists_const, ne_eq,
    not_not, pure_eq_ok, Prod.mk.injEq] at ran
  obtain ⟨_, ⟨free, rfl⟩, owned, s₁, result, checkpointed, -, payments, split, rfl, rfl⟩ := ran
  exact ⟨free, owned, s₁, checkpointed, rfl, payments_sum split, rfl⟩

end StakingBase

open StakingBase

/-- What the code of the staking contract and the calls of others are made of. The
balance and the lock are left to `books`. -/
inductive StakingMove (self : Address) : StakingWorld → StakingWorld → Prop where
  | books {w : StakingWorld} (balance locked : Nat) :
      StakingMove self w { w with store := { w.store with balance, locked } }
  | tick {w : StakingWorld} (elapsed : Nat) :
      StakingMove self w { w with timestamp := w.timestamp + elapsed }
  | fund {w : StakingWorld} (amount : Nat) :
      StakingMove self w { w with
        store := { w.store with availableRewards := w.store.availableRewards + amount } }
  | checkpoint {w : StakingWorld} {answers : Nat → ActivityAnswer} {s' : StakingState}
      {verdicts : List Verdict} {result : CheckpointResult}
      (taken : Taken w.timestamp answers verdicts w.store s' result) :
      StakingMove self w { w with
        store := s'
        history := w.history ++ StakingWorld.accounted w.timestamp answers w.store result }
  | join {w : StakingWorld} {nft : ERC721} (sender : Caller) (serviceId : Nat)
      (multisig : Address) (nonces : List Nat) (info : Nat) (other : sender.val ≠ self)
      (unstaked : (w.store.mapServiceInfo serviceId).tsStart = 0)
      (room : w.store.setServiceIds.length ≠ w.store.params.maxNumServices)
      (moved : w.nft.transferFrom self sender self serviceId = .ok nft) :
      StakingMove self w { w with
        store := { w.store with
          mapServiceInfo := Function.update w.store.mapServiceInfo serviceId
            { w.store.mapServiceInfo serviceId with
              multisig
              owner := sender
              nonces
              tsStart := w.timestamp
              rewardDistributionInfo := info }
          setServiceIds := w.store.setServiceIds ++ [serviceId] }
        nft
        history := w.history ++ [.staked serviceId sender w.timestamp] }
  | collect {w : StakingWorld} (serviceId : Nat) :
      StakingMove self w { w with
        store := { w.store with
          mapServiceInfo := Function.update w.store.mapServiceInfo serviceId
            { w.store.mapServiceInfo serviceId with reward := 0 } }
        history := w.history ++
          [.claimed serviceId (w.store.mapServiceInfo serviceId).reward] }
  | leave {w : StakingWorld} (serviceId returned : Nat) (items : List Nat)
      (owned : (w.store.mapServiceInfo serviceId).owner ≠ 0)
      (left : (serviceId ∉ w.store.setServiceIds ∧ items = w.store.setServiceIds) ∨
        (items ++ [serviceId]).Perm w.store.setServiceIds) :
      StakingMove self w { w with
        store := { w.store with
          mapServiceInfo := Function.update w.store.mapServiceInfo serviceId ServiceInfo.empty
          setServiceIds := items
          availableRewards := w.store.availableRewards + returned }
        history := w.history ++ [.unstaked serviceId] }
  | settle {w : StakingWorld} (serviceId reward : Nat) (payments : List (Address × Nat)) :
      StakingMove self w { w with
        history := w.history ++ [.settled serviceId reward payments] }
  | giveBack {w : StakingWorld} {nft : ERC721} (serviceId : Nat) (owner : Address)
      (gone : (w.store.mapServiceInfo serviceId).tsStart = 0)
      (moved : w.nft.transferFrom self self owner serviceId = .ok nft) :
      StakingMove self w { w with nft }
  | mint {w : StakingWorld} {nft : ERC721} (recipient : Address)
      (moved : w.nft.mint recipient (w.supply + 1) = .ok nft) :
      StakingMove self w { w with nft, supply := w.supply + 1 }
  | approve {w : StakingWorld} {nft : ERC721} (sender : Caller) (spender : Address) (id : Nat)
      (other : sender.val ≠ self) (moved : w.nft.approve sender spender id = .ok nft) :
      StakingMove self w { w with nft }
  | setApprovalForAll {w : StakingWorld} (sender : Caller) (operator : Address)
      (approved : Bool) (other : sender.val ≠ self) :
      StakingMove self w { w with nft := w.nft.setApprovalForAll sender operator approved }
  | transferFrom {w : StakingWorld} {nft : ERC721} (sender : Caller) (owner recipient : Address)
      (id : Nat) (other : sender.val ≠ self)
      (moved : w.nft.transferFrom sender owner recipient id = .ok nft) :
      StakingMove self w { w with nft }

abbrev StakingMoves (self : Address) : StakingWorld → StakingWorld → Prop :=
  Relation.ReflTransGen (StakingMove self)

section Moves
variable {self : Address}

theorem checkpoint_moves {timestamp : Nat} {answers : Nat → ActivityAnswer} {w : StakingWorld}
    {s' : StakingState} {result : CheckpointResult} (now : timestamp = w.timestamp)
    (sound : SoundSet w.store.setServiceIds)
    (ran : StakingBase.checkpoint timestamp answers w.store = .ok (s', result)) :
    StakingMoves self w { w with
      store := s'
      history := w.history ++ StakingWorld.accounted w.timestamp answers w.store result } := by
  subst now
  rcases checkpoint_spec sound ran with ⟨rfl, skipped, -⟩ | ⟨verdicts, taken⟩
  · rw [StakingWorld.accounted, if_pos skipped, List.append_nil]
  · exact .single (.checkpoint taken)

/-- A transfer back, wherever it happens, is made for a record that is gone. -/
theorem giveBack_moves {w w' : StakingWorld} {serviceId : Nat} {owner : Address}
    (ran : w.giveBack self serviceId owner = .ok w')
    (gone : (w.store.mapServiceInfo serviceId).tsStart = 0) :
    StakingMoves self w w' ∧ w'.store = StakingBase.unlock w.store := by
  simp only [StakingWorld.giveBack, bind_eq_ok, tokenCall_eq_ok, pure_eq_ok] at ran
  obtain ⟨nft, moved, rfl⟩ := ran
  exact ⟨(Relation.ReflTransGen.single (.giveBack serviceId owner gone moved)).tail
    (.books w.store.balance 1), rfl⟩

theorem withdraw_moves {w : StakingWorld} {l : Withdrawal}
    {out : Outcome StakingWorld StakingFrame}
    (gone : ∀ owner, l.returnTo = some owner →
      (w.store.mapServiceInfo l.serviceId).tsStart = 0)
    (ran : w.withdraw self l = .ok out) : StakingMoves self w out.state := by
  rw [StakingWorld.withdraw] at ran
  split at ran
  · have settled : StakingMoves self w { w with
        store := { w.store with balance := l.updatedBalance }
        history := w.history ++ [StakingEvent.settled l.serviceId l.reward l.sent] } :=
      (Relation.ReflTransGen.single (.books l.updatedBalance w.store.locked)).tail
        (.settle l.serviceId l.reward l.sent)
    split at ran
    · rw [pure_eq_ok] at ran
      subst ran
      exact settled.tail (.books l.updatedBalance 1)
    · next owner returnTo =>
      simp only [bind_eq_ok, pure_eq_ok] at ran
      obtain ⟨w', back, rfl⟩ := ran
      exact settled.trans (giveBack_moves back (gone owner returnTo)).1
  · simp only [bind_eq_ok, pure_eq_ok] at ran
    obtain ⟨_, -, rfl⟩ := ran
    exact .refl

theorem stake_moves {w : StakingWorld} {sender : Caller} {answers : Nat → ActivityAnswer}
    {view : StakeView} {serviceId info : Nat} {s' : StakingState} {nft : ERC721}
    {result : CheckpointResult} (sound : SoundSet w.store.setServiceIds)
    (other : sender.val ≠ self)
    (ran : StakingBase.stake self sender w.timestamp answers view serviceId info w.nft w.store =
      .ok (s', nft, result)) :
    StakingMoves self w { w with
      store := s'
      nft
      history := w.history ++ StakingWorld.accounted w.timestamp answers w.store result ++
        [.staked serviceId sender w.timestamp] } := by
  obtain ⟨-, s₁, nonces, checkpointed, unstaked, room, -, moved, rfl⟩ := stake_spec ran
  have locked : StakingMoves self w { w with store := { w.store with locked := 2 } } :=
    .single (.books w.store.balance 2)
  refine ((locked.trans (checkpoint_moves rfl sound checkpointed)).tail
    (.join sender serviceId view.service.multisig nonces info other unstaked room moved)).tail
      (.books s₁.balance 1)

theorem unstake_moves {w : StakingWorld} {sender : Caller} {answers : Nat → ActivityAnswer}
    {view : RewardView} {serviceId : Nat} {enforced : Bool} {s' : StakingState}
    {payout : PayoutResult} (sound : SoundSet w.store.setServiceIds)
    (ran : StakingBase.unstake self sender w.timestamp answers view serviceId enforced w.store =
      .ok (s', payout)) :
    StakingMoves self w { w with
      store := s'
      history := w.history ++
        StakingWorld.accountedIf w.timestamp answers w.store payout.checkpoint ++
          [.unstaked serviceId] } ∧
      (s'.mapServiceInfo serviceId).tsStart = 0 := by
  obtain ⟨-, s₁, result, items, checkpointed, owned, left, reported, -, -, rfl⟩ :=
    unstake_spec sound ran
  have locked : StakingMoves self w { w with store := { w.store with locked := 2 } } :=
    .single (.books w.store.balance 2)
  rw [reported]
  refine ⟨(locked.trans (checkpoint_moves rfl sound checkpointed)).tail
    (.leave serviceId _ items (owned ▸ sender.property) left), ?_⟩
  simp only [Function.update_self]
  rfl

theorem claim_moves {w : StakingWorld} {sender : Caller} {answers : Nat → ActivityAnswer}
    {view : RewardView} {serviceId : Nat} {execCheckPoint : Bool} {s' : StakingState}
    {payout : PayoutResult} (sound : SoundSet w.store.setServiceIds)
    (ran : StakingBase.claim self sender w.timestamp answers view serviceId execCheckPoint
      w.store = .ok (s', payout)) :
    StakingMoves self w { w with
      store := s'
      history := w.history ++
        StakingWorld.accountedIf w.timestamp answers w.store payout.checkpoint ++
          [.claimed serviceId payout.reward] } := by
  obtain ⟨-, -, s₁, checkpointed, rewarded, -, rfl⟩ := claim_spec ran
  have locked : StakingMoves self w { w with store := { w.store with locked := 2 } } :=
    .single (.books w.store.balance 2)
  rw [rewarded]
  rcases checkpointIf_spec checkpointed with ⟨rfl, reported⟩ | ⟨result, checkpointed, reported⟩
  · rw [reported, StakingWorld.accountedIf, List.append_nil]
    exact locked.tail (.collect serviceId)
  · rw [reported]
    exact (locked.trans (checkpoint_moves rfl sound checkpointed)).tail (.collect serviceId)

theorem token_eq_ok {w : StakingWorld} {run : Except Revert ERC721}
    {out : Outcome StakingWorld StakingFrame} (ran : w.token run = .ok out) :
    ∃ nft, run = .ok nft ∧ out = .done { w with nft } := by
  simp only [StakingWorld.token, bind_eq_ok, tokenCall_eq_ok, pure_eq_ok] at ran
  obtain ⟨nft, moved, rfl⟩ := ran
  exact ⟨nft, moved, rfl⟩

/-- The calls that do not reach the staking contract. -/
def StakingCall.foreign : StakingCall → Prop
  | .tick _ | .mint _ | .approve _ _ _ | .setApprovalForAll _ _ _ | .transferFrom _ _ _ _ => True
  | _ => False

theorem foreign_enter {call : StakingCall} {w : StakingWorld}
    {out : Outcome StakingWorld StakingFrame} (foreign : call.foreign)
    (ran : StakingWorld.enter self call w = .ok out) :
    out.state.store = w.store ∧ out.state.history = w.history ∧ out.pending = [] := by
  cases call with
  | tick elapsed =>
    cases ran
    exact ⟨rfl, rfl, rfl⟩
  | mint recipient =>
    simp only [StakingWorld.enter, bind_eq_ok, pure_eq_ok] at ran
    obtain ⟨nft, -, rfl⟩ := ran
    exact ⟨rfl, rfl, rfl⟩
  | setApprovalForAll sender operator approved =>
    cases ran
    exact ⟨rfl, rfl, rfl⟩
  | approve | transferFrom =>
    obtain ⟨nft, -, rfl⟩ := token_eq_ok ran
    exact ⟨rfl, rfl, rfl⟩
  | _ => cases foreign

/-- Every call is a chain of moves. -/
theorem staking_enter_moves {call : StakingCall} {w : StakingWorld}
    {out : Outcome StakingWorld StakingFrame} (sound : SoundSet w.store.setServiceIds)
    (other : call.sender ≠ some self) (ran : StakingWorld.enter self call w = .ok out) :
    StakingMoves self w out.state := by
  cases call with
  | tick elapsed =>
    cases ran
    exact .single (.tick elapsed)
  | deposit sender amount =>
    simp only [StakingWorld.enter] at ran
    split at ran
    · simp only [bind_eq_ok, pure_eq_ok] at ran
      obtain ⟨s, credited, rfl⟩ := ran
      obtain ⟨-, rfl⟩ := credit_spec credited
      exact (Relation.ReflTransGen.single (.fund amount)).tail
        (.books (w.store.balance + amount) 2)
    · cases ran
  | receive sender value =>
    simp only [StakingWorld.enter] at ran
    split at ran
    · cases ran
    · simp only [bind_eq_ok, pure_eq_ok] at ran
      obtain ⟨s, credited, rfl⟩ := ran
      obtain ⟨-, rfl⟩ := credit_spec credited
      exact (Relation.ReflTransGen.single (.fund value)).tail
        (.books (w.store.balance + value) 1)
  | checkpoint sender answers =>
    simp only [StakingWorld.enter, bind_eq_ok, Prod.exists, lock_eq_ok, pure_eq_ok] at ran
    obtain ⟨_, ⟨-, rfl⟩, s₁, result, checkpointed, rfl⟩ := ran
    have locked : StakingMoves self w { w with store := { w.store with locked := 2 } } :=
      .single (.books w.store.balance 2)
    exact (locked.trans (checkpoint_moves rfl sound checkpointed)).tail (.books s₁.balance 1)
  | stake sender answers view serviceId info =>
    simp only [StakingWorld.enter, bind_eq_ok, Prod.exists, pure_eq_ok] at ran
    obtain ⟨s', nft, result, staked, rfl⟩ := ran
    exact stake_moves sound (by simpa [StakingCall.sender] using other) staked
  | unstake sender answers view serviceId enforced =>
    simp only [StakingWorld.enter, bind_eq_ok, Prod.exists] at ran
    obtain ⟨s', payout, unstaked, ran⟩ := ran
    obtain ⟨moves, gone⟩ := unstake_moves sound unstaked
    split at ran
    · exact moves.trans (withdraw_moves (fun _ _ => gone) ran)
    · simp only [bind_eq_ok, pure_eq_ok] at ran
      obtain ⟨w', back, rfl⟩ := ran
      exact moves.trans (giveBack_moves back gone).1
  | claim sender answers view serviceId execCheckPoint =>
    simp only [StakingWorld.enter, bind_eq_ok, Prod.exists] at ran
    obtain ⟨s', payout, claimed, ran⟩ := ran
    exact (claim_moves sound claimed).trans
      (withdraw_moves (fun _ returned => by cases returned) ran)
  | mint recipient =>
    simp only [StakingWorld.enter, bind_eq_ok, tokenCall_eq_ok, pure_eq_ok] at ran
    obtain ⟨nft, moved, rfl⟩ := ran
    exact .single (.mint recipient moved)
  | approve sender spender id =>
    obtain ⟨nft, moved, rfl⟩ := token_eq_ok ran
    exact .single (.approve sender spender id (by simpa [StakingCall.sender] using other) moved)
  | setApprovalForAll sender operator approved =>
    cases ran
    exact .single (.setApprovalForAll sender operator approved
      (by simpa [StakingCall.sender] using other))
  | transferFrom sender owner recipient id =>
    obtain ⟨nft, moved, rfl⟩ := token_eq_ok ran
    exact .single (.transferFrom sender owner recipient id
      (by simpa [StakingCall.sender] using other) moved)

end Moves
end AutonolasRegistries.Source
