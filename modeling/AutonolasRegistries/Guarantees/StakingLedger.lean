import AutonolasRegistries.Guarantees.StakingPanics
import AutonolasRegistries.Guarantees.StakingRuns

/-!
# Conservation of the staked rewards

Every token the contract has is either available for rewards or owed to a service.
While `_withdraw` pays, the storage still has the old balance; the balance it will
write is what is owed plus what is still to be paid.
-/
namespace AutonolasRegistries.Guarantees
open Library Source StakingBase

def rewardOf (s : StakingState) (serviceId : Nat) : Nat := (s.mapServiceInfo serviceId).reward

/-- The rewards of all services. -/
noncomputable def owedRewards (s : StakingState) : Nat := total (rewardOf s)

def paymentSum (payments : List (Address × Nat)) : Nat := (payments.map Prod.snd).sum

theorem paymentSum_append (payments payments' : List (Address × Nat)) :
    paymentSum (payments ++ payments') = paymentSum payments + paymentSum payments' := by
  simp [paymentSum]

section Accounts
variable {self : Address} {w : StakingWorld}

/-- Only records in use hold rewards. -/
theorem rewardOf_support (book : StakingBook self w) : (rewardOf w.store).support.Finite := by
  refine book.finite.subset fun serviceId rewarded => ?_
  rw [Set.mem_ofPred_eq, Nat.pos_iff_ne_zero]
  intro zero
  refine rewarded ?_
  rw [rewardOf, book.blank serviceId zero]
  rfl

theorem checkpoint_conserves {timestamp : Nat} {answers : Nat → ActivityAnswer}
    {s s' : StakingState} {result : CheckpointResult} (finite : (rewardOf s).support.Finite)
    (sound : SoundSet s.setServiceIds)
    (ran : StakingBase.checkpoint timestamp answers s = .ok (s', result)) :
    (rewardOf s').support.Finite ∧
    s'.availableRewards + owedRewards s' = s.availableRewards + owedRewards s := by
  rcases checkpoint_spec sound ran with ⟨rfl, -⟩ | ⟨verdicts, taken⟩
  · exact ⟨finite, rfl⟩
  · have rewards : rewardOf s' =
        fun id => rewardOf s id + creditOf result.finalRewards id := by
      funext id
      obtain ⟨_, _, record⟩ := taken.record id
      rw [rewardOf, record]
      rfl
    have conserved := taken.conserved
    constructor
    · rw [rewards]
      exact (finite.union (creditOf_support _)).subset (Function.support_add _ _)
    · rw [owedRewards, rewards, total_add finite (creditOf_support _), total_creditOf,
        ← owedRewards]
      omega

/-- The record of a service is written with another reward. -/
theorem owedRewards_update {s : StakingState} (s' : StakingState) (finite : (rewardOf s).support.Finite)
    {serviceId : Nat} {sInfo : ServiceInfo}
    (records : s'.mapServiceInfo = Function.update s.mapServiceInfo serviceId sInfo) :
    owedRewards s' + (s.mapServiceInfo serviceId).reward = owedRewards s + sInfo.reward := by
  have rewards : rewardOf s' = Function.update (rewardOf s) serviceId sInfo.reward := by
    funext id
    rw [rewardOf, records]
    by_cases same : id = serviceId
    · subst same
      rw [Function.update_self, Function.update_self]
    · rw [Function.update_of_ne same, Function.update_of_ne same, rewardOf]
  rw [owedRewards, rewards]
  exact total_update_add_of_support finite serviceId sInfo.reward

theorem stake_conserves {sender : Address} {timestamp : Nat} {answers : Nat → ActivityAnswer}
    {view : StakeView} {serviceId info : Nat} {nft nft' : ERC721} {s s' : StakingState}
    {result : CheckpointResult} (finite : (rewardOf s).support.Finite)
    (sound : SoundSet s.setServiceIds)
    (ran : StakingBase.stake self sender timestamp answers view serviceId info nft s =
      .ok (s', nft', result)) :
    s'.balance = s.balance ∧
    s'.availableRewards + owedRewards s' = s.availableRewards + owedRewards s := by
  obtain ⟨-, s₁, nonces, checkpointed, -, -, -, -, rfl⟩ := stake_spec ran
  obtain ⟨finite₁, conserved⟩ := checkpoint_conserves (by exact finite) (by exact sound)
    checkpointed
  refine ⟨(checkpoint_frame (by exact sound) checkpointed).1, ?_⟩
  have kept := owedRewards_update { s₁ with
    mapServiceInfo := Function.update s₁.mapServiceInfo serviceId
      { s₁.mapServiceInfo serviceId with
        multisig := view.service.multisig
        owner := sender
        nonces
        tsStart := timestamp
        rewardDistributionInfo := info }
    setServiceIds := s₁.setServiceIds ++ [serviceId]
    locked := 1 } finite₁ rfl
  exact (congrArg _ (Nat.add_right_cancel kept)).trans conserved

theorem unstake_conserves {sender : Address} {timestamp : Nat} {answers : Nat → ActivityAnswer}
    {view : RewardView} {serviceId : Nat} {enforced : Bool} {s s' : StakingState}
    {payout : PayoutResult} (finite : (rewardOf s).support.Finite)
    (sound : SoundSet s.setServiceIds)
    (ran : StakingBase.unstake self sender timestamp answers view serviceId enforced s =
      .ok (s', payout)) :
    s'.balance = s.balance ∧
    s'.availableRewards + owedRewards s' + (if enforced then 0 else payout.reward) =
      s.availableRewards + owedRewards s ∧
    (¬ enforced → 0 < payout.reward → paymentSum payout.payments = payout.reward) := by
  obtain ⟨-, s₁, result, items, checkpointed, -, -, -, rewarded, payments, rfl⟩ :=
    unstake_spec sound ran
  obtain ⟨finite₁, conserved⟩ := checkpoint_conserves (by exact finite) (by exact sound)
    checkpointed
  have removed := owedRewards_update { s₁ with
    mapServiceInfo := Function.update s₁.mapServiceInfo serviceId ServiceInfo.empty
    setServiceIds := items
    availableRewards := s₁.availableRewards + if enforced then payout.reward else 0 } finite₁ rfl
  rw [← rewarded] at removed
  have conserved : s₁.availableRewards + owedRewards s₁ = s.availableRewards + owedRewards s :=
    conserved
  have empty : ServiceInfo.empty.reward = 0 := rfl
  refine ⟨(checkpoint_frame (by exact sound) checkpointed).1, ?_, payments⟩
  cases enforced <;> simp only [Bool.false_eq_true, if_false, if_true] at removed ⊢ <;> omega

theorem claim_conserves {sender : Address} {timestamp : Nat} {answers : Nat → ActivityAnswer}
    {view : RewardView} {serviceId : Nat} {execCheckPoint : Bool} {s s' : StakingState}
    {payout : PayoutResult} (finite : (rewardOf s).support.Finite)
    (sound : SoundSet s.setServiceIds)
    (ran : StakingBase.claim self sender timestamp answers view serviceId execCheckPoint s =
      .ok (s', payout)) :
    s'.balance = s.balance ∧
    s'.availableRewards + owedRewards s' + payout.reward =
      s.availableRewards + owedRewards s ∧
    paymentSum payout.payments = payout.reward := by
  obtain ⟨-, -, s₁, checkpointed, rewarded, payments, rfl⟩ := claim_spec ran
  have before : (rewardOf s₁).support.Finite ∧ s₁.balance = s.balance ∧
      s₁.availableRewards + owedRewards s₁ = s.availableRewards + owedRewards s := by
    rcases checkpointIf_spec checkpointed with ⟨rfl, -⟩ | ⟨result, checkpointed, -⟩
    · exact ⟨finite, rfl, rfl⟩
    · obtain ⟨finite₁, conserved⟩ := checkpoint_conserves (by exact finite) (by exact sound)
        checkpointed
      exact ⟨finite₁, (checkpoint_frame (by exact sound) checkpointed).1, conserved⟩
  obtain ⟨finite₁, balance, conserved⟩ := before
  have removed := owedRewards_update { s₁ with
    mapServiceInfo := Function.update s₁.mapServiceInfo serviceId
      { s₁.mapServiceInfo serviceId with reward := 0 } } finite₁ rfl
  rw [← rewarded] at removed
  refine ⟨balance, ?_, payments⟩
  dsimp only at removed ⊢
  omega

end Accounts

/-- Every payment on record adds up to the reward it was for. -/
def SettledExactly (history : List StakingEvent) : Prop := ∀ serviceId reward payments,
  StakingEvent.settled serviceId reward payments ∈ history → paymentSum payments = reward

theorem SettledExactly.append {history : List StakingEvent} (settled : SettledExactly history)
    {events : List StakingEvent} (more : SettledExactly events) :
    SettledExactly (history ++ events) := by
  intro serviceId reward payments member
  rcases List.mem_append.mp member with member | member
  · exact settled serviceId reward payments member
  · exact more serviceId reward payments member

theorem accounted_settled (timestamp : Nat) (answers : Nat → ActivityAnswer) (s : StakingState)
    (result : CheckpointResult) :
    SettledExactly (StakingWorld.accounted timestamp answers s result) := by
  intro serviceId reward payments member
  rw [StakingWorld.accounted] at member
  split at member <;> simp at member

theorem accountedIf_settled (timestamp : Nat) (answers : Nat → ActivityAnswer)
    (s : StakingState) (result : Option CheckpointResult) :
    SettledExactly (StakingWorld.accountedIf timestamp answers s result) := by
  cases result with
  | some result => exact accounted_settled timestamp answers s result
  | none => exact fun _ _ _ member => by cases member

/-- The balance is what is available and what is owed, with what a withdrawal still has
to pay; and what was paid for a service is what it had. -/
structure StakingLedger (w : StakingWorld) (frames : List StakingFrame) : Prop where
  balanced : (∀ l, frames ≠ [.withdraw l]) →
    w.store.balance = w.store.availableRewards + owedRewards w.store
  paying : ∀ l, frames = [.withdraw l] →
    l.updatedBalance =
      w.store.availableRewards + owedRewards w.store + paymentSum l.remaining ∧
    paymentSum l.sent + paymentSum l.remaining = l.reward
  settled : SettledExactly w.history

namespace StakingLedger
variable {self : Address} {w w' : StakingWorld} {frames : List StakingFrame}

theorem of_store (before : StakingLedger w frames) (store : w'.store = w.store)
    (history : w'.history = w.history) : StakingLedger w' frames := by
  refine ⟨?_, ?_, history ▸ before.settled⟩
  · rw [store]
    exact before.balanced
  · rw [store]
    exact before.paying

/-- A call that has nothing left to pay. -/
theorem of_balanced (other : ∀ l, frames ≠ [.withdraw l])
    (balanced : w.store.balance = w.store.availableRewards + owedRewards w.store)
    (settled : SettledExactly w.history) : StakingLedger w frames :=
  ⟨fun _ => balanced, fun l frame => absurd frame (other l), settled⟩

theorem giveBack (balanced : w.store.balance = w.store.availableRewards + owedRewards w.store)
    (settled : SettledExactly w.history) {serviceId : Nat} {owner : Address}
    (ran : w.giveBack self serviceId owner = .ok w') : StakingLedger w' [] := by
  simp only [StakingWorld.giveBack, bind_eq_ok, pure_eq_ok] at ran
  obtain ⟨nft, -, rfl⟩ := ran
  exact of_balanced (fun l frame => by cases frame) balanced settled

/-- One payment of `_withdraw`, or its end. -/
theorem withdraw {l : Withdrawal} {out : Outcome StakingWorld StakingFrame}
    (funds : l.updatedBalance =
      w.store.availableRewards + owedRewards w.store + paymentSum l.remaining)
    (shares : paymentSum l.sent + paymentSum l.remaining = l.reward)
    (settled : SettledExactly w.history) (ran : w.withdraw self l = .ok out) :
    StakingLedger out.state out.pending := by
  rw [StakingWorld.withdraw] at ran
  split at ran
  · next paid =>
    rw [paid] at funds shares
    have done : SettledExactly
        (w.history ++ [StakingEvent.settled l.serviceId l.reward l.sent]) := by
      refine settled.append fun serviceId reward payments member => ?_
      rw [List.mem_singleton, StakingEvent.settled.injEq] at member
      obtain ⟨-, rfl, rfl⟩ := member
      exact shares
    split at ran
    · rw [pure_eq_ok] at ran
      subst ran
      exact of_balanced (fun l frame => by cases frame) funds done
    · simp only [bind_eq_ok, pure_eq_ok] at ran
      obtain ⟨w', back, rfl⟩ := ran
      exact giveBack funds done back
  · next payment rest remaining =>
    simp only [bind_eq_ok, checkedSub_eq_ok, pure_eq_ok] at ran
    obtain ⟨_, ⟨-, rfl⟩, rfl⟩ := ran
    rw [remaining, ← List.singleton_append, paymentSum_append] at funds shares
    refine ⟨fun other => absurd rfl (other _), fun l' frame => ?_, settled⟩
    cases frame
    dsimp only [Outcome.state_suspended]
    rw [paymentSum_append]
    simp only [paymentSum, List.map_cons, List.map_nil, List.sum_cons, List.sum_nil] at funds shares ⊢
    omega

/-- What a call that is not foreign does to a balanced ledger. -/
theorem enter {call : StakingCall} {out : Outcome StakingWorld StakingFrame}
    (book : StakingBook self w) (ran : StakingWorld.enter self call w = .ok out) :
    call.foreign ∨ (w.store.locked ≤ 1 ∧
      (w.store.balance = w.store.availableRewards + owedRewards w.store →
        SettledExactly w.history → StakingLedger out.state out.pending)) := by
  have finite := rewardOf_support book
  cases call with
  | tick | mint | approve | setApprovalForAll | transferFrom => exact .inl trivial
  | deposit sender amount =>
    simp only [StakingWorld.enter] at ran
    split at ran
    · simp only [bind_eq_ok, pure_eq_ok] at ran
      obtain ⟨s, credited, rfl⟩ := ran
      obtain ⟨free, rfl⟩ := credit_spec credited
      refine .inr ⟨free, fun balanced settled => ?_⟩
      refine of_balanced (fun l frame => by cases frame) ?_ settled
      exact (congrArg (· + amount) balanced).trans (Nat.add_right_comm _ _ _)
    · cases ran
  | receive sender value =>
    simp only [StakingWorld.enter] at ran
    split at ran
    · cases ran
    · simp only [bind_eq_ok, pure_eq_ok] at ran
      obtain ⟨s, credited, rfl⟩ := ran
      obtain ⟨free, rfl⟩ := credit_spec credited
      refine .inr ⟨free, fun balanced settled => ?_⟩
      refine of_balanced (fun l frame => by cases frame) ?_ settled
      exact (congrArg (· + value) balanced).trans (Nat.add_right_comm _ _ _)
  | checkpoint sender answers =>
    simp only [StakingWorld.enter, bind_eq_ok, Prod.exists, lock_eq_ok, pure_eq_ok] at ran
    obtain ⟨_, ⟨free, rfl⟩, s₁, result, checkpointed, rfl⟩ := ran
    have conserved := (checkpoint_conserves (by exact finite) (by exact book.sound)
      checkpointed).2
    have frame := (checkpoint_frame (by exact book.sound) checkpointed).1
    refine .inr ⟨free, fun balanced settled => of_balanced (fun l frame => by cases frame)
      ?_ (settled.append (accounted_settled _ _ _ _))⟩
    exact frame.trans (balanced.trans conserved.symm)
  | stake sender answers view serviceId info =>
    simp only [StakingWorld.enter, bind_eq_ok, Prod.exists, pure_eq_ok] at ran
    obtain ⟨s', nft, result, staked, rfl⟩ := ran
    obtain ⟨balance, conserved⟩ := stake_conserves finite book.sound staked
    refine .inr ⟨(stake_spec staked).1, fun balanced settled => of_balanced
      (fun l frame => by cases frame) (balance.trans (balanced.trans conserved.symm)) ?_⟩
    exact (settled.append (accounted_settled _ _ _ _)).append fun _ _ _ member => by simp at member
  | unstake sender answers view serviceId enforced =>
    simp only [StakingWorld.enter, bind_eq_ok, Prod.exists] at ran
    obtain ⟨s', payout, unstaked, ran⟩ := ran
    obtain ⟨balance, conserved, payments⟩ := unstake_conserves finite book.sound unstaked
    refine .inr ⟨(unstake_spec book.sound unstaked).1, fun balanced settled => ?_⟩
    have events : SettledExactly (w.history ++
        StakingWorld.accountedIf w.timestamp answers w.store payout.checkpoint ++
          [.unstaked serviceId]) :=
      (settled.append (accountedIf_settled _ _ _ _)).append fun _ _ _ member => by simp at member
    split at ran
    · next paying =>
      rw [if_neg paying.2] at conserved
      refine withdraw ?_ ?_ events ran
      · dsimp only
        rw [payments paying.2 paying.1, balance, balanced, ← conserved]
      · exact (Nat.zero_add _).trans (payments paying.2 paying.1)
    · next kept =>
      simp only [bind_eq_ok, pure_eq_ok] at ran
      obtain ⟨w', back, rfl⟩ := ran
      refine giveBack ?_ events back
      have nothing : (if enforced = true then 0 else payout.reward) = 0 := by
        by_cases forced : enforced = true
        · rw [if_pos forced]
        · rw [if_neg forced]
          exact Nat.eq_zero_of_not_pos fun positive => kept ⟨positive, forced⟩
      rw [nothing] at conserved
      exact balance.trans (balanced.trans conserved.symm)
  | claim sender answers view serviceId execCheckPoint =>
    simp only [StakingWorld.enter, bind_eq_ok, Prod.exists] at ran
    obtain ⟨s', payout, claimed, ran⟩ := ran
    obtain ⟨balance, conserved, payments⟩ := claim_conserves finite book.sound claimed
    refine .inr ⟨(claim_spec claimed).1, fun balanced settled => withdraw ?_ ?_ ?_ ran⟩
    · dsimp only
      rw [payments, balance, balanced, ← conserved]
    · exact (Nat.zero_add _).trans payments
    · exact (settled.append (accountedIf_settled _ _ _ _)).append fun _ _ _ member => by
        simp at member

/-- No payment exceeds what is left of the balance. -/
theorem withdraw_avoids {l : Withdrawal} (funded : paymentSum l.remaining ≤ l.updatedBalance) :
    Avoids RuledOut (w.withdraw self l) := by
  rw [StakingWorld.withdraw]
  split
  · split
    · exact avoids_of_ok rfl
    · exact avoids_bind (giveBack_avoids _ _) fun _ _ => avoids_of_ok rfl
  · next payment rest remaining =>
    rw [remaining, paymentSum, List.map_cons, List.sum_cons] at funded
    have enough : payment.2 ≤ l.updatedBalance := (Nat.le_add_right _ _).trans funded
    exact avoids_bind (avoids_of_ok (if_pos enough)) fun _ _ => avoids_of_ok rfl

/-- No call stops at an access of the set or at the subtraction of `_withdraw`. -/
theorem enter_avoids (call : StakingCall) (book : StakingBook self w)
    (balanced : w.store.locked ≤ 1 →
      w.store.balance = w.store.availableRewards + owedRewards w.store) :
    Avoids RuledOut (StakingWorld.enter self call w) := by
  have finite := rewardOf_support book
  cases call with
  | tick elapsed => exact avoids_of_ok rfl
  | deposit sender amount =>
    simp only [StakingWorld.enter]
    split
    · exact avoids_bind (credit_avoids _ _) fun _ _ => avoids_of_ok rfl
    · exact avoids_error id
  | receive sender value =>
    simp only [StakingWorld.enter]
    split
    · exact avoids_error id
    · exact avoids_bind (credit_avoids _ _) fun _ _ => avoids_of_ok rfl
  | checkpoint sender answers =>
    refine avoids_bind (lock_avoids ruledOut_narrow _) fun s₀ locked => ?_
    obtain ⟨-, rfl⟩ := lock_eq_ok.mp locked
    exact avoids_bind (checkpoint_avoids ruledOut_narrow (by exact book.sound) fun _ _ _ _ =>
      checkRatioPass_avoids _ _ _ _) fun _ _ => avoids_of_ok rfl
  | stake sender answers view serviceId info =>
    exact avoids_bind (stake_avoids _ _ _ _ _ _ _ _ book.sound) fun _ _ => avoids_of_ok rfl
  | unstake sender answers view serviceId enforced =>
    refine avoids_bind (unstake_avoids ruledOut_narrow _ _ _ _ _ _ book.sound
      fun _ _ _ _ => checkRatioPass_avoids _ _ _ _) fun after unstaked => ?_
    obtain ⟨balance, conserved, payments⟩ := unstake_conserves finite book.sound unstaked
    have before := balanced (unstake_spec book.sound unstaked).1
    dsimp only
    split
    · next paying =>
      rw [if_neg paying.2] at conserved
      refine withdraw_avoids ?_
      dsimp only
      rw [payments paying.2 paying.1, balance, before, ← conserved]
      exact Nat.le_add_left _ _
    · exact avoids_bind (giveBack_avoids _ _) fun _ _ => avoids_of_ok rfl
  | claim sender answers view serviceId execCheckPoint =>
    refine avoids_bind (claim_avoids _ _ _ _ _ _ _ book.sound) fun after claimed => ?_
    obtain ⟨balance, conserved, payments⟩ := claim_conserves finite book.sound claimed
    have before := balanced (claim_spec claimed).1
    refine withdraw_avoids ?_
    dsimp only
    rw [payments, balance, before, ← conserved]
    exact Nat.le_add_left _ _
  | mint recipient =>
    exact avoids_bind (tokenCall_avoids _) fun _ _ => avoids_of_ok rfl
  | approve sender spender id =>
    exact avoids_bind (tokenCall_avoids _) fun _ _ => avoids_of_ok rfl
  | setApprovalForAll sender operator approved => exact avoids_of_ok rfl
  | transferFrom sender owner recipient id =>
    exact avoids_bind (tokenCall_avoids _) fun _ _ => avoids_of_ok rfl

end StakingLedger

section Runs
variable {self : Address}

theorem stakingLedger_preserved :
    Preserved (stakingMachine self) (stakingDiscipline self) (StakingBaseline self)
      StakingLedger := by
  intro w frames w' frames' taken base before
  cases taken with
  | entered call allowed ran =>
    rcases StakingLedger.enter base.book ran with foreign | ⟨free, after⟩
    · obtain ⟨store, history, pending⟩ := foreign_enter foreign ran
      rw [pending]
      exact before.of_store store history
    · have idle := frames_of_unlocked base.shape free
      subst idle
      rw [List.append_nil]
      exact after (before.balanced fun l frame => by cases frame) before.settled
  | @resumed frame frames _ answer allowed ran =>
    match frames, base.shape with
    | [], ⟨locked, gone⟩ =>
      rw [List.append_nil]
      cases frame with
      | deposit =>
        cases ran
        exact .of_balanced (fun l frame => by cases frame)
          (before.balanced fun l frame => by cases frame) before.settled
      | withdraw l =>
        obtain ⟨funds, shares⟩ := before.paying l rfl
        exact .withdraw funds shares before.settled ran

theorem stakingLedger_fresh {w : StakingWorld} (fresh : w.Fresh self) : StakingLedger w [] := by
  obtain ⟨_, _, _, setup⟩ := fresh.setup
  obtain ⟨-, balance, available, -, records, -⟩ := initializeStaking_eq setup
  have none : rewardOf w.store = fun _ => 0 := by
    funext id
    rw [rewardOf, records]
    rfl
  refine .of_balanced (fun l frame => by cases frame) ?_ ?_
  · rw [balance, available, owedRewards, none, total_zero, Nat.add_zero]
  · rw [fresh.empty]
    exact fun _ _ _ member => by cases member

/-- The balance accounts for every reward in every run, whatever call is suspended. -/
theorem stakingLedger_always {start : StakingWorld} (fresh : start.Fresh self)
    {c : Config StakingWorld StakingFrame}
    (run : Reachable (stakingMachine self) (stakingDiscipline self) start c) :
    StakingBaseline self c.state c.frames ∧ StakingLedger c.state c.frames :=
  run.invariant ((stakingBaseline_preserved fresh.nonzero).join stakingLedger_preserved)
    ⟨stakingBaseline_fresh fresh, stakingLedger_fresh fresh⟩

theorem enter_ruledOut {start : StakingWorld} (fresh : start.Fresh self)
    {c : Config StakingWorld StakingFrame}
    (run : Reachable (stakingMachine self) (stakingDiscipline self) start c)
    (call : StakingCall) : Avoids RuledOut (StakingWorld.enter self call c.state) := by
  obtain ⟨base, ledger⟩ := stakingLedger_always fresh run
  refine StakingLedger.enter_avoids call base.book fun free => ledger.balanced fun l => ?_
  rw [frames_of_unlocked base.shape free]
  exact fun frame => by cases frame

theorem resume_ruledOut {start : StakingWorld} (fresh : start.Fresh self)
    {c : Config StakingWorld StakingFrame}
    (run : Reachable (stakingMachine self) (stakingDiscipline self) start c)
    {frame : StakingFrame} {rest : List StakingFrame} (top : c.frames = frame :: rest)
    (answer : Unit) : Avoids RuledOut (StakingWorld.resume self frame answer c.state) := by
  obtain ⟨base, ledger⟩ := stakingLedger_always fresh run
  rw [top] at base ledger
  cases frame with
  | deposit => exact avoids_of_ok rfl
  | withdraw l =>
    match rest, base.shape with
    | [], _ =>
      refine StakingLedger.withdraw_avoids ?_
      rw [(ledger.paying l rfl).1]
      exact Nat.le_add_left _ _

end Runs

end AutonolasRegistries.Guarantees
