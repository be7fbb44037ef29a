import AutonolasRegistries.Guarantees.StakingLedger

/-!
# The account of each service

The contract has one pot for all services. Still every service has an account of its own: what
the checkpoints of all its sessions gave it is what it has on record, what was paid for it, and
what its owner gave up by leaving by force. Nothing that was given to one service is paid for
another. `StakingBase.sol:548-587`, `:883-983`, `:992-1121`.
-/
namespace AutonolasRegistries.Guarantees
open Library Source StakingBase

section Accounts

/-- What an event gives to a service, and what it pays for it. -/
def creditIn (serviceId : Nat) : StakingEvent → Nat
  | .accounted epoch => creditOf epoch.rewards serviceId
  | .staked .. | .claimed .. | .unstaked _ | .settled .. => 0

def paymentIn (serviceId : Nat) : StakingEvent → Nat
  | .settled id _ payments => if id = serviceId then paymentSum payments else 0
  | .staked .. | .accounted _ | .claimed .. | .unstaked _ => 0

/-- What a suspended call pays for a service, with what it has paid already. -/
def withdrawing (serviceId : Nat) : StakingFrame → Nat
  | .withdraw l => if l.serviceId = serviceId then l.reward else 0
  | .deposit => 0

def creditsOf (history : List StakingEvent) (serviceId : Nat) : Nat :=
  (history.map (creditIn serviceId)).sum

def paidOf (history : List StakingEvent) (serviceId : Nat) : Nat :=
  (history.map (paymentIn serviceId)).sum

def beingPaid (frames : List StakingFrame) (serviceId : Nat) : Nat :=
  (frames.map (withdrawing serviceId)).sum

/-- What the owner of a service gives up in a forced unstake: what was on record, and what the
checkpoint of the call itself gave. -/
def forfeitNote : StakingCall → StakingWorld → StakingWorld → List (Nat × Nat)
  | .unstake _ _ _ serviceId true, before, after =>
    [(serviceId, rewardOf before.store serviceId +
      creditsOf (after.history.drop before.history.length) serviceId)]
  | _, _, _ => []

/-- What the owners of a service gave up. -/
def forfeitsOf (forfeits : List (Nat × Nat)) (serviceId : Nat) : Nat :=
  (forfeits.map fun entry => if entry.1 = serviceId then entry.2 else 0).sum

variable (history history' : List StakingEvent) (serviceId : Nat)

@[simp] theorem creditsOf_append :
    creditsOf (history ++ history') serviceId =
      creditsOf history serviceId + creditsOf history' serviceId := by
  simp [creditsOf]

@[simp] theorem paidOf_append :
    paidOf (history ++ history') serviceId =
      paidOf history serviceId + paidOf history' serviceId := by
  simp [paidOf]

@[simp] theorem forfeitsOf_append (forfeits forfeits' : List (Nat × Nat)) :
    forfeitsOf (forfeits ++ forfeits') serviceId =
      forfeitsOf forfeits serviceId + forfeitsOf forfeits' serviceId := by
  simp [forfeitsOf]

@[simp] theorem creditsOf_staked (id : Nat) (owner : Address) (timestamp : Nat) :
    creditsOf [.staked id owner timestamp] serviceId = 0 := rfl
@[simp] theorem creditsOf_claimed (id reward : Nat) :
    creditsOf [.claimed id reward] serviceId = 0 := rfl
@[simp] theorem creditsOf_unstaked (id : Nat) : creditsOf [.unstaked id] serviceId = 0 := rfl
@[simp] theorem creditsOf_settled (id reward : Nat) (payments : List (Address × Nat)) :
    creditsOf [.settled id reward payments] serviceId = 0 := rfl
@[simp] theorem paidOf_staked (id : Nat) (owner : Address) (timestamp : Nat) :
    paidOf [.staked id owner timestamp] serviceId = 0 := rfl
@[simp] theorem paidOf_claimed (id reward : Nat) :
    paidOf [.claimed id reward] serviceId = 0 := rfl
@[simp] theorem paidOf_unstaked (id : Nat) : paidOf [.unstaked id] serviceId = 0 := rfl
@[simp] theorem paidOf_settled (id reward : Nat) (payments : List (Address × Nat)) :
    paidOf [.settled id reward payments] serviceId =
      if id = serviceId then paymentSum payments else 0 := by
  simp [paidOf, paymentIn]

@[simp] theorem beingPaid_nil : beingPaid [] serviceId = 0 := rfl
@[simp] theorem beingPaid_deposit : beingPaid [.deposit] serviceId = 0 := rfl
@[simp] theorem beingPaid_withdraw (l : Withdrawal) :
    beingPaid [.withdraw l] serviceId = if l.serviceId = serviceId then l.reward else 0 := by
  simp [beingPaid, withdrawing]

@[simp] theorem forfeitsOf_nil : forfeitsOf [] serviceId = 0 := rfl
@[simp] theorem forfeitsOf_one (id amount : Nat) :
    forfeitsOf [(id, amount)] serviceId = if id = serviceId then amount else 0 := by
  simp [forfeitsOf]

end Accounts

section Pieces
variable {self : Address} {w w' : StakingWorld} {serviceId : Nat}

theorem accounted_paid (timestamp : Nat) (answers : Nat → ActivityAnswer) (s : StakingState)
    (result : CheckpointResult) :
    paidOf (StakingWorld.accounted timestamp answers s result) serviceId = 0 := by
  unfold StakingWorld.accounted
  split <;> rfl

theorem accountedIf_paid (timestamp : Nat) (answers : Nat → ActivityAnswer) (s : StakingState)
    (result : Option CheckpointResult) :
    paidOf (StakingWorld.accountedIf timestamp answers s result) serviceId = 0 := by
  cases result with
  | none => rfl
  | some result => exact accounted_paid timestamp answers s result

/-- A checkpoint adds to each record what it writes to the history. -/
theorem checkpoint_rewards {timestamp : Nat} {answers : Nat → ActivityAnswer}
    {s s' : StakingState} {result : CheckpointResult} (sound : SoundSet s.setServiceIds)
    (checkpointed : StakingBase.checkpoint timestamp answers s = .ok (s', result))
    (before : StakingState) (serviceId : Nat) :
    rewardOf s' serviceId = rewardOf s serviceId +
      creditsOf (StakingWorld.accounted timestamp answers before result) serviceId := by
  rcases checkpoint_spec sound checkpointed with ⟨rfl, nobody, -⟩ | ⟨verdicts, taken⟩
  · rw [StakingWorld.accounted, if_pos nobody]
    rfl
  · obtain ⟨_, _, record⟩ := taken.record serviceId
    have several : result.calculated.serviceIds ≠ [] := by
      rw [taken.calculated]
      simp only [Calculated.ofVerdicts, taken.services]
      exact List.ne_nil_of_length_pos taken.due.1
    rw [StakingWorld.accounted, if_neg several, rewardOf, record]
    simp [creditsOf, creditIn, rewardOf]

theorem checkpointIf_rewards {execCheckPoint : Bool} {timestamp : Nat}
    {answers : Nat → ActivityAnswer} {s s' : StakingState}
    {result : Option CheckpointResult} (sound : SoundSet s.setServiceIds)
    (checkpointed : checkpointIf execCheckPoint timestamp answers s = .ok (s', result))
    (before : StakingState) (serviceId : Nat) :
    rewardOf s' serviceId = rewardOf s serviceId +
      creditsOf (StakingWorld.accountedIf timestamp answers before result) serviceId := by
  rcases checkpointIf_spec checkpointed with ⟨rfl, rfl⟩ | ⟨r, taken, rfl⟩
  · rfl
  · exact checkpoint_rewards sound taken before serviceId

theorem giveBack_account {owner : Address} (ran : w.giveBack self serviceId owner = .ok w') :
    rewardOf w'.store = rewardOf w.store ∧ w'.history = w.history := by
  simp only [StakingWorld.giveBack, bind_eq_ok, pure_eq_ok] at ran
  obtain ⟨nft, -, rfl⟩ := ran
  exact ⟨rfl, rfl⟩

/-- One payment of `_withdraw`, or its end: what was under way is paid. -/
theorem withdraw_account {l : Withdrawal} {out : Outcome StakingWorld StakingFrame}
    (ran : w.withdraw self l = .ok out)
    (shares : paymentSum l.sent + paymentSum l.remaining = l.reward) (id : Nat) :
    rewardOf out.state.store id = rewardOf w.store id ∧
      creditsOf out.state.history id = creditsOf w.history id ∧
      paidOf out.state.history id + beingPaid out.pending id =
        paidOf w.history id + if l.serviceId = id then l.reward else 0 := by
  rw [StakingWorld.withdraw] at ran
  split at ran
  · next done =>
    have whole : paymentSum l.sent = l.reward := by
      rw [done] at shares
      exact shares
    split at ran
    · rw [pure_eq_ok] at ran
      subst ran
      refine ⟨rfl, by simp, ?_⟩
      simp [whole]
    · simp only [bind_eq_ok, pure_eq_ok] at ran
      obtain ⟨w', back, rfl⟩ := ran
      obtain ⟨rewards, history⟩ := giveBack_account back
      rw [Outcome.state_done, Outcome.pending_done, rewards, history]
      refine ⟨rfl, by simp, ?_⟩
      simp [whole]
  · simp only [bind_eq_ok, checkedSub_eq_ok, pure_eq_ok] at ran
    obtain ⟨_, -, rfl⟩ := ran
    exact ⟨rfl, rfl, by simp⟩

/-- A call that pays nothing, gives nothing up and keeps the records. -/
theorem still_account {call : StakingCall} {out : Outcome StakingWorld StakingFrame} {id : Nat}
    (store : rewardOf out.state.store id = rewardOf w.store id)
    (history : out.state.history = w.history) (pending : beingPaid out.pending id = 0)
    (kept : forfeitNote call w out.state = []) :
    creditsOf out.state.history id + rewardOf w.store id + paidOf w.history id =
      creditsOf w.history id + rewardOf out.state.store id + paidOf out.state.history id +
        beingPaid out.pending id + forfeitsOf (forfeitNote call w out.state) id := by
  rw [store, history, pending, kept]
  rfl

/-- The record of one service is written with another reward. -/
theorem rewardOf_update {s s' : StakingState} {serviceId : Nat} {sInfo : ServiceInfo}
    (records : s'.mapServiceInfo = Function.update s.mapServiceInfo serviceId sInfo) (id : Nat) :
    rewardOf s' id = if serviceId = id then sInfo.reward else rewardOf s id := by
  rw [rewardOf, records]
  split
  · next same => rw [← same, Function.update_self]
  · next other => rw [Function.update_of_ne (Ne.symm other), rewardOf]

/-- What `unstake` takes off the records is paid, or given up if it is forced. -/
theorem unstake_account {sender : Caller} {answers : Nat → ActivityAnswer} {view : RewardView}
    {serviceId : Nat} {enforced : Bool} {out : Outcome StakingWorld StakingFrame}
    (sound : SoundSet w.store.setServiceIds)
    (ran : StakingWorld.enter self (.unstake sender answers view serviceId enforced) w = .ok out)
    (id : Nat) :
    creditsOf out.state.history id + rewardOf w.store id + paidOf w.history id =
      creditsOf w.history id + rewardOf out.state.store id + paidOf out.state.history id +
        beingPaid out.pending id +
        forfeitsOf (forfeitNote (.unstake sender answers view serviceId enforced) w out.state)
          id := by
  simp only [StakingWorld.enter, bind_eq_ok, Prod.exists] at ran
  obtain ⟨s', payout, unstaked, ran⟩ := ran
  obtain ⟨-, s₁, result, items, checkpointed, -, -, made, reward, payments, left⟩ :=
    unstake_spec sound unstaked
  have rewards : ∀ id, rewardOf s₁ id = rewardOf w.store id +
      creditsOf (StakingWorld.accounted w.timestamp answers w.store result) id :=
    checkpoint_rewards (by exact sound) checkpointed w.store
  have removed : rewardOf s' id = if serviceId = id then 0 else rewardOf s₁ id :=
    rewardOf_update (congrArg StakingState.mapServiceInfo left) id
  have earned : payout.reward = rewardOf s₁ serviceId := reward
  rw [made] at ran
  split at ran
  · next paying =>
    obtain ⟨store, credits, paid⟩ := withdraw_account ran
      ((Nat.zero_add _).trans (payments paying.2 paying.1)) id
    rw [store, credits]
    simp only [StakingWorld.accountedIf, creditsOf_append, paidOf_append, accounted_paid,
      creditsOf_unstaked, paidOf_unstaked] at paid ⊢
    have unforced : forfeitNote (.unstake sender answers view serviceId enforced) w out.state =
        [] := by
      cases enforced with
      | true => exact absurd rfl paying.2
      | false => rfl
    rw [removed, unforced, forfeitsOf_nil]
    have here := rewards id
    split at paid
    · next same =>
      subst same
      rw [if_pos rfl]
      omega
    · next other =>
      rw [if_neg other]
      omega
  · next kept =>
    simp only [bind_eq_ok, pure_eq_ok] at ran
    obtain ⟨w', back, rfl⟩ := ran
    obtain ⟨store, history⟩ := giveBack_account back
    have here := rewards id
    cases enforced with
    | false =>
      have nothing : payout.reward = 0 := Nat.eq_zero_of_not_pos fun positive =>
        kept ⟨positive, Bool.false_ne_true⟩
      simp only [Outcome.state_done, Outcome.pending_done, store, history, forfeitNote,
        StakingWorld.accountedIf, creditsOf_append, paidOf_append, accounted_paid,
        creditsOf_unstaked, paidOf_unstaked, beingPaid_nil, forfeitsOf_nil, removed]
      split
      · next same =>
        subst same
        omega
      · omega
    | true =>
      simp only [Outcome.state_done, Outcome.pending_done, store, history, forfeitNote,
        StakingWorld.accountedIf, List.append_assoc, List.drop_left, creditsOf_append,
        paidOf_append, accounted_paid, creditsOf_unstaked, paidOf_unstaked, beingPaid_nil,
        forfeitsOf_one, removed]
      split
      · next same =>
        subst same
        omega
      · omega

/-- What `claim` takes off the records is paid. -/
theorem claim_account {sender : Caller} {answers : Nat → ActivityAnswer} {view : RewardView}
    {serviceId : Nat} {execCheckPoint : Bool} {out : Outcome StakingWorld StakingFrame}
    (sound : SoundSet w.store.setServiceIds)
    (ran : StakingWorld.enter self (.claim sender answers view serviceId execCheckPoint) w =
      .ok out) (id : Nat) :
    creditsOf out.state.history id + rewardOf w.store id + paidOf w.history id =
      creditsOf w.history id + rewardOf out.state.store id + paidOf out.state.history id +
        beingPaid out.pending id := by
  simp only [StakingWorld.enter, bind_eq_ok, Prod.exists] at ran
  obtain ⟨s', payout, claimed, ran⟩ := ran
  obtain ⟨-, -, s₁, checkpointed, reward, payments, left⟩ := claim_spec claimed
  have here : rewardOf s₁ id = rewardOf w.store id +
      creditsOf (StakingWorld.accountedIf w.timestamp answers w.store payout.checkpoint) id :=
    checkpointIf_rewards (by exact sound) checkpointed w.store id
  have removed : rewardOf s' id = if serviceId = id then 0 else rewardOf s₁ id :=
    rewardOf_update (congrArg StakingState.mapServiceInfo left) id
  have earned : payout.reward = rewardOf s₁ serviceId := reward
  obtain ⟨store, credits, paid⟩ := withdraw_account ran ((Nat.zero_add _).trans payments) id
  rw [store, credits, removed]
  simp only [creditsOf_append, paidOf_append, accountedIf_paid, creditsOf_claimed,
    paidOf_claimed] at paid ⊢
  split at paid
  · next same =>
    subst same
    rw [if_pos rfl]
    omega
  · next other =>
    rw [if_neg other]
    omega

/-- What a call gives to a service is on record afterwards, paid, under way, or given up. -/
theorem enter_account {call : StakingCall} {out : Outcome StakingWorld StakingFrame}
    (sound : SoundSet w.store.setServiceIds) (ran : StakingWorld.enter self call w = .ok out)
    (id : Nat) :
    creditsOf out.state.history id + rewardOf w.store id + paidOf w.history id =
      creditsOf w.history id + rewardOf out.state.store id + paidOf out.state.history id +
        beingPaid out.pending id + forfeitsOf (forfeitNote call w out.state) id := by
  cases call with
  | tick | mint | approve | setApprovalForAll | transferFrom =>
    obtain ⟨store, history, pending⟩ := foreign_enter (by trivial) ran
    exact still_account (by rw [store]) history (by rw [pending, beingPaid_nil]) rfl
  | deposit sender amount =>
    simp only [StakingWorld.enter] at ran
    split at ran
    · simp only [bind_eq_ok, pure_eq_ok] at ran
      obtain ⟨s, credited, rfl⟩ := ran
      obtain ⟨-, rfl⟩ := credit_spec credited
      exact still_account rfl rfl rfl rfl
    · cases ran
  | receive sender value =>
    simp only [StakingWorld.enter] at ran
    split at ran
    · cases ran
    · simp only [bind_eq_ok, pure_eq_ok] at ran
      obtain ⟨s, credited, rfl⟩ := ran
      obtain ⟨-, rfl⟩ := credit_spec credited
      exact still_account rfl rfl rfl rfl
  | checkpoint sender answers =>
    simp only [StakingWorld.enter, bind_eq_ok, Prod.exists, lock_eq_ok, pure_eq_ok] at ran
    obtain ⟨_, ⟨-, rfl⟩, s₁, result, checkpointed, rfl⟩ := ran
    have rewards : rewardOf (unlock s₁) id = rewardOf w.store id +
        creditsOf (StakingWorld.accounted w.timestamp answers w.store result) id :=
      checkpoint_rewards (by exact sound) checkpointed w.store id
    simp only [Outcome.state_done, Outcome.pending_done, creditsOf_append, paidOf_append,
      accounted_paid, beingPaid_nil, forfeitNote, forfeitsOf_nil, rewards]
    omega
  | stake sender answers view serviceId info =>
    simp only [StakingWorld.enter, bind_eq_ok, Prod.exists, pure_eq_ok] at ran
    obtain ⟨s', nft, result, staked, rfl⟩ := ran
    obtain ⟨-, s₁, nonces, checkpointed, -, -, -, -, left⟩ := stake_spec staked
    have rewards : rewardOf s₁ id = rewardOf w.store id +
        creditsOf (StakingWorld.accounted w.timestamp answers w.store result) id :=
      checkpoint_rewards (by exact sound) checkpointed w.store id
    have kept : rewardOf s' id = rewardOf s₁ id := by
      rw [rewardOf_update (congrArg StakingState.mapServiceInfo left) id]
      split
      · next same => rw [← same, rewardOf]
      · rfl
    simp only [Outcome.state_done, Outcome.pending_done, creditsOf_append, paidOf_append,
      accounted_paid, creditsOf_staked, paidOf_staked, beingPaid_nil, forfeitNote,
      forfeitsOf_nil, kept, rewards]
    omega
  | unstake sender answers view serviceId enforced =>
    exact unstake_account sound ran id
  | claim sender answers view serviceId execCheckPoint =>
    exact claim_account sound ran id

end Pieces

/-- The account of each service: what the checkpoints gave it is on record, paid, about to be
paid by the call under way, or given up. -/
def Tallied (w : StakingWorld × List (Nat × Nat)) (frames : List StakingFrame) : Prop :=
  ∀ id, creditsOf w.1.history id =
    rewardOf w.1.store id + paidOf w.1.history id + beingPaid frames id + forfeitsOf w.2 id

section Runs
variable {self : Address} {start : StakingWorld}

theorem tallied_preserved :
    Preserved ((stakingMachine self).journaled forfeitNote fun _ _ _ => [])
      (stakingDiscipline self).logged
      (fun w frames => StakingBaseline self w.1 frames ∧ StakingLedger w.1 frames) Tallied := by
  rintro ⟨w, forfeits⟩ frames ⟨w', forfeits'⟩ frames' taken ⟨base, ledger⟩ before id
  obtain ⟨-, noted⟩ := journaled_cases taken
  dsimp only at noted
  have kept := before id
  rcases noted with ⟨call, out, -, entered, rfl, rfl, rfl⟩ |
    ⟨frame, rest, answer, out, -, rfl, resumed, rfl, rfl, rfl⟩
  · have step := enter_account base.book.sound entered id
    have pending : beingPaid (out.pending ++ frames) id = beingPaid out.pending id +
        beingPaid frames id := by simp [beingPaid]
    simp only [forfeitsOf_append, pending] at kept step ⊢
    omega
  · match rest, base.shape with
    | [], _ =>
      simp only [List.append_nil] at kept ⊢
      cases frame with
      | deposit =>
        cases resumed
        exact kept
      | withdraw l =>
        obtain ⟨store, credits, paid⟩ := withdraw_account resumed (ledger.paying l rfl).2 id
        rw [beingPaid_withdraw] at kept
        omega

theorem tallied_fresh (fresh : start.Fresh self) : Tallied (start, []) [] := by
  obtain ⟨_, _, _, setup⟩ := fresh.setup
  obtain ⟨-, -, -, -, records, -⟩ := initializeStaking_eq setup
  intro id
  dsimp only
  rw [fresh.empty, rewardOf, records]
  rfl

/-- In every run of the staking contract, also while a transfer is under way, and for every
service: what the checkpoints gave to the service is the reward on its record, what was paid for
it, what the suspended call is paying, and what its owners gave up in forced unstakes. -/
theorem rewards_accounted (fresh : start.Fresh self)
    {c : Config (StakingWorld × List (Nat × Nat)) StakingFrame}
    (run : Reachable ((stakingMachine self).journaled forfeitNote fun _ _ _ => [])
      (stakingDiscipline self).logged (start, []) c) (serviceId : Nat) :
    creditsOf c.state.1.history serviceId =
      rewardOf c.state.1.store serviceId + paidOf c.state.1.history serviceId +
        beingPaid c.frames serviceId + forfeitsOf c.state.2 serviceId :=
  (run.invariant (((stakingBaseline_preserved fresh.nonzero).join
    stakingLedger_preserved).journaled.join tallied_preserved)
    ⟨⟨stakingBaseline_fresh fresh, stakingLedger_fresh fresh⟩, tallied_fresh fresh⟩).2 serviceId

end Runs

/-- Service 1 claims the 1500 of the first checkpoint. Its owner then leaves by force, and gives
up the 1500 of the second one. -/
theorem rewards_accounted_forced :
    ∃ c, Reachable ((stakingMachine 5).journaled forfeitNote fun _ _ _ => [])
        (stakingDiscipline 5).logged (sampleStaking, []) c ∧
      c.state.2 = [(1, 1500)] ∧ paidOf c.state.1.history 1 = 1500 ∧
      creditsOf c.state.1.history 1 = 3000 := by
  obtain ⟨c, run, seen⟩ := Machine.play_observed (stakingDiscipline 5).logged
    ((stakingMachine 5).journaled forfeitNote fun _ _ _ => []) (sampleStaking, [])
    (stakeAndPass ++ [.call (.claim sampleOwner (activeAnswer 1) operatorView 1 false),
      .answer (), .answer (), .call (.tick 150),
      .call (.unstake sampleOwner (activeAnswer 1) operatorView 1 true)])
    (fun c => (beingPaid c.frames 1, c.state.2, rewardOf c.state.1.store 1,
      paidOf c.state.1.history 1)) (0, [(1, 1500)], 0, 1500) (by decide +kernel)
  simp only [Prod.mk.injEq] at seen
  obtain ⟨idle, forfeits, reward, paid⟩ := seen
  have account := rewards_accounted sampleStaking_fresh run 1
  rw [reward, paid, forfeits, idle] at account
  exact ⟨c, run, forfeits, paid, account⟩

end AutonolasRegistries.Guarantees
