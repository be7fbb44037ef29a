import AutonolasRegistries.Guarantees.StakingLedger

/-!
# The words of a staking contract are wide enough

What is available and what is owed is part of a balance that fits a word, so adding a
reward to either never overflows. The inactivity of a service and the epoch counter are
bounded by the time of the last checkpoint.
-/
namespace AutonolasRegistries.Guarantees
open Library Source StakingBase

/-- What is available and what is owed fits a word. -/
def FundsFit (s : StakingState) : Prop := s.availableRewards + owedRewards s < 2 ^ 256

section Funds
variable {self : Address} {w : StakingWorld}

theorem FundsFit.of_le {s s' : StakingState} (before : FundsFit s)
    (less : s'.availableRewards + owedRewards s' ≤ s.availableRewards + owedRewards s) :
    FundsFit s' :=
  less.trans_lt before

/-- `_withdraw` and what follows it write the balance and the lock only. -/
theorem withdraw_fundsFit {l : Withdrawal} {out : Outcome StakingWorld StakingFrame}
    (before : FundsFit w.store) (ran : w.withdraw self l = .ok out) :
    FundsFit out.state.store := by
  rw [StakingWorld.withdraw] at ran
  split at ran
  · split at ran
    · rw [pure_eq_ok] at ran
      subst ran
      exact before
    · simp only [StakingWorld.giveBack, bind_eq_ok, pure_eq_ok] at ran
      obtain ⟨w', ⟨nft, -, rfl⟩, rfl⟩ := ran
      exact before
  · simp only [bind_eq_ok, pure_eq_ok] at ran
    obtain ⟨_, -, rfl⟩ := ran
    exact before

theorem credit_fundsFit {amount : Nat} {s s' : StakingState}
    (balanced : s.balance = s.availableRewards + owedRewards s)
    (ran : credit amount s = .ok s') : FundsFit s' := by
  simp only [credit, bind_eq_ok, lock_eq_ok, checkedAdd_eq_ok, pure_eq_ok] at ran
  obtain ⟨_, ⟨-, rfl⟩, _, ⟨fits, rfl⟩, _, ⟨-, rfl⟩, rfl⟩ := ran
  dsimp only at fits
  rw [balanced, Nat.add_right_comm] at fits
  exact fits

theorem enter_fundsFit {call : StakingCall} {out : Outcome StakingWorld StakingFrame}
    (book : StakingBook self w)
    (balanced : w.store.locked ≤ 1 →
      w.store.balance = w.store.availableRewards + owedRewards w.store)
    (before : FundsFit w.store) (ran : StakingWorld.enter self call w = .ok out) :
    FundsFit out.state.store := by
  have finite := rewardOf_support book
  have untouched (foreign : call.foreign) : FundsFit out.state.store :=
    (foreign_enter foreign ran).1 ▸ before
  cases call with
  | tick | mint | approve | setApprovalForAll | transferFrom => exact untouched trivial
  | deposit sender amount =>
    simp only [StakingWorld.enter] at ran
    split at ran
    · simp only [bind_eq_ok, pure_eq_ok] at ran
      obtain ⟨s, credited, rfl⟩ := ran
      exact credit_fundsFit (balanced (credit_spec credited).1) credited
    · cases ran
  | receive sender value =>
    simp only [StakingWorld.enter] at ran
    split at ran
    · cases ran
    · simp only [bind_eq_ok, pure_eq_ok] at ran
      obtain ⟨s, credited, rfl⟩ := ran
      have after : FundsFit s := credit_fundsFit (balanced (credit_spec credited).1) credited
      exact after
  | checkpoint sender answers =>
    simp only [StakingWorld.enter, bind_eq_ok, Prod.exists, lock_eq_ok, pure_eq_ok] at ran
    obtain ⟨_, ⟨-, rfl⟩, s₁, result, checkpointed, rfl⟩ := ran
    exact before.of_le (checkpoint_conserves (by exact finite) (by exact book.sound)
      checkpointed).2.le
  | stake sender answers view serviceId info =>
    simp only [StakingWorld.enter, bind_eq_ok, Prod.exists, pure_eq_ok] at ran
    obtain ⟨s', nft, result, staked, rfl⟩ := ran
    exact before.of_le (stake_conserves finite book.sound staked).2.le
  | unstake sender answers view serviceId enforced =>
    simp only [StakingWorld.enter, bind_eq_ok, Prod.exists] at ran
    obtain ⟨s', payout, unstaked, ran⟩ := ran
    have conserved := (unstake_conserves finite book.sound unstaked).2.1
    have after : FundsFit s' := before.of_le (conserved ▸ Nat.le_add_right _ _)
    split at ran
    · exact withdraw_fundsFit (by exact after) ran
    · simp only [StakingWorld.giveBack, bind_eq_ok, pure_eq_ok] at ran
      obtain ⟨w', ⟨nft, -, rfl⟩, rfl⟩ := ran
      exact after
  | claim sender answers view serviceId execCheckPoint =>
    simp only [StakingWorld.enter, bind_eq_ok, Prod.exists] at ran
    obtain ⟨s', payout, claimed, ran⟩ := ran
    have conserved := (claim_conserves finite book.sound claimed).2.1
    have after : FundsFit s' := before.of_le (conserved ▸ Nat.le_add_right _ _)
    exact withdraw_fundsFit (by exact after) ran

theorem fundsFit_preserved :
    Preserved (stakingMachine self) (stakingDiscipline self)
      (fun w frames => StakingBaseline self w frames ∧ StakingLedger w frames)
      fun w _ => FundsFit w.store := by
  intro w frames w' frames' taken ⟨base, ledger⟩ before
  cases taken with
  | entered call allowed ran =>
    refine enter_fundsFit base.book (fun free => ledger.balanced fun l => ?_) before ran
    rw [frames_of_unlocked base.shape free]
    exact fun frame => by cases frame
  | @resumed frame frames _ answer allowed ran =>
    cases frame with
    | deposit =>
      cases ran
      exact before
    | withdraw l => exact withdraw_fundsFit before ran

end Funds

/-- Inactivity and epochs are counted in time that has passed. -/
structure PastBound (s : StakingState) : Prop where
  inactivity : ∀ id, (s.mapServiceInfo id).inactivity ≤ serviceCheckpoint s id
  epochs : s.epochCounter ≤ s.tsCheckpoint

namespace PastBound
variable {self : Address} {w : StakingWorld}

/-- Every epoch takes at least one unit of time. -/
theorem epoch_before {s : StakingState} {timestamp : Nat} (before : PastBound s)
    (liveness : 0 < s.params.livenessPeriod) (due : Due s timestamp) :
    s.epochCounter + 1 ≤ timestamp := by
  have epochs := before.epochs
  have elapsed := due.2.1
  omega

theorem checkpoint (before : PastBound w.store) (book : StakingBook self w) {s' : StakingState}
    {answers : Nat → ActivityAnswer} {verdicts : List Verdict} {result : CheckpointResult}
    (taken : Taken w.timestamp answers verdicts w.store s' result) : PastBound s' := by
  have clock : s'.tsCheckpoint = w.timestamp := by rw [taken.frame]
  constructor
  · intro id
    have now : w.timestamp ≤ serviceCheckpoint s' id := by
      rw [serviceCheckpoint, clock]
      exact Nat.le_max_left _ _
    refine le_trans ?_ now
    have earlier : serviceCheckpoint w.store id ≤ w.timestamp :=
      Nat.max_le.mpr ⟨book.checkpointed, book.started id⟩
    by_cases member : id ∈ w.store.setServiceIds
    · obtain ⟨v, listed, rfl⟩ := taken.judged_service member
      have timed : serviceCheckpoint w.store v.serviceId + v.ts = w.timestamp :=
        taken.timed v listed
      have prior := before.inactivity v.serviceId
      have inactive := v.inactive_le
      rw [taken.inactivity listed, inactivityAfter]
      split <;> omega
    · rw [taken.unchanged member]
      exact (before.inactivity id).trans earlier
  · rw [taken.counted, clock]
    exact before.epoch_before book.liveness taken.due

/-- A record written at the current time, with no inactivity on it. -/
theorem write (before : PastBound w.store) (serviceId : Nat) (sInfo : ServiceInfo)
    (fresh : sInfo.inactivity = 0 ∨
      (sInfo.inactivity = (w.store.mapServiceInfo serviceId).inactivity ∧
        sInfo.tsStart = (w.store.mapServiceInfo serviceId).tsStart)) (id : Nat) :
    (Function.update w.store.mapServiceInfo serviceId sInfo id).inactivity ≤
      max w.store.tsCheckpoint
        (Function.update w.store.mapServiceInfo serviceId sInfo id).tsStart := by
  by_cases same : id = serviceId
  · subst same
    rw [Function.update_self]
    rcases fresh with none | ⟨inactivity, tsStart⟩
    · rw [none]
      exact Nat.zero_le _
    · rw [inactivity, tsStart]
      exact before.inactivity id
  · rw [Function.update_of_ne same]
    exact before.inactivity id

theorem move (w w' : StakingWorld) (book : StakingBook self w) (taken : StakingMove self w w')
    (before : PastBound w.store) : PastBound w'.store := by
  cases taken with
  | checkpoint taken => exact before.checkpoint book taken
  | join sender serviceId multisig nonces info other unstaked room moved =>
    have blank := book.blank serviceId unstaked
    refine ⟨before.write serviceId _ (.inl ?_), before.epochs⟩
    rw [blank]
    rfl
  | collect serviceId => exact ⟨before.write serviceId _ (.inr ⟨rfl, rfl⟩), before.epochs⟩
  | leave serviceId returned items owned left =>
    exact ⟨before.write serviceId _ (.inl rfl), before.epochs⟩
  | _ => exact ⟨before.inactivity, before.epochs⟩

end PastBound

/-- What a staking contract can rely on between calls. -/
structure StakingSolid (contract : Address) (w : StakingWorld) (frames : List StakingFrame) :
    Prop where
  base : StakingBaseline contract w frames
  ledger : StakingLedger w frames
  funds : FundsFit w.store
  past : PastBound w.store

theorem stakingSolid_always {self : Address} {start : StakingWorld} (fresh : start.Fresh self)
    {c : Config StakingWorld StakingFrame}
    (run : Reachable (stakingMachine self) (stakingDiscipline self) start c) :
    StakingSolid self c.state c.frames := by
  obtain ⟨_, _, _, setup⟩ := fresh.setup
  obtain ⟨-, balance, -, -, records, -, -, -, epochs⟩ := initializeStaking_eq setup
  have blank : PastBound start.store := by
    refine ⟨fun id => ?_, epochs.trans_le (Nat.zero_le _)⟩
    rw [records]
    exact Nat.zero_le _
  have bounded : FundsFit start.store := by
    have balanced := (stakingLedger_fresh fresh).balanced fun l frame => by cases frame
    rw [FundsFit, ← balanced, balance]
    exact Nat.two_pow_pos 256
  obtain ⟨base, past⟩ := staking_invariant fresh PastBound.move blank run
  obtain ⟨⟨-, ledger⟩, funds⟩ := run.invariant
    (((stakingBaseline_preserved fresh.nonzero).join stakingLedger_preserved).join
      fundsFit_preserved)
    ⟨⟨stakingBaseline_fresh fresh, stakingLedger_fresh fresh⟩, bounded⟩
  exact ⟨base, ledger, funds, past⟩

end AutonolasRegistries.Guarantees
