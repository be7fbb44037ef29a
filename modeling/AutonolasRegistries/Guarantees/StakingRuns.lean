import AutonolasRegistries.Guarantees.StakingSet

/-!
# Runs of a staking contract

The lock allows one suspended call at a time. With that and `StakingBook`, a property
of worlds holds in every run as soon as every move keeps it.
-/
namespace AutonolasRegistries.Guarantees
open Library Source StakingBase

/-- An unstake that waits for a payment has already cleared its record. -/
def RecordGone (w : StakingWorld) : StakingFrame → Prop
  | .deposit => True
  | .withdraw l => ∀ owner, l.returnTo = some owner →
    (w.store.mapServiceInfo l.serviceId).tsStart = 0

/-- A suspended call holds the lock. -/
def StakingShape (w : StakingWorld) : List StakingFrame → Prop
  | [] => w.store.locked ≤ 1
  | [frame] => w.store.locked = 2 ∧ RecordGone w frame
  | _ => False

section Shape
variable {self : Address} {w : StakingWorld}

theorem withdraw_shape {l : Withdrawal} {out : Outcome StakingWorld StakingFrame}
    (locked : w.store.locked = 2) (gone : RecordGone w (.withdraw l))
    (ran : w.withdraw self l = .ok out) : StakingShape out.state out.pending := by
  rw [StakingWorld.withdraw] at ran
  split at ran
  · split at ran
    · cases ran
      exact le_refl 1
    · next owner returnTo =>
      simp only [bind_eq_ok, pure_eq_ok] at ran
      obtain ⟨w', back, rfl⟩ := ran
      have store := (giveBack_moves back (gone owner returnTo)).2
      exact (congrArg StakingState.locked store).le
  · simp only [bind_eq_ok, pure_eq_ok] at ran
    obtain ⟨_, -, rfl⟩ := ran
    exact ⟨locked, gone⟩

/-- A call leaves the storage alone, or starts unlocked and ends in good shape. -/
theorem enter_shape {call : StakingCall} {out : Outcome StakingWorld StakingFrame}
    (sound : SoundSet w.store.setServiceIds) (ran : StakingWorld.enter self call w = .ok out) :
    (out.state.store = w.store ∧ out.pending = []) ∨
      (w.store.locked ≤ 1 ∧ StakingShape out.state out.pending) := by
  have untouched (foreign : call.foreign) : out.state.store = w.store ∧ out.pending = [] :=
    ⟨(foreign_enter foreign ran).1, (foreign_enter foreign ran).2.2⟩
  cases call with
  | tick | mint | approve | setApprovalForAll | transferFrom => exact .inl (untouched trivial)
  | deposit sender amount =>
    simp only [StakingWorld.enter] at ran
    split at ran
    · simp only [bind_eq_ok, pure_eq_ok] at ran
      obtain ⟨s, credited, rfl⟩ := ran
      obtain ⟨free, rfl⟩ := credit_spec credited
      exact .inr ⟨free, rfl, trivial⟩
    · cases ran
  | receive sender value =>
    simp only [StakingWorld.enter] at ran
    split at ran
    · cases ran
    · simp only [bind_eq_ok, pure_eq_ok] at ran
      obtain ⟨s, credited, rfl⟩ := ran
      exact .inr ⟨(credit_spec credited).1, le_refl 1⟩
  | checkpoint sender answers =>
    simp only [StakingWorld.enter, bind_eq_ok, Prod.exists, lock_eq_ok, pure_eq_ok] at ran
    obtain ⟨_, ⟨free, rfl⟩, s₁, result, checkpointed, rfl⟩ := ran
    exact .inr ⟨free, le_refl 1⟩
  | stake sender answers view serviceId info =>
    simp only [StakingWorld.enter, bind_eq_ok, Prod.exists, pure_eq_ok] at ran
    obtain ⟨s', nft, result, staked, rfl⟩ := ran
    obtain ⟨free, s₁, nonces, -, -, -, -, -, rfl⟩ := stake_spec staked
    exact .inr ⟨free, le_refl 1⟩
  | unstake sender answers view serviceId enforced =>
    simp only [StakingWorld.enter, bind_eq_ok, Prod.exists] at ran
    obtain ⟨s', payout, unstaked, ran⟩ := ran
    have gone := (unstake_moves sound unstaked).2
    obtain ⟨free, s₁, result, items, checkpointed, -, -, -, -, -, rfl⟩ :=
      unstake_spec sound unstaked
    have locked := (checkpoint_frame (by exact sound) checkpointed).2
    refine .inr ⟨free, ?_⟩
    split at ran
    · exact withdraw_shape locked (fun _ _ => gone) ran
    · simp only [bind_eq_ok, pure_eq_ok] at ran
      obtain ⟨w', back, rfl⟩ := ran
      exact (congrArg StakingState.locked (giveBack_moves back gone).2).le
  | claim sender answers view serviceId execCheckPoint =>
    simp only [StakingWorld.enter, bind_eq_ok, Prod.exists] at ran
    obtain ⟨s', payout, claimed, ran⟩ := ran
    obtain ⟨free, -, s₁, checkpointed, -, -, rfl⟩ := claim_spec claimed
    have locked : s₁.locked = 2 := by
      rcases checkpointIf_spec checkpointed with ⟨rfl, -⟩ | ⟨result, checkpointed, -⟩
      · rfl
      · exact (checkpoint_frame (by exact sound) checkpointed).2
    exact .inr ⟨free, withdraw_shape locked (fun _ returned => by cases returned) ran⟩

theorem shape_of_store {w' : StakingWorld} (store : w'.store = w.store)
    {frames : List StakingFrame} (shape : StakingShape w frames) : StakingShape w' frames := by
  match frames, shape with
  | [], free => exact (congrArg StakingState.locked store).trans_le free
  | [.deposit], ⟨locked, gone⟩ =>
    exact ⟨(congrArg StakingState.locked store).trans locked, gone⟩
  | [.withdraw l], ⟨locked, gone⟩ =>
    refine ⟨(congrArg StakingState.locked store).trans locked, fun owner returned => ?_⟩
    rw [store]
    exact gone owner returned

theorem frames_of_unlocked {frames : List StakingFrame} (shape : StakingShape w frames)
    (free : w.store.locked ≤ 1) : frames = [] := by
  match frames, shape with
  | [], _ => rfl
  | [_], ⟨locked, _⟩ => omega

theorem resume_shape {frame : StakingFrame} {out : Outcome StakingWorld StakingFrame}
    (locked : w.store.locked = 2) (gone : RecordGone w frame)
    (ran : StakingWorld.resume self frame () w = .ok out) :
    StakingShape out.state out.pending := by
  cases frame with
  | deposit =>
    cases ran
    exact le_refl 1
  | withdraw l => exact withdraw_shape locked gone ran

theorem staking_resume_moves {frame : StakingFrame} {out : Outcome StakingWorld StakingFrame}
    (gone : RecordGone w frame) (ran : StakingWorld.resume self frame () w = .ok out) :
    StakingMoves self w out.state := by
  cases frame with
  | deposit =>
    cases ran
    exact .single (.books w.store.balance 1)
  | withdraw l => exact withdraw_moves gone ran

end Shape

/-- What holds of every staking contract at every external call. -/
structure StakingBaseline (contract : Address) (w : StakingWorld) (frames : List StakingFrame) :
    Prop where
  shape : StakingShape w frames
  book : StakingBook contract w

section Records
variable {self : Address} {w : StakingWorld} {out : Outcome StakingWorld StakingFrame}

/-- The service a call stakes. -/
def stakes : StakingCall → Option Nat
  | .stake _ _ _ serviceId _ => some serviceId
  | _ => none

/-- A record that is there afterwards was there before, with the same multisig and the
same distribution info. -/
def RecordKept (s s' : StakingState) (id : Nat) : Prop :=
  0 < (s'.mapServiceInfo id).tsStart →
    0 < (s.mapServiceInfo id).tsStart ∧
      (s'.mapServiceInfo id).multisig = (s.mapServiceInfo id).multisig ∧
      (s'.mapServiceInfo id).rewardDistributionInfo =
        (s.mapServiceInfo id).rewardDistributionInfo

theorem recordKept_of_eq {s s' : StakingState} (same : s'.mapServiceInfo = s.mapServiceInfo)
    (id : Nat) : RecordKept s s' id := by
  intro staked
  rw [same] at staked ⊢
  exact ⟨staked, rfl, rfl⟩

theorem recordKept_checkpoint {timestamp : Nat} {answers : Nat → ActivityAnswer}
    {s s' : StakingState} {result : CheckpointResult} (sound : SoundSet s.setServiceIds)
    (ran : checkpoint timestamp answers s = .ok (s', result)) (id : Nat) :
    RecordKept s s' id := by
  rcases checkpoint_spec sound ran with ⟨rfl, -⟩ | ⟨verdicts, taken⟩
  · exact recordKept_of_eq rfl id
  · intro staked
    obtain ⟨_, _, record⟩ := taken.record id
    rw [record] at staked ⊢
    exact ⟨staked, rfl, rfl⟩

theorem giveBack_records {w' : StakingWorld} {serviceId : Nat} {owner : Address}
    (ran : w.giveBack self serviceId owner = .ok w') :
    w'.store.mapServiceInfo = w.store.mapServiceInfo := by
  simp only [StakingWorld.giveBack, bind_eq_ok, pure_eq_ok] at ran
  obtain ⟨nft, -, rfl⟩ := ran
  rfl

theorem withdraw_records {l : Withdrawal} (ran : w.withdraw self l = .ok out) :
    out.state.store.mapServiceInfo = w.store.mapServiceInfo := by
  rw [StakingWorld.withdraw] at ran
  split at ran
  · split at ran
    · cases ran
      rfl
    · simp only [bind_eq_ok, pure_eq_ok] at ran
      obtain ⟨w', back, rfl⟩ := ran
      have same := giveBack_records back
      exact same
  · simp only [bind_eq_ok, pure_eq_ok] at ran
    obtain ⟨_, -, rfl⟩ := ran
    rfl

theorem resume_records {frame : StakingFrame}
    (ran : StakingWorld.resume self frame () w = .ok out) :
    out.state.store.mapServiceInfo = w.store.mapServiceInfo := by
  cases frame with
  | deposit =>
    cases ran
    rfl
  | withdraw l => exact withdraw_records ran

/-- Only a stake of the service starts a record. -/
theorem enter_records {call : StakingCall} {id : Nat} (sound : SoundSet w.store.setServiceIds)
    (other : stakes call ≠ some id) (ran : StakingWorld.enter self call w = .ok out) :
    RecordKept w.store out.state.store id := by
  have untouched (foreign : call.foreign) : RecordKept w.store out.state.store id := by
    exact recordKept_of_eq (congrArg _ (foreign_enter foreign ran).1) id
  cases call with
  | tick | mint | approve | setApprovalForAll | transferFrom => exact untouched trivial
  | deposit sender amount =>
    simp only [StakingWorld.enter] at ran
    split at ran
    · simp only [bind_eq_ok, pure_eq_ok] at ran
      obtain ⟨s, credited, rfl⟩ := ran
      obtain ⟨-, rfl⟩ := credit_spec credited
      exact recordKept_of_eq rfl id
    · cases ran
  | receive sender value =>
    simp only [StakingWorld.enter] at ran
    split at ran
    · cases ran
    · simp only [bind_eq_ok, pure_eq_ok] at ran
      obtain ⟨s, credited, rfl⟩ := ran
      obtain ⟨-, rfl⟩ := credit_spec credited
      exact recordKept_of_eq rfl id
  | checkpoint sender answers =>
    simp only [StakingWorld.enter, bind_eq_ok, Prod.exists, lock_eq_ok, pure_eq_ok] at ran
    obtain ⟨_, ⟨-, rfl⟩, s₁, result, checkpointed, rfl⟩ := ran
    have kept := recordKept_checkpoint (by exact sound) checkpointed id
    exact kept
  | stake sender answers view serviceId info =>
    simp only [StakingWorld.enter, bind_eq_ok, Prod.exists, pure_eq_ok] at ran
    obtain ⟨s', nft, result, staked, rfl⟩ := ran
    obtain ⟨-, s₁, nonces, checkpointed, -, -, -, -, rfl⟩ := stake_spec staked
    have different : id ≠ serviceId := fun same => other (same ▸ rfl)
    have kept := recordKept_checkpoint (by exact sound) checkpointed id
    simp only [RecordKept, Outcome.state_done, Function.update_of_ne different] at kept ⊢
    exact kept
  | unstake sender answers view serviceId enforced =>
    simp only [StakingWorld.enter, bind_eq_ok, Prod.exists] at ran
    obtain ⟨s', payout, unstaked, ran⟩ := ran
    have records : out.state.store.mapServiceInfo = s'.mapServiceInfo := by
      split at ran
      · exact withdraw_records ran
      · simp only [bind_eq_ok, pure_eq_ok] at ran
        obtain ⟨w', back, rfl⟩ := ran
        exact giveBack_records back
    obtain ⟨-, s₁, result, items, checkpointed, -, -, -, -, -, rfl⟩ := unstake_spec sound unstaked
    have kept := recordKept_checkpoint (by exact sound) checkpointed id
    rw [RecordKept, records]
    intro staked
    by_cases same : id = serviceId
    · subst same
      simp [ServiceInfo.empty] at staked
    · simp only [Function.update_of_ne same] at staked ⊢
      exact kept staked
  | claim sender answers view serviceId execCheckPoint =>
    simp only [StakingWorld.enter, bind_eq_ok, Prod.exists] at ran
    obtain ⟨s', payout, claimed, ran⟩ := ran
    have records : out.state.store.mapServiceInfo = s'.mapServiceInfo := withdraw_records ran
    obtain ⟨-, -, s₁, checkpointed, -, -, rfl⟩ := claim_spec claimed
    have kept : RecordKept w.store s₁ id := by
      rcases checkpointIf_spec checkpointed with ⟨rfl, -⟩ | ⟨result, checkpointed, -⟩
      · exact recordKept_of_eq rfl id
      · have kept := recordKept_checkpoint (by exact sound) checkpointed id
        exact kept
    rw [RecordKept, records]
    intro staked
    by_cases same : id = serviceId
    · subst same
      simp only [Function.update_self] at staked ⊢
      exact kept staked
    · simp only [Function.update_of_ne same] at staked ⊢
      exact kept staked

end Records

section Runs
variable {self : Address}

theorem moves_keep {P : StakingWorld → Prop} (valid : self ≠ 0)
    (step : ∀ w w', StakingBook self w → StakingMove self w w' → P w → P w')
    {w w' : StakingWorld} (moves : StakingMoves self w w') (book : StakingBook self w)
    (before : P w) : StakingBook self w' ∧ P w' := by
  induction moves with
  | refl => exact ⟨book, before⟩
  | tail _ taken ih => exact ⟨ih.1.move valid taken, step _ _ ih.1 taken ih.2⟩

/-- Every piece of code is a chain of moves. -/
theorem local_moves {w w' : StakingWorld} {frames frames' : List StakingFrame}
    (taken : Local (stakingMachine self) (stakingDiscipline self) w frames w' frames')
    (base : StakingBaseline self w frames) :
    StakingMoves self w w' ∧ StakingShape w' frames' := by
  cases taken with
  | entered call allowed ran =>
    refine ⟨staking_enter_moves base.book.sound allowed ran, ?_⟩
    rcases enter_shape base.book.sound ran with ⟨store, pending⟩ | ⟨free, shape⟩
    · rw [pending]
      exact shape_of_store store base.shape
    · rw [frames_of_unlocked base.shape free, List.append_nil]
      exact shape
  | @resumed frame frames _ answer allowed ran =>
    match frames, base.shape with
    | [], ⟨locked, gone⟩ =>
      rw [List.append_nil]
      exact ⟨staking_resume_moves gone ran, resume_shape locked gone ran⟩

theorem stakingBaseline_preserved (valid : self ≠ 0) :
    Preserved (stakingMachine self) (stakingDiscipline self) always (StakingBaseline self) := by
  intro w frames w' frames' taken _ base
  obtain ⟨moves, shape⟩ := local_moves taken base
  exact ⟨shape, (moves_keep valid (fun _ _ _ _ _ => trivial) moves base.book trivial).1⟩

/-- Run rule for properties that every move keeps. -/
theorem moves_preserved {P : StakingWorld → Prop} (valid : self ≠ 0)
    (step : ∀ w w', StakingBook self w → StakingMove self w w' → P w → P w') :
    Preserved (stakingMachine self) (stakingDiscipline self) (StakingBaseline self)
      fun w _ => P w := by
  intro w frames w' frames' taken base before
  exact (moves_keep valid step (local_moves taken base).1 base.book before).2

theorem initializeStaking_eq {asset : StakingAsset} {tokenUtility : Address} {p : StakingParams}
    {checkerCodeLength timestamp : Nat} {viaProxy : Bool} {s : StakingState}
    (ran : initializeStaking asset tokenUtility p checkerCodeLength timestamp viaProxy = .ok s) :
    0 < p.livenessPeriod ∧ s.balance = 0 ∧ s.availableRewards = 0 ∧ s.tsCheckpoint = timestamp ∧
      s.mapServiceInfo = (fun _ => ServiceInfo.empty) ∧ s.setServiceIds = [] ∧ s.locked ≤ 1 ∧
      s.params = p ∧ s.epochCounter = 0 := by
  have one : (if viaProxy then 0 else 1) ≤ 1 := by cases viaProxy <;> decide
  simp only [initializeStaking, bind_eq_ok, revertIf_eq_ok, exists_const] at ran
  obtain ⟨values, -, -, -, -, _, -, -, _, -, _, -, _, -, _, -, ran⟩ := ran
  have liveness : 0 < p.livenessPeriod := by
    rw [Nat.pos_iff_ne_zero]
    exact fun zero => values (by simp [zero])
  cases asset with
  | token stakingToken =>
    simp only [bind_eq_ok, revertIf_eq_ok, exists_const, pure_eq_ok] at ran
    obtain ⟨-, rfl⟩ := ran
    exact ⟨liveness, rfl, rfl, rfl, rfl, rfl, one, rfl, rfl⟩
  | native =>
    rw [pure_eq_ok] at ran
    subst ran
    exact ⟨liveness, rfl, rfl, rfl, rfl, rfl, one, rfl, rfl⟩

/-- Nothing is staked in a new contract. -/
theorem StakingWorld.Fresh.unstaked {w : StakingWorld} (fresh : w.Fresh self) (id : Nat) :
    (w.store.mapServiceInfo id).tsStart = 0 := by
  obtain ⟨_, _, _, setup⟩ := fresh.setup
  obtain ⟨-, -, -, -, records, -⟩ := initializeStaking_eq setup
  rw [records]
  rfl

theorem stakingBaseline_fresh {w : StakingWorld} (fresh : w.Fresh self) :
    StakingBaseline self w [] := by
  have start := StakingWorld.Fresh.unstaked fresh
  obtain ⟨_, _, _, setup⟩ := fresh.setup
  obtain ⟨liveness, -, -, clock, records, members, locked, -⟩ := initializeStaking_eq setup
  refine ⟨locked, fresh.clock, clock.le, fun id => ?_, liveness, ?_, ?_, fun id => ?_,
    fun id _ => ?_, ?_, fun id staked => ?_, fresh.guarded, fresh.keeps, fresh.unborn⟩
  · rw [start]
    exact Nat.zero_le _
  · rw [members]
    exact ⟨List.nodup_nil, by simp⟩
  · rw [members]
    exact Nat.zero_le _
  · simp [members, start]
  · rw [records]
  · simp [start]
  · exact absurd (start id) staked.ne'

/-- A property that every move keeps holds in every run of a fresh contract. -/
theorem staking_invariant {P : StakingWorld → Prop} {start : StakingWorld}
    (fresh : start.Fresh self)
    (step : ∀ w w', StakingBook self w → StakingMove self w w' → P w → P w') (initial : P start)
    {c : Config StakingWorld StakingFrame}
    (run : Reachable (stakingMachine self) (stakingDiscipline self) start c) :
    StakingBaseline self c.state c.frames ∧ P c.state :=
  run.invariant ((stakingBaseline_preserved fresh.nonzero).join (moves_preserved fresh.nonzero step))
    ⟨stakingBaseline_fresh fresh, initial⟩

end Runs

section Scripts

/-- A hundred seconds between checkpoints, and as long until an eviction. -/
def sampleParams : StakingParams where
  metadataHash := 1
  maxNumServices := 2
  rewardsPerSecond := 10
  minStakingDeposit := 2
  minNumStakingPeriods := 1
  maxNumInactivityPeriods := 1
  livenessPeriod := 100
  timeForEmissions := 1
  numAgentInstances := 1
  agentIds := []
  threshold := 0
  configHash := 0
  proxyHash := 7
  serviceRegistry := 11
  activityChecker := 12

/-- A native staking contract at address 5, set up at time 1000. -/
def sampleStaking : StakingWorld where
  store := {
    asset := .native
    params := sampleParams
    minStakingDuration := 100
    maxInactivityDuration := 100
    emissionsAmount := 20
    epochCounter := 0
    balance := 0
    availableRewards := 0
    tsCheckpoint := 1000
    mapServiceInfo := fun _ => ServiceInfo.empty
    setServiceIds := []
    locked := 1 }
  nft := ⟨fun _ => 0, fun _ => 0, fun _ _ => false⟩
  supply := 0
  timestamp := 1000
  history := []

theorem sampleStaking_fresh : sampleStaking.Fresh 5 where
  nonzero := by decide
  clock := by decide
  setup := ⟨0, 1, false, rfl⟩
  guarded := ⟨fun _ => rfl, fun _ _ => rfl⟩
  keeps := ⟨fun _ => rfl, fun _ _ => rfl⟩
  unborn := rfl
  empty := rfl

def sampleOwner : Caller := ⟨21, by decide⟩

/-- The words of an answer, most significant byte first. -/
def encodeWords (words : List (Fin 256)) : List (Fin 256) :=
  words.flatMap fun word => List.replicate 31 0 ++ [word]

def activeAnswer (passed : Fin 256) : Nat → ActivityAnswer := fun _ =>
  ⟨fun _ => ⟨true, encodeWords [32, 1, 3]⟩, fun _ _ _ => ⟨true, encodeWords [passed]⟩⟩

def deployedView : StakeView where
  service := ⟨2, 31, 0, 1, 1, 1, .deployed, [1]⟩
  agentParams := [⟨1, 2⟩]
  token := 0
  tokenDeposit := 0
  agentBond := fun _ => 0
  nonces := some [0]
  codehash := fun _ => 7
  codeLength := fun _ => 0

/-- One operator besides the owner. -/
def operatorView : RewardView := ⟨[41], fun _ => 42, none⟩

/-- Service 1 is staked at time 1000 and passes the check at time 1150. -/
def stakeAndPass : List (Move StakingCall Unit) :=
  [.call (.mint 21),
    .call (.approve sampleOwner 5 1),
    .call (.receive sampleOwner 100000),
    .call (.stake sampleOwner (activeAnswer 1) deployedView 1 0),
    .call (.tick 150),
    .call (.checkpoint sampleOwner (activeAnswer 1))]

end Scripts
end AutonolasRegistries.Guarantees
