import AutonolasRegistries.Guarantees.StakingRuns

/-!
# A checkpoint is absorbed by what follows it

Anybody can call `checkpoint`, and `stake`, `unstake` and `checkpointAndClaim` begin with one.
A checkpoint that has just been made leaves nothing for the next one to do, so whether it is
called first, and by whom, makes no difference to any of them: the same payments, the same
set, the same history. `StakingBase.sol:594-656`, `:761-983`, `:992-1121`, `:1212-1240`.
-/
namespace AutonolasRegistries.Guarantees
open Library Source StakingBase

section Settled
variable {timestamp : Nat} {answers answers' : Nat → ActivityAnswer} {s s' : StakingState}
  {result result' : CheckpointResult}

/-- A checkpoint that finds nothing to do. -/
def idleCheckpoint (s : StakingState) : CheckpointResult :=
  ⟨⟨s.availableRewards, 0, [], [], [], []⟩, s.setServiceIds, [], []⟩

theorem calculate_early (clock : s.tsCheckpoint ≤ timestamp) (early : ¬ Due s timestamp)
    (answers : Nat → ActivityAnswer) :
    calculateStakingRewards timestamp answers s =
      .ok ⟨s.availableRewards, 0, [], [], [], []⟩ := by
  unfold calculateStakingRewards
  by_cases some : 0 < s.setServiceIds.length
  · have elapsed : checkedSub (StakingError.panic .rewards .arithmetic) timestamp s.tsCheckpoint =
        .ok (timestamp - s.tsCheckpoint) := checkedSub_eq_ok.mpr ⟨clock, rfl⟩
    have late : ¬ (s.params.livenessPeriod ≤ timestamp - s.tsCheckpoint ∧
        0 < s.availableRewards) := fun due => early ⟨some, due⟩
    simp only [if_pos some, elapsed, ok_bind, if_neg late]
    rfl
  · simp only [if_neg some]
    rfl

theorem checkpoint_early (clock : s.tsCheckpoint ≤ timestamp) (early : ¬ Due s timestamp)
    (answers : Nat → ActivityAnswer) :
    checkpoint timestamp answers s = .ok (s, idleCheckpoint s) := by
  unfold checkpoint
  rw [calculate_early clock early answers]
  rfl

/-- After a checkpoint none is due. -/
theorem checkpoint_settles (liveness : 0 < s.params.livenessPeriod)
    (clock : s.tsCheckpoint ≤ timestamp) (sound : SoundSet s.setServiceIds)
    (ran : checkpoint timestamp answers s = .ok (s', result)) :
    s'.tsCheckpoint ≤ timestamp ∧ ¬ Due s' timestamp := by
  rcases checkpoint_spec sound ran with ⟨rfl, idle, -⟩ | ⟨verdicts, taken⟩
  · refine ⟨clock, fun due => ?_⟩
    obtain ⟨verdicts, calculated, reached⟩ :=
      calculateStakingRewards_spec (checkpoint_distributed ran).1
    rcases reached with ⟨early, -⟩ | ⟨-, services, -⟩
    · exact early due
    · rw [calculated] at idle
      have none : s'.setServiceIds = [] := services.symm.trans idle
      have some := due.1
      rw [none] at some
      exact absurd some (Nat.lt_irrefl 0)
  · have frame := taken.frame
    constructor
    · rw [frame]
    · intro due
      have waited := due.2.1
      rw [frame] at waited
      dsimp only at waited
      omega

/-- The second of two checkpoints at one time. -/
theorem checkpoint_again (liveness : 0 < s.params.livenessPeriod)
    (clock : s.tsCheckpoint ≤ timestamp) (sound : SoundSet s.setServiceIds)
    (ran : checkpoint timestamp answers s = .ok (s', result)) (answers' : Nat → ActivityAnswer) :
    checkpoint timestamp answers' s' = .ok (s', idleCheckpoint s') := by
  obtain ⟨clock', early⟩ := checkpoint_settles liveness clock sound ran
  exact checkpoint_early clock' early answers'

/-- A checkpoint does not change who owns a service. -/
theorem checkpoint_owner (sound : SoundSet s.setServiceIds)
    (ran : checkpoint timestamp answers s = .ok (s', result)) (serviceId : Nat) :
    (s'.mapServiceInfo serviceId).owner = (s.mapServiceInfo serviceId).owner := by
  rcases checkpoint_spec sound ran with ⟨rfl, -⟩ | ⟨verdicts, taken⟩
  · rfl
  · obtain ⟨nonces, inactivity, record⟩ := taken.record serviceId
    rw [record]

end Settled

section Lock
variable {s : StakingState}

theorem lock_free (free : s.locked ≤ 1) : lock s = .ok { s with locked := 2 } :=
  lock_eq_ok.mpr ⟨free, rfl⟩

theorem lock_unlock (locked : s.locked = 2) : lock (unlock s) = .ok s := by
  rw [lock_free (show (unlock s).locked ≤ 1 from le_refl 1)]
  cases s
  subst locked
  rfl

end Lock

section World
variable {contract : Address} {w : StakingWorld} {answers : Nat → ActivityAnswer}
  {s' : StakingState} {result : CheckpointResult}

/-- The world a checkpoint leaves. -/
def settledWorld (w : StakingWorld) (answers : Nat → ActivityAnswer) (s' : StakingState)
    (result : CheckpointResult) : StakingWorld :=
  { w with
    store := unlock s'
    history := w.history ++ StakingWorld.accounted w.timestamp answers w.store result }

theorem accounted_idle (timestamp : Nat) (answers : Nat → ActivityAnswer)
    (before s : StakingState) :
    StakingWorld.accountedIf timestamp answers before (some (idleCheckpoint s)) = [] := rfl

theorem accounted_none (timestamp : Nat) (answers : Nat → ActivityAnswer)
    (before s : StakingState) :
    StakingWorld.accounted timestamp answers before (idleCheckpoint s) = [] := rfl

/-- A checkpoint of the world that went through. -/
structure Settles (w : StakingWorld) (answers : Nat → ActivityAnswer) (s' : StakingState)
    (result : CheckpointResult) : Prop where
  free : w.store.locked ≤ 1
  ran : checkpoint w.timestamp answers { w.store with locked := 2 } = .ok (s', result)
  locked : s'.locked = 2
  again : ∀ answers', checkpoint w.timestamp answers' s' = .ok (s', idleCheckpoint s')
  returned : result.serviceIds = s'.setServiceIds
  owner : ∀ serviceId, (s'.mapServiceInfo serviceId).owner =
    (w.store.mapServiceInfo serviceId).owner

theorem unstake_absorbed (settles : Settles w answers s' result) (sender : Caller)
    (answers' : Nat → ActivityAnswer) (view : RewardView) (serviceId : Nat) (enforced : Bool) :
    StakingWorld.enter contract (.unstake sender answers' view serviceId enforced)
        (settledWorld w answers s' result) =
      StakingWorld.enter contract (.unstake sender answers view serviceId enforced) w := by
  have idle : (idleCheckpoint s').serviceIds = s'.setServiceIds := rfl
  simp only [StakingWorld.enter, unstake, settledWorld, lock_unlock settles.locked,
    lock_free settles.free, ok_bind, settles.ran, settles.again answers', settles.returned, idle,
    bind_assoc]
  refine bind_congr fun _ => bind_congr fun _ => bind_congr fun _ => bind_congr fun _ => ?_
  by_cases rewarded : 0 < (s'.mapServiceInfo serviceId).reward
  · cases enforced with
    | true =>
      simp only [if_pos rewarded, if_true, bind_assoc, pure_bind, accounted_idle, List.append_nil]
      rfl
    | false =>
      simp only [if_pos rewarded, Bool.false_eq_true, if_false, bind_assoc, pure_bind,
        accounted_idle, List.append_nil]
      rfl
  · simp only [if_neg rewarded, pure_bind, accounted_idle, List.append_nil]
    rfl

theorem claim_absorbed (settles : Settles w answers s' result) (sender : Caller)
    (answers' : Nat → ActivityAnswer) (view : RewardView) (serviceId : Nat)
    (execCheckPoint : Bool) :
    StakingWorld.enter contract (.claim sender answers' view serviceId execCheckPoint)
        (settledWorld w answers s' result) =
      StakingWorld.enter contract (.claim sender answers view serviceId true) w := by
  simp only [StakingWorld.enter, claim, settledWorld, lock_unlock settles.locked,
    lock_free settles.free, ok_bind, settles.owner, bind_assoc, checkpointIf, if_true, settles.ran]
  refine bind_congr fun _ => ?_
  cases execCheckPoint with
  | true =>
    simp only [if_true, settles.again answers', ok_bind, pure_bind, accounted_idle,
      List.append_nil]
    rfl
  | false =>
    simp only [Bool.false_eq_true, if_false, ok_bind, pure_bind, StakingWorld.accountedIf,
      List.append_nil]

theorem stake_absorbed (settles : Settles w answers s' result) (sender : Caller)
    (answers' : Nat → ActivityAnswer) (view : StakeView) (serviceId info : Nat) :
    StakingWorld.enter contract (.stake sender answers' view serviceId info)
        (settledWorld w answers s' result) =
      StakingWorld.enter contract (.stake sender answers view serviceId info) w := by
  simp only [StakingWorld.enter, stake, settledWorld, lock_unlock settles.locked,
    lock_free settles.free, ok_bind, settles.ran, settles.again answers', bind_assoc]
  refine bind_congr fun _ => bind_congr fun _ => bind_congr fun _ => bind_congr fun _ => ?_
  cases view.nonces with
  | none => rfl
  | some nonces =>
    simp only [bind_assoc, pure_bind, accounted_none, List.append_nil]

/-- Every checkpoint of a staking contract in its book settles it. -/
theorem settles_of_checkpoint {sender : Caller} {out : Outcome StakingWorld StakingFrame}
    (book : StakingBook contract w)
    (ran : StakingWorld.enter contract (.checkpoint sender answers) w = .ok out) :
    ∃ s' result, Settles w answers s' result ∧ out = .done (settledWorld w answers s' result) := by
  simp only [StakingWorld.enter, bind_eq_ok, Prod.exists, lock_eq_ok, pure_eq_ok] at ran
  obtain ⟨_, ⟨free, rfl⟩, s', result, checkpointed, rfl⟩ := ran
  have sound : SoundSet ({ w.store with locked := 2 } : StakingState).setServiceIds := book.sound
  have liveness := book.liveness
  have clock := book.checkpointed
  have again := checkpoint_again (by exact liveness) (by exact clock) sound checkpointed
  have locked := (checkpoint_frame sound checkpointed).2
  have returned := checkpoint_returned sound checkpointed
  have owner := checkpoint_owner sound checkpointed
  exact ⟨s', result, ⟨free, checkpointed, locked, again, returned, owner⟩, rfl⟩

theorem checkpoint_idle (settles : Settles w answers s' result) (sender : Caller)
    (answers' : Nat → ActivityAnswer) :
    StakingWorld.enter contract (.checkpoint sender answers') (settledWorld w answers s' result) =
      .ok (.done (settledWorld w answers s' result)) := by
  simp only [StakingWorld.enter, settledWorld, lock_unlock settles.locked, ok_bind,
    settles.again answers', accounted_none, List.append_nil]
  rfl

/-- In every run of a new staking contract: a `checkpoint` by anybody changes nothing for the
`unstake`, the claim or the `stake` that comes after it at the same time. They do what they
would have done by making that checkpoint themselves, and fail where they would have failed;
another `checkpoint` does nothing. -/
theorem checkpoint_absorbed {start : StakingWorld} (fresh : start.Fresh contract)
    {c : Config StakingWorld StakingFrame}
    (run : Reachable (stakingMachine contract) (stakingDiscipline contract) start c)
    {caller : Caller} {answers : Nat → ActivityAnswer} {out : Outcome StakingWorld StakingFrame}
    (ran : StakingWorld.enter contract (.checkpoint caller answers) c.state = .ok out) :
    (∀ sender answers' view serviceId enforced,
      StakingWorld.enter contract (.unstake sender answers' view serviceId enforced) out.state =
        StakingWorld.enter contract (.unstake sender answers view serviceId enforced) c.state) ∧
    (∀ sender answers' view serviceId execCheckPoint,
      StakingWorld.enter contract (.claim sender answers' view serviceId execCheckPoint) out.state =
        StakingWorld.enter contract (.claim sender answers view serviceId true) c.state) ∧
    (∀ sender answers' view serviceId info,
      StakingWorld.enter contract (.stake sender answers' view serviceId info) out.state =
        StakingWorld.enter contract (.stake sender answers view serviceId info) c.state) ∧
    ∀ sender answers',
      StakingWorld.enter contract (.checkpoint sender answers') out.state =
        .ok (.done out.state) := by
  have base := run.invariant (stakingBaseline_preserved fresh.nonzero) (stakingBaseline_fresh fresh)
  obtain ⟨s', result, settles, rfl⟩ := settles_of_checkpoint base.book ran
  refine ⟨?_, ?_, ?_, ?_⟩
  · exact fun sender answers' view id enforced =>
      unstake_absorbed settles sender answers' view id enforced
  · exact fun sender answers' view id execCheckPoint =>
      claim_absorbed settles sender answers' view id execCheckPoint
  · exact fun sender answers' view id info => stake_absorbed settles sender answers' view id info
  · exact fun sender answers' => checkpoint_idle settles sender answers'

end World

/-- The owner unstakes after somebody else made the checkpoint, at which it earned its reward:
the service goes as it would have gone, with the same payment to make. -/
theorem checkpoint_absorbed_unstake : ∃ c out out',
    Reachable (stakingMachine 5) (stakingDiscipline 5) sampleStaking c ∧
      StakingWorld.enter 5 (.checkpoint ⟨9, by decide⟩ (activeAnswer 1)) c.state = .ok out ∧
      StakingWorld.enter 5 (.unstake sampleOwner (activeAnswer 0) operatorView 1 false) out.state =
        .ok out' ∧
      StakingWorld.enter 5 (.unstake sampleOwner (activeAnswer 1) operatorView 1 false) c.state =
        .ok out' ∧
      out'.pending.length = 1 := by
  let made := StakingWorld.enter 5 (.checkpoint ⟨9, by decide⟩ (activeAnswer 1))
  let left := StakingWorld.enter 5 (.unstake sampleOwner (activeAnswer 1) operatorView 1 false)
  obtain ⟨c, run, seen⟩ := Machine.play_observed (stakingDiscipline 5) (stakingMachine 5)
    sampleStaking (stakeAndPass.take 5)
    (fun c => ((made c.state).toOption.isSome,
      (left c.state).toOption.map fun out => out.pending.length))
    (true, some 1) (by decide +kernel)
  obtain ⟨some, one⟩ := Prod.mk.inj seen
  cases checkpointed : made c.state with
  | error reason =>
    rw [checkpointed] at some
    cases some
  | ok out =>
    cases unstaked : left c.state with
    | error reason =>
      rw [unstaked] at one
      cases one
    | ok out' =>
      rw [unstaked] at one
      have absorbed := (checkpoint_absorbed sampleStaking_fresh run checkpointed).1
      have agrees := absorbed sampleOwner (activeAnswer 0) operatorView 1 false
      exact ⟨c, out, out', run, checkpointed, agrees.trans unstaked, unstaked,
        Option.some.inj one⟩

end AutonolasRegistries.Guarantees
