import AutonolasRegistries.Guarantees.StakingSet

/-!
# Panics the staking code cannot raise

The compiler checks every array access and every subtraction. For the accesses of
`_evict` and of the set in `_unstake`, and for the subtraction in `_withdraw`, the
checks never fail. The functions the contract calls on the way may fail in other ways.
-/
namespace AutonolasRegistries.Guarantees
open Library Source StakingBase

/-- The panics that are ruled out. -/
def RuledOut : StakingError → Prop
  | .panic .evict _ | .panic .unstakeSet _ | .panic .withdraw _ => True
  | _ => False

/-- Not an answer that cannot be read. -/
def NotDecoding : StakingError → Prop
  | .decoding => False
  | _ => True

/-- Failures that are at most the panics above and an answer that cannot be read. -/
def Narrow (bad : StakingError → Prop) : Prop :=
  ∀ reason, bad reason → RuledOut reason ∨ reason = .decoding

theorem ruledOut_narrow : Narrow RuledOut := fun _ out => .inl out

theorem Narrow.fine {bad : StakingError → Prop} (narrow : Narrow bad) {reason : StakingError}
    (kept : ¬ RuledOut reason) (read : NotDecoding reason) : ¬ bad reason := by
  intro failed
  rcases narrow reason failed with out | same
  · exact kept out
  · rw [same] at read
    exact read

/-- The check of the service at an index of the set. -/
def checkedService (s : StakingState) (timestamp : Nat) (answers : Nat → ActivityAnswer)
    (index serviceId : Nat) : Except StakingError (Bool × List Nat) :=
  checkRatioPass (answers index) (s.mapServiceInfo serviceId).multisig
    (s.mapServiceInfo serviceId).nonces (timestamp - serviceCheckpoint s serviceId)

section Functions
variable {bad : StakingError → Prop}

theorem decodeArray_avoids (data : List (Fin 256)) : Avoids RuledOut (decodeArray data) :=
  avoids_bind (avoids_revertIf id) fun _ _ => avoids_bind (avoids_revertIf id) fun _ _ =>
    avoids_of_ok rfl

theorem decodeBool_avoids (data : List (Fin 256)) : Avoids RuledOut (decodeBool data) :=
  avoids_bind (avoids_revertIf id) fun _ _ => avoids_of_ok rfl

theorem checkRatioPass_avoids (answer : ActivityAnswer) (multisig : Address)
    (lastNonces : List Nat) (ts : Nat) :
    Avoids RuledOut (checkRatioPass answer multisig lastNonces ts) := by
  refine avoids_ite (avoids_bind (decodeArray_avoids _) fun _ _ => ?_) (avoids_of_ok rfl)
  exact avoids_ite (avoids_bind (decodeBool_avoids _) fun _ _ => avoids_of_ok rfl)
    (avoids_of_ok rfl)

theorem calculateBody_avoids (narrow : Narrow bad) {s : StakingState} {timestamp : Nat}
    {answers : Nat → ActivityAnswer} {serviceId : Nat} {c : Calculated}
    (checked : Avoids bad (checkedService s timestamp answers c.serviceIds.length serviceId)) :
    Avoids bad (calculateBody s timestamp answers serviceId c) := by
  refine avoids_bind (avoids_checkedSub (narrow.fine id trivial)) fun ts elapsed => ?_
  obtain ⟨-, rfl⟩ := checkedSub_eq_ok.mp elapsed
  refine avoids_bind checked fun _ _ => avoids_ite ?_ (avoids_of_ok rfl)
  exact avoids_bind (avoids_checkedMul (narrow.fine id trivial)) fun _ _ =>
    avoids_bind (avoids_checkedAdd (narrow.fine id trivial)) fun _ _ => avoids_of_ok rfl

/-- Each iteration checks the service at its own index. -/
theorem calculateBody_next {s : StakingState} {timestamp : Nat} {answers : Nat → ActivityAnswer}
    {serviceId : Nat} {c next : Calculated}
    (ran : calculateBody s timestamp answers serviceId c = .ok next) :
    next.serviceIds.length = c.serviceIds.length + 1 ∧
      ∃ verdict, checkedService s timestamp answers c.serviceIds.length serviceId =
        .ok verdict := by
  simp only [calculateBody, bind_eq_ok, checkedSub_eq_ok] at ran
  obtain ⟨ts, ⟨-, rfl⟩, ⟨ratioPass, nonces⟩, checked, ran⟩ := ran
  refine ⟨?_, _, checked⟩
  cases ratioPass with
  | true =>
    simp only [if_true, bind_eq_ok, pure_eq_ok] at ran
    obtain ⟨_, -, _, -, rfl⟩ := ran
    exact List.length_append
  | false =>
    obtain rfl := Except.ok.inj ran
    exact List.length_append

theorem calculateLoop_avoids (narrow : Narrow bad) {s : StakingState} {timestamp : Nat}
    {answers : Nat → ActivityAnswer} {ids : List Nat} {c : Calculated}
    (checked : ∀ k serviceId, ids[k]? = some serviceId →
      Avoids bad (checkedService s timestamp answers (c.serviceIds.length + k) serviceId)) :
    Avoids bad (loop (calculateBody s timestamp answers) ids c) := by
  induction ids generalizing c with
  | nil => exact avoids_of_ok rfl
  | cons first rest ih =>
    refine avoids_bind (calculateBody_avoids narrow (checked 0 first rfl)) fun next ran => ih ?_
    intro k serviceId at_k
    rw [(calculateBody_next ran).1, Nat.add_assoc, Nat.add_comm 1 k]
    exact checked (k + 1) serviceId at_k

theorem calculateStakingRewards_avoids (narrow : Narrow bad) {timestamp : Nat}
    {answers : Nat → ActivityAnswer} {s : StakingState}
    (checked : Due s timestamp → ∀ k serviceId, s.setServiceIds[k]? = some serviceId →
      Avoids bad (checkedService s timestamp answers k serviceId)) :
    Avoids bad (calculateStakingRewards timestamp answers s) := by
  simp only [calculateStakingRewards]
  split
  · next some =>
    refine avoids_bind (avoids_checkedSub (narrow.fine id trivial)) fun elapsed subtracted => ?_
    obtain ⟨-, rfl⟩ := checkedSub_eq_ok.mp subtracted
    split
    · next due =>
      refine calculateLoop_avoids narrow fun k serviceId at_k => ?_
      rw [List.length_nil, Nat.zero_add]
      exact checked ⟨some, due⟩ k serviceId at_k
    · exact avoids_of_ok rfl
  · exact avoids_of_ok rfl

theorem addReward_avoids (narrow : Narrow bad) (entry : Nat × Nat) (m : Nat → ServiceInfo) :
    Avoids bad (addReward entry m) :=
  avoids_bind (avoids_checkedAdd (narrow.fine id trivial)) fun _ _ => avoids_of_ok rfl

theorem adjustReward_avoids (narrow : Narrow bad) (available totalRewards : Nat) (entry : Nat × Nat) :
    Avoids bad (adjustReward available totalRewards entry) :=
  avoids_bind (avoids_checkedMul (narrow.fine id trivial)) fun _ _ => avoids_of_ok rfl

theorem distribute_avoids (narrow : Narrow bad) (c : Calculated) (m : Nat → ServiceInfo) :
    Avoids bad (distribute c m) := by
  rw [distribute]
  split
  · exact avoids_of_ok rfl
  · refine avoids_ite ?_ ?_
    · exact avoids_bind (avoids_mapM (adjustReward_avoids narrow _ _) _) fun _ _ =>
        avoids_bind (avoids_loop (addReward_avoids narrow) _ _) fun _ _ =>
        avoids_bind (adjustReward_avoids narrow _ _ _) fun _ _ =>
        avoids_bind (avoids_checkedAdd (narrow.fine id trivial)) fun _ _ =>
        avoids_bind (avoids_ite (avoids_checkedAdd (narrow.fine id trivial)) (avoids_of_ok rfl)) fun _ _ =>
        avoids_bind (addReward_avoids narrow _ _) fun _ _ => avoids_of_ok rfl
    · exact avoids_bind (avoids_loop (addReward_avoids narrow) _ _) fun _ _ =>
        avoids_bind (avoids_checkedSub (narrow.fine id trivial)) fun _ _ => avoids_of_ok rfl

theorem inactivityBody_avoids (narrow : Narrow bad) (maxDuration : Nat) (entry : Nat × List Nat × Nat)
    (l : InactivityLoop) : Avoids bad (inactivityBody maxDuration entry l) :=
  avoids_ite (avoids_bind (avoids_checkedAdd (narrow.fine id trivial)) fun _ _ =>
    avoids_ite (avoids_of_ok rfl) (avoids_of_ok rfl)) (avoids_of_ok rfl)

/-- Every index `_evict` uses is inside the set. -/
theorem closeEpoch_avoids (narrow : Narrow bad) (timestamp : Nat) {available perSecond : Nat}
    {verdicts : List Verdict} {s : StakingState} (sound : SoundSet s.setServiceIds)
    (services : verdicts.map (·.serviceId) = s.setServiceIds) :
    Avoids bad (closeEpoch timestamp (.ofVerdicts available perSecond verdicts) s) := by
  refine avoids_bind (avoids_loop (inactivityBody_avoids narrow _) _ _) fun l looped => ?_
  rw [ofVerdicts_entries] at looped
  have recorded := inactivityLoop_spec (services ▸ sound.distinct) looped
  obtain ⟨evicted, remaining, evicts, -⟩ := evictInactive_spec recorded services sound
  refine avoids_bind (avoids_of_ok evicts) fun _ _ => ?_
  exact avoids_bind (avoids_checkedSub (narrow.fine id trivial)) fun _ _ =>
    avoids_bind (avoids_checkedAdd (narrow.fine id trivial)) fun _ _ => avoids_of_ok rfl

theorem checkpoint_avoids (narrow : Narrow bad) {timestamp : Nat}
    {answers : Nat → ActivityAnswer} {s : StakingState} (sound : SoundSet s.setServiceIds)
    (checked : Due s timestamp → ∀ k serviceId, s.setServiceIds[k]? = some serviceId →
      Avoids bad (checkedService s timestamp answers k serviceId)) :
    Avoids bad (checkpoint timestamp answers s) := by
  refine avoids_bind (calculateStakingRewards_avoids narrow checked) fun c calculated =>
    avoids_bind (distribute_avoids narrow _ _) fun d _ => ?_
  obtain ⟨verdicts, rfl, ⟨-, rfl⟩ | ⟨-, services, -⟩⟩ := calculateStakingRewards_spec calculated
  · exact avoids_of_ok rfl
  · exact avoids_ite (avoids_bind (closeEpoch_avoids narrow timestamp
      (show SoundSet (StakingState.setServiceIds { s with
        mapServiceInfo := d.mapInfo
        availableRewards := d.availableRewards }) from sound) services) fun _ _ =>
          avoids_of_ok rfl) (avoids_of_ok rfl)

theorem lock_avoids (narrow : Narrow bad) (s : StakingState) : Avoids bad (lock s) :=
  avoids_bind (avoids_revertIf (narrow.fine id trivial)) fun _ _ => avoids_of_ok rfl

theorem credit_avoids (amount : Nat) (s : StakingState) : Avoids RuledOut (credit amount s) :=
  avoids_bind (lock_avoids ruledOut_narrow s) fun _ _ => avoids_bind (avoids_checkedAdd id) fun _ _ =>
    avoids_bind (avoids_checkedAdd id) fun _ _ => avoids_of_ok rfl

theorem tokenCall_avoids {α : Type} (run : Except Revert α) : Avoids RuledOut (tokenCall run) := by
  cases run with
  | ok value => exact avoids_of_ok rfl
  | error reason => exact avoids_error id

theorem checkDistribution_avoids (narrow : Narrow bad) (contract : Address) (reward : Nat) (receivers : List Address)
    (amounts : List Nat) : Avoids bad (checkDistribution contract reward receivers amounts) := by
  refine avoids_bind (avoids_revertIf (narrow.fine id trivial)) fun _ _ => avoids_bind
    (avoids_loop (fun _ _ => ?_) _ _) fun _ _ => avoids_revertIf (narrow.fine id trivial)
  exact avoids_bind (avoids_revertIf (narrow.fine id trivial)) fun _ _ => avoids_bind (avoids_revertIf (narrow.fine id trivial)) fun _ _ =>
    avoids_checkedAdd (narrow.fine id trivial)

theorem getRewardReceiversAndAmounts_avoids (narrow : Narrow bad) (contract : Address) (view : RewardView)
    (sInfo : ServiceInfo) (reward : Nat) :
    Avoids bad (getRewardReceiversAndAmounts contract view sInfo reward) := by
  rw [getRewardReceiversAndAmounts]
  split
  · exact avoids_error (narrow.fine id trivial)
  · exact avoids_bind (avoids_bind (avoids_checkedMul (narrow.fine id trivial)) fun _ _ =>
      avoids_bind (avoids_checkedSub (narrow.fine id trivial)) fun _ _ => avoids_of_ok rfl) fun _ _ => avoids_of_ok rfl
  · exact avoids_of_ok rfl
  · exact avoids_of_ok rfl
  · split
    · exact avoids_error (narrow.fine id trivial)
    · exact avoids_bind (checkDistribution_avoids narrow _ _ _ _) fun _ _ => avoids_of_ok rfl

theorem checkServiceConfiguration_avoids (view : StakeView) (serviceId : Nat) (s : StakingState) :
    Avoids RuledOut (checkServiceConfiguration view serviceId s) := by
  refine avoids_bind (avoids_revertIf id) fun _ _ => avoids_bind (avoids_revertIf id) fun _ _ =>
    avoids_bind (avoids_revertIf id) fun _ _ => avoids_bind (avoids_revertIf id) fun _ _ =>
    avoids_bind (avoids_revertIf id) fun _ _ => avoids_bind ?_ fun _ _ => ?_
  · exact avoids_ite (avoids_bind (avoids_revertIf id) fun _ _ =>
      avoids_loop (fun _ _ => avoids_revertIf id) _ _) (avoids_of_ok rfl)
  · rw [checkTokenStakingDeposit]
    split
    · exact avoids_bind (avoids_revertIf id) fun _ _ =>
        avoids_loop (fun _ _ => avoids_revertIf id) _ _
    · exact avoids_bind (avoids_revertIf id) fun _ _ => avoids_bind (avoids_revertIf id)
        fun _ _ => avoids_loop (fun _ _ => avoids_revertIf id) _ _

theorem checkRewardDistribution_avoids (view : StakeView) (info : Nat) :
    Avoids RuledOut (checkRewardDistribution view info) := by
  rw [checkRewardDistribution]
  split
  · exact avoids_error id
  · exact avoids_bind (avoids_revertIf id) fun _ _ => avoids_revertIf id
  · exact avoids_revertIf id

theorem stake_avoids (contract sender : Address) (timestamp : Nat)
    (answers : Nat → ActivityAnswer) (view : StakeView) (serviceId info : Nat) (nft : ERC721)
    {s : StakingState} (sound : SoundSet s.setServiceIds) :
    Avoids RuledOut (stake contract sender timestamp answers view serviceId info nft s) := by
  refine avoids_bind (lock_avoids ruledOut_narrow s) fun s₀ locked => ?_
  obtain ⟨-, rfl⟩ := lock_eq_ok.mp locked
  refine avoids_bind (checkpoint_avoids ruledOut_narrow sound fun _ _ _ _ =>
      checkRatioPass_avoids _ _ _ _) fun _ _ =>
    avoids_bind (avoids_revertIf id) fun _ _ => avoids_bind (avoids_revertIf id) fun _ _ =>
    avoids_bind (avoids_revertIf id) fun _ _ =>
    avoids_bind (checkServiceConfiguration_avoids _ _ _) fun _ _ => ?_
  split
  · exact avoids_error id
  · exact avoids_bind (checkRewardDistribution_avoids _ _) fun _ _ =>
      avoids_bind (tokenCall_avoids _) fun _ _ => avoids_of_ok rfl

/-- The index found in the copy returned by the checkpoint is an index of the set. -/
theorem unstake_avoids (narrow : Narrow bad) (contract sender : Address) (timestamp : Nat)
    {answers : Nat → ActivityAnswer} (view : RewardView) (serviceId : Nat) (enforced : Bool)
    {s : StakingState} (sound : SoundSet s.setServiceIds)
    (checked : Due s timestamp → ∀ k serviceId, s.setServiceIds[k]? = some serviceId →
      Avoids bad (checkedService s timestamp answers k serviceId)) :
    Avoids bad (unstake contract sender timestamp answers view serviceId enforced s) := by
  refine avoids_bind (lock_avoids narrow s) fun s₀ locked => ?_
  obtain ⟨-, rfl⟩ := lock_eq_ok.mp locked
  refine avoids_bind (checkpoint_avoids narrow sound checked) fun after checkpointed => ?_
  obtain ⟨s₁, result⟩ := after
  have returned := checkpoint_returned (show SoundSet (StakingState.setServiceIds
    { s with locked := 2 }) from sound) checkpointed
  obtain ⟨items, removed, -⟩ := removeIfFound_spec serviceId s₁.setServiceIds
  refine avoids_bind (avoids_revertIf (narrow.fine id trivial)) fun _ _ => avoids_bind (avoids_checkedSub (narrow.fine id trivial)) fun _ _ =>
    avoids_bind (avoids_revertIf (narrow.fine id trivial)) fun _ _ =>
    avoids_bind (avoids_of_ok (by rw [returned]; exact removed)) fun _ _ => ?_
  refine avoids_ite (avoids_ite ?_ ?_) (avoids_of_ok rfl)
  · exact avoids_bind (avoids_checkedAdd (narrow.fine id trivial)) fun _ _ => avoids_of_ok rfl
  · exact avoids_bind (getRewardReceiversAndAmounts_avoids narrow _ _ _ _) fun _ _ => avoids_of_ok rfl

theorem claim_avoids (contract sender : Address) (timestamp : Nat)
    (answers : Nat → ActivityAnswer) (view : RewardView) (serviceId : Nat) (execCheckPoint : Bool)
    {s : StakingState} (sound : SoundSet s.setServiceIds) :
    Avoids RuledOut
      (claim contract sender timestamp answers view serviceId execCheckPoint s) := by
  refine avoids_bind (lock_avoids ruledOut_narrow s) fun s₀ locked => ?_
  obtain ⟨-, rfl⟩ := lock_eq_ok.mp locked
  refine avoids_bind (avoids_revertIf id) fun _ _ => avoids_bind
    (avoids_ite (avoids_bind (checkpoint_avoids ruledOut_narrow sound fun _ _ _ _ =>
      checkRatioPass_avoids _ _ _ _) fun _ _ =>
      avoids_of_ok rfl) (avoids_of_ok rfl)) fun _ _ =>
    avoids_bind (avoids_revertIf id) fun _ _ =>
    avoids_bind (getRewardReceiversAndAmounts_avoids ruledOut_narrow _ _ _ _) fun _ _ => avoids_of_ok rfl

theorem giveBack_avoids {self : Address} {w : StakingWorld} (serviceId : Nat) (owner : Address) :
    Avoids RuledOut (w.giveBack self serviceId owner) :=
  avoids_bind (tokenCall_avoids _) fun _ _ => avoids_of_ok rfl

end Functions

end AutonolasRegistries.Guarantees
