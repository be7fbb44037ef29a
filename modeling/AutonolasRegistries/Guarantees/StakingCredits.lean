import AutonolasRegistries.Guarantees.StakingBounds

/-!
# What a checkpoint credits

The rewards of the eligible services are paid in full when the available rewards
suffice; otherwise they are scaled down, and the first eligible service also gets what
the rounding left over. The view functions compute the same shares by other code, which
does not know about the rounding.
-/
namespace AutonolasRegistries.Guarantees
open Library Source StakingBase

def nominalTotal (eligible : List (Nat × Nat)) : Nat := (eligible.map Prod.snd).sum

/-- A reward after scaling, rounded down. -/
def scaledReward (eligible : List (Nat × Nat)) (available reward : Nat) : Nat :=
  reward * available / nominalTotal eligible

/-- The credits of a checkpoint that had the available rewards and the eligible services
with their nominal rewards, and the rewards it leaves available. -/
structure ExactCredits (eligible : List (Nat × Nat)) (available : Nat) (credit : Nat → Nat)
    (left : Nat) : Prop where
  enough : nominalTotal eligible ≤ available →
    (∀ entry ∈ eligible, credit entry.1 = entry.2) ∧ left = available - nominalTotal eligible
  short : available < nominalTotal eligible → left = 0 ∧
    ∀ first rest, eligible = first :: rest →
      (∀ entry ∈ rest, credit entry.1 = scaledReward eligible available entry.2) ∧
      credit first.1 = available - (rest.map fun entry => credit entry.1).sum ∧
      scaledReward eligible available first.2 ≤ credit first.1 ∧
      credit first.1 ≤ scaledReward eligible available first.2 + (eligible.length - 1)
  others : ∀ id, id ∉ eligible.map Prod.fst → credit id = 0

/-- A viewed amount is the actual one, but for the first eligible service in a
shortfall. -/
def ViewAgrees (eligible : List (Nat × Nat)) (available serviceId viewed actual : Nat) : Prop :=
  if available < nominalTotal eligible ∧ (eligible.map Prod.fst).head? = some serviceId then
    viewed ≤ actual ∧ actual ≤ viewed + (eligible.length - 1)
  else viewed = actual

/-- The eligible services are staked, in the order of the set, and each is paid for the
time since the last checkpoint or its own start. -/
structure NominalRewards (s : StakingState) (timestamp : Nat) (eligible : List (Nat × Nat)) :
    Prop where
  order : (eligible.map Prod.fst).Sublist s.setServiceIds
  amounts : ∀ entry ∈ eligible,
    entry.2 = s.params.rewardsPerSecond * (timestamp - serviceCheckpoint s entry.1)

section Credits
variable {timestamp : Nat} {answers : Nat → ActivityAnswer} {s s' : StakingState}
  {verdicts : List Verdict} {result : CheckpointResult}

theorem nominal_of_taken (taken : Taken timestamp answers verdicts s s' result) :
    NominalRewards s timestamp result.calculated.eligible := by
  rw [taken.calculated]
  constructor
  · rw [← taken.services]
    simp only [Calculated.ofVerdicts, earned, List.map_map]
    exact (List.filter_sublist (l := verdicts)).map _
  · intro entry member
    obtain ⟨v, listed, rfl⟩ := List.mem_map.mp member
    have timed : serviceCheckpoint s v.serviceId + v.ts = timestamp :=
      taken.timed v (List.mem_of_mem_filter listed)
    dsimp only
    rw [← timed, Nat.add_sub_cancel_left]

theorem NominalRewards.distinct {eligible : List (Nat × Nat)}
    (nominal : NominalRewards s timestamp eligible) (sound : SoundSet s.setServiceIds) :
    (eligible.map Prod.fst).Nodup :=
  nominal.order.nodup sound.distinct

theorem taken_calculated (taken : Taken timestamp answers verdicts s s' result) :
    result.calculated.lastAvailableRewards = s.availableRewards ∧
      result.calculated.totalRewards = nominalTotal result.calculated.eligible := by
  rw [taken.calculated]
  exact ⟨rfl, rfl⟩

theorem finalRewards_distinct (taken : Taken timestamp answers verdicts s s' result)
    (sound : SoundSet s.setServiceIds) : (result.finalRewards.map Prod.fst).Nodup := by
  have distinct := (nominal_of_taken taken).distinct sound
  rw [taken.rewarded]
  rwa [taken.calculated] at distinct

/-- The rewards paid in a shortfall. -/
theorem shortfall_paid {c : Calculated} {m : Nat → ServiceInfo} {d : Distributed}
    (sum : c.totalRewards = nominalTotal c.eligible)
    (short : c.lastAvailableRewards < c.totalRewards) {first : Nat × Nat}
    {rest : List (Nat × Nat)} (eligible : c.eligible = first :: rest)
    (ran : distribute c m = .ok d) :
    d.availableRewards = 0 ∧ ∃ top,
      d.final = (first.1, top) :: rest.map (fun entry =>
        (entry.1, scaledReward c.eligible c.lastAvailableRewards entry.2)) ∧
      top + (rest.map fun entry =>
        scaledReward c.eligible c.lastAvailableRewards entry.2).sum = c.lastAvailableRewards ∧
      scaledReward c.eligible c.lastAvailableRewards first.2 ≤ top ∧
      top ≤ scaledReward c.eligible c.lastAvailableRewards first.2 + rest.length := by
  obtain ⟨⟨top, final⟩, nothing, -⟩ := distribute_short short eligible ran
  have conserved := (distribute_spec sum ran).conserved
  have upper := shares_le c.lastAvailableRewards c.eligible sum.ge
  have lower := shares_slack c.lastAvailableRewards c.eligible sum.symm
    ((Nat.zero_le _).trans_lt short)
  rw [nothing, final] at conserved
  simp only [List.map_cons, List.sum_cons, List.map_map, Function.comp_def] at conserved
  rw [eligible] at upper lower
  simp only [List.map_cons, List.sum_cons, List.length_cons] at upper lower
  simp only [scaledReward, ← sum]
  exact ⟨nothing, top, final, by omega, by omega, by omega⟩

/-- The first service gets what the others leave, which is its share up to one unit for
each of them. -/
theorem exactCredits_of_taken (taken : Taken timestamp answers verdicts s s' result)
    (sound : SoundSet s.setServiceIds)
    (ran : StakingBase.checkpoint timestamp answers s = .ok (s', result)) :
    ExactCredits result.calculated.eligible s.availableRewards
      (creditOf result.finalRewards) s'.availableRewards := by
  obtain ⟨-, d, distributed, final⟩ := checkpoint_distributed ran
  obtain ⟨available, sum⟩ := taken_calculated taken
  have distinct := finalRewards_distinct taken sound
  have conserved := taken.conserved
  constructor
  · intro enough
    have full : result.finalRewards = result.calculated.eligible := by
      rw [taken.calculated] at enough ⊢
      exact taken.full enough
    rw [full] at conserved distinct ⊢
    refine ⟨fun entry member => creditOf_of_mem distinct member, ?_⟩
    rw [nominalTotal]
    omega
  · intro short
    have short' : result.calculated.lastAvailableRewards < result.calculated.totalRewards := by
      rwa [available, sum]
    have paid := (distribute_spec sum distributed).conserved
    match list : result.calculated.eligible with
    | [] =>
      rw [list] at short
      exact absurd short (Nat.not_lt_zero _)
    | first :: rest =>
      obtain ⟨nothing, top, shares, whole, lower, upper⟩ :=
        shortfall_paid sum short' list distributed
      rw [available, list] at shares whole lower upper
      rw [final] at conserved distinct ⊢
      rw [shares] at distinct ⊢
      have credits : ∀ entry ∈ rest, creditOf ((first.1, top) :: rest.map fun entry =>
          (entry.1, scaledReward (first :: rest) s.availableRewards entry.2)) entry.1 =
            scaledReward (first :: rest) s.availableRewards entry.2 := by
        intro entry member
        have listed : (entry.1, scaledReward (first :: rest) s.availableRewards entry.2) ∈
            rest.map fun entry =>
              (entry.1, scaledReward (first :: rest) s.availableRewards entry.2) :=
          List.mem_map_of_mem member
        exact creditOf_of_mem distinct (List.mem_cons_of_mem _ listed)
      have own := creditOf_of_mem distinct List.mem_cons_self
      dsimp only at own
      refine ⟨by omega, fun first' rest' split => ?_⟩
      obtain ⟨rfl, rfl⟩ := List.cons.inj split
      refine ⟨credits, ?_, lower.trans_eq own.symm, own.trans_le upper⟩
      rw [List.map_congr_left credits, own]
      exact Nat.eq_sub_of_add_eq whole
  · intro id outside
    refine creditOf_eq_zero ?_
    rw [taken.rewarded]
    rwa [taken.calculated] at outside

/-- What the view computes for one service, if the checkpoint goes through. -/
theorem lastReward_of_taken (taken : Taken timestamp answers verdicts s s' result)
    (sound : SoundSet s.setServiceIds)
    (ran : StakingBase.checkpoint timestamp answers s = .ok (s', result)) (serviceId : Nat) :
    ∃ last, calculateStakingLastReward timestamp answers serviceId s = .ok last ∧
      ViewAgrees result.calculated.eligible s.availableRewards serviceId last
        (creditOf result.finalRewards serviceId) := by
  obtain ⟨calculated, d, distributed, -⟩ := checkpoint_distributed ran
  obtain ⟨available, sum⟩ := taken_calculated taken
  obtain ⟨enough, short, others⟩ := exactCredits_of_taken taken sound ran
  have distinct := (nominal_of_taken taken).distinct sound
  simp only [calculateStakingLastReward, calculated, ok_bind]
  split
  · next entry found =>
    obtain rfl : entry.1 = serviceId := by simpa using List.find?_some found
    have member := List.mem_of_find?_eq_some found
    rw [pendingReward, available, sum]
    split
    · next scarce =>
      obtain ⟨first, rest, list⟩ := List.exists_cons_of_ne_nil (List.ne_nil_of_mem member)
      have fits := (distribute_short (by rwa [available, sum]) list distributed).2.2 entry member
      rw [available] at fits
      refine ⟨_, by rw [checkedMul, if_pos fits, ok_bind]; rfl, ?_⟩
      obtain ⟨shares, -, lower, upper⟩ := (short scarce).2 first rest list
      rw [list, List.mem_cons] at member
      rw [ViewAgrees]
      split
      · next top =>
        -- Only one eligible service has the Id of the first.
        have same : entry = first := by
          rcases member with same | member
          · exact same
          · rw [list, List.map_cons, List.nodup_cons] at distinct
            have head := top.2
            rw [list, List.map_cons, List.head?_cons, Option.some.injEq] at head
            exact absurd (head ▸ List.mem_map_of_mem member) distinct.1
        subst same
        exact ⟨lower, upper⟩
      · next other =>
        rcases member with rfl | member
        · exact absurd ⟨scarce, by rw [list]; rfl⟩ other
        · exact (shares entry member).symm
    · next plenty =>
      refine ⟨_, rfl, ?_⟩
      rw [ViewAgrees, if_neg fun scarce => plenty scarce.1]
      exact ((enough (Nat.not_lt.mp plenty)).1 entry member).symm
  · next missing =>
    refine ⟨0, rfl, ?_⟩
    have outside : serviceId ∉ result.calculated.eligible.map Prod.fst := by
      intro member
      obtain ⟨entry, listed, rfl⟩ := List.mem_map.mp member
      simpa using List.find?_eq_none.mp missing entry listed
    rw [ViewAgrees, if_neg, others serviceId outside]
    intro top
    exact outside (List.mem_of_mem_head? top.2)

theorem ViewAgrees.le {eligible : List (Nat × Nat)} {available serviceId viewed actual : Nat}
    (agrees : ViewAgrees eligible available serviceId viewed actual) : viewed ≤ actual := by
  rw [ViewAgrees] at agrees
  split at agrees <;> omega

theorem ViewAgrees.add {eligible : List (Nat × Nat)} {available serviceId viewed actual : Nat}
    (agrees : ViewAgrees eligible available serviceId viewed actual) (reward : Nat) :
    ViewAgrees eligible available serviceId (reward + viewed) (reward + actual) := by
  rw [ViewAgrees] at agrees ⊢
  split
  · next top =>
    rw [if_pos top] at agrees
    omega
  · next other =>
    rw [if_neg other] at agrees
    rw [agrees]

end Credits

/-- Every external function takes the lock and then makes its checkpoint. At any time of
any run, a checkpoint that takes effect credits exact shares, and the views evaluated
before it say so. -/
theorem checkpoint_credits_exact {self : Address} {start : StakingWorld}
    (fresh : start.Fresh self) {c : Config StakingWorld StakingFrame}
    (run : Reachable (stakingMachine self) (stakingDiscipline self) start c)
    {answers : Nat → ActivityAnswer} {s s' : StakingState} {result : CheckpointResult}
    (locked : lock c.state.store = .ok s)
    (ran : StakingBase.checkpoint c.state.timestamp answers s = .ok (s', result))
    (effect : result.calculated.serviceIds ≠ []) :
    let store := c.state.store
    let eligible := result.calculated.eligible
    0 < store.availableRewards ∧ NominalRewards store c.state.timestamp eligible ∧
    ∃ credit : Nat → Nat,
      (∀ id, (s'.mapServiceInfo id).reward = (store.mapServiceInfo id).reward + credit id) ∧
      ExactCredits eligible store.availableRewards credit s'.availableRewards ∧
      ∀ id, ∃ last overall,
        calculateStakingLastReward c.state.timestamp answers id store = .ok last ∧
        calculateStakingReward c.state.timestamp answers id store = .ok overall ∧
        ViewAgrees eligible store.availableRewards id last (credit id) ∧
        ViewAgrees eligible store.availableRewards id overall (s'.mapServiceInfo id).reward := by
  obtain ⟨base, -, funds, -⟩ := stakingSolid_always fresh run
  obtain ⟨-, rfl⟩ := lock_eq_ok.mp locked
  have sound := base.book.sound
  obtain ⟨-, skipped, -⟩ | ⟨verdicts, taken⟩ := checkpoint_spec (by exact sound) ran
  · exact absurd skipped effect
  · have rewards (id : Nat) : (s'.mapServiceInfo id).reward =
        (c.state.store.mapServiceInfo id).reward + creditOf result.finalRewards id := by
      obtain ⟨_, _, record⟩ := taken.record id
      rw [record]
    obtain ⟨finite, conserved⟩ := checkpoint_conserves
      (by exact rewardOf_support base.book) (by exact sound) ran
    have after : FundsFit s' := funds.of_le conserved.le
    have credits := exactCredits_of_taken taken (by exact sound) ran
    obtain ⟨order, amounts⟩ := nominal_of_taken taken
    intro store eligible
    refine ⟨taken.due.2.2, ⟨order, amounts⟩, creditOf result.finalRewards, rewards, credits,
      fun id => ?_⟩
    obtain ⟨last, viewed, agrees⟩ := lastReward_of_taken taken (by exact sound) ran id
    refine ⟨last, (store.mapServiceInfo id).reward + last, viewed, ?_, agrees, ?_⟩
    · have below : (store.mapServiceInfo id).reward + last < 2 ^ 256 := by
        have listed : rewardOf s' id ≤ owedRewards s' := le_total_of_support finite id
        rw [rewardOf, rewards] at listed
        exact (Nat.add_le_add_left agrees.le _).trans_lt
          ((listed.trans (Nat.le_add_left _ _)).trans_lt after)
      have viewed : calculateStakingLastReward c.state.timestamp answers id store = .ok last :=
        viewed
      rw [calculateStakingReward, viewed, ok_bind, checkedAdd, if_pos below]
    · rw [rewards]
      exact agrees.add _

/-- Two services that earned 1500 each while 1001 are available. -/
def shortOfRewards : List (Move StakingCall Unit) :=
  [.call (.mint 21),
    .call (.mint 21),
    .call (.setApprovalForAll sampleOwner 5 true),
    .call (.receive sampleOwner 1001),
    .call (.stake sampleOwner (activeAnswer 1) deployedView 1 0),
    .call (.stake sampleOwner (activeAnswer 1) deployedView 2 0),
    .call (.tick 150)]

/-- What the next checkpoint will do. -/
def nextCheckpoint (w : StakingWorld) : Option (StakingState × StakingState × CheckpointResult) :=
  match lock w.store with
  | .ok s =>
    match StakingBase.checkpoint w.timestamp (activeAnswer 1) s with
    | .ok (s', result) => some (s, s', result)
    | .error _ => none
  | .error _ => none

/-- Scaled down, each gets 500, and the first also the unit left over. -/
theorem checkpoint_credits_exact_shortfall : ∃ c s s' result,
    Reachable (stakingMachine 5) (stakingDiscipline 5) sampleStaking c ∧
    lock c.state.store = .ok s ∧
    StakingBase.checkpoint c.state.timestamp (activeAnswer 1) s = .ok (s', result) ∧
    (s'.mapServiceInfo 1).reward = 501 ∧ (s'.mapServiceInfo 2).reward = 500 ∧
    ∃ credit : Nat → Nat,
      ExactCredits [(1, 1500), (2, 1500)] 1001 credit s'.availableRewards ∧
      ∃ last, calculateStakingLastReward c.state.timestamp (activeAnswer 1) 1 c.state.store =
          .ok last ∧
        ViewAgrees [(1, 1500), (2, 1500)] 1001 1 last (credit 1) := by
  obtain ⟨c, run, seen⟩ := Machine.play_observed (stakingDiscipline 5) (stakingMachine 5)
    sampleStaking shortOfRewards
    (fun c => (nextCheckpoint c.state).map fun (_, s', result) =>
      (result.calculated.eligible, result.calculated.serviceIds ++
        [(s'.mapServiceInfo 1).reward, (s'.mapServiceInfo 2).reward,
          c.state.store.availableRewards]))
    (some ([(1, 1500), (2, 1500)], [1, 2, 501, 500, 1001])) (by decide +kernel)
  obtain ⟨⟨s, s', result⟩, next, values⟩ := Option.map_eq_some_iff.mp seen
  obtain ⟨eligible, numbers⟩ := Prod.mk.inj values
  have numbers : result.calculated.serviceIds ++ [(s'.mapServiceInfo 1).reward,
      (s'.mapServiceInfo 2).reward, c.state.store.availableRewards] =
        [1, 2] ++ [501, 500, 1001] := numbers
  obtain ⟨ids, numbers⟩ := List.append_inj' numbers rfl
  simp only [List.cons.injEq] at numbers
  obtain ⟨first, second, available, -⟩ := numbers
  rw [nextCheckpoint] at next
  split at next
  · next locked =>
    split at next
    · next ran =>
      cases next
      obtain ⟨-, -, credit, -, exact, views⟩ := checkpoint_credits_exact sampleStaking_fresh run
        locked ran (by simp [ids])
      obtain ⟨last, -, viewed, -, agrees, -⟩ := views 1
      rw [eligible, available] at exact agrees
      exact ⟨c, s, s', result, run, locked, ran, first, second, credit, exact, last, viewed,
        agrees⟩
    · cases next
  · cases next

end AutonolasRegistries.Guarantees
