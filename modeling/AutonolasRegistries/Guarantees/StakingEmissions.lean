import AutonolasRegistries.Guarantees.StakingSessions

/-!
# The emission cap

Checkpoints may be skipped and services may come and go between two of them, yet no
checkpoint pays for time before the previous one, and it pays at most one service for
each slot. So the rewards of a whole run stay below the rate of all slots, from the
setup to the last checkpoint.
-/
namespace AutonolasRegistries.Guarantees
open Library Source Model StakingBase

/-- The rewards given so far, against a clock that starts at `since`. -/
structure EmissionBook (since : Nat) (p : StakingParams) (w : StakingWorld) : Prop where
  params : w.store.params = p
  order : since ≤ w.store.tsCheckpoint
  capped : emitted w.history ≤
    p.rewardsPerSecond * p.maxNumServices * (w.store.tsCheckpoint - since)

/-- A checkpoint gives each slot at most the time since the last one. -/
theorem earned_le {s : StakingState} {timestamp perSecond slots : Nat} {verdicts : List Verdict}
    (timed : ∀ v ∈ verdicts, v.Timed s timestamp) (room : verdicts.length ≤ slots) :
    ((earned perSecond verdicts).map Prod.snd).sum ≤
      perSecond * slots * (timestamp - s.tsCheckpoint) := by
  have each : ∀ amount ∈ (earned perSecond verdicts).map Prod.snd,
      amount ≤ perSecond * (timestamp - s.tsCheckpoint) := by
    intro amount member
    rw [earned, List.map_map, List.mem_map] at member
    obtain ⟨v, listed, rfl⟩ := member
    have exact_time := timed v (List.mem_of_mem_filter listed)
    rw [Verdict.Timed, serviceCheckpoint] at exact_time
    exact Nat.mul_le_mul_left _ (by omega)
  have count : ((earned perSecond verdicts).map Prod.snd).length ≤ slots := by
    rw [List.length_map, earned, List.length_map]
    exact (List.length_filter_le _ _).trans room
  calc ((earned perSecond verdicts).map Prod.snd).sum
      ≤ ((earned perSecond verdicts).map Prod.snd).length *
          (perSecond * (timestamp - s.tsCheckpoint)) := by
        simpa only [smul_eq_mul] using List.sum_le_card_nsmul _ _ each
    _ ≤ slots * (perSecond * (timestamp - s.tsCheckpoint)) := Nat.mul_le_mul_right _ count
    _ = perSecond * slots * (timestamp - s.tsCheckpoint) := by
        rw [Nat.mul_left_comm, Nat.mul_assoc]

namespace EmissionBook
variable {self : Address} {since : Nat} {p : StakingParams} {w : StakingWorld}

theorem checkpoint (emissions : EmissionBook since p w) (book : StakingBook self w)
    {answers : Nat → ActivityAnswer} {s' : StakingState} {verdicts : List Verdict}
    {result : CheckpointResult}
    (taken : Taken w.timestamp answers verdicts w.store s' result) :
    EmissionBook since p { w with
      store := s'
      history := w.history ++ StakingWorld.accounted w.timestamp answers w.store result } := by
  obtain ⟨rfl, order, capped⟩ := emissions
  have clock : s'.tsCheckpoint = w.timestamp := by rw [taken.frame]
  have slots : verdicts.length ≤ w.store.params.maxNumServices := by
    have := book.room
    rwa [← taken.services, List.length_map] at this
  have spent := taken.bounded.trans (earned_le taken.timed slots)
  have times : w.timestamp - since =
      (w.store.tsCheckpoint - since) + (w.timestamp - w.store.tsCheckpoint) := by
    have := taken.clock
    omega
  refine ⟨by rw [taken.frame], (order.trans taken.clock).trans clock.ge, ?_⟩
  dsimp only
  rw [clock, emitted_append, accounted_eq taken, times, Nat.mul_add]
  exact Nat.add_le_add capped spent

/-- Only checkpoints give rewards, and the clock stands still between them. -/
theorem move (w w' : StakingWorld) (book : StakingBook self w) (taken : StakingMove self w w')
    (emissions : EmissionBook since p w) : EmissionBook since p w' := by
  cases taken with
  | checkpoint taken => exact emissions.checkpoint book taken
  | join | collect | leave | settle =>
    refine ⟨emissions.params, emissions.order, ?_⟩
    rw [emitted_append]
    exact emissions.capped
  | books | fund | tick | giveBack | mint | approve | setApprovalForAll | transferFrom =>
    exact ⟨emissions.params, emissions.order, emissions.capped⟩

end EmissionBook

theorem staking_emission_cap {self : Address} {start : StakingWorld} (fresh : start.Fresh self)
    {c : Config StakingWorld StakingFrame}
    (run : Reachable (stakingMachine self) (stakingDiscipline self) start c) :
    start.timestamp ≤ c.state.store.tsCheckpoint ∧
    emitted c.state.history ≤
      start.store.params.rewardsPerSecond * start.store.params.maxNumServices *
        (c.state.store.tsCheckpoint - start.timestamp) := by
  obtain ⟨_, _, _, setup⟩ := fresh.setup
  obtain ⟨-, -, -, clock, -⟩ := initializeStaking_eq setup
  have initial : EmissionBook start.timestamp start.store.params start := by
    refine ⟨rfl, clock.ge, ?_⟩
    rw [fresh.empty]
    exact Nat.zero_le _
  obtain ⟨-, emissions⟩ := staking_invariant fresh EmissionBook.move initial run
  exact ⟨emissions.order, emissions.capped⟩

/-- One of two slots is used for 150 seconds. -/
theorem staking_emission_cap_half :
    ∃ c, Reachable (stakingMachine 5) (stakingDiscipline 5) sampleStaking c ∧
      emitted c.state.history = 1500 ∧ c.state.store.tsCheckpoint = 1150 ∧
      emitted c.state.history ≤ 10 * 2 * (c.state.store.tsCheckpoint - 1000) := by
  obtain ⟨c, run, seen⟩ := Machine.play_observed (stakingDiscipline 5) (stakingMachine 5)
    sampleStaking stakeAndPass
    (fun c => (emitted c.state.history, c.state.store.tsCheckpoint)) (1500, 1150)
    (by decide +kernel)
  obtain ⟨total, clock⟩ := Prod.mk.inj seen
  exact ⟨c, run, total, clock, (staking_emission_cap sampleStaking_fresh run).2⟩

end AutonolasRegistries.Guarantees
