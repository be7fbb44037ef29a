import AutonolasRegistries.Guarantees.StakingProgress

/-!
# A staker can always leave

`forcedUnstake` asks nobody but the activity checker and the registry: the reward of the
service goes back to the available rewards, so no receiver and no distributor is called.
Once the minimum time is over, or the rewards are used up, it goes through.
-/
namespace AutonolasRegistries.Guarantees
open Library Source StakingBase

section Leaving
variable {self : Address} {timestamp : Nat} {answers : Nat → ActivityAnswer}

theorem forcedUnstake_ok (self : Address) {sender : Address} (view : RewardView) {serviceId : Nat}
    {s s₁ : StakingState} {result : CheckpointResult} (free : s.locked ≤ 1)
    (sound : SoundSet s.setServiceIds)
    (checkpointed : StakingBase.checkpoint timestamp answers { s with locked := 2 } =
      .ok (s₁, result))
    (owned : sender = (s₁.mapServiceInfo serviceId).owner)
    (started : (s₁.mapServiceInfo serviceId).tsStart ≤ timestamp)
    (allowed : s₁.minStakingDuration < timestamp - (s₁.mapServiceInfo serviceId).tsStart ∨
      s₁.availableRewards = 0)
    (room : s₁.availableRewards + (s₁.mapServiceInfo serviceId).reward < 2 ^ 256) :
    ∃ after, unstake self sender timestamp answers view serviceId true s = .ok after := by
  have locked : lock s = .ok { s with locked := 2 } := lock_eq_ok.mpr ⟨free, rfl⟩
  have returned := checkpoint_returned (by exact sound) checkpointed
  obtain ⟨items, removed, -⟩ := removeIfFound_spec serviceId s₁.setServiceIds
  have late : ¬ (timestamp - (s₁.mapServiceInfo serviceId).tsStart ≤ s₁.minStakingDuration ∧
      0 < s₁.availableRewards) := by omega
  simp only [unstake, locked, ok_bind, checkpointed, revertIf, if_neg (not_not.mpr owned),
    checkedSub, if_pos started, if_neg late, returned, removed]
  split
  · simp only [if_true, checkedAdd, if_pos room, ok_bind]
    exact ⟨_, rfl⟩
  · exact ⟨_, rfl⟩

/-- A checkpoint leaves the terms of a session and its owner alone. -/
theorem checkpoint_terms {s s₁ : StakingState} {result : CheckpointResult}
    (sound : SoundSet s.setServiceIds)
    (checkpointed : StakingBase.checkpoint timestamp answers s = .ok (s₁, result))
    (serviceId : Nat) :
    s₁.minStakingDuration = s.minStakingDuration ∧
    (s₁.mapServiceInfo serviceId).owner = (s.mapServiceInfo serviceId).owner ∧
    (s₁.mapServiceInfo serviceId).tsStart = (s.mapServiceInfo serviceId).tsStart := by
  rcases checkpoint_spec sound checkpointed with ⟨rfl, -⟩ | ⟨verdicts, taken⟩
  · exact ⟨rfl, rfl, rfl⟩
  · obtain ⟨_, _, record⟩ := taken.record serviceId
    refine ⟨by rw [taken.frame], ?_, ?_⟩
    · rw [record]
    · rw [record]

theorem not_mem_of_left {ids items : List Nat} {serviceId : Nat} (sound : SoundSet ids)
    (left : (serviceId ∉ ids ∧ items = ids) ∨ (items ++ [serviceId]).Perm ids) :
    serviceId ∉ items := by
  rcases left with ⟨outside, rfl⟩ | perm
  · exact outside
  · intro member
    have distinct := perm.nodup_iff.mpr sound.distinct
    exact (List.nodup_append.mp distinct).2.2 _ member _ (List.mem_singleton_self _) rfl

/-- A forced unstake makes no payments; the service goes back at once. -/
theorem forcedUnstake_enter {w : StakingWorld} {owner : Caller} {view : RewardView}
    {serviceId : Nat} {s' : StakingState} {payout : PayoutResult} {nft : ERC721}
    (unstaked : unstake self owner w.timestamp answers view serviceId true w.store =
      .ok (s', payout))
    (moved : w.nft.transferFrom self self owner serviceId = .ok nft) :
    ∃ w', StakingWorld.enter self (.unstake owner answers view serviceId true) w =
        .ok (.done w') ∧ w'.store = unlock s' ∧ w'.nft = nft := by
  simp only [StakingWorld.enter, unstaked, ok_bind, not_true, and_false, if_false,
    StakingWorld.giveBack, tokenCall_eq_ok.mpr moved]
  exact ⟨_, rfl, rfl, rfl⟩

end Leaving

/-- Between calls, the owner of a service can take it out by force, once its time is over or
the rewards are used up. -/
theorem StakingSolid.leaves {self : Address} {w : StakingWorld} (solid : StakingSolid self w [])
    (word : w.timestamp < 2 ^ 256) {answers : Nat → ActivityAnswer}
    (readable : ∀ i, Readable (answers i)) (fits : RewardsFit w.store w.timestamp)
    (view : RewardView) {serviceId : Nat} {owner : Caller}
    (owned : (w.store.mapServiceInfo serviceId).owner = owner)
    (allowed : w.store.minStakingDuration <
        w.timestamp - (w.store.mapServiceInfo serviceId).tsStart ∨
      ∀ s s₁ result, lock w.store = .ok s →
        StakingBase.checkpoint w.timestamp answers s = .ok (s₁, result) →
        s₁.availableRewards = 0) :
    ∃ s s₁ result w', lock w.store = .ok s ∧
      StakingBase.checkpoint w.timestamp answers s = .ok (s₁, result) ∧
      StakingWorld.enter self (.unstake owner answers view serviceId true) w = .ok (.done w') ∧
      w'.store.mapServiceInfo serviceId = ServiceInfo.empty ∧
      serviceId ∉ w'.store.setServiceIds ∧
      w'.nft.owners serviceId = owner ∧
      w'.store.availableRewards =
        s₁.availableRewards + (s₁.mapServiceInfo serviceId).reward ∧
      w'.store.balance = w.store.balance := by
  obtain ⟨base, -, funds, past⟩ := solid
  have book := base.book
  have free : w.store.locked ≤ 1 := base.shape
  have finite := rewardOf_support book
  have clock (id : Nat) : serviceCheckpoint w.store id ≤ w.timestamp :=
    Nat.max_le.mpr ⟨book.checkpointed, book.started id⟩
  have locked : lock w.store = .ok { w.store with locked := 2 } :=
    lock_eq_ok.mpr ⟨free, rfl⟩
  obtain ⟨⟨s₁, result⟩, checkpointed⟩ := checkpoint_ok (s := { w.store with locked := 2 })
    readable (by exact fits) book.sound finite funds ⟨past.inactivity, past.epochs⟩
    book.liveness book.checkpointed clock word
  obtain ⟨duration, keeper, begun⟩ := checkpoint_terms (by exact book.sound) checkpointed serviceId
  obtain ⟨finite₁, conserved⟩ :=
    checkpoint_conserves (by exact finite) (by exact book.sound) checkpointed
  have owned₁ : owner.val = (s₁.mapServiceInfo serviceId).owner := owned.symm.trans keeper.symm
  have room : s₁.availableRewards + (s₁.mapServiceInfo serviceId).reward < 2 ^ 256 := by
    have after : FundsFit s₁ := funds.of_le conserved.le
    exact (Nat.add_le_add_left (le_total_of_support finite₁ serviceId) _).trans_lt after
  have late : s₁.minStakingDuration <
      w.timestamp - (s₁.mapServiceInfo serviceId).tsStart ∨ s₁.availableRewards = 0 := by
    rw [duration, begun]
    exact allowed.imp id fun used => used _ _ _ locked checkpointed
  obtain ⟨⟨s', payout⟩, unstaked⟩ := forcedUnstake_ok self view free book.sound
    checkpointed owned₁ (begun ▸ book.started serviceId) late room
  have balance := (unstake_conserves finite book.sound unstaked).1
  obtain ⟨-, s₁', result', items, checkpointed', -, left, -, rewarded, -, rfl⟩ :=
    unstake_spec book.sound unstaked
  rw [checkpointed] at checkpointed'
  cases checkpointed'
  have sound₁ : SoundSet s₁.setServiceIds := by
    rcases checkpoint_spec (by exact book.sound) checkpointed with ⟨rfl, -⟩ | ⟨verdicts, taken⟩
    · exact book.sound
    · exact taken.sound book.sound
  -- The contract holds the service as long as it has a record.
  have held : w.nft.owners serviceId = self := by
    refine book.held serviceId (Nat.pos_of_ne_zero fun none => owner.property ?_)
    rw [← owned, book.blank serviceId none]
    rfl
  have moved := (ERC721.transferFrom_eq_ok (t := w.nft)).mpr
    ⟨held.symm, owner.property, .inl rfl, rfl⟩
  obtain ⟨w', entered, store, nft⟩ := forcedUnstake_enter unstaked moved
  refine ⟨_, s₁, result, w', locked, checkpointed, entered, ?_, ?_, ?_, ?_, ?_⟩
  · rw [store]
    exact Function.update_self _ _ _
  · rw [store]
    exact not_mem_of_left sound₁ left
  · rw [nft]
    exact Function.update_self _ _ _
  · rw [store, ← rewarded]
    rfl
  · rw [store]
    exact balance

/-- The owner of a staked or evicted service gets it back, whatever the activity checker
says about any service. -/
theorem forced_exit_guaranteed {self : Address} {start : StakingWorld} (fresh : start.Fresh self)
    {c : Config StakingWorld StakingFrame}
    (run : Reachable (stakingMachine self) (stakingDiscipline self) start c)
    (idle : c.frames = []) (word : c.state.timestamp < 2 ^ 256)
    {answers : Nat → ActivityAnswer} (readable : ∀ i, Readable (answers i))
    (fits : RewardsFit c.state.store c.state.timestamp) (view : RewardView) {serviceId : Nat}
    {owner : Caller} (owned : (c.state.store.mapServiceInfo serviceId).owner = owner)
    (allowed : c.state.store.minStakingDuration <
        c.state.timestamp - (c.state.store.mapServiceInfo serviceId).tsStart ∨
      ∀ s s₁ result, lock c.state.store = .ok s →
        StakingBase.checkpoint c.state.timestamp answers s = .ok (s₁, result) →
        s₁.availableRewards = 0) :
    ∃ s s₁ result w', lock c.state.store = .ok s ∧
      StakingBase.checkpoint c.state.timestamp answers s = .ok (s₁, result) ∧
      StakingWorld.enter self (.unstake owner answers view serviceId true) c.state =
        .ok (.done w') ∧
      w'.store.mapServiceInfo serviceId = ServiceInfo.empty ∧
      serviceId ∉ w'.store.setServiceIds ∧
      w'.nft.owners serviceId = owner ∧
      w'.store.availableRewards =
        s₁.availableRewards + (s₁.mapServiceInfo serviceId).reward ∧
      w'.store.balance = c.state.store.balance := by
  have solid := stakingSolid_always fresh run
  rw [idle] at solid
  exact solid.leaves word readable fits view owned allowed

theorem activeAnswer_readable (passed : Fin 256) (bit : passed.val ≤ 1) (i : Nat) :
    Readable (activeAnswer passed i) := by
  have array : EncodesArray (encodeWords [32, 1, 3]) :=
    ⟨[], [3], [], by decide, by decide, by decide +kernel⟩
  have flag : EncodesBool (encodeWords [passed]) := by
    rcases Nat.le_one_iff_eq_zero_or_eq_one.mp bit with zero | one
    · obtain rfl : passed = 0 := Fin.ext zero
      exact ⟨false, by decide +kernel⟩
    · obtain rfl : passed = 1 := Fin.ext one
      exact ⟨true, by decide +kernel⟩
  exact ⟨fun _ => .inr (.inr (.inr array)), fun _ _ _ => .inr (.inr flag)⟩

/-- The checkpoint of the forced unstake evicts the service, which leaves all the same. -/
theorem forced_exit_guaranteed_evicted : ∃ c s s₁ result w',
    Reachable (stakingMachine 5) (stakingDiscipline 5) sampleStaking c ∧
    lock c.state.store = .ok s ∧
    StakingBase.checkpoint c.state.timestamp (activeAnswer 0) s = .ok (s₁, result) ∧
    StakingWorld.enter 5 (.unstake sampleOwner (activeAnswer 0) operatorView 1 true) c.state =
      .ok (.done w') ∧
    w'.nft.owners 1 = 21 ∧ 1 ∉ w'.store.setServiceIds ∧
    w'.store.availableRewards = s₁.availableRewards + (s₁.mapServiceInfo 1).reward := by
  obtain ⟨c, run, seen⟩ := Machine.play_observed (stakingDiscipline 5) (stakingMachine 5)
    sampleStaking (stakeAndPass ++ [.call (.tick 150)])
    (fun c => ([c.state.timestamp, c.state.store.minStakingDuration,
      (c.state.store.mapServiceInfo 1).tsStart, nominalReward c.state.store 1300 1,
      c.state.store.availableRewards, c.frames.length], c.state.store.setServiceIds,
        (c.state.store.mapServiceInfo 1).owner))
    ([1300, 100, 1000, 1500, 98500, 0], [1], 21) (by decide +kernel)
  simp only [Prod.mk.injEq, List.cons.injEq] at seen
  obtain ⟨⟨now, duration, begun, nominal, available, idle, -⟩, ids, owned⟩ := seen
  have owned : (c.state.store.mapServiceInfo 1).owner = sampleOwner := owned
  have fits : RewardsFit c.state.store c.state.timestamp := by
    intro _
    rw [ids, now, available, List.map_singleton, List.sum_singleton, nominal]
    exact ⟨by decide, fun short => absurd short (by decide)⟩
  obtain ⟨s, s₁, result, w', locked, checkpointed, entered, -, outside, back, returned, -⟩ :=
    forced_exit_guaranteed sampleStaking_fresh run (List.length_eq_zero_iff.mp idle)
      (by rw [now]; decide) (activeAnswer_readable 0 (by decide)) fits operatorView
      owned (.inl (by rw [now, duration, begun]; decide))
  exact ⟨c, s, s₁, result, w', run, locked, checkpointed, entered, back, outside, returned⟩

end AutonolasRegistries.Guarantees
