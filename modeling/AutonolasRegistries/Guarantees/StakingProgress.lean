import AutonolasRegistries.Library.BigEndian
import AutonolasRegistries.Guarantees.StakingBounds

/-!
# A checkpoint goes through

Whatever the activity checker answers, as long as its answers can be read, and if the
rewards are not too large for a word, no operation of `_checkpoint` fails. The rewards
are added to words that have room for them, since all funds together fit a word; times
are bounded by the clock; and every access of `_evict` is inside the set.
-/
namespace AutonolasRegistries.Guarantees
open Library Source StakingBase

section Answers

/-- An ABI encoding of `uint256[]`: the offset of the length word, then the length and
the elements. What stands in between or behind is not read. -/
def EncodesArray (data : List (Fin 256)) : Prop :=
  ∃ (gap : List (Fin 256)) (words : List Nat) (tail : List (Fin 256)),
    gap.length + 32 < 2 ^ 256 ∧ words.length < 2 ^ 256 ∧
    data = toBytes 32 (gap.length + 32) ++ (gap ++ (toBytes 32 words.length ++
      (words.flatMap (toBytes 32) ++ tail)))

/-- The ABI encoding of `bool`. -/
def EncodesBool (data : List (Fin 256)) : Prop := ∃ value : Bool, data = toBytes 32 value.toNat

/-- A checker whose calls fail, return data of a length that is rejected, or return an
encoding of the type the caller expects. -/
structure Readable (answer : ActivityAnswer) : Prop where
  nonces : ∀ multisig, let first := answer.getMultisigNonces multisig
    first.success = false ∨ first.returnData.length ≤ 63 ∨ first.returnData.length % 32 ≠ 0 ∨
      EncodesArray first.returnData
  ratio : ∀ currentNonces lastNonces ts, let second := answer.isRatioPass currentNonces lastNonces ts
    second.success = false ∨ second.returnData.length ≠ 32 ∨ EncodesBool second.returnData

theorem wordAt_of_split {data front back : List (Fin 256)} {value offset : Nat}
    (small : value < 2 ^ 256) (place : front.length = offset)
    (split : data = front ++ (toBytes 32 value ++ back)) : wordAt data offset = value := by
  have word : (data.drop offset).take 32 = toBytes 32 value := by
    rw [split, List.drop_left' place, List.take_left' (length_toBytes 32 value)]
  have read : wordAt data offset = ofBytes ((data.drop offset).take 32) := rfl
  rw [read, word, ofBytes_toBytes]
  exact Nat.mod_eq_of_lt small

theorem length_flatMap_toBytes (words : List Nat) :
    (words.flatMap (toBytes 32)).length = 32 * words.length := by
  induction words with
  | nil => rfl
  | cons word words ih =>
    rw [List.flatMap_cons, List.length_append, length_toBytes, ih, List.length_cons]
    omega

theorem decodeArray_ok {data : List (Fin 256)} (encoded : EncodesArray data) :
    ∃ words, decodeArray data = .ok words := by
  obtain ⟨gap, words, tail, small, few, split⟩ := encoded
  have offset : wordAt data 0 = gap.length + 32 :=
    wordAt_of_split small List.length_nil (split.trans (List.nil_append _).symm)
  have front : (toBytes 32 (gap.length + 32) ++ gap).length = gap.length + 32 := by
    rw [List.length_append, length_toBytes, Nat.add_comm]
  have size : wordAt data (gap.length + 32) = words.length := by
    rw [← List.append_assoc] at split
    exact wordAt_of_split few front split
  have length : data.length = gap.length + 64 + 32 * words.length + tail.length := by
    rw [split]
    simp only [List.length_append, length_toBytes, length_flatMap_toBytes]
    omega
  have inside : ¬ data.length < gap.length + 32 + 32 := by omega
  have whole : ¬ data.length < gap.length + 32 + 32 + 32 * words.length := by omega
  simp only [decodeArray, offset, size, revertIf, if_neg inside, if_neg whole, ok_bind]
  exact ⟨_, rfl⟩

theorem decodeBool_ok {data : List (Fin 256)} (encoded : EncodesBool data) :
    ∃ value, decodeBool data = .ok value := by
  obtain ⟨value, split⟩ := encoded
  have bit := value.toNat_le
  have word : wordAt data 0 = value.toNat := by
    have whole : data = [] ++ (toBytes 32 value.toNat ++ []) := by
      rw [split, List.append_nil, List.nil_append]
    exact wordAt_of_split (bit.trans_lt (by norm_num)) List.length_nil whole
  have small : ¬ 1 < value.toNat := Nat.not_lt.mpr bit
  simp only [decodeBool, word, revertIf, if_neg small, ok_bind]
  exact ⟨_, rfl⟩

theorem checkRatioPass_ok {answer : ActivityAnswer} (readable : Readable answer)
    (multisig : Address) (lastNonces : List Nat) (ts : Nat) :
    ∃ verdict, checkRatioPass answer multisig lastNonces ts = .ok verdict := by
  rw [checkRatioPass]
  split
  · next shaped =>
    have encoded : EncodesArray (answer.getMultisigNonces multisig).returnData := by
      rcases readable.nonces multisig with failed | short | odd | encoded
      · simp [failed] at shaped
      · exact absurd shaped.2.1 (Nat.not_lt.mpr short)
      · exact absurd shaped.2.2 odd
      · exact encoded
    obtain ⟨currentNonces, decoded⟩ := decodeArray_ok encoded
    rw [decoded, ok_bind]
    dsimp only
    split
    · next shaped =>
      have encoded : EncodesBool (answer.isRatioPass currentNonces lastNonces ts).returnData := by
        rcases readable.ratio currentNonces lastNonces ts with failed | long | encoded
        · simp [failed] at shaped
        · exact absurd shaped.2 long
        · exact encoded
      obtain ⟨value, decoded⟩ := decodeBool_ok encoded
      rw [decoded, ok_bind]
      exact ⟨_, rfl⟩
    · exact ⟨_, rfl⟩
  · exact ⟨_, rfl⟩

end Answers

section Rewards

/-- What a service earns if it passes the check. -/
def nominalReward (s : StakingState) (timestamp serviceId : Nat) : Nat :=
  s.params.rewardsPerSecond * (timestamp - serviceCheckpoint s serviceId)

/-- The reward arithmetic of a checkpoint that is due stays within a word: the sum of the
nominal rewards and, where they may exceed the available ones, their products with these. -/
def RewardsFit (s : StakingState) (timestamp : Nat) : Prop :=
  Due s timestamp →
    (s.setServiceIds.map (nominalReward s timestamp)).sum < 2 ^ 256 ∧
    (s.availableRewards < (s.setServiceIds.map (nominalReward s timestamp)).sum →
      ∀ id ∈ s.setServiceIds, nominalReward s timestamp id * s.availableRewards < 2 ^ 256)

variable {s : StakingState} {timestamp : Nat} {answers : Nat → ActivityAnswer}

theorem calculateBody_ok (readable : ∀ i, Readable (answers i)) {serviceId : Nat}
    (clock : serviceCheckpoint s serviceId ≤ timestamp) {c : Calculated}
    (fits : c.totalRewards + nominalReward s timestamp serviceId < 2 ^ 256) :
    ∃ c', calculateBody s timestamp answers serviceId c = .ok c' ∧
      c'.totalRewards ≤ c.totalRewards + nominalReward s timestamp serviceId := by
  obtain ⟨⟨ratioPass, nonces⟩, checked⟩ := checkRatioPass_ok (readable c.serviceIds.length)
    (s.mapServiceInfo serviceId).multisig (s.mapServiceInfo serviceId).nonces
    (timestamp - serviceCheckpoint s serviceId)
  rw [calculateBody, checkedSub, if_pos clock, ok_bind, checked, ok_bind]
  rw [nominalReward] at fits ⊢
  cases ratioPass with
  | true =>
    simp only [if_true]
    rw [checkedMul, if_pos ((Nat.le_add_left _ _).trans_lt fits), ok_bind, checkedAdd,
      if_pos fits, ok_bind]
    exact ⟨_, rfl, le_refl _⟩
  | false => exact ⟨_, rfl, Nat.le_add_right _ _⟩

theorem calculateLoop_ok (readable : ∀ i, Readable (answers i)) {ids : List Nat}
    (clock : ∀ id ∈ ids, serviceCheckpoint s id ≤ timestamp) {c : Calculated}
    (fits : c.totalRewards + (ids.map (nominalReward s timestamp)).sum < 2 ^ 256) :
    ∃ c', loop (calculateBody s timestamp answers) ids c = .ok c' := by
  induction ids generalizing c with
  | nil => exact ⟨c, rfl⟩
  | cons id ids ih =>
    rw [List.map_cons, List.sum_cons, ← Nat.add_assoc] at fits
    obtain ⟨next, ran, grown⟩ := calculateBody_ok readable (clock id List.mem_cons_self)
      ((Nat.le_add_right _ _).trans_lt fits)
    obtain ⟨c', rest⟩ := ih (fun other member => clock other (List.mem_cons_of_mem _ member))
      ((Nat.add_le_add_right grown _).trans_lt fits)
    exact ⟨c', loop_cons_eq_ok.mpr ⟨next, ran, rest⟩⟩

theorem calculateStakingRewards_ok (readable : ∀ i, Readable (answers i))
    (fits : RewardsFit s timestamp) (before : s.tsCheckpoint ≤ timestamp)
    (clock : ∀ id ∈ s.setServiceIds, serviceCheckpoint s id ≤ timestamp) :
    ∃ c, calculateStakingRewards timestamp answers s = .ok c := by
  simp only [calculateStakingRewards]
  split
  · next some =>
    rw [checkedSub, if_pos before, ok_bind]
    split
    · next due =>
      refine calculateLoop_ok readable clock ?_
      rw [Nat.zero_add]
      exact (fits ⟨some, due⟩).1
    · exact ⟨_, rfl⟩
  · exact ⟨_, rfl⟩

end Rewards

section Distribution

def rewardsIn (m : Nat → ServiceInfo) (serviceId : Nat) : Nat := (m serviceId).reward

theorem rewardsIn_credited (rewards : List (Nat × Nat)) (m : Nat → ServiceInfo) :
    rewardsIn (credited rewards m) = fun id => rewardsIn m id + creditOf rewards id := rfl

variable {m : Nat → ServiceInfo}

theorem credited_finite (finite : (rewardsIn m).support.Finite) (rewards : List (Nat × Nat)) :
    (rewardsIn (credited rewards m)).support.Finite ∧
      total (rewardsIn (credited rewards m)) =
        total (rewardsIn m) + (rewards.map Prod.snd).sum := by
  rw [rewardsIn_credited]
  constructor
  · exact (finite.union (creditOf_support rewards)).subset (Function.support_add _ _)
  · rw [total_add finite (creditOf_support rewards), total_creditOf]

theorem addReward_ok (entry : Nat × Nat) (finite : (rewardsIn m).support.Finite)
    (fits : total (rewardsIn m) + entry.2 < 2 ^ 256) :
    addReward entry m = .ok (credited [entry] m) := by
  have room : (m entry.1).reward + entry.2 < 2 ^ 256 :=
    (Nat.add_le_add_right (le_total_of_support finite entry.1) _).trans_lt fits
  have ran : ∃ m', addReward entry m = .ok m' := by
    rw [addReward, checkedAdd, if_pos room, ok_bind]
    exact ⟨_, rfl⟩
  obtain ⟨m', ran⟩ := ran
  rw [ran, addReward_spec ran]

/-- Rewards that fit together are added without overflow. -/
theorem addRewards_ok (rewards : List (Nat × Nat)) (finite : (rewardsIn m).support.Finite)
    (fits : total (rewardsIn m) + (rewards.map Prod.snd).sum < 2 ^ 256) :
    loop addReward rewards m = .ok (credited rewards m) := by
  have ran : ∃ m', loop addReward rewards m = .ok m' := by
    induction rewards generalizing m with
    | nil => exact ⟨m, rfl⟩
    | cons entry rewards ih =>
      rw [List.map_cons, List.sum_cons, ← Nat.add_assoc] at fits
      have added := addReward_ok entry finite ((Nat.le_add_right _ _).trans_lt fits)
      obtain ⟨finite', sum⟩ := credited_finite finite [entry]
      rw [List.map_singleton, List.sum_singleton] at sum
      obtain ⟨m', ran⟩ := ih finite' (by rwa [sum])
      exact ⟨m', loop_cons_eq_ok.mpr ⟨_, added, ran⟩⟩
  obtain ⟨m', ran⟩ := ran
  rw [ran, addRewards_spec ran]

theorem adjustReward_ok {available : Nat} (totalRewards : Nat) {entry : Nat × Nat}
    (fits : entry.2 * available < 2 ^ 256) :
    adjustReward available totalRewards entry =
      .ok (entry.1, entry.2 * available / totalRewards) := by
  rw [adjustReward, checkedMul, if_pos fits, ok_bind]
  rfl

theorem adjustRewards_ok {available : Nat} (totalRewards : Nat) {entries : List (Nat × Nat)}
    (fits : ∀ entry ∈ entries, entry.2 * available < 2 ^ 256) :
    entries.mapM (adjustReward available totalRewards) =
      .ok (entries.map fun entry => (entry.1, entry.2 * available / totalRewards)) := by
  induction entries with
  | nil => rfl
  | cons entry entries ih =>
    rw [List.mapM_cons, adjustReward_ok totalRewards (fits entry List.mem_cons_self), ok_bind,
      ih fun other member => fits other (List.mem_cons_of_mem _ member), ok_bind]
    rfl

theorem addLeftover_ok {available updatedTotalRewards updatedReward : Nat}
    (part : updatedReward ≤ updatedTotalRewards) (whole : updatedTotalRewards ≤ available)
    (fits : available < 2 ^ 256) :
    ∃ top, addLeftover available updatedTotalRewards updatedReward = .ok top ∧
      top + updatedTotalRewards = updatedReward + available := by
  rw [addLeftover]
  split
  · have room : updatedReward + (available - updatedTotalRewards) < 2 ^ 256 := by omega
    rw [checkedAdd, if_pos room]
    exact ⟨_, rfl, by omega⟩
  · exact ⟨_, rfl, by omega⟩

theorem distributeShortfall_ok {c : Calculated} {first : Nat × Nat} {rest : List (Nat × Nat)}
    (finite : (rewardsIn m).support.Finite)
    (funds : total (rewardsIn m) + c.lastAvailableRewards < 2 ^ 256)
    (eligible : c.eligible = first :: rest)
    (sum : c.totalRewards = (c.eligible.map Prod.snd).sum)
    (products : ∀ entry ∈ c.eligible, entry.2 * c.lastAvailableRewards < 2 ^ 256) :
    ∃ d, distributeShortfall c first rest m = .ok d := by
  rw [eligible] at products
  have shares := shares_le c.lastAvailableRewards c.eligible sum.ge
  rw [eligible, List.map_cons, List.sum_cons] at shares
  have adjusted := adjustRewards_ok c.totalRewards
    fun entry member => products entry (List.mem_cons_of_mem _ member)
  have firstAdjusted := adjustReward_ok c.totalRewards (products first List.mem_cons_self)
  set others := rest.map fun entry =>
    (entry.1, entry.2 * c.lastAvailableRewards / c.totalRewards) with others_eq
  generalize first.2 * c.lastAvailableRewards / c.totalRewards = share at shares firstAdjusted
  have parts : (others.map Prod.snd).sum = (rest.map fun entry =>
      entry.2 * c.lastAvailableRewards / c.totalRewards).sum := by
    rw [others_eq, List.map_map]
    rfl
  rw [← parts] at shares
  have added := addRewards_ok others finite (by omega)
  obtain ⟨finite', paid⟩ := credited_finite finite others
  have updated : (others.map Prod.snd).sum + share < 2 ^ 256 := by omega
  obtain ⟨top, leftover, filled⟩ := addLeftover_ok
    (Nat.le_add_left share (others.map Prod.snd).sum)
    (show (others.map Prod.snd).sum + share ≤ c.lastAvailableRewards by omega) (by omega)
  have last : total (rewardsIn (credited others m)) + top < 2 ^ 256 := by omega
  have finished := addReward_ok (first.1, top) finite' last
  rw [distributeShortfall, adjusted, ok_bind, added, ok_bind, firstAdjusted, ok_bind, checkedAdd,
    if_pos updated, ok_bind, leftover, ok_bind, finished, ok_bind]
  exact ⟨_, rfl⟩

theorem distribute_ok {c : Calculated} (finite : (rewardsIn m).support.Finite)
    (funds : total (rewardsIn m) + c.lastAvailableRewards < 2 ^ 256)
    (sum : c.totalRewards = (c.eligible.map Prod.snd).sum)
    (products : c.lastAvailableRewards < c.totalRewards →
      ∀ entry ∈ c.eligible, entry.2 * c.lastAvailableRewards < 2 ^ 256) :
    ∃ d, distribute c m = .ok d := by
  rw [distribute]
  split
  · exact ⟨_, rfl⟩
  · next first rest eligible =>
    split
    · next short => exact distributeShortfall_ok finite funds eligible sum (products short)
    · next enough =>
      rw [← eligible]
      have added := addRewards_ok c.eligible finite (by omega)
      rw [added, ok_bind, checkedSub, if_pos (Nat.not_lt.mp enough), ok_bind]
      exact ⟨_, rfl⟩

end Distribution

section Closing

theorem inactivityBody_ok (maxDuration : Nat) {v : Verdict} {l : InactivityLoop}
    (fits : (l.mapInfo v.serviceId).inactivity + v.inactive < 2 ^ 256) :
    ∃ l', inactivityBody maxDuration (v.serviceId, v.nonces, v.inactive) l = .ok l' := by
  simp only [inactivityBody]
  split
  · rw [checkedAdd, if_pos fits, ok_bind]
    split
    · exact ⟨_, rfl⟩
    · exact ⟨_, rfl⟩
  · exact ⟨_, rfl⟩

theorem inactivityLoop_ok (maxDuration : Nat) {verdicts : List Verdict} {l : InactivityLoop}
    (distinct : (verdicts.map (·.serviceId)).Nodup)
    (fits : ∀ v ∈ verdicts, (l.mapInfo v.serviceId).inactivity + v.inactive < 2 ^ 256) :
    ∃ l', loop (inactivityBody maxDuration)
      (verdicts.map fun v => (v.serviceId, v.nonces, v.inactive)) l = .ok l' := by
  induction verdicts generalizing l with
  | nil => exact ⟨l, rfl⟩
  | cons v verdicts ih =>
    rw [List.map_cons] at distinct ⊢
    obtain ⟨once, distinct⟩ := List.nodup_cons.mp distinct
    obtain ⟨next, first⟩ := inactivityBody_ok maxDuration (fits v List.mem_cons_self)
    have bounds : ∀ v' ∈ verdicts,
        (next.mapInfo v'.serviceId).inactivity + v'.inactive < 2 ^ 256 := by
      intro v' member
      have other : v'.serviceId ≠ v.serviceId := fun same =>
        once (same ▸ List.mem_map_of_mem member)
      rw [inactivityBody_spec first]
      dsimp only
      rw [Function.update_of_ne other]
      exact fits v' (List.mem_cons_of_mem _ member)
    obtain ⟨l', rest⟩ := ih distinct bounds
    exact ⟨l', loop_cons_eq_ok.mpr ⟨next, first, rest⟩⟩

theorem closeEpoch_ok {timestamp available perSecond : Nat} {verdicts : List Verdict}
    {s : StakingState} (sound : SoundSet s.setServiceIds)
    (services : verdicts.map (·.serviceId) = s.setServiceIds)
    (inactive : ∀ v ∈ verdicts,
      (s.mapServiceInfo v.serviceId).inactivity + v.inactive < 2 ^ 256)
    (clock : s.tsCheckpoint ≤ timestamp) (epochs : s.epochCounter + 1 < 2 ^ 256) :
    ∃ after, closeEpoch timestamp (.ofVerdicts available perSecond verdicts) s = .ok after := by
  have distinct : (verdicts.map (·.serviceId)).Nodup := services ▸ sound.distinct
  obtain ⟨l, looped⟩ := inactivityLoop_ok s.maxInactivityDuration distinct
    (l := ⟨s.mapServiceInfo, [], [], 0⟩) inactive
  obtain ⟨evicted, remaining, removed, -⟩ :=
    evictInactive_spec (inactivityLoop_spec distinct looped) services sound
  simp only [closeEpoch, ofVerdicts_entries, looped, ok_bind, removed, checkedSub, if_pos clock,
    checkedAdd, if_pos epochs]
  exact ⟨_, rfl⟩

end Closing

section Checkpoints
variable {s : StakingState} {timestamp : Nat} {answers : Nat → ActivityAnswer}

/-- The nominal rewards of the services that passed are some of those of the set. -/
theorem earned_nominal {verdicts : List Verdict}
    (timed : ∀ v ∈ verdicts, v.Timed s timestamp) {entry : Nat × Nat}
    (member : entry ∈ earned s.params.rewardsPerSecond verdicts) :
    entry.1 ∈ verdicts.map (·.serviceId) ∧ entry.2 = nominalReward s timestamp entry.1 := by
  obtain ⟨v, listed, rfl⟩ := List.mem_map.mp member
  have listed := List.mem_of_mem_filter listed
  have elapsed : serviceCheckpoint s v.serviceId + v.ts = timestamp := timed v listed
  refine ⟨List.mem_map_of_mem listed, ?_⟩
  dsimp only
  rw [nominalReward, ← elapsed, Nat.add_sub_cancel_left]

theorem earned_sum_le {verdicts : List Verdict} (timed : ∀ v ∈ verdicts, v.Timed s timestamp) :
    ((earned s.params.rewardsPerSecond verdicts).map Prod.snd).sum ≤
      ((verdicts.map (·.serviceId)).map (nominalReward s timestamp)).sum := by
  have passed : (earned s.params.rewardsPerSecond verdicts).map Prod.snd =
      ((verdicts.filter (·.passed)).map fun v => nominalReward s timestamp v.serviceId) := by
    rw [earned, List.map_map]
    refine List.map_congr_left fun v listed => ?_
    have elapsed : serviceCheckpoint s v.serviceId + v.ts = timestamp :=
      timed v (List.mem_of_mem_filter listed)
    simp only [Function.comp_def, nominalReward]
    rw [← elapsed, Nat.add_sub_cancel_left]
  rw [passed, List.map_map]
  exact (List.filter_sublist.map _).sum_le_sum fun _ _ => Nat.zero_le _

/-- A checkpoint of a sound contract goes through. -/
theorem checkpoint_ok (readable : ∀ i, Readable (answers i)) (fits : RewardsFit s timestamp)
    (sound : SoundSet s.setServiceIds) (finite : (rewardOf s).support.Finite)
    (funds : FundsFit s) (past : PastBound s) (liveness : 0 < s.params.livenessPeriod)
    (before : s.tsCheckpoint ≤ timestamp)
    (clock : ∀ id, serviceCheckpoint s id ≤ timestamp) (word : timestamp < 2 ^ 256) :
    ∃ after, StakingBase.checkpoint timestamp answers s = .ok after := by
  obtain ⟨c, calculated⟩ := calculateStakingRewards_ok readable fits before fun id _ => clock id
  obtain ⟨verdicts, rfl, verdict⟩ := calculateStakingRewards_spec calculated
  have products : s.availableRewards <
      ((earned s.params.rewardsPerSecond verdicts).map Prod.snd).sum →
      ∀ entry ∈ earned s.params.rewardsPerSecond verdicts,
        entry.2 * s.availableRewards < 2 ^ 256 := by
    intro short entry member
    rcases verdict with ⟨-, rfl⟩ | ⟨due, services, timed, -⟩
    · cases member
    · obtain ⟨staked, amount⟩ := earned_nominal timed member
      have sum := earned_sum_le timed
      rw [services] at staked sum
      rw [amount]
      exact (fits due).2 (short.trans_le sum) entry.1 staked
  have room : total (rewardsIn s.mapServiceInfo) + s.availableRewards < 2 ^ 256 :=
    (Nat.add_comm _ _).trans_lt funds
  obtain ⟨d, distributed⟩ := distribute_ok
    (c := .ofVerdicts s.availableRewards s.params.rewardsPerSecond verdicts)
    (m := s.mapServiceInfo) finite room rfl products
  have records := (distribute_spec rfl distributed).records
  rw [StakingBase.checkpoint, calculated, ok_bind, distributed, ok_bind]
  dsimp only
  split
  · next some =>
    rcases verdict with ⟨-, rfl⟩ | ⟨due, services, timed, -⟩
    · exact absurd some (lt_irrefl 0)
    · have inactive : ∀ v ∈ verdicts,
          (d.mapInfo v.serviceId).inactivity + v.inactive < 2 ^ 256 := by
        intro v listed
        have elapsed : serviceCheckpoint s v.serviceId + v.ts = timestamp := timed v listed
        have prior := past.inactivity v.serviceId
        have part := v.inactive_le
        rw [records, credited]
        dsimp only
        omega
      have epochs : s.epochCounter + 1 < 2 ^ 256 := (past.epoch_before liveness due).trans_lt word
      obtain ⟨after, closed⟩ := closeEpoch_ok (s := { s with
        mapServiceInfo := d.mapInfo
        availableRewards := d.availableRewards }) sound services inactive before epochs
      rw [closed, ok_bind]
      exact ⟨_, rfl⟩
  · exact ⟨_, rfl⟩

end Checkpoints
end AutonolasRegistries.Guarantees
