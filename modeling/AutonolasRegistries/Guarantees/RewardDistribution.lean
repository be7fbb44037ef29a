import AutonolasRegistries.Guarantees.StakingRuns

/-!
# The encoding of reward distributions

`stake` takes the distribution type and the custom distributor packed into one word: the
type in the first 8 bits, the distributor in the next 160. The checks and the decoder cut
both parts out with narrowing casts, so they agree with each other on every word, but
neither looks at the 88 bits above. `StakingBase.sol:665-753`, `:847-868`.
-/
namespace AutonolasRegistries.Guarantees
open Library Source StakingBase

def distributionNumber : RewardDistributionType → Nat
  | .proportional => 0
  | .serviceOwner => 1
  | .serviceMultisig => 2
  | .custom => 3

/-- What a word of distribution info stands for. -/
structure Distribution where
  type : RewardDistributionType
  distributor : Address
  deriving DecidableEq, Repr

/-- `type + 256 * distributor`. -/
def Distribution.encode (d : Distribution) : Nat :=
  distributionNumber d.type + 256 * d.distributor.val

def decodeDistribution (info : Nat) : Option Distribution :=
  (distributionType info).map fun type => ⟨type, customRewardsDistributor info⟩

/-- A distributor is named for a custom distribution and for no other. -/
structure Distribution.Valid (d : Distribution) : Prop where
  custom : d.type = .custom → d.distributor ≠ 0
  fixed : d.type ≠ .custom → d.distributor = 0

theorem distributionType_eq {info : Nat} {type : RewardDistributionType} :
    distributionType info = some type ↔ info % 256 = distributionNumber type := by
  have small := Nat.mod_lt info (by decide : 256 > 0)
  unfold distributionType
  generalize info % 256 = low at *
  match low with
  | 0 => cases type <;> simp [distributionNumber]
  | 1 => cases type <;> simp [distributionNumber]
  | 2 => cases type <;> simp [distributionNumber]
  | 3 => cases type <;> simp [distributionNumber]
  | low + 4 => cases type <;> simp [distributionNumber]

theorem distributionNumber_lt (type : RewardDistributionType) : distributionNumber type < 4 := by
  cases type <;> decide

theorem decode_encode (d : Distribution) : decodeDistribution d.encode = some d := by
  have small := distributionNumber_lt d.type
  have type : distributionType d.encode = some d.type := by
    rw [distributionType_eq, Distribution.encode]
    omega
  have distributor : customRewardsDistributor d.encode = d.distributor := by
    refine Fin.ext ?_
    have high : d.encode / 256 = d.distributor.val := by
      rw [Distribution.encode]
      omega
    rw [customRewardsDistributor, Fin.val_ofNat, high, Nat.mod_eq_of_lt d.distributor.isLt]
  rw [decodeDistribution, type, distributor]
  rfl

/-- Encoding again keeps the 168 bits that were read. -/
theorem encode_decode {info : Nat} {d : Distribution} (decoded : decodeDistribution info = some d) :
    d.encode = info % 2 ^ 168 := by
  obtain ⟨type, read, rfl⟩ := Option.map_eq_some_iff.mp decoded
  have low := distributionType_eq.mp read
  have split : info % 2 ^ 168 = info % 256 + 256 * (info / 256 % 2 ^ 160) :=
    @Nat.mod_mul 256 (2 ^ 160) info
  rw [split, low]
  rfl

theorem encode_lt (d : Distribution) : d.encode < 2 ^ 168 := by
  have := encode_decode (decode_encode d)
  rw [this]
  exact Nat.mod_lt _ (Nat.two_pow_pos 168)

/-- The check of `stake` accepts what decodes to a valid distribution whose distributor, if
there is one, has code. -/
theorem checkRewardDistribution_ok {view : StakeView} {info : Nat} :
    checkRewardDistribution view info = .ok () ↔ ∃ d, decodeDistribution info = some d ∧
      d.Valid ∧ (d.type = .custom → view.codeLength d.distributor ≠ 0) := by
  unfold checkRewardDistribution decodeDistribution
  cases distributionType info with
  | none => simp
  | some type =>
    cases type with
    | custom =>
      simp only [bind_eq_ok, revertIf_eq_ok, exists_const, Option.map_some, Option.some.injEq]
      constructor
      · rintro ⟨named, code⟩
        exact ⟨_, rfl, ⟨fun _ => named, fun other => absurd rfl other⟩, fun _ => code⟩
      · rintro ⟨_, rfl, valid, code⟩
        exact ⟨valid.custom rfl, code rfl⟩
    | proportional | serviceOwner | serviceMultisig =>
      simp only [revertIf_eq_ok, ne_eq, not_not, Option.map_some, Option.some.injEq]
      constructor
      · intro unnamed
        refine ⟨_, rfl, ⟨fun own => ?_, fun _ => unnamed⟩, fun own => ?_⟩ <;> cases own
      · rintro ⟨_, rfl, valid, -⟩
        exact valid.fixed (fun own => by cases own)

section Rules
variable (self : Address) (agentInstances : List Address) (operators : Address → Address)
  (distributors : Address → Option (List Address × List Nat))

/-- `_getRewardReceiversAndAmounts` with the distributor it asks: the one it reads off the
stored word. -/
def receiversAndAmounts (sInfo : ServiceInfo) (reward : Nat) :
    Except StakingError (List (Address × Nat)) :=
  getRewardReceiversAndAmounts self
    ⟨agentInstances, operators,
      distributors (customRewardsDistributor sInfo.rewardDistributionInfo)⟩ sInfo reward

/-- Who gets what under a distribution. -/
def Distribution.receivers (sInfo : ServiceInfo) (reward : Nat) :
    Distribution → Except StakingError (List (Address × Nat))
  | ⟨.proportional, _⟩ => do
    let amounts ← proportionalAmounts agentInstances.length reward
    return (agentInstances.map operators ++ [sInfo.owner]).zip amounts
  | ⟨.serviceOwner, _⟩ => .ok [(sInfo.owner, reward)]
  | ⟨.serviceMultisig, _⟩ => .ok [(sInfo.multisig, reward)]
  | ⟨.custom, distributor⟩ =>
    match distributors distributor with
    | none => .error .externalFailure
    | some (receivers, amounts) => do
      checkDistribution self reward receivers amounts
      return receivers.zip amounts

theorem receiversAndAmounts_eq {sInfo : ServiceInfo} {d : Distribution}
    (decoded : decodeDistribution sInfo.rewardDistributionInfo = some d) (reward : Nat) :
    receiversAndAmounts self agentInstances operators distributors sInfo reward =
      d.receivers self agentInstances operators distributors sInfo reward := by
  obtain ⟨type, read, rfl⟩ := Option.map_eq_some_iff.mp decoded
  rw [receiversAndAmounts, getRewardReceiversAndAmounts, read]
  cases type <;> rfl

end Rules

/-- What holds of a canonical word: it is the encoding of one valid distribution, and that
is the one rewards are paid by. -/
structure Canonical (contract : Address) (info : Nat) (d : Distribution) : Prop where
  encoded : info = d.encode
  valid : d.Valid
  decoded : decodeDistribution info = some d
  paid : ∀ agentInstances operators distributors (sInfo : ServiceInfo) reward,
    sInfo.rewardDistributionInfo = info →
    receiversAndAmounts contract agentInstances operators distributors sInfo reward =
      d.receivers contract agentInstances operators distributors sInfo reward

/-- Two words for the same distribution are the same word. -/
theorem Canonical.unique {self : Address} {info info' : Nat} {d : Distribution}
    (first : Canonical self info d) (second : Canonical self info' d) : info = info' :=
  first.encoded.trans second.encoded.symm

theorem canonical_of_decoded (self : Address) {info : Nat} {d : Distribution}
    (decoded : decodeDistribution info = some d) (valid : d.Valid) (small : info < 2 ^ 168) :
    Canonical self info d := by
  have encoded := encode_decode decoded
  rw [Nat.mod_eq_of_lt small] at encoded
  refine ⟨encoded.symm, valid, decoded, ?_⟩
  rintro agentInstances operators distributors sInfo reward rfl
  exact receiversAndAmounts_eq self agentInstances operators distributors decoded reward

/-- A value `stake` accepted is canonical exactly when it fits the 168 bits that are read. -/
theorem accepted_canonical_iff (self : Address) {view : StakeView} {info : Nat}
    (checked : checkRewardDistribution view info = .ok ()) :
    (∃ d, Canonical self info d ∧ (d.type = .custom → view.codeLength d.distributor ≠ 0)) ↔
      info < 2 ^ 168 := by
  obtain ⟨d, decoded, valid, code⟩ := checkRewardDistribution_ok.mp checked
  constructor
  · rintro ⟨d', canonical, -⟩
    rw [canonical.encoded]
    exact encode_lt d'
  · exact fun small => ⟨d, canonical_of_decoded self decoded valid small, code⟩

section Runs
variable {self : Address}

/-- A service that joins has the info it was given. -/
theorem stake_info {s s' : StakingState} {sender : Address} {timestamp : Nat}
    {answers : Nat → ActivityAnswer} {view : StakeView} {serviceId info : Nat}
    {nft nft' : ERC721} {result : CheckpointResult}
    (ran : stake self sender timestamp answers view serviceId info nft s =
      .ok (s', nft', result)) :
    (s'.mapServiceInfo serviceId).rewardDistributionInfo = info := by
  obtain ⟨-, s₁, nonces, -, -, -, -, -, rfl⟩ := stake_spec ran
  simp only [Function.update_self]

/-- The distribution info of a `stake` fits the bits that are read of it. -/
def InfoFits : StakingCall → Prop
  | .stake _ _ _ _ info => info < 2 ^ 168
  | _ => True

def canonicalDiscipline (self : Address) :
    Discipline StakingWorld StakingCall StakingFrame Unit where
  call call w := (stakingDiscipline self).call call w ∧ InfoFits call
  answer _ _ _ := True

/-- The info of every service that is staked, or was evicted, is canonical. -/
def CanonicalRecords (self : Address) (w : StakingWorld) : Prop :=
  ∀ id, 0 < (w.store.mapServiceInfo id).tsStart →
    ∃ d, Canonical self (w.store.mapServiceInfo id).rewardDistributionInfo d

theorem canonicalRecords_preserved (self : Address) :
    Preserved (stakingMachine self) (canonicalDiscipline self) (StakingBaseline self)
      fun w _ => CanonicalRecords self w := by
  intro w frames w' frames' taken base before
  have kept : ∀ {id}, RecordKept w.store w'.store id →
      0 < (w'.store.mapServiceInfo id).tsStart →
      ∃ d, Canonical self (w'.store.mapServiceInfo id).rewardDistributionInfo d := by
    intro id record staked
    obtain ⟨staked, -, same⟩ := record staked
    rw [same]
    exact before id staked
  intro id staked
  cases taken with
  | entered call allowed ran =>
    by_cases joins : stakes call = some id
    · cases call <;> cases joins
      change StakingWorld.enter self (.stake _ _ _ _ _) w = _ at ran
      simp only [StakingWorld.enter, bind_eq_ok, Prod.exists, pure_eq_ok] at ran
      obtain ⟨s', nft, result, joined, rfl⟩ := ran
      obtain ⟨d, canonical, -⟩ :=
        (accepted_canonical_iff self (stake_distribution joined)).mpr allowed.2
      exact ⟨d, (stake_info joined).symm ▸ canonical⟩
    · exact kept (enter_records base.book.sound joins ran) staked
  | resumed answer allowed ran => exact kept (recordKept_of_eq (resume_records ran) id) staked

end Runs

/-- In every run that passes only words of 168 bits, what `stake` accepts is canonical, so
are the words stored, and different words stand for different distributions. Any other
word `stake` accepts is not canonical. -/
theorem distribution_canonical {self : Address} {start : StakingWorld} (fresh : start.Fresh self)
    {c : Config StakingWorld StakingFrame}
    (run : Reachable (stakingMachine self) (canonicalDiscipline self) start c) :
    (∀ sender answers view serviceId info out,
      StakingWorld.enter self (.stake sender answers view serviceId info) c.state = .ok out →
      (out.state.store.mapServiceInfo serviceId).rewardDistributionInfo = info ∧
      ((∃ d, Canonical self info d ∧ (d.type = .custom → view.codeLength d.distributor ≠ 0)) ↔
        info < 2 ^ 168)) ∧
    (∀ id, 0 < (c.state.store.mapServiceInfo id).tsStart →
      ∃ d, Canonical self (c.state.store.mapServiceInfo id).rewardDistributionInfo d) ∧
    ∀ info info' d, Canonical self info d → Canonical self info' d → info = info' := by
  have baseline : Preserved (stakingMachine self) (canonicalDiscipline self) always
      (StakingBaseline self) := by
    refine Preserved.restrict ?_ ?_ (stakingBaseline_preserved fresh.nonzero)
    · exact fun call w allowed => allowed.1
    · exact fun _ _ _ _ => trivial
  have none : CanonicalRecords self start := by
    obtain ⟨_, _, _, setup⟩ := fresh.setup
    obtain ⟨-, -, -, -, records, -⟩ := initializeStaking_eq setup
    intro id used
    rw [records] at used
    cases used
  obtain ⟨base, stored⟩ := run.invariant (baseline.join (canonicalRecords_preserved self))
    ⟨stakingBaseline_fresh fresh, none⟩
  refine ⟨fun sender answers view serviceId info out ran => ?_, stored,
    fun _ _ _ first second => first.unique second⟩
  simp only [StakingWorld.enter, bind_eq_ok, Prod.exists, pure_eq_ok] at ran
  obtain ⟨s', nft, result, staked, rfl⟩ := ran
  exact ⟨stake_info staked,
    accepted_canonical_iff self (stake_distribution staked)⟩

section Decidable

instance (call : StakingCall) : Decidable (InfoFits call) :=
  match call with
  | .stake _ _ _ _ info => inferInstanceAs (Decidable (info < 2 ^ 168))
  | .tick _ | .deposit _ _ | .receive _ _ | .checkpoint _ _ | .unstake _ _ _ _ _
  | .claim _ _ _ _ _ | .mint _ | .approve _ _ _ | .setApprovalForAll _ _ _
  | .transferFrom _ _ _ _ => .isTrue trivial

instance (self : Address) (call : StakingCall) (w : StakingWorld) :
    Decidable ((canonicalDiscipline self).call call w) :=
  inferInstanceAs (Decidable ((stakingDiscipline self).call call w ∧ InfoFits call))

instance (self : Address) (frame : StakingFrame) (answer : Unit) (w : StakingWorld) :
    Decidable ((canonicalDiscipline self).answer frame answer w) := .isTrue trivial

end Decidable

/-- A service staked with the rewards going to its multisig. -/
theorem distribution_canonical_multisig :
    ∃ c, Reachable (stakingMachine 5) (canonicalDiscipline 5) sampleStaking c ∧
      (c.state.store.mapServiceInfo 1).rewardDistributionInfo = 2 ∧
      ∃ d, Canonical 5 2 d := by
  obtain ⟨c, run, seen⟩ := Machine.play_observed (canonicalDiscipline 5) (stakingMachine 5)
    sampleStaking
    [.call (.mint 21), .call (.approve sampleOwner 5 1), .call (.receive sampleOwner 100000),
      .call (.stake sampleOwner (activeAnswer 1) deployedView 1 2)]
    (fun c => ((c.state.store.mapServiceInfo 1).tsStart,
      (c.state.store.mapServiceInfo 1).rewardDistributionInfo)) (1000, 2) (by decide +kernel)
  obtain ⟨started, info⟩ := Prod.mk.inj seen
  have stored := (distribution_canonical sampleStaking_fresh run).2.1 1 (by
    change (c.state.store.mapServiceInfo 1).tsStart = 1000 at started
    omega)
  change (c.state.store.mapServiceInfo 1).rewardDistributionInfo = 2 at info
  rw [info] at stored
  exact ⟨c, run, info, stored⟩

/-- The word `2 ^ 168` is accepted and stored. It decodes to the same distribution as zero,
and it is not the encoding of any. -/
theorem distribution_upper_bits :
    ∃ c, Reachable (stakingMachine 5) (stakingDiscipline 5) sampleStaking c ∧
      0 < (c.state.store.mapServiceInfo 1).tsStart ∧
      (c.state.store.mapServiceInfo 1).rewardDistributionInfo = 2 ^ 168 ∧
      decodeDistribution (2 ^ 168) = decodeDistribution 0 ∧
      ¬ ∃ d : Distribution, 2 ^ 168 = d.encode := by
  obtain ⟨c, run, seen⟩ := Machine.play_observed (stakingDiscipline 5) (stakingMachine 5)
    sampleStaking
    [.call (.mint 21), .call (.approve sampleOwner 5 1), .call (.receive sampleOwner 100000),
      .call (.stake sampleOwner (activeAnswer 1) deployedView 1 (2 ^ 168))]
    (fun c => ((c.state.store.mapServiceInfo 1).tsStart,
      (c.state.store.mapServiceInfo 1).rewardDistributionInfo)) (1000, 2 ^ 168)
    (by decide +kernel)
  obtain ⟨started, info⟩ := Prod.mk.inj seen
  refine ⟨c, run, ?_, info, by decide +kernel, ?_⟩
  · change (c.state.store.mapServiceInfo 1).tsStart = 1000 at started
    omega
  · rintro ⟨d, same⟩
    have small := encode_lt d
    omega

end AutonolasRegistries.Guarantees
