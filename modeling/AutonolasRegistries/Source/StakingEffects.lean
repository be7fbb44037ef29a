import Mathlib.Algebra.Order.BigOperators.Group.List
import AutonolasRegistries.Library.Ledger
import AutonolasRegistries.Library.SwapRemove
import AutonolasRegistries.Source.StakingBase

/-!
# What a checkpoint does

The loops of `_checkpoint` in closed form. The answers of the activity checker are
summed up as one verdict for each staked service; rewards, records, inactivity and the
new set are then functions of the verdicts. `checkpoint_spec` is the one lemma about
`checkpoint` the later modules use.
-/
namespace AutonolasRegistries.Source.StakingBase
open Library

section Verdicts

/-- How the activity check went for a staked service, and the time it was about. -/
structure Verdict where
  serviceId : Nat
  ts : Nat
  passed : Bool
  nonces : List Nat

def Verdict.inactive (v : Verdict) : Nat := if v.passed then 0 else v.ts

theorem Verdict.inactive_le (v : Verdict) : v.inactive ≤ v.ts := by
  rw [Verdict.inactive]
  split
  · exact Nat.zero_le _
  · exact le_refl _

/-- The time of a verdict goes from the last checkpoint of its service up to now. -/
def Verdict.Timed (s : StakingState) (timestamp : Nat) (v : Verdict) : Prop :=
  serviceCheckpoint s v.serviceId + v.ts = timestamp

/-- A verdict is what the activity check makes of an answer of the checker. -/
def Verdict.Checked (s : StakingState) (answer : ActivityAnswer) (v : Verdict) : Prop :=
  checkRatioPass answer (s.mapServiceInfo v.serviceId).multisig
    (s.mapServiceInfo v.serviceId).nonces v.ts = .ok (v.passed, v.nonces)

/-- The rewards before any adjustment. -/
def earned (rewardsPerSecond : Nat) (verdicts : List Verdict) : List (Nat × Nat) :=
  (verdicts.filter (·.passed)).map fun v => (v.serviceId, rewardsPerSecond * v.ts)

def Calculated.ofVerdicts (available rewardsPerSecond : Nat) (verdicts : List Verdict) :
    Calculated where
  lastAvailableRewards := available
  totalRewards := ((earned rewardsPerSecond verdicts).map Prod.snd).sum
  eligible := earned rewardsPerSecond verdicts
  serviceIds := verdicts.map (·.serviceId)
  serviceNonces := verdicts.map (·.nonces)
  serviceInactivity := verdicts.map (·.inactive)

theorem calculateBody_spec {s : StakingState} {timestamp : Nat} {answers : Nat → ActivityAnswer}
    {serviceId available : Nat} {verdicts : List Verdict} {c : Calculated}
    (ran : calculateBody s timestamp answers serviceId
      (.ofVerdicts available s.params.rewardsPerSecond verdicts) = .ok c) :
    ∃ v : Verdict, v.serviceId = serviceId ∧ v.Timed s timestamp ∧
      v.Checked s (answers verdicts.length) ∧
      c = .ofVerdicts available s.params.rewardsPerSecond (verdicts ++ [v]) := by
  simp only [calculateBody, bind_eq_ok, checkedSub_eq_ok] at ran
  obtain ⟨ts, ⟨order, rfl⟩, ⟨ratioPass, nonces⟩, checked, ran⟩ := ran
  simp only [Calculated.ofVerdicts, List.length_map] at checked
  refine ⟨⟨serviceId, _, ratioPass, nonces⟩, rfl, Nat.add_sub_of_le order, checked, ?_⟩
  cases ratioPass with
  | true =>
    simp only [if_true, bind_eq_ok, checkedMul_eq_ok, checkedAdd_eq_ok, pure_eq_ok] at ran
    obtain ⟨reward, ⟨-, rfl⟩, totalRewards, ⟨-, rfl⟩, rfl⟩ := ran
    simp [Calculated.ofVerdicts, earned, Verdict.inactive]
  | false =>
    simp only [Bool.false_eq_true, if_false, pure_eq_ok] at ran
    subst ran
    simp [Calculated.ofVerdicts, earned, Verdict.inactive]

theorem calculateLoop_spec {s : StakingState} {timestamp : Nat} {answers : Nat → ActivityAnswer}
    {ids : List Nat} {available : Nat} {verdicts : List Verdict} {c : Calculated}
    (ran : loop (calculateBody s timestamp answers) ids
      (.ofVerdicts available s.params.rewardsPerSecond verdicts) = .ok c) :
    ∃ more : List Verdict, more.map (·.serviceId) = ids ∧ (∀ v ∈ more, v.Timed s timestamp) ∧
      (∀ (i : Nat) (v : Verdict), more[i]? = some v → v.Checked s (answers (verdicts.length + i))) ∧
      c = .ofVerdicts available s.params.rewardsPerSecond (verdicts ++ more) := by
  induction ids generalizing verdicts with
  | nil =>
    cases ran
    exact ⟨[], rfl, by simp, by simp, by rw [List.append_nil]⟩
  | cons serviceId ids ih =>
    obtain ⟨next, first, ran⟩ := loop_cons_eq_ok.mp ran
    obtain ⟨v, named, timed, checked, rfl⟩ := calculateBody_spec first
    obtain ⟨more, ids_eq, all, rest, rfl⟩ := ih ran
    refine ⟨v :: more, by rw [List.map_cons, named, ids_eq], ?_, fun i v' listed => ?_,
      by rw [List.append_assoc]; rfl⟩
    · intro v' member
      rcases List.mem_cons.mp member with rfl | member
      · exact timed
      · exact all v' member
    · cases i with
      | zero =>
        cases listed
        exact checked
      | succ i =>
        have later := rest i v' listed
        rwa [List.length_append, List.length_singleton, Nat.add_assoc, Nat.add_comm 1] at later

/-- When a checkpoint takes place. -/
def Due (s : StakingState) (timestamp : Nat) : Prop :=
  0 < s.setServiceIds.length ∧ s.params.livenessPeriod ≤ timestamp - s.tsCheckpoint ∧
    0 < s.availableRewards

theorem calculateStakingRewards_spec {s : StakingState} {timestamp : Nat}
    {answers : Nat → ActivityAnswer} {c : Calculated}
    (ran : calculateStakingRewards timestamp answers s = .ok c) :
    ∃ verdicts : List Verdict,
      c = .ofVerdicts s.availableRewards s.params.rewardsPerSecond verdicts ∧
      ((¬ Due s timestamp ∧ verdicts = []) ∨
        (Due s timestamp ∧ verdicts.map (·.serviceId) = s.setServiceIds ∧
          (∀ v ∈ verdicts, v.Timed s timestamp) ∧
          ∀ (i : Nat) (v : Verdict), verdicts[i]? = some v → v.Checked s (answers i))) := by
  simp only [calculateStakingRewards] at ran
  split at ran
  · next some =>
    simp only [bind_eq_ok, checkedSub_eq_ok] at ran
    obtain ⟨elapsed, ⟨-, rfl⟩, ran⟩ := ran
    split at ran
    · next due =>
      have ran : loop (calculateBody s timestamp answers) s.setServiceIds
        (.ofVerdicts s.availableRewards s.params.rewardsPerSecond []) = .ok c := ran
      obtain ⟨verdicts, ids, timed, checked, rfl⟩ := calculateLoop_spec ran
      refine ⟨verdicts, rfl, .inr ⟨⟨some, due⟩, ids, timed, fun i v listed => ?_⟩⟩
      have here := checked i v listed
      rwa [List.length_nil, Nat.zero_add] at here
    · next early =>
      rw [pure_eq_ok] at ran
      exact ⟨[], ran.symm, .inl ⟨fun due => early due.2, rfl⟩⟩
  · next none =>
    rw [pure_eq_ok] at ran
    exact ⟨[], ran.symm, .inl ⟨fun due => none due.1, rfl⟩⟩

end Verdicts

section Rewards

/-- What a list of rewards gives to one service. -/
def creditOf (rewards : List (Nat × Nat)) (serviceId : Nat) : Nat :=
  ((rewards.filter (·.1 = serviceId)).map Prod.snd).sum

def credited (rewards : List (Nat × Nat)) (m : Nat → ServiceInfo) : Nat → ServiceInfo :=
  fun serviceId =>
    { m serviceId with reward := (m serviceId).reward + creditOf rewards serviceId }

@[simp] theorem creditOf_nil (serviceId : Nat) : creditOf [] serviceId = 0 := rfl

theorem creditOf_cons (entry : Nat × Nat) (rewards : List (Nat × Nat)) (serviceId : Nat) :
    creditOf (entry :: rewards) serviceId =
      (if entry.1 = serviceId then entry.2 else 0) + creditOf rewards serviceId := by
  by_cases h : entry.1 = serviceId <;> simp [creditOf, h]

theorem creditOf_perm {rewards rewards' : List (Nat × Nat)} (same : rewards.Perm rewards')
    (serviceId : Nat) : creditOf rewards serviceId = creditOf rewards' serviceId :=
  ((same.filter _).map _).sum_eq

theorem creditOf_eq_zero {rewards : List (Nat × Nat)} {serviceId : Nat}
    (outside : serviceId ∉ rewards.map Prod.fst) : creditOf rewards serviceId = 0 := by
  rw [creditOf, List.filter_eq_nil_iff.mpr]
  · rfl
  · intro entry member
    simp only [decide_eq_true_iff]
    rintro rfl
    exact outside (List.mem_map_of_mem member)

/-- The credit of a service that is listed once. -/
theorem creditOf_of_mem {rewards : List (Nat × Nat)} (distinct : (rewards.map Prod.fst).Nodup)
    {entry : Nat × Nat} (member : entry ∈ rewards) : creditOf rewards entry.1 = entry.2 := by
  induction rewards with
  | nil => cases member
  | cons other rewards ih =>
    rw [List.map_cons, List.nodup_cons] at distinct
    rw [creditOf_cons]
    rcases List.mem_cons.mp member with rfl | member
    · rw [if_pos rfl, creditOf_eq_zero distinct.1, Nat.add_zero]
    · have apart : other.1 ≠ entry.1 := fun same =>
        distinct.1 (same ▸ List.mem_map_of_mem member)
      rw [if_neg apart, Nat.zero_add, ih distinct.2 member]

theorem credited_append (rewards rewards' : List (Nat × Nat)) (m : Nat → ServiceInfo) :
    credited (rewards ++ rewards') m = credited rewards' (credited rewards m) := by
  funext serviceId
  simp [credited, creditOf, Nat.add_assoc]

theorem credited_perm {rewards rewards' : List (Nat × Nat)} (same : rewards.Perm rewards')
    (m : Nat → ServiceInfo) : credited rewards m = credited rewards' m := by
  funext serviceId
  simp only [credited, creditOf_perm same]

theorem addReward_spec {entry : Nat × Nat} {m m' : Nat → ServiceInfo}
    (ran : addReward entry m = .ok m') : m' = credited [entry] m := by
  simp only [addReward, bind_eq_ok, checkedAdd_eq_ok, pure_eq_ok] at ran
  obtain ⟨reward, ⟨-, rfl⟩, rfl⟩ := ran
  funext serviceId
  by_cases h : serviceId = entry.1
  · subst h
    simp [credited, creditOf_cons]
  · simp [credited, creditOf_cons, h, Ne.symm h]

theorem addRewards_spec {rewards : List (Nat × Nat)} {m m' : Nat → ServiceInfo}
    (ran : loop addReward rewards m = .ok m') : m' = credited rewards m := by
  induction rewards generalizing m with
  | nil =>
    cases ran
    funext serviceId
    simp [credited]
  | cons entry rewards ih =>
    obtain ⟨next, first, ran⟩ := loop_cons_eq_ok.mp ran
    rw [ih ran, addReward_spec first, ← credited_append, List.singleton_append]

theorem creditOf_support (rewards : List (Nat × Nat)) : (creditOf rewards).support.Finite := by
  refine ((rewards.map Prod.fst).toFinset.finite_toSet).subset fun serviceId credit => ?_
  rw [List.coe_toFinset]
  by_contra outside
  exact credit (creditOf_eq_zero outside)

theorem total_creditOf (rewards : List (Nat × Nat)) :
    total (creditOf rewards) = (rewards.map Prod.snd).sum := by
  induction rewards with
  | nil => exact total_zero
  | cons entry rewards ih =>
    have update : creditOf (entry :: rewards) =
        Function.update (creditOf rewards) entry.1 (entry.2 + creditOf rewards entry.1) := by
      funext serviceId
      by_cases h : serviceId = entry.1
      · subst h
        simp [creditOf_cons]
      · simp [creditOf_cons, h, Ne.symm h]
    have written := total_update_add_of_support (creditOf_support rewards) entry.1
      (entry.2 + creditOf rewards entry.1)
    rw [← update] at written
    rw [List.map_cons, List.sum_cons, ← ih]
    omega

/-- Scaled shares, rounded down, do not exceed what is shared. -/
theorem shares_le (available : Nat) {sum : Nat} (entries : List (Nat × Nat))
    (bound : (entries.map Prod.snd).sum ≤ sum) :
    (entries.map fun entry => entry.2 * available / sum).sum ≤ available := by
  have scaled : (entries.map fun entry => entry.2 * available / sum).sum ≤
      (entries.map Prod.snd).sum * available / sum := by
    clear bound
    induction entries with
    | nil => simp
    | cons entry entries ih =>
      simp only [List.map_cons, List.sum_cons, Nat.add_mul]
      exact (Nat.add_le_add_left ih _).trans (Nat.div_add_div_le_add_div)
  refine scaled.trans (Nat.div_le_of_le_mul ?_)
  exact Nat.mul_le_mul_right _ bound

/-- Rounding down loses less than one unit for each share. -/
theorem shares_slack (available : Nat) {sum : Nat} (entries : List (Nat × Nat))
    (whole : (entries.map Prod.snd).sum = sum) (positive : 0 < sum) :
    available <
      (entries.map fun entry => entry.2 * available / sum).sum + entries.length := by
  -- The shares and their remainders make up what is shared.
  have parts : sum * (entries.map fun entry => entry.2 * available / sum).sum +
      (entries.map fun entry => entry.2 * available % sum).sum =
        (entries.map Prod.snd).sum * available := by
    clear whole
    induction entries with
    | nil => simp
    | cons entry entries ih =>
      have divided := Nat.div_add_mod (entry.2 * available) sum
      simp only [List.map_cons, List.sum_cons, Nat.mul_add, Nat.add_mul]
      omega
  have nonempty : entries ≠ [] := by
    rintro rfl
    exact positive.ne whole
  have remainders : (entries.map fun entry => entry.2 * available % sum).sum <
      (entries.map fun _ : Nat × Nat => sum).sum :=
    List.sum_lt_sum_of_ne_nil nonempty _ _ fun entry _ => Nat.mod_lt _ positive
  rw [List.map_const', List.sum_replicate, smul_eq_mul] at remainders
  rw [whole] at parts
  refine Nat.lt_of_mul_lt_mul_left (a := sum) ?_
  rw [Nat.mul_add, ← parts, Nat.mul_comm sum entries.length]
  exact Nat.add_lt_add_left remainders _

theorem mapM_eq_map {α β ε : Type} {f : α → Except ε β} {g : α → β} {items : List α}
    {results : List β} (each : ∀ item result, f item = .ok result → result = g item)
    (ran : items.mapM f = .ok results) : results = items.map g := by
  induction items generalizing results with
  | nil =>
    cases ran
    rfl
  | cons item items ih =>
    simp only [List.mapM_cons, bind_eq_ok, pure_eq_ok] at ran
    obtain ⟨first, firstRan, rest, restRan, rfl⟩ := ran
    rw [each item first firstRan, ih restRan, List.map_cons]

theorem mapM_ok_of_mem {α β ε : Type} {f : α → Except ε β} {items : List α}
    {results : List β} (ran : items.mapM f = .ok results) {item : α} (member : item ∈ items) :
    ∃ result, f item = .ok result := by
  induction items generalizing results with
  | nil => cases member
  | cons other items ih =>
    simp only [List.mapM_cons, bind_eq_ok, pure_eq_ok] at ran
    obtain ⟨first, firstRan, rest, restRan, rfl⟩ := ran
    rcases List.mem_cons.mp member with rfl | member
    · exact ⟨first, firstRan⟩
    · exact ih restRan member

theorem adjustReward_spec {available totalRewards : Nat} {entry result : Nat × Nat}
    (ran : adjustReward available totalRewards entry = .ok result) :
    result = (entry.1, entry.2 * available / totalRewards) := by
  simp only [adjustReward, bind_eq_ok, checkedMul_eq_ok, pure_eq_ok] at ran
  obtain ⟨product, ⟨-, rfl⟩, rfl⟩ := ran
  rfl

/-- What a distribution is: the eligible services are credited, what they get is taken
from the available rewards, and nobody is paid less than earned unless the rewards do
not suffice. -/
structure Distribution (c : Calculated) (m : Nat → ServiceInfo) (d : Distributed) : Prop where
  records : d.mapInfo = credited d.final m
  services : d.final.map Prod.fst = c.eligible.map Prod.fst
  conserved : (d.final.map Prod.snd).sum + d.availableRewards = c.lastAvailableRewards
  bounded : (d.final.map Prod.snd).sum ≤ (c.eligible.map Prod.snd).sum
  full : c.totalRewards ≤ c.lastAvailableRewards → d.final = c.eligible

theorem distributeShortfall_spec {c : Calculated} {first : Nat × Nat} {rest : List (Nat × Nat)}
    {m : Nat → ServiceInfo} {d : Distributed} (eligible : c.eligible = first :: rest)
    (sum : c.totalRewards = (c.eligible.map Prod.snd).sum)
    (short : c.lastAvailableRewards < c.totalRewards)
    (ran : distributeShortfall c first rest m = .ok d) : Distribution c m d := by
  simp only [distributeShortfall, bind_eq_ok, checkedAdd_eq_ok, pure_eq_ok] at ran
  obtain ⟨others, othersRan, m₁, addRest, share, shareRan, _, ⟨-, rfl⟩, updatedReward, top, m₂,
    addFirst, rfl⟩ := ran
  obtain rfl := mapM_eq_map (fun _ _ => adjustReward_spec) othersRan
  obtain rfl := adjustReward_spec shareRan
  obtain rfl := addRewards_spec addRest
  obtain rfl := addReward_spec addFirst
  have shares := shares_le c.lastAvailableRewards c.eligible sum.ge
  rw [eligible, List.map_cons, List.sum_cons] at shares
  simp only [List.map_map, Function.comp_def] at top
  -- The first service gets exactly what the rounding left over.
  have filled : updatedReward +
      (rest.map fun entry => entry.2 * c.lastAvailableRewards / c.totalRewards).sum =
        c.lastAvailableRewards := by
    rw [addLeftover] at top
    split at top
    · rw [checkedAdd_eq_ok] at top
      omega
    · rw [ok_eq_ok] at top
      omega
  have final : (((first.1, updatedReward) :: rest.map fun entry =>
      (entry.1, entry.2 * c.lastAvailableRewards / c.totalRewards)).map Prod.snd).sum =
        c.lastAvailableRewards := by
    simpa only [List.map_cons, List.sum_cons, List.map_map, Function.comp_def] using filled
  refine ⟨?_, ?_, final, ?_, fun enough => absurd short (Nat.not_lt.mpr enough)⟩
  · rw [← credited_append]
    exact credited_perm (List.perm_append_singleton _ _) m
  · simp [eligible]
  · rw [final, ← sum]
    exact short.le

theorem distribute_spec {c : Calculated} {m : Nat → ServiceInfo} {d : Distributed}
    (sum : c.totalRewards = (c.eligible.map Prod.snd).sum) (ran : distribute c m = .ok d) :
    Distribution c m d := by
  simp only [distribute] at ran
  split at ran
  · next none =>
    cases ran
    exact ⟨by funext serviceId; simp [credited], by simp [none], by simp, by simp,
      fun _ => none.symm⟩
  · next first rest eligible =>
    split at ran
    · next short => exact distributeShortfall_spec eligible sum short ran
    · simp only [bind_eq_ok, checkedSub_eq_ok, pure_eq_ok] at ran
      obtain ⟨m', added, availableRewards, ⟨enough, rfl⟩, rfl⟩ := ran
      rw [← eligible] at added ⊢
      refine ⟨addRewards_spec added, rfl, ?_, le_refl _, fun _ => rfl⟩
      rw [← sum]
      exact Nat.add_sub_of_le enough

/-- In a shortfall every service but the first gets its scaled share, and all the
products of the shares fit a word. -/
theorem distribute_short {c : Calculated} {m : Nat → ServiceInfo} {d : Distributed}
    (short : c.lastAvailableRewards < c.totalRewards) {first : Nat × Nat}
    {rest : List (Nat × Nat)} (eligible : c.eligible = first :: rest)
    (ran : distribute c m = .ok d) :
    (∃ top, d.final = (first.1, top) :: rest.map fun entry =>
      (entry.1, entry.2 * c.lastAvailableRewards / c.totalRewards)) ∧
    d.availableRewards = 0 ∧
    ∀ entry ∈ c.eligible, entry.2 * c.lastAvailableRewards < 2 ^ 256 := by
  simp only [distribute, eligible, if_pos short, distributeShortfall, bind_eq_ok,
    pure_eq_ok] at ran
  obtain ⟨others, othersRan, _, -, share, shareRan, _, -, top, -, _, -, rfl⟩ := ran
  obtain rfl := mapM_eq_map (fun _ _ => adjustReward_spec) othersRan
  refine ⟨⟨top, rfl⟩, rfl, fun entry member => ?_⟩
  have fits {entry result : Nat × Nat}
      (ran : adjustReward c.lastAvailableRewards c.totalRewards entry = .ok result) :
      entry.2 * c.lastAvailableRewards < 2 ^ 256 := by
    simp only [adjustReward, bind_eq_ok, checkedMul_eq_ok] at ran
    obtain ⟨_, ⟨fits, -⟩, -⟩ := ran
    exact fits
  rw [eligible] at member
  rcases List.mem_cons.mp member with rfl | member
  · exact fits shareRan
  · obtain ⟨result, ran⟩ := mapM_ok_of_mem othersRan member
    exact fits ran

end Rewards

section Inactivity

/-- The inactivity of a service after a checkpoint that found it inactive for the given
time. -/
def inactivityAfter (prior inactive : Nat) : Nat := if 0 < inactive then prior + inactive else 0

/-- A record after the inactivity loop. -/
def judged (v : Verdict) (sInfo : ServiceInfo) : ServiceInfo :=
  { sInfo with
    nonces := v.nonces
    inactivity := inactivityAfter sInfo.inactivity v.inactive }

def evicts (maxInactivityDuration : Nat) (m : Nat → ServiceInfo) (v : Verdict) : Bool :=
  decide (maxInactivityDuration < inactivityAfter (m v.serviceId).inactivity v.inactive)

/-- The entry of `evictServiceIds` for one service. -/
def evictMark (maxInactivityDuration : Nat) (m : Nat → ServiceInfo) (v : Verdict) : Nat :=
  if evicts maxInactivityDuration m v then v.serviceId else 0

theorem inactivityBody_spec {maxDuration : Nat} {v : Verdict} {l l' : InactivityLoop}
    (ran : inactivityBody maxDuration (v.serviceId, v.nonces, v.inactive) l = .ok l') :
    l' = {
      mapInfo := Function.update l.mapInfo v.serviceId (judged v (l.mapInfo v.serviceId))
      serviceInactivity := l.serviceInactivity ++
        [inactivityAfter (l.mapInfo v.serviceId).inactivity v.inactive]
      evictServiceIds := l.evictServiceIds ++ [evictMark maxDuration l.mapInfo v]
      numServices := l.numServices + if evicts maxDuration l.mapInfo v then 1 else 0 } := by
  simp only [inactivityBody] at ran
  split at ran
  · next inactive =>
    simp only [bind_eq_ok, checkedAdd_eq_ok] at ran
    obtain ⟨inactivity, ⟨-, rfl⟩, ran⟩ := ran
    split at ran
    · next late =>
      rw [pure_eq_ok] at ran
      simp [← ran, evictMark, evicts, judged, inactivityAfter, inactive, late]
    · next early =>
      rw [pure_eq_ok] at ran
      simp [← ran, evictMark, evicts, judged, inactivityAfter, inactive, early]
  · next active =>
    have zero : v.inactive = 0 := by omega
    rw [pure_eq_ok] at ran
    simp [← ran, evictMark, evicts, judged, inactivityAfter, zero]

/-- The inactivity loop over services that differ. -/
structure InactivityRecorded (maxDuration : Nat) (verdicts : List Verdict)
    (l l' : InactivityLoop) : Prop where
  others : ∀ serviceId, serviceId ∉ verdicts.map (·.serviceId) →
    l'.mapInfo serviceId = l.mapInfo serviceId
  records : ∀ v ∈ verdicts, l'.mapInfo v.serviceId = judged v (l.mapInfo v.serviceId)
  inactivities : l'.serviceInactivity.length = l.serviceInactivity.length + verdicts.length
  marks : l'.evictServiceIds =
    l.evictServiceIds ++ verdicts.map (evictMark maxDuration l.mapInfo)
  count : l'.numServices =
    l.numServices + (verdicts.filter (evicts maxDuration l.mapInfo)).length

theorem inactivityLoop_spec {maxDuration : Nat} {verdicts : List Verdict}
    {l l' : InactivityLoop} (distinct : (verdicts.map (·.serviceId)).Nodup)
    (ran : loop (inactivityBody maxDuration)
      (verdicts.map fun v => (v.serviceId, v.nonces, v.inactive)) l = .ok l') :
    InactivityRecorded maxDuration verdicts l l' := by
  induction verdicts generalizing l with
  | nil =>
    cases ran
    exact ⟨fun _ _ => rfl, by simp, by simp, by simp, by simp⟩
  | cons v verdicts ih =>
    rw [List.map_cons] at ran distinct
    obtain ⟨fresh, distinct⟩ := List.nodup_cons.mp distinct
    obtain ⟨next, first, ran⟩ := loop_cons_eq_ok.mp ran
    obtain ⟨others, records, inactivities, marks, count⟩ := ih distinct ran
    obtain rfl := inactivityBody_spec first
    dsimp only at others records inactivities marks count
    -- The first record is not looked at again.
    have same : ∀ v' ∈ verdicts, Function.update l.mapInfo v.serviceId
        (judged v (l.mapInfo v.serviceId)) v'.serviceId = l.mapInfo v'.serviceId := by
      intro v' member
      have other : v'.serviceId ≠ v.serviceId := by
        intro equal
        rw [← equal] at fresh
        exact fresh (List.mem_map_of_mem member)
      exact Function.update_of_ne other _ _
    have evictions : ∀ v' ∈ verdicts, evicts maxDuration (Function.update l.mapInfo v.serviceId
        (judged v (l.mapInfo v.serviceId))) v' = evicts maxDuration l.mapInfo v' := by
      intro v' member
      rw [evicts, evicts, same v' member]
    refine ⟨fun serviceId outside => ?_, fun v' member => ?_, ?_, ?_, ?_⟩
    · rw [List.map_cons, List.mem_cons, not_or] at outside
      rw [others serviceId outside.2, Function.update_of_ne outside.1]
    · rcases List.mem_cons.mp member with rfl | member
      · rw [others _ fresh, Function.update_self]
      · rw [records v' member, same v' member]
    · rw [inactivities, List.length_append, List.length_singleton, List.length_cons]
      omega
    · rw [marks, List.map_cons, List.append_assoc, List.singleton_append]
      refine congrArg _ (congrArg _ (List.map_congr_left fun v' member => ?_))
      rw [evictMark, evictMark, evictions v' member]
    · rw [count, List.filter_congr evictions, List.filter_cons]
      by_cases evicted : evicts maxDuration l.mapInfo v = true
      · simp only [if_pos evicted, List.length_cons]
        omega
      · simp only [if_neg evicted]
        omega

end Inactivity

section Eviction

variable (m : Nat → ServiceInfo) (inactivities : List Nat)

/-- The arrays of `_evict` with some entries filled in. -/
def EvictArrays.filled (hits : List (Nat × Nat)) (free : Nat) : EvictArrays where
  finalEvictedServiceIds := hits.map Prod.fst ++ List.replicate free 0
  owners := hits.map (fun hit => (m hit.1).owner) ++ List.replicate free 0
  multisigs := hits.map (fun hit => (m hit.1).multisig) ++ List.replicate free 0
  inactivity := hits.map (fun hit => inactivities.getD hit.2 0) ++ List.replicate free 0
  serviceIndexes := hits.map Prod.snd ++ List.replicate free 0
  sCounter := hits.length

theorem writeEntry_replicate {α β : Type} (site : StakingSite) (hits : List β) (entry : β → α)
    (free : Nat) (hit : β) (zero : α) :
    writeEntry site (hits.map entry ++ List.replicate (free + 1) zero) hits.length (entry hit) =
      .ok ((hits ++ [hit]).map entry ++ List.replicate free zero) := by
  have filled := set_replicate (hits.map entry) free (entry hit) zero
  rw [List.length_map] at filled
  rw [writeEntry, if_pos, filled]
  · simp
  · simp

theorem evictFillBody_hit {hit : Nat × Nat} (positive : 0 < hit.1)
    (inside : hit.2 < inactivities.length) (hits : List (Nat × Nat)) (free : Nat) :
    evictFillBody m inactivities hit (.filled m inactivities hits (free + 1)) =
      .ok (.filled m inactivities (hits ++ [hit]) free) := by
  have inactive : readEntry .evict inactivities hit.2 = .ok (inactivities.getD hit.2 0) := by
    simp [readEntry, List.getElem?_eq_getElem inside]
  simp only [evictFillBody, EvictArrays.filled, if_pos positive, inactive,
    writeEntry_replicate .evict hits _ free hit, ok_bind, List.length_append,
    List.length_singleton]
  rfl

theorem evictFill_spec (entries hits : List (Nat × Nat))
    (inside : ∀ entry ∈ entries, entry.2 < inactivities.length) :
    loop (evictFillBody m inactivities) entries
        (.filled m inactivities hits (entries.filter fun entry => 0 < entry.1).length) =
      .ok (.filled m inactivities (hits ++ entries.filter fun entry => 0 < entry.1) 0) := by
  induction entries generalizing hits with
  | nil => simp
  | cons entry entries ih =>
    by_cases positive : 0 < entry.1
    · have kept : (entry :: entries).filter (fun entry => 0 < entry.1) =
          entry :: entries.filter fun entry => 0 < entry.1 :=
        List.filter_cons_of_pos (by simpa using positive)
      have body := evictFillBody_hit m inactivities positive (inside entry List.mem_cons_self) hits
        (entries.filter fun entry => 0 < entry.1).length
      rw [kept, List.append_cons hits entry, List.length_cons, loop, body]
      exact ih (hits ++ [entry]) fun later member => inside later (List.mem_cons_of_mem _ member)
    · have dropped : (entry :: entries).filter (fun entry => 0 < entry.1) =
          entries.filter fun entry => 0 < entry.1 :=
        List.filter_cons_of_neg (by simpa using positive)
      have body : ∀ f, evictFillBody m inactivities entry f = .ok f := fun f => by
        simp only [evictFillBody, if_neg positive]
        rfl
      rw [dropped, loop, body]
      exact ih hits fun later member => inside later (List.mem_cons_of_mem _ member)

theorem swapPop_spec (site : StakingSite) {items : List Nat} {idx : Nat}
    (inside : idx < items.length) :
    swapPop site idx (items.length - 1) items = .ok (swapRemove items idx) := by
  have last : items.length - 1 < items.length := by omega
  have nonempty : items.set idx (items[items.length - 1]) ≠ [] := by
    intro empty
    have := congrArg List.length empty
    simp only [List.length_set, List.length_nil] at this
    omega
  have value : items.getD (items.length - 1) 0 = items[items.length - 1] := by
    rw [List.getD_eq_getElem?_getD, List.getElem?_eq_getElem last, Option.getD_some]
  simp only [swapPop, readEntry, List.getElem?_eq_getElem last, writeEntry, if_pos inside, popLast,
    bind, Except.bind, if_neg nonempty, swapRemove, value]

theorem evictLoop_spec {idxs items : List Nat} {n : Nat} (count : n ≤ idxs.length)
    (order : idxs.Pairwise (· < ·)) (inside : ∀ i ∈ idxs.take n, i < items.length) :
    evictLoop idxs n items.length items = .ok (swapRemoveAll (idxs.take n) items) := by
  induction n generalizing items with
  | zero => rfl
  | succ n ih =>
    have here : n < idxs.length := count
    have prefixed : idxs.take (n + 1) = idxs.take n ++ [idxs[n]] := by
      rw [List.take_succ_eq_append_getElem here]
    have idx_inside : idxs[n] < items.length := by
      refine inside _ ?_
      rw [prefixed]
      exact List.mem_append_right _ (List.mem_singleton_self _)
    have lower : ∀ i ∈ idxs.take n, i < idxs[n] := by
      have ordered := prefixed ▸ order.sublist (List.take_sublist (n + 1) idxs)
      intro i member
      exact (List.pairwise_append.mp ordered).2.2 i member _ (List.mem_singleton_self _)
    have shorter : (swapRemove items idxs[n]).length = items.length - 1 := swapRemove_length _ _
    have rest := @ih (swapRemove items idxs[n]) here.le (fun i member => by
      have := lower i member
      omega)
    simp only [evictLoop, readEntry, List.getElem?_eq_getElem here, checkedSub,
      if_pos (by omega : 1 ≤ items.length), bind, Except.bind, swapPop_spec .evict idx_inside]
    rw [← shorter, rest, prefixed, swapRemoveAll, swapRemoveAll, List.foldr_append]
    rfl

/-- The evicted services with their places in the set. -/
def evictHits (marks : List Nat) : List (Nat × Nat) :=
  marks.zipIdx.filter fun entry => 0 < entry.1

theorem evictHits_ids (marks : List Nat) :
    (evictHits marks).map Prod.fst = marks.filter fun mark => 0 < mark := by
  have filtered : (marks.zipIdx.map Prod.fst).filter (fun mark => decide (0 < mark)) =
      (evictHits marks).map Prod.fst := List.filter_map
  rw [← filtered, List.zipIdx_map_fst]

theorem evictHits_order (marks : List Nat) :
    ((evictHits marks).map Prod.snd).Pairwise (· < ·) := by
  have all : (marks.zipIdx.map Prod.snd).Pairwise (· < ·) := by
    rw [List.zipIdx_map_snd]
    exact List.pairwise_lt_range'
  exact all.sublist (List.filter_sublist.map _)

theorem evict_eq {marks items : List Nat} (length : marks.length = items.length)
    (recorded : inactivities.length = items.length) :
    evict m marks inactivities (evictHits marks).length items =
      .ok (.filled m inactivities (evictHits marks) 0,
        swapRemoveAll ((evictHits marks).map Prod.snd) items) := by
  have fill := evictFill_spec m inactivities marks.zipIdx [] fun entry member => by
    have := List.snd_lt_of_mem_zipIdx member
    omega
  have places : ((evictHits marks).map Prod.snd).length = (evictHits marks).length :=
    List.length_map _
  have inside : ∀ i ∈ ((evictHits marks).map Prod.snd).take (evictHits marks).length,
      i < items.length := by
    intro i member
    obtain ⟨hit, listed, rfl⟩ := List.mem_map.mp (List.mem_of_mem_take member)
    have := List.snd_lt_of_mem_zipIdx (List.mem_of_mem_filter listed)
    omega
  have removed := evictLoop_spec places.ge (evictHits_order marks) inside
  rw [List.take_of_length_le places.le, ← length] at removed
  have arrays : EvictArrays.allocate (evictHits marks).length =
      .filled m inactivities [] (evictHits marks).length := by
    simp [EvictArrays.allocate, EvictArrays.filled]
  rw [evict, arrays, evictHits, fill, List.nil_append, ← evictHits, ok_bind]
  simp only [EvictArrays.filled, List.replicate_zero, List.append_nil, removed, ok_bind]
  rfl

/-- Each entry is the service in the same place of the set, or zero if that one stays. -/
def Marks (marks items : List Nat) : Prop :=
  List.Forall₂ (fun mark serviceId => mark = 0 ∨ mark = serviceId) marks items

/-- Evicting the marked services of a set leaves the others. -/
theorem Marks.removed_perm {marks items : List Nat} (marked : Marks marks items) :
    (swapRemoveAll ((evictHits marks).map Prod.snd) items ++
      marks.filter fun mark => 0 < mark).Perm items := by
  have inside : ∀ i ∈ (evictHits marks).map Prod.snd, i < items.length := by
    intro i member
    obtain ⟨hit, listed, rfl⟩ := List.mem_map.mp member
    have := List.snd_lt_of_mem_zipIdx (List.mem_of_mem_filter listed)
    rwa [Nat.add_zero, marked.length_eq] at this
  -- A mark that is not zero is the service in the same place.
  have found : ((evictHits marks).map Prod.snd).map (items.getD · 0) =
      (evictHits marks).map Prod.fst := by
    rw [List.map_map]
    refine List.map_congr_left fun hit listed => ?_
    have held := inside hit.2 (List.mem_map_of_mem listed)
    obtain ⟨listed, nonzero⟩ := List.mem_filter.mp listed
    obtain ⟨place, own⟩ := List.getElem?_eq_some_iff.mp (List.mem_zipIdx_iff_getElem?.mp listed)
    have same := (List.forall₂_iff_get.mp marked).2 hit.2 place held
    simp only [List.get_eq_getElem, own] at same
    have positive : 0 < hit.1 := by simpa using nonzero
    rcases same with zero | same
    · omega
    · simp [List.getElem?_eq_getElem held, same]
  have removed := swapRemoveAll_perm (evictHits_order marks) inside
  rwa [found, evictHits_ids] at removed

theorem evict_perm (maxDuration : Nat) (m : Nat → ServiceInfo) {verdicts : List Verdict}
    (positive : ∀ v ∈ verdicts, 0 < v.serviceId) :
    (swapRemoveAll ((evictHits (verdicts.map (evictMark maxDuration m))).map Prod.snd)
        (verdicts.map (·.serviceId)) ++
      (verdicts.filter (evicts maxDuration m)).map (·.serviceId)).Perm
        (verdicts.map (·.serviceId)) := by
  have marked : Marks (verdicts.map (evictMark maxDuration m)) (verdicts.map (·.serviceId)) := by
    refine List.forall₂_map_left_iff.mpr (List.forall₂_map_right_iff.mpr ?_)
    refine List.forall₂_same.mpr fun v _ => ?_
    rw [evictMark]
    split
    · exact Or.inr rfl
    · exact Or.inl rfl
  have ids : (verdicts.map (evictMark maxDuration m)).filter (fun mark => 0 < mark) =
      (verdicts.filter (evicts maxDuration m)).map (·.serviceId) := by
    rw [List.filter_map]
    have same : ∀ v ∈ verdicts,
        ((fun mark => decide (0 < mark)) ∘ evictMark maxDuration m) v = evicts maxDuration m v := by
      intro v member
      have := positive v member
      by_cases evicted : evicts maxDuration m v = true <;> simp [evictMark, evicted, this]
    rw [List.filter_congr same]
    refine List.map_congr_left fun v listed => ?_
    rw [evictMark, if_pos (List.mem_filter.mp listed).2]
  have removed := marked.removed_perm
  rwa [ids] at removed

end Eviction

section Checkpoints

/-- A set of services as the eviction needs it: a zero entry would look like a service
that stays. -/
structure SoundSet (ids : List Nat) : Prop where
  distinct : ids.Nodup
  positive : ∀ serviceId ∈ ids, 0 < serviceId

/-- A checkpoint that took place, with the verdicts it reached. -/
structure Taken (timestamp : Nat) (answers : Nat → ActivityAnswer) (verdicts : List Verdict)
    (s s' : StakingState) (result : CheckpointResult) : Prop where
  due : Due s timestamp
  services : verdicts.map (·.serviceId) = s.setServiceIds
  timed : ∀ v ∈ verdicts, v.Timed s timestamp
  checked : ∀ (i : Nat) (v : Verdict), verdicts[i]? = some v → v.Checked s (answers i)
  clock : s.tsCheckpoint ≤ timestamp
  calculated : result.calculated =
    .ofVerdicts s.availableRewards s.params.rewardsPerSecond verdicts
  rewarded : result.finalRewards.map Prod.fst =
    (earned s.params.rewardsPerSecond verdicts).map Prod.fst
  conserved : (result.finalRewards.map Prod.snd).sum + s'.availableRewards = s.availableRewards
  bounded : (result.finalRewards.map Prod.snd).sum ≤
    ((earned s.params.rewardsPerSecond verdicts).map Prod.snd).sum
  full : ((earned s.params.rewardsPerSecond verdicts).map Prod.snd).sum ≤ s.availableRewards →
    result.finalRewards = earned s.params.rewardsPerSecond verdicts
  others : ∀ serviceId, serviceId ∉ s.setServiceIds →
    s'.mapServiceInfo serviceId = credited result.finalRewards s.mapServiceInfo serviceId
  records : ∀ v ∈ verdicts, s'.mapServiceInfo v.serviceId =
    judged v (credited result.finalRewards s.mapServiceInfo v.serviceId)
  remaining : (s'.setServiceIds ++ (verdicts.filter
    (evicts s.maxInactivityDuration s.mapServiceInfo)).map (·.serviceId)).Perm s.setServiceIds
  returned : result.serviceIds = s'.setServiceIds
  counted : s'.epochCounter = s.epochCounter + 1
  frame : s' = { s with
    availableRewards := s'.availableRewards
    mapServiceInfo := s'.mapServiceInfo
    setServiceIds := s'.setServiceIds
    epochCounter := s'.epochCounter
    tsCheckpoint := timestamp }

theorem ofVerdicts_entries (available rewardsPerSecond : Nat) (verdicts : List Verdict) :
    let c := Calculated.ofVerdicts available rewardsPerSecond verdicts
    c.serviceIds.zip (c.serviceNonces.zip c.serviceInactivity) =
      verdicts.map fun v => (v.serviceId, v.nonces, v.inactive) := by
  simp only [Calculated.ofVerdicts, List.zip_map']

theorem evictInactive_spec {maxDuration : Nat} {m : Nat → ServiceInfo} {verdicts : List Verdict}
    {l : InactivityLoop} {ids : List Nat}
    (recorded : InactivityRecorded maxDuration verdicts ⟨m, [], [], 0⟩ l)
    (services : verdicts.map (·.serviceId) = ids) (sound : SoundSet ids) :
    ∃ evicted remaining, evictInactive l ids = .ok (evicted, remaining) ∧
      (evicted = [] → remaining = ids) ∧
      (remaining ++ (verdicts.filter (evicts maxDuration m)).map (·.serviceId)).Perm ids := by
  subst services
  have marks : l.evictServiceIds = verdicts.map (evictMark maxDuration m) := by
    simpa using recorded.marks
  have positive : ∀ v ∈ verdicts, 0 < v.serviceId :=
    fun v member => sound.positive _ (List.mem_map_of_mem member)
  have perm := evict_perm maxDuration m positive
  have length : l.evictServiceIds.length = (verdicts.map (·.serviceId)).length := by
    rw [marks, List.length_map, List.length_map]
  -- As many places are allocated as there are marks.
  have count : l.numServices = (evictHits l.evictServiceIds).length := by
    have balance := perm.length_eq
    have counted := recorded.count
    dsimp only at counted
    have removed := swapRemoveAll_length ((evictHits l.evictServiceIds).map Prod.snd)
      (verdicts.map (·.serviceId))
    have some : (evictHits l.evictServiceIds).length ≤ verdicts.length := by
      have := List.length_filter_le (fun entry : Nat × Nat => decide (0 < entry.1))
        l.evictServiceIds.zipIdx
      rw [List.length_zipIdx, length, List.length_map] at this
      exact this
    rw [← marks] at balance
    simp only [List.length_append, List.length_map] at balance removed
    rw [removed] at balance
    omega
  rw [evictInactive]
  split
  · next several =>
    have inactivities : l.serviceInactivity.length = (verdicts.map (·.serviceId)).length := by
      rw [recorded.inactivities, List.length_map]
      exact Nat.zero_add _
    rw [count, evict_eq _ _ length inactivities, ok_bind]
    refine ⟨_, _, rfl, fun none => ?_, marks ▸ perm⟩
    have := congrArg List.length none
    simp only [EvictArrays.filled, List.replicate_zero, List.append_nil, List.length_map,
      ← count, List.length_nil] at this
    omega
  · next none =>
    have empty : evictHits l.evictServiceIds = [] :=
      List.length_eq_zero_iff.mp (by rw [← count]; omega)
    rw [← marks, empty] at perm
    exact ⟨_, _, rfl, fun _ => rfl, perm⟩

theorem closeEpoch_spec {timestamp : Nat} {verdicts : List Verdict} {available perSecond : Nat}
    {s s' : StakingState} {evicted : List Nat} (sound : SoundSet s.setServiceIds)
    (services : verdicts.map (·.serviceId) = s.setServiceIds)
    (ran : closeEpoch timestamp (.ofVerdicts available perSecond verdicts) s =
      .ok (s', evicted)) :
    s.tsCheckpoint ≤ timestamp ∧
    (∀ serviceId, serviceId ∉ s.setServiceIds →
      s'.mapServiceInfo serviceId = s.mapServiceInfo serviceId) ∧
    (∀ v ∈ verdicts, s'.mapServiceInfo v.serviceId = judged v (s.mapServiceInfo v.serviceId)) ∧
    (s'.setServiceIds ++ (verdicts.filter
      (evicts s.maxInactivityDuration s.mapServiceInfo)).map (·.serviceId)).Perm
        s.setServiceIds ∧
    (evicted = [] → s'.setServiceIds = s.setServiceIds) ∧
    s'.epochCounter = s.epochCounter + 1 ∧
    s' = { s with
      mapServiceInfo := s'.mapServiceInfo
      setServiceIds := s'.setServiceIds
      epochCounter := s'.epochCounter
      tsCheckpoint := timestamp } := by
  simp only [closeEpoch, bind_eq_ok, Prod.exists, ofVerdicts_entries, checkedSub_eq_ok,
    checkedAdd_eq_ok, pure_eq_ok, Prod.mk.injEq] at ran
  obtain ⟨l, looped, _, remaining, removed, _, ⟨clock, -⟩, _, ⟨-, rfl⟩, rfl, rfl⟩ := ran
  have recorded := inactivityLoop_spec (services ▸ sound.distinct) looped
  obtain ⟨_, _, evictedAs, unchanged, perm⟩ := evictInactive_spec recorded services sound
  rw [removed] at evictedAs
  cases evictedAs
  refine ⟨clock, fun serviceId outside => ?_, recorded.records, perm, unchanged, rfl, rfl⟩
  exact recorded.others serviceId (services ▸ outside)

/-- A checkpoint does nothing, or takes place. -/
theorem checkpoint_spec {timestamp : Nat} {answers : Nat → ActivityAnswer} {s s' : StakingState}
    {result : CheckpointResult} (sound : SoundSet s.setServiceIds)
    (ran : checkpoint timestamp answers s = .ok (s', result)) :
    (s' = s ∧ result.calculated.serviceIds = [] ∧ result.serviceIds = s.setServiceIds) ∨
      ∃ verdicts, Taken timestamp answers verdicts s s' result := by
  simp only [checkpoint, bind_eq_ok] at ran
  obtain ⟨c, calculated, d, distributed, ran⟩ := ran
  obtain ⟨verdicts, rfl, verdict⟩ := calculateStakingRewards_spec calculated
  obtain ⟨records, rewarded, conserved, bounded, full⟩ := distribute_spec rfl distributed
  rcases verdict with ⟨-, rfl⟩ | ⟨due, services, timed, checked⟩
  · left
    rw [if_neg (by simp [Calculated.ofVerdicts]), pure_eq_ok, Prod.mk.injEq] at ran
    obtain ⟨rfl, rfl⟩ := ran
    cases distributed
    exact ⟨rfl, rfl, rfl⟩
  · right
    have several : 0 < (Calculated.ofVerdicts s.availableRewards s.params.rewardsPerSecond
        verdicts).serviceIds.length := by
      rw [Calculated.ofVerdicts, services]
      exact due.1
    simp only [if_pos several, bind_eq_ok, Prod.exists, pure_eq_ok, Prod.mk.injEq] at ran
    obtain ⟨_, evicted, closed, rfl, rfl⟩ := ran
    obtain ⟨clock, others, judgements, perm, unchanged, counted, frame⟩ :=
      closeEpoch_spec (show SoundSet (StakingState.setServiceIds { s with
        mapServiceInfo := d.mapInfo
        availableRewards := d.availableRewards }) from sound) services closed
    rw [records] at others judgements perm
    refine ⟨verdicts, due, services, timed, checked, clock, rfl, rewarded, ?_, bounded, full, others,
      judgements, perm, ?_, counted, ?_⟩
    · rw [frame]
      exact conserved
    · dsimp only
      split
      · rfl
      · next none =>
        rw [unchanged (List.length_eq_zero_iff.mp (by omega))]
        exact services
    · rw [frame]

/-- What a checkpoint reports is what it computed and paid out. -/
theorem checkpoint_distributed {timestamp : Nat} {answers : Nat → ActivityAnswer}
    {s s' : StakingState} {result : CheckpointResult}
    (ran : checkpoint timestamp answers s = .ok (s', result)) :
    calculateStakingRewards timestamp answers s = .ok result.calculated ∧
      ∃ d, distribute result.calculated s.mapServiceInfo = .ok d ∧
        result.finalRewards = d.final := by
  simp only [checkpoint, bind_eq_ok] at ran
  obtain ⟨c, calculated, d, distributed, ran⟩ := ran
  split at ran
  · simp only [bind_eq_ok, pure_eq_ok, Prod.mk.injEq] at ran
    obtain ⟨_, -, -, rfl⟩ := ran
    exact ⟨calculated, d, distributed, rfl⟩
  · rw [pure_eq_ok, Prod.mk.injEq] at ran
    obtain ⟨-, rfl⟩ := ran
    exact ⟨calculated, d, distributed, rfl⟩

/-- The service Ids a checkpoint returns are those of the set it leaves. -/
theorem checkpoint_returned {timestamp : Nat} {answers : Nat → ActivityAnswer}
    {s s' : StakingState} {result : CheckpointResult} (sound : SoundSet s.setServiceIds)
    (ran : checkpoint timestamp answers s = .ok (s', result)) :
    result.serviceIds = s'.setServiceIds := by
  rcases checkpoint_spec sound ran with ⟨rfl, -, returned⟩ | ⟨verdicts, taken⟩
  · exact returned
  · exact taken.returned

/-- A checkpoint moves no funds and leaves the lock alone. -/
theorem checkpoint_frame {timestamp : Nat} {answers : Nat → ActivityAnswer} {s s' : StakingState}
    {result : CheckpointResult} (sound : SoundSet s.setServiceIds)
    (ran : checkpoint timestamp answers s = .ok (s', result)) :
    s'.balance = s.balance ∧ s'.locked = s.locked := by
  rcases checkpoint_spec sound ran with ⟨rfl, -⟩ | ⟨verdicts, taken⟩
  · exact ⟨rfl, rfl⟩
  · rw [taken.frame]
    exact ⟨rfl, rfl⟩

namespace Taken
variable {timestamp : Nat} {answers : Nat → ActivityAnswer} {verdicts : List Verdict}
  {s s' : StakingState} {result : CheckpointResult}

theorem judged_service (taken : Taken timestamp answers verdicts s s' result) {serviceId : Nat}
    (member : serviceId ∈ s.setServiceIds) : ∃ v ∈ verdicts, v.serviceId = serviceId := by
  rw [← taken.services] at member
  exact List.mem_map.mp member

/-- Only services in the set are credited. -/
theorem credit_outside (taken : Taken timestamp answers verdicts s s' result) {serviceId : Nat}
    (outside : serviceId ∉ s.setServiceIds) : creditOf result.finalRewards serviceId = 0 := by
  refine creditOf_eq_zero fun member => outside ?_
  rw [taken.rewarded, earned, List.map_map, List.mem_map] at member
  obtain ⟨v, listed, rfl⟩ := member
  rw [← taken.services]
  exact List.mem_map_of_mem (List.mem_of_mem_filter listed)

theorem unchanged (taken : Taken timestamp answers verdicts s s' result) {serviceId : Nat}
    (outside : serviceId ∉ s.setServiceIds) :
    s'.mapServiceInfo serviceId = s.mapServiceInfo serviceId := by
  rw [taken.others serviceId outside, credited, taken.credit_outside outside]
  rfl

/-- A checkpoint writes the reward, the nonces and the inactivity of a record. -/
theorem record (taken : Taken timestamp answers verdicts s s' result) (serviceId : Nat) :
    ∃ nonces inactivity, s'.mapServiceInfo serviceId = { s.mapServiceInfo serviceId with
      nonces
      reward := (s.mapServiceInfo serviceId).reward + creditOf result.finalRewards serviceId
      inactivity } := by
  by_cases member : serviceId ∈ s.setServiceIds
  · obtain ⟨v, listed, rfl⟩ := taken.judged_service member
    exact ⟨_, _, taken.records v listed⟩
  · exact ⟨_, _, taken.others serviceId member⟩

theorem inactivity (taken : Taken timestamp answers verdicts s s' result) {v : Verdict}
    (listed : v ∈ verdicts) : (s'.mapServiceInfo v.serviceId).inactivity =
      inactivityAfter (s.mapServiceInfo v.serviceId).inactivity v.inactive := by
  rw [taken.records v listed]
  rfl

theorem stays_of_remaining (taken : Taken timestamp answers verdicts s s' result) {serviceId : Nat}
    (member : serviceId ∈ s'.setServiceIds) : serviceId ∈ s.setServiceIds :=
  taken.remaining.subset (List.mem_append_left _ member)

/-- A service leaves the set exactly if its inactivity is now too long. -/
theorem evicted_iff (taken : Taken timestamp answers verdicts s s' result)
    (sound : SoundSet s.setServiceIds) {v : Verdict} (listed : v ∈ verdicts) :
    v.serviceId ∉ s'.setServiceIds ↔
      s.maxInactivityDuration < (s'.mapServiceInfo v.serviceId).inactivity := by
  have distinct := taken.remaining.nodup_iff.mpr sound.distinct
  have evicts_iff : evicts s.maxInactivityDuration s.mapServiceInfo v = true ↔
      s.maxInactivityDuration < (s'.mapServiceInfo v.serviceId).inactivity := by
    rw [taken.inactivity listed, evicts, decide_eq_true_iff]
  rw [← evicts_iff]
  constructor
  · intro gone
    have member : v.serviceId ∈ s.setServiceIds := by
      rw [← taken.services]
      exact List.mem_map_of_mem listed
    rcases List.mem_append.mp (taken.remaining.mem_iff.mpr member) with stays | evicted
    · exact absurd stays gone
    · obtain ⟨v', listed', same⟩ := List.mem_map.mp evicted
      obtain ⟨listed', evicted⟩ := List.mem_filter.mp listed'
      have unique : v' = v := List.inj_on_of_nodup_map
        (taken.services ▸ sound.distinct : (verdicts.map (·.serviceId)).Nodup) listed' listed same
      exact unique ▸ evicted
  · intro evicted stays
    refine (List.nodup_append.mp distinct).2.2 _ stays _ ?_ rfl
    exact List.mem_map_of_mem (List.mem_filter.mpr ⟨listed, evicted⟩)

theorem sound (taken : Taken timestamp answers verdicts s s' result) (sound : SoundSet s.setServiceIds) :
    SoundSet s'.setServiceIds where
  distinct := (List.nodup_append.mp (taken.remaining.nodup_iff.mpr sound.distinct)).1
  positive serviceId member := sound.positive serviceId (taken.stays_of_remaining member)

end Taken

end Checkpoints

end AutonolasRegistries.Source.StakingBase
