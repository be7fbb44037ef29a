import AutonolasRegistries.Guarantees.StakingExit

/-!
# What the activity check does not survive

`_checkRatioPass` calls the checker at a low level "since it must never revert", and
looks at the length of what comes back. The decoder then also looks at the content: an
array whose offset or length points past the end, and a flag other than zero and one, are
refused, and the refusal goes up through the checkpoint to everyone who unstakes.
`StakingBase.sol:458-489`.
-/
namespace AutonolasRegistries.Guarantees
open Library Source StakingBase

section Check

/-- The offset and the length of the array stay inside the data. -/
def ArrayReads (data : List (Fin 256)) : Prop :=
  wordAt data 0 + 32 ≤ data.length ∧
    wordAt data 0 + 32 + 32 * wordAt data (wordAt data 0) ≤ data.length

/-- The elements of the array in the data. -/
def arrayRead (data : List (Fin 256)) : List Nat :=
  (List.range (wordAt data (wordAt data 0))).map fun i =>
    wordAt data (wordAt data 0 + 32 + 32 * i)

/-- A call of `getMultisigNonces` whose answer passes the tests on its length. -/
def NoncesShaped (first : RawAnswer) : Prop :=
  first.success ∧ 63 < first.returnData.length ∧ first.returnData.length % 32 = 0

/-- A call of `isRatioPass` whose answer passes the test on its length. -/
def RatioShaped (second : RawAnswer) : Prop := second.success ∧ second.returnData.length = 32

/-- The second call, with the nonces of the first. -/
def ratioAnswer (answer : ActivityAnswer) (multisig : Address) (lastNonces : List Nat)
    (ts : Nat) : RawAnswer :=
  answer.isRatioPass (arrayRead (answer.getMultisigNonces multisig).returnData) lastNonces ts

/-- The answers of the right length also have the right content. -/
structure AnswersRead (answer : ActivityAnswer) (multisig : Address) (lastNonces : List Nat)
    (ts : Nat) : Prop where
  nonces : NoncesShaped (answer.getMultisigNonces multisig) →
    ArrayReads (answer.getMultisigNonces multisig).returnData
  ratio : NoncesShaped (answer.getMultisigNonces multisig) →
    RatioShaped (ratioAnswer answer multisig lastNonces ts) →
      wordAt (ratioAnswer answer multisig lastNonces ts).returnData 0 ≤ 1

/-- Both calls succeed with well-formed answers, and the second one says yes. -/
def Passes (answer : ActivityAnswer) (multisig : Address) (lastNonces : List Nat) (ts : Nat) :
    Prop :=
  NoncesShaped (answer.getMultisigNonces multisig) ∧
    ArrayReads (answer.getMultisigNonces multisig).returnData ∧
    RatioShaped (ratioAnswer answer multisig lastNonces ts) ∧
    wordAt (ratioAnswer answer multisig lastNonces ts).returnData 0 = 1

/-- The check returns, and says yes exactly when the checker does. -/
def ChecksOut (answer : ActivityAnswer) (multisig : Address) (lastNonces : List Nat)
    (ts : Nat) : Prop :=
  ∃ ratioPass currentNonces,
    checkRatioPass answer multisig lastNonces ts = .ok (ratioPass, currentNonces) ∧
    (ratioPass = true ↔ Passes answer multisig lastNonces ts)

theorem decodeArray_eq_ok {data : List (Fin 256)} {words : List Nat} :
    decodeArray data = .ok words ↔ ArrayReads data ∧ arrayRead data = words := by
  simp only [decodeArray, bind_eq_ok, revertIf_eq_ok, exists_const, pure_eq_ok, Nat.not_lt,
    ArrayReads, arrayRead, and_assoc]

theorem decodeBool_eq_ok {data : List (Fin 256)} {value : Bool} :
    decodeBool data = .ok value ↔ wordAt data 0 ≤ 1 ∧ decide (wordAt data 0 = 1) = value := by
  simp only [decodeBool, bind_eq_ok, revertIf_eq_ok, exists_const, pure_eq_ok, Nat.not_lt]

variable {answer : ActivityAnswer} {multisig : Address} {lastNonces : List Nat} {ts : Nat}

theorem checkRatioPass_eq_ok {verdict : Bool × List Nat} :
    checkRatioPass answer multisig lastNonces ts = .ok verdict ↔
      (¬ NoncesShaped (answer.getMultisigNonces multisig) ∧ verdict = (false, [])) ∨
      (NoncesShaped (answer.getMultisigNonces multisig) ∧
        ArrayReads (answer.getMultisigNonces multisig).returnData ∧
        verdict.2 = arrayRead (answer.getMultisigNonces multisig).returnData ∧
        ((¬ RatioShaped (ratioAnswer answer multisig lastNonces ts) ∧ verdict.1 = false) ∨
          (RatioShaped (ratioAnswer answer multisig lastNonces ts) ∧
            wordAt (ratioAnswer answer multisig lastNonces ts).returnData 0 ≤ 1 ∧
            verdict.1 = decide
              (wordAt (ratioAnswer answer multisig lastNonces ts).returnData 0 = 1)))) := by
  obtain ⟨ratioPass, currentNonces⟩ := verdict
  rw [checkRatioPass]
  by_cases shaped : NoncesShaped (answer.getMultisigNonces multisig)
  · simp only [shaped, not_true_eq_false, false_and, false_or, true_and]
    rw [if_pos (by exact shaped), bind_eq_ok]
    simp only [decodeArray_eq_ok, and_assoc, exists_and_left, exists_eq_left']
    refine and_congr_right fun _ => ?_
    by_cases shaped' : RatioShaped (ratioAnswer answer multisig lastNonces ts)
    · rw [if_pos (by exact shaped'), bind_eq_ok]
      simp only [decodeBool_eq_ok, and_assoc, exists_and_left, exists_eq_left', pure_eq_ok,
        Prod.mk.injEq, shaped', not_true_eq_false, false_and, false_or, true_and]
      constructor
      · rintro ⟨bit, rfl, rfl⟩
        exact ⟨rfl, bit, rfl⟩
      · rintro ⟨rfl, bit, rfl⟩
        exact ⟨bit, rfl, rfl⟩
    · rw [if_neg (by exact shaped')]
      simp only [pure_eq_ok, Prod.mk.injEq, shaped', not_false_eq_true, true_and, false_and,
        or_false]
      constructor
      · rintro ⟨rfl, rfl⟩
        exact ⟨rfl, rfl⟩
      · rintro ⟨rfl, rfl⟩
        exact ⟨rfl, rfl⟩
  · simp only [shaped, not_false_eq_true, true_and, false_and, or_false]
    rw [if_neg (by exact shaped)]
    exact pure_eq_ok.trans eq_comm

theorem answersRead_of_ok {verdict : Bool × List Nat}
    (ran : checkRatioPass answer multisig lastNonces ts = .ok verdict) :
    AnswersRead answer multisig lastNonces ts := by
  rcases checkRatioPass_eq_ok.mp ran with ⟨unshaped, -⟩ | ⟨shaped, reads, -, second⟩
  · exact ⟨fun shaped => absurd shaped unshaped, fun shaped => absurd shaped unshaped⟩
  · refine ⟨fun _ => reads, fun _ shaped' => ?_⟩
    rcases second with ⟨unshaped, -⟩ | ⟨-, bit, -⟩
    · exact absurd shaped' unshaped
    · exact bit

/-- The check returns exactly on answers whose content can be read, and then it says
what the checker says. -/
theorem checksOut_iff : ChecksOut answer multisig lastNonces ts ↔
    AnswersRead answer multisig lastNonces ts := by
  constructor
  · rintro ⟨ratioPass, currentNonces, ran, -⟩
    exact answersRead_of_ok ran
  · rintro ⟨nonces, ratio⟩
    by_cases shaped : NoncesShaped (answer.getMultisigNonces multisig)
    · by_cases shaped' : RatioShaped (ratioAnswer answer multisig lastNonces ts)
      · refine ⟨decide (wordAt (ratioAnswer answer multisig lastNonces ts).returnData 0 = 1), _,
          checkRatioPass_eq_ok.mpr (.inr ⟨shaped, nonces shaped, rfl,
          .inr ⟨shaped', ratio shaped shaped', rfl⟩⟩), ?_⟩
        simp only [Passes, shaped, nonces shaped, shaped', true_and, decide_eq_true_eq]
      · refine ⟨_, _, checkRatioPass_eq_ok.mpr (.inr ⟨shaped, nonces shaped, rfl,
          .inl ⟨shaped', rfl⟩⟩), ?_⟩
        simp only [Passes, shaped', false_and, and_false, Bool.false_eq_true]
    · refine ⟨_, _, checkRatioPass_eq_ok.mpr (.inl ⟨shaped, rfl⟩), ?_⟩
      simp only [Passes, shaped, false_and, Bool.false_eq_true]

end Check

section Callers
variable {s : StakingState} {timestamp : Nat} {answers : Nat → ActivityAnswer}

/-- What a checkpoint asks the checker has readable answers. -/
def AskedRead (s : StakingState) (timestamp : Nat) (answers : Nat → ActivityAnswer) : Prop :=
  Due s timestamp → ∀ k serviceId, s.setServiceIds[k]? = some serviceId →
    AnswersRead (answers k) (s.mapServiceInfo serviceId).multisig
      (s.mapServiceInfo serviceId).nonces (timestamp - serviceCheckpoint s serviceId)

theorem decoding_narrow : Narrow (· = .decoding) := fun _ same => .inr same

theorem checkedService_reads (asked : AskedRead s timestamp answers) (due : Due s timestamp)
    (k serviceId : Nat) (at_k : s.setServiceIds[k]? = some serviceId) :
    Avoids (· = .decoding) (checkedService s timestamp answers k serviceId) := by
  obtain ⟨_, _, ran, -⟩ := checksOut_iff.mpr (asked due k serviceId at_k)
  exact avoids_of_ok ran

/-- A loop that ends has asked about every service and read every answer. -/
theorem calculateLoop_checked {ids : List Nat} {c c' : Calculated}
    (ran : loop (calculateBody s timestamp answers) ids c = .ok c') :
    ∀ k serviceId, ids[k]? = some serviceId → ∃ verdict,
      checkedService s timestamp answers (c.serviceIds.length + k) serviceId = .ok verdict := by
  induction ids generalizing c with
  | nil =>
    intro k serviceId at_k
    cases at_k
  | cons first rest ih =>
    obtain ⟨next, body, ran⟩ := loop_cons_eq_ok.mp ran
    obtain ⟨longer, checked⟩ := calculateBody_next body
    intro k serviceId at_k
    cases k with
    | zero =>
      cases at_k
      exact checked
    | succ k =>
      have later := ih ran k serviceId at_k
      rwa [longer, Nat.add_assoc, Nat.add_comm 1 k] at later

theorem calculateStakingRewards_asked {c : Calculated}
    (ran : calculateStakingRewards timestamp answers s = .ok c) : AskedRead s timestamp answers := by
  intro due k serviceId at_k
  obtain ⟨some, elapsed, available⟩ := due
  simp only [calculateStakingRewards, if_pos some, bind_eq_ok, checkedSub_eq_ok] at ran
  obtain ⟨_, ⟨-, rfl⟩, ran⟩ := ran
  rw [if_pos ⟨elapsed, available⟩] at ran
  obtain ⟨⟨ratioPass, currentNonces⟩, checked⟩ := calculateLoop_checked ran k serviceId at_k
  rw [List.length_nil, Nat.zero_add] at checked
  exact answersRead_of_ok checked

/-- What the loop refuses, everyone who starts with a checkpoint refuses. -/
theorem checkpoint_asked {after : StakingState × CheckpointResult}
    (ran : StakingBase.checkpoint timestamp answers s = .ok after) :
    AskedRead s timestamp answers := by
  rw [StakingBase.checkpoint] at ran
  obtain ⟨c, calculated, -⟩ := bind_eq_ok.mp ran
  exact calculateStakingRewards_asked calculated

theorem unstake_asked {self sender : Address} {view : RewardView} {serviceId : Nat}
    {enforced : Bool} {after : StakingState × PayoutResult}
    (ran : unstake self sender timestamp answers view serviceId enforced s = .ok after) :
    AskedRead s timestamp answers := by
  rw [unstake] at ran
  obtain ⟨s₀, locked, ran⟩ := bind_eq_ok.mp ran
  obtain ⟨-, rfl⟩ := lock_eq_ok.mp locked
  obtain ⟨after, checkpointed, -⟩ := bind_eq_ok.mp ran
  have asked := checkpoint_asked checkpointed
  exact asked

end Callers

/-- The check returns, with the checker's own verdict, exactly when the answers it does
not reject for their length can be decoded. In every run, a checkpoint that gets only
such answers does not fail for the checker, and neither does an unstake, forced or not;
with any other answer to a service of the set all of them revert. -/
theorem activity_check_returns_iff {self : Address} {start : StakingWorld}
    (fresh : start.Fresh self) {c : Config StakingWorld StakingFrame}
    (run : Reachable (stakingMachine self) (stakingDiscipline self) start c) :
    (∀ answer multisig lastNonces ts, ChecksOut answer multisig lastNonces ts ↔
      AnswersRead answer multisig lastNonces ts) ∧
    ∀ answers : Nat → ActivityAnswer,
      (AskedRead c.state.store c.state.timestamp answers →
        calculateStakingRewards c.state.timestamp answers c.state.store ≠ .error .decoding ∧
        StakingBase.checkpoint c.state.timestamp answers c.state.store ≠ .error .decoding ∧
        ∀ sender view serviceId enforced,
          unstake self sender c.state.timestamp answers view serviceId enforced c.state.store ≠
            .error .decoding) ∧
      (¬ AskedRead c.state.store c.state.timestamp answers →
        (∃ reason, calculateStakingRewards c.state.timestamp answers c.state.store =
          .error reason) ∧
        (∃ reason, StakingBase.checkpoint c.state.timestamp answers c.state.store =
          .error reason) ∧
        ∀ sender view serviceId enforced, ∃ reason,
          unstake self sender c.state.timestamp answers view serviceId enforced c.state.store =
            .error reason) := by
  have sound := (stakingSolid_always fresh run).base.book.sound
  refine ⟨fun _ _ _ _ => checksOut_iff, fun answers => ⟨fun asked => ?_, fun unread => ?_⟩⟩
  · have checked := checkedService_reads asked
    refine ⟨fun failed => ?_, fun failed => ?_, fun sender view serviceId enforced failed => ?_⟩
    · exact calculateStakingRewards_avoids decoding_narrow checked _ failed rfl
    · exact checkpoint_avoids decoding_narrow sound checked _ failed rfl
    · exact unstake_avoids decoding_narrow self sender _ view serviceId enforced sound checked _
        failed rfl
  · have refused : ∀ {α : Type} (outcome : Except StakingError α),
        (∀ value, outcome = .ok value → AskedRead c.state.store c.state.timestamp answers) →
        ∃ reason, outcome = .error reason := by
      intro α outcome returns
      cases outcome with
      | error reason => exact ⟨reason, rfl⟩
      | ok value => exact absurd (returns value rfl) unread
    exact ⟨refused _ fun _ => calculateStakingRewards_asked, refused _ fun _ => checkpoint_asked,
      fun _ _ _ _ => refused _ fun _ => unstake_asked⟩

/-- A checker that answers with two words, the first of which points far past the end. -/
def overlongAnswer : ActivityAnswer :=
  ⟨fun _ => ⟨true, List.replicate 64 255⟩, fun _ _ _ => ⟨true, List.replicate 32 0⟩⟩

theorem overlongAnswer_unread (multisig : Address) (lastNonces : List Nat) (ts : Nat) :
    ¬ AnswersRead overlongAnswer multisig lastNonces ts := by
  intro read
  have shaped : NoncesShaped ⟨true, List.replicate 64 255⟩ := ⟨rfl, by decide, by decide⟩
  have past : ¬ wordAt (List.replicate 64 255) 0 + 32 ≤ (List.replicate 64 (255 : Fin 256)).length :=
    by decide +kernel
  exact past (read.nonces shaped).1

theorem activity_check_overlong :
    ¬ ∀ answer multisig lastNonces ts, ChecksOut answer multisig lastNonces ts := by
  intro claim
  exact overlongAnswer_unread 31 [] 150 (checksOut_iff.mp (claim overlongAnswer 31 [] 150))

/-- Service 1 is staked and a checkpoint is due: its owner can leave while the checker
answers in one word that reads, and cannot with the other answer. -/
theorem activity_check_returns_iff_staked :
    ∃ c, Reachable (stakingMachine 5) (stakingDiscipline 5) sampleStaking c ∧
      ChecksOut (activeAnswer 0 0) 31 [] 150 ∧
      unstake 5 21 c.state.timestamp (activeAnswer 0) operatorView 1 true c.state.store ≠
        .error .decoding ∧
      ∃ reason, unstake 5 21 c.state.timestamp (fun _ => overlongAnswer) operatorView 1 true
        c.state.store = .error reason := by
  obtain ⟨c, run, seen⟩ := Machine.play_observed (stakingDiscipline 5) (stakingMachine 5)
    sampleStaking (stakeAndPass ++ [.call (.tick 150)])
    (fun c => ([c.state.timestamp, c.state.store.params.livenessPeriod,
      c.state.store.tsCheckpoint, c.state.store.availableRewards], c.state.store.setServiceIds))
    ([1300, 100, 1150, 98500], [1]) (by decide +kernel)
  simp only [Prod.mk.injEq, List.cons.injEq] at seen
  obtain ⟨⟨now, liveness, last, available, -⟩, ids⟩ := seen
  have due : Due c.state.store c.state.timestamp := by
    rw [Due, ids, now, liveness, last, available]
    decide
  have array : ArrayReads (encodeWords [32, 1, 3]) := by
    constructor <;> decide +kernel
  have bit : wordAt (encodeWords [0]) 0 ≤ 1 := by decide +kernel
  have reads : ∀ multisig lastNonces ts, AnswersRead (activeAnswer 0 0) multisig lastNonces ts :=
    fun _ _ _ => ⟨fun _ => array, fun _ _ => bit⟩
  obtain ⟨checks, callers⟩ := activity_check_returns_iff sampleStaking_fresh run
  refine ⟨c, run, (checks _ _ _ _).mpr (reads _ _ _), ?_, ?_⟩
  · exact ((callers (activeAnswer 0)).1 fun _ _ _ _ => reads _ _ _).2.2 21 operatorView 1 true
  · refine ((callers fun _ => overlongAnswer).2 fun asked => ?_).2.2 21 operatorView 1 true
    exact overlongAnswer_unread _ _ _ (asked due 0 1 (by rw [ids]; rfl))

end AutonolasRegistries.Guarantees
