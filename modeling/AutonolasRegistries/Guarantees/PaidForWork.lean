import AutonolasRegistries.Source.StakingActivityChecker
import AutonolasRegistries.Guarantees.ActivityChecks
import AutonolasRegistries.Guarantees.StakingSessions

/-!
# Staking pays for transactions

With the checker of the repository, a service is paid only for time in which its multisig
made transactions, at the rate the checker asks for. Each checkpoint compares two nonces; over
a session the differences add up, because a nonce never goes back and every checkpoint starts
from the nonce the last one saw. `StakingActivityChecker.sol:35-62`,
`StakingBase.sol:458-489`, `:594-656`, `:1032-1060`.
-/
namespace AutonolasRegistries.Guarantees
open Library Source Model StakingBase StakingActivityChecker

section Encoding

theorem wordAt_field (front back : List Byte) (n : Nat) (small : n < 2 ^ 256) :
    wordAt (front ++ toBytes 32 n ++ back) front.length = n := by
  have window : ((front ++ toBytes 32 n ++ back).drop front.length).take 32 = toBytes 32 n := by
    rw [List.append_assoc, List.drop_left]
    exact List.take_left' (length_toBytes 32 n)
  have value : wordAt (front ++ toBytes 32 n ++ back) front.length = ofBytes (toBytes 32 n) :=
    congrArg ofBytes window
  rw [value, ofBytes_toBytes]
  exact Nat.mod_eq_of_lt small

/-- The nonces of one multisig, decoded. -/
theorem nonces_read {n : Nat} (small : n < 2 ^ 256) :
    ArrayReads (encodeArray [n]) ∧ arrayRead (encodeArray [n]) = [n] := by
  have length : (encodeArray [n]).length = 96 := by
    simp [encodeArray]
  have offset : wordAt (encodeArray [n]) 0 = 32 := by
    have field := wordAt_field [] (toBytes 32 1 ++ [n].flatMap (toBytes 32)) 32 (by decide)
    rwa [List.nil_append, ← List.append_assoc] at field
  have size : wordAt (encodeArray [n]) 32 = 1 := by
    have field := wordAt_field (toBytes 32 32) ([n].flatMap (toBytes 32)) 1 (by decide)
    rwa [length_toBytes] at field
  have entry : wordAt (encodeArray [n]) 64 = n := by
    have field := wordAt_field (toBytes 32 32 ++ toBytes 32 1) [] n small
    rw [List.length_append, length_toBytes, length_toBytes, List.append_nil] at field
    simpa [encodeArray] using field
  constructor
  · rw [ArrayReads, offset, size, length]
    decide
  · rw [arrayRead, offset, size]
    simp [entry]

theorem flag_read (flag : Bool) :
    (encodeBool flag).length = 32 ∧ decide (wordAt (encodeBool flag) 0 = 1) = flag := by
  cases flag <;> exact ⟨rfl, by decide +kernel⟩

end Encoding

section Verdicts
variable {ratio : Nat} {nonce : Address → Nat} {starved : Starved}

/-- What a verdict of the checker says about the two nonces. -/
structure Judgement (ratio current : Nat) (lastNonces : List Nat) (ts : Nat) (passed : Bool)
    (nonces : List Nat) : Prop where
  seen : nonces = [] ∨ nonces = [current]
  worked : passed = true → nonces = [current] ∧ ∃ last rest, lastNonces = last :: rest ∧
    last ≤ current ∧ ratio * ts ≤ (current - last) * 10 ^ 18

theorem isRatioPass_spec {current ts : Nat} {lastNonces : List Nat}
    (ran : isRatioPass ratio [current] lastNonces ts = .ok true) :
    ∃ last rest, lastNonces = last :: rest ∧ last ≤ current ∧
      ratio * ts ≤ (current - last) * 10 ^ 18 := by
  unfold isRatioPass at ran
  split at ran
  · next some =>
    simp only [bind_eq_ok, readAt_eq_ok] at ran
    obtain ⟨_, here, last, there, ran⟩ := ran
    cases here
    split at ran
    · next later =>
      simp only [bind_eq_ok, checkedSub_eq_ok, checkedMul_eq_ok, pure_eq_ok,
        decide_eq_true_eq] at ran
      obtain ⟨_, ⟨order, rfl⟩, _, ⟨-, rfl⟩, enough⟩ := ran
      cases lastNonces with
      | nil => cases there
      | cons first rest =>
        cases there
        exact ⟨last, rest, rfl, order, (Nat.le_div_iff_mul_le some).mp enough⟩
    · cases ran
  · cases ran

theorem checkRatioPass_judged {multisig : Address} {lastNonces nonces : List Nat} {ts : Nat}
    {passed : Bool} (small : nonce multisig < 2 ^ 256)
    (ran : checkRatioPass (answer ratio nonce starved) multisig lastNonces ts =
      .ok (passed, nonces)) :
    Judgement ratio (nonce multisig) lastNonces ts passed nonces := by
  obtain ⟨reads, decoded⟩ := nonces_read small
  rcases checkRatioPass_eq_ok.mp ran with ⟨-, same⟩ | ⟨shaped, -, same, second⟩
  · cases same
    exact ⟨.inl rfl, fun yes => absurd yes Bool.false_ne_true⟩
  · have fed : starved.getMultisigNonces = false := by
      cases hungry : starved.getMultisigNonces with
      | false => rfl
      | true =>
        have failed := shaped.1
        simp [answer, hungry] at failed
    have data : ((answer ratio nonce starved).getMultisigNonces multisig).returnData =
        encodeArray [nonce multisig] := by
      simp [answer, fed, StakingActivityChecker.getMultisigNonces]
    dsimp only at same
    rw [data, decoded] at same
    subst same
    refine ⟨.inr rfl, fun yes => ⟨rfl, ?_⟩⟩
    dsimp only at second
    rcases second with ⟨-, no⟩ | ⟨shaped', -, bit⟩
    · rw [yes] at no
      cases no
    · rw [ratioAnswer, data, decoded] at shaped' bit
      simp only [answer] at shaped' bit
      cases hungry : starved.isRatioPass with
      | true =>
        have failed := shaped'.1
        simp [hungry] at failed
      | false =>
        simp only [hungry, Bool.false_eq_true, if_false] at shaped' bit
        cases judged : isRatioPass ratio [nonce multisig] lastNonces ts with
        | error reason =>
          rw [judged] at shaped'
          have failed := shaped'.1
          simp [returned] at failed
        | ok flag =>
          rw [judged, returned, (flag_read flag).2, yes] at bit
          rw [← bit] at judged
          exact isRatioPass_spec judged

end Verdicts

section Work
variable {ratio : Nat} {nonces : Address → Nat} {begun : Nat → Nat}

/-- A session has passed no longer than the transactions of its multisig allow, up to the
nonce the last check saw. A check that fails leaves no nonces behind. -/
def WorkDone (ratio begun : Nat) (nonces : Address → Nat) (sInfo : ServiceInfo)
    (intervals : List Interval) : Prop :=
  ∃ seen, begun ≤ seen ∧ seen ≤ nonces sInfo.multisig ∧
    (sInfo.nonces = [] ∨ sInfo.nonces = [seen]) ∧
    ratio * passedLength intervals ≤ (seen - begun) * 10 ^ 18

theorem WorkDone.judged {start : Nat} {sInfo sInfo' : ServiceInfo} {intervals : List Interval}
    (before : WorkDone ratio start nonces sInfo intervals) {i : Interval}
    (judgement : Judgement ratio (nonces sInfo.multisig) sInfo.nonces i.length i.passed
      sInfo'.nonces)
    (multisig : sInfo'.multisig = sInfo.multisig) :
    WorkDone ratio start nonces sInfo' (intervals ++ [i]) := by
  obtain ⟨seen, after, known, recorded, work⟩ := before
  unfold WorkDone
  rw [multisig, passedLength_append]
  cases passed : i.passed with
  | true =>
    obtain ⟨current, last, rest, listed, order, enough⟩ := judgement.worked passed
    have same : last = seen := by
      rcases recorded with none | one
      · rw [none] at listed
        cases listed
      · rw [one] at listed
        cases listed
        rfl
    subst same
    refine ⟨nonces sInfo.multisig, after.trans order, le_refl _, .inr current, ?_⟩
    rw [if_pos rfl, Nat.mul_add]
    have sum : (last - start) * 10 ^ 18 + (nonces sInfo.multisig - last) * 10 ^ 18 =
        (nonces sInfo.multisig - start) * 10 ^ 18 := by
      rw [← Nat.add_mul]
      congr 1
      omega
    rw [← sum]
    exact Nat.add_le_add work enough
  | false =>
    rw [if_neg Bool.false_ne_true, Nat.add_zero]
    rcases judgement.seen with none | current
    · exact ⟨seen, after, known, .inl none, work⟩
    · refine ⟨nonces sInfo.multisig, after.trans known, le_refl _, .inr current, work.trans ?_⟩
      exact Nat.mul_le_mul_right _ (Nat.sub_le_sub_right known start)

/-- Every running session has done its work. -/
def Worked (ratio : Nat) (nonces : Address → Nat) (begun : Nat → Nat) (s : StakingState)
    (history : List StakingEvent) : Prop :=
  ∀ serviceId session, sessionOf history serviceId = some session →
    WorkDone ratio (begun serviceId) nonces (s.mapServiceInfo serviceId) session.intervals

namespace Worked
variable {self : Address} {w : StakingWorld} {s s' : StakingState}
  {history history' : List StakingEvent}

theorem of_records (before : Worked ratio nonces begun s history)
    (records : s'.mapServiceInfo = s.mapServiceInfo)
    (sessions : ∀ serviceId, sessionOf history' serviceId = sessionOf history serviceId) :
    Worked ratio nonces begun s' history' := by
  intro serviceId session running
  rw [sessions] at running
  rw [records]
  exact before serviceId session running

/-- Transactions of multisigs only add to the work. -/
theorem execute (before : Worked ratio nonces begun s history) (multisig : Address) :
    Worked ratio (Function.update nonces multisig (nonces multisig + 1)) begun s history := by
  intro serviceId session running
  obtain ⟨seen, after, known, recorded, work⟩ := before serviceId session running
  refine ⟨seen, after, known.trans ?_, recorded, work⟩
  by_cases same : (s.mapServiceInfo serviceId).multisig = multisig
  · rw [same, Function.update_self]
    exact Nat.le_succ _
  · rw [Function.update_of_ne same]

theorem taken {verdicts : List Verdict} {result : CheckpointResult} {starved : Nat → Starved}
    (before : Worked ratio nonces begun w.store w.history) (book : StakingBook self w)
    (small : ∀ multisig, nonces multisig < 2 ^ 256)
    (taken : Taken w.timestamp (fun i => answer ratio nonces (starved i)) verdicts w.store s'
      result) :
    Worked ratio nonces begun s' (w.history ++ StakingWorld.accounted w.timestamp
      (fun i => answer ratio nonces (starved i)) w.store result) := by
  intro serviceId session running
  have distinct : (verdicts.map (·.serviceId)).Nodup := taken.services ▸ book.sound.distinct
  rw [accounted_eq taken, sessionOf_append] at running
  simp only [Session.next, Option.map_eq_some_iff] at running
  obtain ⟨session, running, rfl⟩ := running
  have done := before serviceId session running
  by_cases member : serviceId ∈ w.store.setServiceIds
  · obtain ⟨v, listed, rfl⟩ := taken.judged_service member
    obtain ⟨i, at_i⟩ := List.mem_iff_getElem?.mp listed
    have judgement := checkRatioPass_judged (small _) (taken.checked i v at_i)
    have record := taken.records v listed
    simp only [filter_key distinct _ listed]
    refine done.judged (i := intervalOf w v) ?_ (by rw [record]; rfl)
    rw [intervalOf_length (taken.timed v listed), record]
    exact judgement
  · have absent : serviceId ∉ verdicts.map (·.serviceId) := taken.services ▸ member
    simp only [filter_key_absent absent, List.append_nil]
    rw [taken.unchanged member]
    exact done

theorem checkpoint {result : CheckpointResult} {starved : Nat → Starved}
    (before : Worked ratio nonces begun w.store w.history) (book : StakingBook self w)
    (small : ∀ multisig, nonces multisig < 2 ^ 256)
    (ran : StakingBase.checkpoint w.timestamp (fun i => answer ratio nonces (starved i))
      { w.store with locked := 2 } = .ok (s', result)) :
    Worked ratio nonces begun s' (w.history ++ StakingWorld.accounted w.timestamp
      (fun i => answer ratio nonces (starved i)) w.store result) := by
  have sound : SoundSet ({ w.store with locked := 2 } : StakingState).setServiceIds := book.sound
  rcases checkpoint_spec sound ran with ⟨rfl, idle, -⟩ | ⟨verdicts, taken⟩
  · rw [StakingWorld.accounted, if_pos idle, List.append_nil]
    exact before
  · have locked : StakingBook self { w with store := { w.store with locked := 2 } } := { book with }
    exact Worked.taken (w := { w with store := { w.store with locked := 2 } }) before locked small
      taken

theorem checkpointIf {result : Option CheckpointResult} {starved : Nat → Starved}
    {execCheckPoint : Bool} (before : Worked ratio nonces begun w.store w.history)
    (book : StakingBook self w) (small : ∀ multisig, nonces multisig < 2 ^ 256)
    (ran : StakingBase.checkpointIf execCheckPoint w.timestamp
      (fun i => answer ratio nonces (starved i)) { w.store with locked := 2 } =
        .ok (s', result)) :
    Worked ratio nonces begun s' (w.history ++ StakingWorld.accountedIf w.timestamp
      (fun i => answer ratio nonces (starved i)) w.store result) := by
  rcases checkpointIf_spec ran with ⟨rfl, rfl⟩ | ⟨result, checkpointed, rfl⟩
  · rw [StakingWorld.accountedIf, List.append_nil]
    exact before
  · exact before.checkpoint book small checkpointed

/-- A service that joins has no work behind it. -/
theorem join (before : Worked ratio nonces begun s history) (serviceId : Nat) (sender : Address)
    (timestamp : Nat) {sInfo : ServiceInfo} {start : Nat} (now : nonces sInfo.multisig = start)
    (recorded : sInfo.nonces = [start]) :
    Worked ratio nonces (Function.update begun serviceId start)
      { s with
        mapServiceInfo := Function.update s.mapServiceInfo serviceId sInfo
        setServiceIds := s.setServiceIds ++ [serviceId]
        locked := 1 }
      (history ++ [.staked serviceId sender timestamp]) := by
  intro id session running
  rw [sessionOf_append, Session.next] at running
  by_cases same : serviceId = id
  · subst same
    rw [if_pos rfl, Option.some_inj] at running
    subst running
    simp only [Function.update_self]
    exact ⟨start, le_refl _, now.ge, .inr recorded, Nat.zero_le _⟩
  · rw [if_neg same] at running
    simp only [Function.update_of_ne (Ne.symm same)]
    exact before id session running

theorem leave (before : Worked ratio nonces begun s history) (serviceId available : Nat)
    (items : List Nat) :
    Worked ratio nonces begun
      { s with
        mapServiceInfo := Function.update s.mapServiceInfo serviceId ServiceInfo.empty
        setServiceIds := items
        availableRewards := available }
      (history ++ [.unstaked serviceId]) := by
  intro id session running
  rw [sessionOf_append, Session.next] at running
  by_cases same : serviceId = id
  · rw [if_pos same] at running
    cases running
  · rw [if_neg same] at running
    simp only [Function.update_of_ne (Ne.symm same)]
    exact before id session running

theorem collect (before : Worked ratio nonces begun s history) (serviceId reward : Nat) :
    Worked ratio nonces begun
      { s with
        mapServiceInfo := Function.update s.mapServiceInfo serviceId
          { s.mapServiceInfo serviceId with reward := 0 } }
      (history ++ [.claimed serviceId reward]) := by
  intro id session running
  rw [sessionOf_append, Session.next] at running
  by_cases same : serviceId = id
  · subst same
    rw [if_pos rfl, Option.map_eq_some_iff] at running
    obtain ⟨session, running, rfl⟩ := running
    simp only [Function.update_self]
    exact before serviceId session running
  · rw [if_neg same] at running
    simp only [Function.update_of_ne (Ne.symm same)]
    exact before id session running

end Worked

section Calls
variable {self : Address} {w : StakingWorld} {out : Outcome StakingWorld StakingFrame}

/-- Payments leave records and sessions alone. -/
theorem withdraw_sessions {l : Withdrawal} (ran : w.withdraw self l = .ok out) (serviceId : Nat) :
    sessionOf out.state.history serviceId = sessionOf w.history serviceId := by
  rw [StakingWorld.withdraw] at ran
  split at ran
  · split at ran
    · cases ran
      rw [Outcome.state_done, sessionOf_append, Session.next]
    · simp only [bind_eq_ok, pure_eq_ok, StakingWorld.giveBack] at ran
      obtain ⟨w', ⟨nft, -, rfl⟩, rfl⟩ := ran
      rw [Outcome.state_done, sessionOf_append, Session.next]
  · simp only [bind_eq_ok, pure_eq_ok] at ran
    obtain ⟨_, -, rfl⟩ := ran
    rfl

theorem resume_sessions {frame : StakingFrame}
    (ran : StakingWorld.resume self frame () w = .ok out) (serviceId : Nat) :
    sessionOf out.state.history serviceId = sessionOf w.history serviceId := by
  cases frame with
  | deposit =>
    cases ran
    rfl
  | withdraw l => exact withdraw_sessions ran serviceId

/-- The nonces in a new record are those the multisig has. -/
theorem stake_nonces {sender : Address} {timestamp : Nat} {answers : Nat → ActivityAnswer}
    {view : StakeView} {serviceId info : Nat} {nft : ERC721} {s s' : StakingState}
    {nft' : ERC721} {result : CheckpointResult}
    (ran : stake self sender timestamp answers view serviceId info nft s =
      .ok (s', nft', result)) :
    view.nonces = some (s'.mapServiceInfo serviceId).nonces := by
  simp only [stake, bind_eq_ok, Prod.exists, revertIf_eq_ok, exists_const] at ran
  obtain ⟨_, -, _, _, -, -, -, -, _, -, ran⟩ := ran
  split at ran
  · cases ran
  · next nonces viewed =>
    simp only [bind_eq_ok, pure_eq_ok, Prod.mk.injEq] at ran
    obtain ⟨_, -, _, -, rfl, -, -⟩ := ran
    rw [viewed]
    simp only [unlock, Function.update_self]

theorem worked_enter {call : StakingCall} {begun : Nat → Nat} {starved : Nat → Starved}
    (before : Worked ratio nonces begun w.store w.history) (book : StakingBook self w)
    (small : ∀ multisig, nonces multisig < 2 ^ 256)
    (ran : StakingWorld.enter self
      (call.asking nonces fun i => answer ratio nonces (starved i)) w = .ok out) :
    Worked ratio nonces (ActivityWorld.noteBegun call ⟨w, nonces, begun⟩) out.state.store
      out.state.history := by
  have untouched (foreign : call.foreign) : Worked ratio nonces begun out.state.store
      out.state.history := by
    have foreign' : (call.asking nonces fun i => answer ratio nonces (starved i)).foreign := by
      cases call <;> exact foreign
    obtain ⟨store, history, -⟩ := foreign_enter foreign' ran
    rw [store, history]
    exact before
  cases call with
  | tick | mint | approve | setApprovalForAll | transferFrom => exact untouched trivial
  | deposit sender amount =>
    simp only [StakingCall.asking, StakingWorld.enter] at ran
    split at ran
    · simp only [bind_eq_ok, pure_eq_ok] at ran
      obtain ⟨s, credited, rfl⟩ := ran
      obtain ⟨-, rfl⟩ := credit_spec credited
      exact before.of_records rfl fun _ => rfl
    · cases ran
  | receive sender value =>
    simp only [StakingCall.asking, StakingWorld.enter] at ran
    split at ran
    · cases ran
    · simp only [bind_eq_ok, pure_eq_ok] at ran
      obtain ⟨s, credited, rfl⟩ := ran
      obtain ⟨-, rfl⟩ := credit_spec credited
      exact before.of_records rfl fun _ => rfl
  | checkpoint sender answers =>
    simp only [StakingCall.asking, StakingWorld.enter, bind_eq_ok, Prod.exists, lock_eq_ok,
      pure_eq_ok] at ran
    obtain ⟨_, ⟨-, rfl⟩, s₁, result, checkpointed, rfl⟩ := ran
    have settled := before.checkpoint book small checkpointed
    exact settled.of_records rfl fun _ => rfl
  | stake sender answers view serviceId info =>
    simp only [StakingCall.asking, StakingWorld.enter, bind_eq_ok, Prod.exists, pure_eq_ok] at ran
    obtain ⟨s', nft, result, staked, rfl⟩ := ran
    have recorded := stake_nonces staked
    obtain ⟨-, s₁, nonces', checkpointed, -, -, -, -, rfl⟩ := stake_spec staked
    simp only [Function.update_self, Option.some_inj] at recorded
    have settled := before.checkpoint book small checkpointed
    refine settled.join serviceId sender w.timestamp ?_ ?_
    · rfl
    · exact recorded.symm
  | unstake sender answers view serviceId enforced =>
    simp only [StakingCall.asking, StakingWorld.enter, bind_eq_ok, Prod.exists] at ran
    obtain ⟨s', payout, unstaked, ran⟩ := ran
    obtain ⟨-, s₁, result, items, checkpointed, -, -, reported, -, -, rfl⟩ :=
      unstake_spec book.sound unstaked
    have left := (before.checkpoint book small checkpointed).leave serviceId
      (s₁.availableRewards + if enforced then payout.reward else 0) items
    rw [reported] at ran
    split at ran
    · exact left.of_records (withdraw_records ran) (withdraw_sessions ran)
    · simp only [bind_eq_ok, pure_eq_ok, StakingWorld.giveBack] at ran
      obtain ⟨w', ⟨nft, -, rfl⟩, rfl⟩ := ran
      exact left.of_records rfl fun _ => rfl
  | claim sender answers view serviceId execCheckPoint =>
    simp only [StakingCall.asking, StakingWorld.enter, bind_eq_ok, Prod.exists] at ran
    obtain ⟨s', payout, claimed, ran⟩ := ran
    obtain ⟨-, -, s₁, checkpointed, -, -, rfl⟩ := claim_spec claimed
    have collected := (before.checkpointIf book small checkpointed).collect serviceId payout.reward
    exact collected.of_records (withdraw_records ran) (withdraw_sessions ran)

end Calls
end Work

section Runs
variable {ratio : Nat} {contract : Address}

/-- A run with the multisigs is a run of the staking contract. -/
theorem activity_projects (ratio : Nat) (contract : Address) :
    Projects (activityMachine ratio contract) (activityDiscipline contract)
      (stakingMachine contract) (stakingDiscipline contract) ActivityWorld.staking
      fun frame => [frame] := by
  intro w frames w' frames' taken
  simp only [List.flatMap_singleton']
  cases taken with
  | entered call allowed ran =>
    cases call with
    | staking call starved =>
      simp only [activityMachine, ActivityWorld.enter, bind_eq_ok, pure_eq_ok] at ran
      obtain ⟨out, ran, rfl⟩ := ran
      rw [Outcome.state_map, Outcome.pending_map]
      refine .tail .refl (.entered _ ?_ ran)
      cases call <;> exact allowed
    | execTransaction multisig =>
      simp only [activityMachine, ActivityWorld.enter, bind_eq_ok, pure_eq_ok] at ran
      obtain ⟨_, -, rfl⟩ := ran
      exact .refl
  | resumed answer allowed ran =>
    simp only [activityMachine, ActivityWorld.resume, bind_eq_ok, pure_eq_ok] at ran
    obtain ⟨out, ran, rfl⟩ := ran
    rw [Outcome.state_map, Outcome.pending_map]
    exact .tail .refl (.resumed answer trivial ran)

/-- What is known of a staking contract and of the work of its services. -/
structure WorkBook (ratio : Nat) (w : ActivityWorld) : Prop where
  small : ∀ multisig, w.nonces multisig < 2 ^ 256
  worked : Worked ratio w.nonces w.begun w.staking.store w.staking.history

theorem workBook_preserved (ratio : Nat) (contract : Address) :
    Preserved (activityMachine ratio contract) (activityDiscipline contract)
      (fun w frames => StakingBaseline contract w.staking frames)
      fun w _ => WorkBook ratio w := by
  intro w frames w' frames' taken base before
  cases taken with
  | entered call allowed ran =>
    cases call with
    | staking call starved =>
      simp only [activityMachine, ActivityWorld.enter, bind_eq_ok, pure_eq_ok] at ran
      obtain ⟨out, ran, rfl⟩ := ran
      rw [Outcome.state_map]
      exact ⟨before.small, worked_enter before.worked base.book before.small ran⟩
    | execTransaction multisig =>
      simp only [activityMachine, ActivityWorld.enter, bind_eq_ok, pure_eq_ok,
        checkedAdd_eq_ok] at ran
      obtain ⟨_, ⟨fits, rfl⟩, rfl⟩ := ran
      refine ⟨fun other => ?_, before.worked.execute multisig⟩
      simp only [Outcome.state_done]
      by_cases same : other = multisig
      · rw [same, Function.update_self]
        exact fits
      · rw [Function.update_of_ne same]
        exact before.small other
  | resumed answer allowed ran =>
    simp only [activityMachine, ActivityWorld.resume, bind_eq_ok, pure_eq_ok] at ran
    obtain ⟨out, ran, rfl⟩ := ran
    rw [Outcome.state_map]
    exact ⟨before.small, before.worked.of_records (resume_records ran) (resume_sessions ran)⟩

/-- In every run of a staking contract with this checker: the time a service has passed since
it was staked is at most what its multisig made transactions for since then, and so is, while
the rewards sufficed, what it was credited. -/
theorem paid_for_work {start : ActivityWorld} (fresh : start.staking.Fresh contract)
    (small : ∀ multisig, start.nonces multisig < 2 ^ 256)
    {c : Config ActivityWorld StakingFrame}
    (run : Reachable (activityMachine ratio contract) (activityDiscipline contract) start c)
    {serviceId : Nat} {session : Session}
    (running : sessionOf c.state.staking.history serviceId = some session) :
    let executed := c.state.nonces (c.state.staking.store.mapServiceInfo serviceId).multisig -
      c.state.begun serviceId
    ratio * passedLength session.intervals ≤ executed * 10 ^ 18 ∧
      (session.shortfall = false → ratio * session.credited ≤
        c.state.staking.store.params.rewardsPerSecond * (executed * 10 ^ 18)) := by
  have sessions := (stakingBaseline_preserved fresh.nonzero).join
    (moves_preserved fresh.nonzero SessionBook.move)
  have base := Preserved.lift (activity_projects ratio contract) sessions
  simp only [List.flatMap_singleton'] at base
  have work : Preserved (activityMachine ratio contract) (activityDiscipline contract)
      (fun w frames => StakingBaseline contract w.staking frames ∧ SessionBook w.staking)
      fun w _ => WorkBook ratio w :=
    fun w frames w' frames' taken given before =>
      workBook_preserved ratio contract w frames w' frames' taken given.1 before
  obtain ⟨⟨-, book⟩, done⟩ := run.invariant (base.join work)
    ⟨⟨stakingBaseline_fresh fresh, sessionBook_fresh fresh⟩, small, by
      intro id session running
      rw [fresh.empty] at running
      cases running⟩
  obtain ⟨seen, after, known, -, enough⟩ := done.worked serviceId session running
  have bound : ratio * passedLength session.intervals ≤
      (c.state.nonces (c.state.staking.store.mapServiceInfo serviceId).multisig -
        c.state.begun serviceId) * 10 ^ 18 :=
    enough.trans (Nat.mul_le_mul_right _ (Nat.sub_le_sub_right known _))
  refine ⟨bound, fun enough => ?_⟩
  rcases book serviceId with ⟨none, -⟩ | ⟨session', running', agrees⟩
  · rw [none] at running
    cases running
  · rw [running] at running'
    cases running'
    rw [agrees.paid enough, Nat.mul_left_comm]
    exact Nat.mul_le_mul_left _ bound

/-- Nobody has made a transaction yet. -/
def idleMultisigs : ActivityWorld := ⟨sampleStaking, fun _ => 0, fun _ => 0⟩

/-- One transaction every hundred seconds is asked for, and two are made in 150 seconds; the
check of the next 150 seconds runs out of gas. -/
def workedScript : List (Move ActivityCall Unit) :=
  let fed : Nat → Starved := fun _ => ⟨false, false⟩
  let starved : Nat → Starved := fun _ => ⟨true, false⟩
  [.call (.staking (.mint 21) fed),
    .call (.staking (.approve sampleOwner 5 1) fed),
    .call (.staking (.receive sampleOwner 100000) fed),
    .call (.staking (.stake sampleOwner (activeAnswer 1) deployedView 1 0) fed),
    .call (.execTransaction 31),
    .call (.execTransaction 31),
    .call (.staking (.tick 150) fed),
    .call (.staking (.checkpoint sampleOwner (activeAnswer 1)) fed),
    .call (.execTransaction 31),
    .call (.staking (.tick 150) fed),
    .call (.staking (.checkpoint sampleOwner (activeAnswer 1)) starved)]

theorem paid_for_work_once : ∃ c session,
    Reachable (activityMachine (10 ^ 16) 5) (activityDiscipline 5) idleMultisigs c ∧
      sessionOf c.state.staking.history 1 = some session ∧
      session.intervals = [⟨1000, 1150, true⟩, ⟨1150, 1300, false⟩] ∧
      10 ^ 16 * passedLength session.intervals ≤
        (c.state.nonces (c.state.staking.store.mapServiceInfo 1).multisig - c.state.begun 1) *
          10 ^ 18 := by
  let session : Session :=
    ⟨21, 1000, [⟨1000, 1150, true⟩, ⟨1150, 1300, false⟩], 1500, 0, false⟩
  obtain ⟨c, run, running⟩ := Machine.play_observed (activityDiscipline 5)
    (activityMachine (10 ^ 16) 5) idleMultisigs workedScript
    (fun c => sessionOf c.state.staking.history 1) (some session) (by decide +kernel)
  have worked := (paid_for_work sampleStaking_fresh (fun _ => Nat.two_pow_pos 256) run running).1
  exact ⟨c, session, run, running, rfl, worked⟩

end Runs
end AutonolasRegistries.Guarantees
