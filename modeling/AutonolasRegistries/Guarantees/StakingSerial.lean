import AutonolasRegistries.Library.Serial
import AutonolasRegistries.Guarantees.StakingExit

/-!
# Staking without overlapping calls

A deposit, a claim and an unstake hand over control at every transfer. The lock keeps everybody
out of the staking contract meanwhile, but services are still minted, approved and transferred,
and time passes. None of that meets what the suspended call has yet to do: each state of the
contract between calls is one that calls made one after the other reach.
`StakingBase.sol:548-587`, `:883-983`, `StakingToken.sol:102-122`.
-/
namespace AutonolasRegistries.Guarantees
open Library Source StakingBase

section Tokens
variable {t t₁ t₂ : ERC721} {account owner : Address} {id id' : Nat}

/-- What somebody else does with other tokens can come after an account returned its own. -/
theorem mint_later (nonzero : account ≠ 0) (held : t.owners id = account) {recipient : Address}
    (ran : t.mint recipient id' = .ok t₁)
    (returned : t₁.transferFrom account account owner id = .ok t₂) :
    ∃ t', t.transferFrom account account owner id = .ok t' ∧ t'.mint recipient id' = .ok t₂ := by
  obtain ⟨valid, unminted, rfl⟩ := ERC721.mint_eq_ok.mp ran
  obtain ⟨-, receiver, -, rfl⟩ := ERC721.transferFrom_eq_ok.mp returned
  have other : id' ≠ id := by
    rintro rfl
    exact nonzero (held.symm.trans unminted)
  refine ⟨_, ERC721.transferFrom_eq_ok.mpr ⟨held.symm, receiver, .inl rfl, rfl⟩,
    ERC721.mint_eq_ok.mpr ⟨valid, ?_, ?_⟩⟩
  · exact (Function.update_of_ne other _ _).trans unminted
  · rw [Function.update_comm other]

theorem approve_later (keeps : t.Keeps account) (held : t.owners id = account)
    {sender spender : Address} (apart : sender ≠ account)
    (ran : t.approve sender spender id' = .ok t₁)
    (returned : t₁.transferFrom account account owner id = .ok t₂) :
    ∃ t', t.transferFrom account account owner id = .ok t' ∧
      t'.approve sender spender id' = .ok t₂ := by
  obtain ⟨allowed, rfl⟩ := ERC721.approve_eq_ok.mp ran
  obtain ⟨-, receiver, -, rfl⟩ := ERC721.transferFrom_eq_ok.mp returned
  have other : id' ≠ id := by
    rintro rfl
    rw [held, keeps.operators] at allowed
    simp [apart] at allowed
  refine ⟨_, ERC721.transferFrom_eq_ok.mpr ⟨held.symm, receiver, .inl rfl, rfl⟩,
    ERC721.approve_eq_ok.mpr ⟨?_, ?_⟩⟩
  · dsimp only
    rwa [Function.update_of_ne other]
  · rw [Function.update_comm other]

theorem transferFrom_later (keeps : t.Keeps account) (held : t.owners id = account)
    {sender : Caller} {holder recipient : Address} (apart : sender.val ≠ account)
    (ran : t.transferFrom sender holder recipient id' = .ok t₁)
    (returned : t₁.transferFrom account account owner id = .ok t₂) :
    ∃ t', t.transferFrom account account owner id = .ok t' ∧
      t'.transferFrom sender holder recipient id' = .ok t₂ := by
  obtain ⟨from_holder, valid, allowed, rfl⟩ := ERC721.transferFrom_eq_ok.mp ran
  obtain ⟨-, receiver, -, rfl⟩ := ERC721.transferFrom_eq_ok.mp returned
  have other : id' ≠ id := by
    rintro rfl
    rw [from_holder, held, keeps.operators, keeps.spenders id' held] at allowed
    simp [apart, sender.property] at allowed
  refine ⟨_, ERC721.transferFrom_eq_ok.mpr ⟨held.symm, receiver, .inl rfl, rfl⟩,
    ERC721.transferFrom_eq_ok.mpr ⟨?_, valid, ?_, ?_⟩⟩
  · exact from_holder.trans (Function.update_of_ne other _ _).symm
  · dsimp only
    rwa [Function.update_of_ne other]
  · rw [Function.update_comm other, Function.update_comm other]

end Tokens

section Visits
variable {self : Address} {w w₁ : StakingWorld} {call : StakingCall}

theorem token_ok {nft : ERC721} {run : Except Revert ERC721} (moved : run = .ok nft) :
    w.token run = .ok (.done { w with nft }) := by
  rw [moved]
  rfl

/-- A call of others neither reads nor writes the storage of the staking contract. -/
theorem foreign_beside (foreign : call.foreign)
    (ran : StakingWorld.enter self call w = .ok (.done w₁)) (store : StakingState)
    (history : List StakingEvent) :
    StakingWorld.enter self call { w with store, history } =
      .ok (.done { w₁ with store, history }) := by
  cases call with
  | tick elapsed =>
    cases ran
    rfl
  | mint recipient =>
    simp only [StakingWorld.enter, bind_eq_ok, tokenCall_eq_ok, pure_eq_ok] at ran ⊢
    obtain ⟨nft, minted, same⟩ := ran
    cases same
    exact ⟨nft, minted, rfl⟩
  | setApprovalForAll sender operator approved =>
    cases ran
    rfl
  | approve sender spender id =>
    obtain ⟨nft, approved, same⟩ := token_eq_ok ran
    cases same
    exact token_ok approved
  | transferFrom sender holder recipient id =>
    obtain ⟨nft, moved, same⟩ := token_eq_ok ran
    cases same
    exact token_ok moved
  | _ => cases foreign

/-- A call of others that ran before a service went back can run after it. -/
theorem foreign_later (nonzero : self ≠ 0) (foreign : call.foreign)
    (apart : call.sender ≠ some self) (keeps : w.nft.Keeps self) {owner : Address} {id : Nat}
    (held : w.nft.owners id = self) (ran : StakingWorld.enter self call w = .ok (.done w₁))
    {nft₁ : ERC721} (returned : w₁.nft.transferFrom self self owner id = .ok nft₁)
    (store : StakingState) (history : List StakingEvent) :
    ∃ nft, w.nft.transferFrom self self owner id = .ok nft ∧
      StakingWorld.enter self call { w with store, nft, history } =
        .ok (.done { w₁ with store, nft := nft₁, history }) := by
  cases call with
  | tick elapsed =>
    cases ran
    exact ⟨nft₁, returned, rfl⟩
  | mint recipient =>
    simp only [StakingWorld.enter, bind_eq_ok, tokenCall_eq_ok, pure_eq_ok] at ran ⊢
    obtain ⟨nft, minted, same⟩ := ran
    cases same
    obtain ⟨nft', back, minted'⟩ := mint_later nonzero held minted returned
    exact ⟨nft', back, nft₁, minted', rfl⟩
  | setApprovalForAll sender operator approved =>
    cases ran
    obtain ⟨-, receiver, -, rfl⟩ := ERC721.transferFrom_eq_ok.mp returned
    exact ⟨_, ERC721.transferFrom_eq_ok.mpr ⟨held.symm, receiver, .inl rfl, rfl⟩, rfl⟩
  | approve sender spender id' =>
    have apart : sender.val ≠ self := fun same => apart (congrArg some same)
    obtain ⟨nft, approved, same⟩ := token_eq_ok ran
    cases same
    obtain ⟨nft', back, approved'⟩ := approve_later keeps held apart approved returned
    exact ⟨nft', back, token_ok approved'⟩
  | transferFrom sender holder recipient id' =>
    have apart : sender.val ≠ self := fun same => apart (congrArg some same)
    obtain ⟨nft, moved, same⟩ := token_eq_ok ran
    cases same
    obtain ⟨nft', back, moved'⟩ := transferFrom_later keeps held apart moved returned
    exact ⟨nft', back, token_ok moved'⟩
  | _ => cases foreign

/-- It leaves the services of the staking contract where they are. -/
theorem foreign_held (nonzero : self ≠ 0) (foreign : call.foreign)
    (apart : call.sender ≠ some self) (guarded : w.nft.Guarded) (keeps : w.nft.Keeps self)
    {out : Outcome StakingWorld StakingFrame} (ran : StakingWorld.enter self call w = .ok out)
    {id : Nat} (held : w.nft.owners id = self) : out.state.nft.owners id = self := by
  cases call with
  | tick elapsed =>
    cases ran
    exact held
  | mint recipient =>
    simp only [StakingWorld.enter, bind_eq_ok, tokenCall_eq_ok, pure_eq_ok] at ran
    obtain ⟨nft, minted, rfl⟩ := ran
    exact (ERC721.mint_keeps guarded keeps nonzero minted).2 id held
  | setApprovalForAll sender operator approved =>
    cases ran
    exact held
  | approve sender spender id' =>
    obtain ⟨nft, approved, rfl⟩ := token_eq_ok ran
    exact (congrFun (ERC721.approve_guarded guarded approved).2 id).trans held
  | transferFrom sender holder recipient id' =>
    have apart : sender.val ≠ self := fun same => apart (congrArg some same)
    obtain ⟨nft, moved, rfl⟩ := token_eq_ok ran
    exact ERC721.transferFrom_keeps keeps apart moved id held
  | _ => cases foreign

end Visits

/-- An unstake that waits for a payment has the service it will give back. -/
def HasService (self : Address) (w : StakingWorld) (frames : List StakingFrame) : Prop :=
  ∀ l owner, frames = [.withdraw l] → l.returnTo = some owner → w.nft.owners l.serviceId = self

section Runs
variable {self : Address} {w : StakingWorld}

theorem withdraw_pending {l l' : Withdrawal} {out : Outcome StakingWorld StakingFrame}
    (ran : w.withdraw self l = .ok out) (waits : out.pending = [.withdraw l']) :
    l'.serviceId = l.serviceId ∧ l'.returnTo = l.returnTo ∧ out.state = w := by
  rw [StakingWorld.withdraw] at ran
  split at ran
  · split at ran
    · cases ran
      cases waits
    · simp only [bind_eq_ok, pure_eq_ok] at ran
      obtain ⟨w', -, rfl⟩ := ran
      cases waits
  · simp only [bind_eq_ok, pure_eq_ok] at ran
    obtain ⟨_, -, rfl⟩ := ran
    cases waits
    exact ⟨rfl, rfl, rfl⟩

/-- Who unstakes is the owner on record, so the service is there. -/
theorem enter_hasService {call : StakingCall} {out : Outcome StakingWorld StakingFrame}
    (book : StakingBook self w) (ran : StakingWorld.enter self call w = .ok out) :
    HasService self out.state out.pending := by
  intro l owner waits returnTo
  cases call with
  | tick | mint | approve | setApprovalForAll | transferFrom =>
    rw [(foreign_enter (by trivial) ran).2.2] at waits
    cases waits
  | deposit sender amount =>
    simp only [StakingWorld.enter] at ran
    split at ran
    · simp only [bind_eq_ok, pure_eq_ok] at ran
      obtain ⟨s, -, rfl⟩ := ran
      cases waits
    · cases ran
  | receive sender value =>
    simp only [StakingWorld.enter] at ran
    split at ran
    · cases ran
    · simp only [bind_eq_ok, pure_eq_ok] at ran
      obtain ⟨s, -, rfl⟩ := ran
      cases waits
  | checkpoint sender answers =>
    simp only [StakingWorld.enter, bind_eq_ok, Prod.exists, pure_eq_ok] at ran
    obtain ⟨_, -, s₁, result, -, rfl⟩ := ran
    cases waits
  | stake sender answers view serviceId info =>
    simp only [StakingWorld.enter, bind_eq_ok, Prod.exists, pure_eq_ok] at ran
    obtain ⟨s', nft, result, -, rfl⟩ := ran
    cases waits
  | unstake sender answers view serviceId enforced =>
    simp only [StakingWorld.enter, bind_eq_ok, Prod.exists] at ran
    obtain ⟨s', payout, unstaked, ran⟩ := ran
    obtain ⟨-, s₁, result, items, checkpointed, owned, -⟩ := unstake_spec book.sound unstaked
    have keeper := (checkpoint_terms (by exact book.sound) checkpointed serviceId).2.1
    have staked : 0 < (w.store.mapServiceInfo serviceId).tsStart := by
      refine Nat.pos_of_ne_zero fun none => sender.property ?_
      rw [owned, keeper]
      exact congrArg ServiceInfo.owner (book.blank serviceId none)
    split at ran
    · obtain ⟨same, -, state⟩ := withdraw_pending ran waits
      rw [state, same]
      exact book.held serviceId staked
    · simp only [bind_eq_ok, pure_eq_ok] at ran
      obtain ⟨w', -, rfl⟩ := ran
      cases waits
  | claim sender answers view serviceId execCheckPoint =>
    simp only [StakingWorld.enter, bind_eq_ok, Prod.exists] at ran
    obtain ⟨s', payout, -, ran⟩ := ran
    rw [(withdraw_pending ran waits).2.1] at returnTo
    cases returnTo

theorem hasService_preserved (nonzero : self ≠ 0) :
    Preserved (stakingMachine self) (stakingDiscipline self)
      (fun w frames => StakingBaseline self w frames ∧ StakingLedger w frames)
      (HasService self) := by
  rintro w frames w' frames' taken ⟨base, -⟩ before
  cases taken with
  | entered call allowed ran =>
    rcases StakingLedger.enter base.book ran with foreign | ⟨free, -⟩
    · rw [(foreign_enter foreign ran).2.2]
      intro l owner waits returnTo
      exact foreign_held nonzero foreign allowed base.book.guarded base.book.keeps ran
        (before l owner waits returnTo)
    · rw [frames_of_unlocked base.shape free, List.append_nil]
      exact enter_hasService base.book ran
  | @resumed frame frames _ answer allowed ran =>
    match frames, base.shape with
    | [], _ =>
      rw [List.append_nil]
      intro l owner waits returnTo
      cases frame with
      | deposit =>
        cases ran
        cases waits
      | withdraw l₀ =>
        obtain ⟨same, returns, state⟩ := withdraw_pending ran waits
        rw [state, same]
        exact before l₀ owner rfl (returns ▸ returnTo)

/-- What a suspended call does next it can do before a call of others. -/
theorem resume_earlier (nonzero : self ≠ 0) {w₁ : StakingWorld} {frame : StakingFrame}
    {call : StakingCall} {out : Outcome StakingWorld StakingFrame} (foreign : call.foreign)
    (apart : call.sender ≠ some self) (keeps : w.nft.Keeps self) (has : HasService self w [frame])
    (entered : StakingWorld.enter self call w = .ok (.done w₁))
    (ran : StakingWorld.resume self frame () w₁ = .ok out) :
    ∃ before : Outcome StakingWorld StakingFrame,
      StakingWorld.resume self frame () w = .ok before ∧ before.pending = out.pending ∧
      StakingWorld.enter self call before.state = .ok (.done out.state) := by
  obtain ⟨store, history, -⟩ := foreign_enter foreign entered
  obtain ⟨store₁, nft₁, supply₁, timestamp₁, history₁⟩ := w₁
  dsimp only [Outcome.state_done] at store history
  subst store history
  cases frame with
  | deposit =>
    cases ran
    exact ⟨_, rfl, rfl, foreign_beside foreign entered _ _⟩
  | withdraw l =>
    obtain ⟨serviceId, reward, sent, remaining, updatedBalance, returnTo⟩ := l
    cases remaining with
    | cons payment rest =>
      simp only [StakingWorld.resume, StakingWorld.withdraw, bind_eq_ok, pure_eq_ok] at ran ⊢
      obtain ⟨left, enough, rfl⟩ := ran
      exact ⟨_, ⟨left, enough, rfl⟩, rfl, entered⟩
    | nil =>
      cases returnTo with
      | none =>
        cases ran
        exact ⟨_, rfl, rfl, foreign_beside foreign entered _ _⟩
      | some owner =>
        simp only [StakingWorld.resume, StakingWorld.withdraw, StakingWorld.giveBack, bind_eq_ok,
          tokenCall_eq_ok, pure_eq_ok] at ran ⊢
        obtain ⟨_, ⟨nft₂, returned, rfl⟩, rfl⟩ := ran
        have held : w.nft.owners serviceId = self := has _ owner rfl rfl
        obtain ⟨nft, back, after⟩ := foreign_later nonzero foreign apart keeps held entered
          returned (unlock { w.store with balance := updatedBalance })
          (w.history ++ [.settled serviceId reward sent])
        exact ⟨_, ⟨_, ⟨nft, back, rfl⟩, rfl⟩, rfl, after⟩

theorem staking_unhindered (nonzero : self ≠ 0) :
    Unhindered (stakingMachine self) (stakingDiscipline self) StakingCall.foreign
      fun w frames => (StakingBaseline self w frames ∧ StakingLedger w frames) ∧
        HasService self w frames := by
  refine ⟨?_, ?_⟩
  · rintro w frame frames call out ⟨⟨base, -⟩, -⟩ allowed ran
    rcases StakingLedger.enter base.book ran with foreign | ⟨free, -⟩
    · exact ⟨foreign, (foreign_enter foreign ran).2.2⟩
    · exact absurd (frames_of_unlocked base.shape free) (List.cons_ne_nil _ _)
  · rintro w w₁ frame call answer out ⟨⟨base, -⟩, has⟩ foreign apart entered allowed ran
    obtain ⟨before, ran', pending, entered'⟩ :=
      resume_earlier nonzero foreign apart base.book.keeps has entered ran
    exact ⟨trivial, before, ran', pending, apart, entered'⟩

/-- Calls of others leave the storage and the history alone. -/
theorem visits_store {w w' : StakingWorld}
    (visits : Visits (stakingMachine self) (stakingDiscipline self) StakingCall.foreign w w') :
    w'.store = w.store ∧ w'.history = w.history := by
  induction visits with
  | refl => exact ⟨rfl, rfl⟩
  | tail _ call foreign _ ran ih =>
    obtain ⟨store, history, -⟩ := foreign_enter foreign ran
    exact ⟨store.trans ih.1, history.trans ih.2⟩

/-- Every run of the staking contract, with any calls while it is suspended and any of its calls
rolled back, ends as a run in which each call returns before the next one starts. While a call
is suspended, the storage is one such a run has at the same point of that call, and only calls
of others separate the two. -/
theorem staking_serial {start : StakingWorld} (fresh : start.Fresh self)
    {c : Config StakingWorld StakingFrame}
    (run : Reachable (stakingMachine self) (stakingDiscipline self) start c) :
    (c.frames = [] → Serial (stakingMachine self) (stakingDiscipline self) start c.state []) ∧
    ∃ w, Serial (stakingMachine self) (stakingDiscipline self) start w c.frames ∧
      Visits (stakingMachine self) (stakingDiscipline self) StakingCall.foreign w c.state ∧
      c.state.store = w.store ∧ c.state.history = w.history := by
  have keep := ((stakingBaseline_preserved fresh.nonzero).join stakingLedger_preserved).join
    (hasService_preserved fresh.nonzero)
  have initial : HasService self start [] := fun _ _ waits _ => by cases waits
  obtain ⟨idle, w, serial, visits⟩ := run.serial keep
    ⟨⟨stakingBaseline_fresh fresh, stakingLedger_fresh fresh⟩, initial⟩
    (staking_unhindered fresh.nonzero)
  exact ⟨idle, w, serial, visits, visits_store visits⟩

end Runs

/-- Service 2 is minted and approved between the payments of the unstake of service 1. -/
theorem staking_serial_visited :
    ∃ c, Reachable (stakingMachine 5) (stakingDiscipline 5) sampleStaking c ∧
      c.state.nft.owners 1 = 21 ∧ c.state.nft.getApproved 2 = 5 ∧
      Serial (stakingMachine 5) (stakingDiscipline 5) sampleStaking c.state [] := by
  obtain ⟨c, run, seen⟩ := Machine.play_observed (stakingDiscipline 5) (stakingMachine 5)
    sampleStaking
    (stakeAndPass ++ [.call (.unstake sampleOwner (activeAnswer 1) operatorView 1 false),
      .call (.mint 21), .answer (), .call (.approve sampleOwner 5 2), .answer ()])
    (fun c => (c.frames, c.state.nft.owners 1, c.state.nft.getApproved 2)) ([], 21, 5)
    (by decide +kernel)
  simp only [Prod.mk.injEq] at seen
  obtain ⟨idle, owner, approved⟩ := seen
  exact ⟨c, run, owner, approved, (staking_serial sampleStaking_fresh run).1 idle⟩

end AutonolasRegistries.Guarantees
