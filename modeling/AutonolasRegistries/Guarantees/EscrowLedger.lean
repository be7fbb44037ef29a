import AutonolasRegistries.Guarantees.OperatorLedger
import AutonolasRegistries.Model.TokenEscrow

/-!
# The tokens in escrow are accounted for

What came in is what went out, what is owed and what was slashed, up to the transfers
under way. Two facts carry this. Only operators registered in the registry have a token
balance, so nobody has one when a service is configured, and the token cannot change under
a balance. And what the manager waits for is what the record says, because nothing else
configures a service meanwhile.
-/
namespace AutonolasRegistries.Guarantees
open Library Source Model

/-- What is owed of a token for one service. -/
noncomputable def tokensOwed (token : Address) (f : Folio) : Nat :=
  if f.tokens.token = token then
    (if f.service.service.state.holdsDeposit = true then f.tokens.deposit else 0) +
      total f.tokens.balances
  else 0

/-- What of a transfer under way is booked on one side only. -/
def inTransit (token : Address) : Waiting → Nat
  | .activating .. | .unbonding .. => 0
  | .registering _ _ moved amount _ | .terminating _ moved amount =>
    if moved = token then amount else 0

def transit (token : Address) (waiting : List Waiting) : Nat :=
  (waiting.map (inTransit token)).sum

/-- What the manager waits for is what the record says. -/
def Awaited (folios : Uint32 → Folio) : Waiting → Prop
  | .activating id token amount | .terminating id token amount =>
    (folios id).tokens.token = token ∧ token ≠ 0 ∧ (folios id).tokens.deposit = amount
  | .registering _ id token amount agentIds =>
    (folios id).tokens.token = token ∧ token ≠ 0 ∧ (agentIds = [] → amount = 0)
  | .unbonding operator id => (folios id).tokens.balances operator = 0

/-- The operator is about to be registered. -/
def Joining (waiting : List Waiting) (operator : Address) (id : Uint32) : Prop :=
  ∃ token amount agentIds, agentIds ≠ [] ∧
    Waiting.registering operator id token amount agentIds ∈ waiting

structure EscrowSound (e : Escrow) : Prop where
  books : ∀ id, OperatorBook (e.folios id).service
  plain : ∀ id, (e.folios id).tokens.token = 0 → ∀ a, (e.folios id).tokens.balances a = 0
  backed : ∀ id a, (e.folios id).tokens.balances a ≠ 0 →
    (e.folios id).service.operators a ≠ [] ∨ Joining e.waiting a id
  awaited : ∀ item ∈ e.waiting, Awaited e.folios item
  balanced : ∀ token ≠ 0, e.pulled token + transit token e.waiting =
    e.sent token + total (fun id => tokensOwed token (e.folios id)) + e.slashed token

section Folios
variable {f f' : Folio} {token : Address} {t : ServiceSheet} {action : ServiceAction}

theorem tokensOwed_other (other : f.tokens.token ≠ token) : tokensOwed token f = 0 := if_neg other

theorem tokensOwed_held (own : f.tokens.token = token)
    (held : f.service.service.state.holdsDeposit = true) :
    tokensOwed token f = f.tokens.deposit + total f.tokens.balances := by
  rw [tokensOwed, if_pos own, if_pos held]

theorem tokensOwed_idle (own : f.tokens.token = token)
    (idle : f.service.service.state.holdsDeposit = false) :
    tokensOwed token f = total f.tokens.balances := by
  rw [tokensOwed, if_pos own, if_neg (Bool.eq_false_iff.mp idle), Nat.zero_add]

/-- Nothing is owed for a service that holds nothing. -/
theorem tokensOwed_nothing (idle : f.service.service.state.holdsDeposit = false)
    (none : ∀ a, f.tokens.balances a = 0) : tokensOwed token f = 0 := by
  by_cases own : f.tokens.token = token
  · rw [tokensOwed_idle own idle, total_eq_zero_iff.mpr none]
  · exact tokensOwed_other own

/-- The deposit is held from `activate` to `terminate`. -/
theorem holds_step (step : f.service.Step t action)
    (other : action ≠ .activate ∧ action ≠ .terminate) :
    t.service.state.holdsDeposit = f.service.service.state.holdsDeposit := by
  cases step with
  | configure idle _ _ _ state =>
    rw [state]
    rcases idle with idle | idle <;> rw [idle]
    rfl
  | activate => exact absurd rfl other.1
  | register state service =>
    rw [service]
    simp only [state]
    split <;> rfl
  | deploy multisig state after =>
    rw [after, state]
    rfl
  | slash state below after =>
    rw [after]
  | terminate => exact absurd rfl other.2
  | unbond state bonded enough after =>
    rw [after]
    simp only [state]
    split <;> rfl

theorem activate_holds (step : f.service.Step t .activate) :
    f.service.service.state.holdsDeposit = false ∧ t.service.state.holdsDeposit = true := by
  cases step with
  | activate state after =>
    rw [after, state]
    exact ⟨rfl, rfl⟩

theorem terminate_holds (step : f.service.Step t .terminate) :
    f.service.service.state.holdsDeposit = true ∧ t.service.state.holdsDeposit = false := by
  cases step with
  | terminate state after =>
    rw [after]
    refine ⟨state, ?_⟩
    simp only
    split <;> rfl

theorem tokensOwed_step (step : f.service.Step t action)
    (other : action ≠ .activate ∧ action ≠ .terminate) :
    tokensOwed token ⟨t, f.tokens⟩ = tokensOwed token f := by
  rw [tokensOwed, tokensOwed, holds_step step other]

theorem tokensOwed_activate (step : f.service.Step t .activate) :
    tokensOwed token ⟨t, f.tokens⟩ =
      tokensOwed token f + if f.tokens.token = token then f.tokens.deposit else 0 := by
  obtain ⟨unheld, held⟩ := activate_holds step
  simp only [tokensOwed, unheld, held]
  split
  · simp only [if_true, Bool.false_eq_true, if_false]
    omega
  · rfl

theorem tokensOwed_terminate (step : f.service.Step t .terminate) :
    tokensOwed token f =
      tokensOwed token ⟨t, f.tokens⟩ + if f.tokens.token = token then f.tokens.deposit else 0 := by
  obtain ⟨held, unheld⟩ := terminate_holds step
  simp only [tokensOwed, unheld, held]
  split
  · simp only [if_true, Bool.false_eq_true, if_false]
    omega
  · rfl

/-- An operator stays registered until `unbond`. -/
theorem operators_step (step : f.service.Step t action) {a : Address}
    (there : f.service.operators a ≠ []) : t.operators a ≠ [] ∨ action = .unbond a := by
  cases step with
  | configure _ _ _ _ _ _ _ _ _ operators =>
    rw [operators]
    exact Or.inl there
  | activate _ after | deploy _ _ after | slash _ _ after | terminate _ after =>
    rw [after]
    exact Or.inl there
  | @register operator entries _ _ _ _ _ _ operators =>
    rw [operators]
    by_cases same : a = operator
    · subst same
      rw [Function.update_self]
      exact Or.inl fun none => there (List.append_eq_nil_iff.mp none).1
    · rw [Function.update_of_ne same]
      exact Or.inl there
  | @unbond operator _ _ _ after =>
    rw [after]
    by_cases same : a = operator
    · exact Or.inr (by rw [same])
    · refine Or.inl ?_
      simp only [Function.update_of_ne same]
      exact there

end Folios

section Writes
variable {e : Escrow} {id : Uint32} {f : Folio} {t : ServiceSheet} {token : Address}

theorem owed_write (f : Folio) :
    total (fun i => tokensOwed token ((e.write id f).folios i)) + tokensOwed token (e.folios id) =
      total (fun i => tokensOwed token (e.folios i)) + tokensOwed token f :=
  total_map_update_add (tokensOwed token) e.folios id f

theorem credit_self {m : Address → Nat} {amount : Nat} :
    credit m token amount token = m token + amount := Function.update_self _ _ _

theorem credit_other {m : Address → Nat} {amount : Nat} {other : Address}
    (different : other ≠ token) : credit m token amount other = m other :=
  Function.update_of_ne different _ _

theorem credit_apply {m : Address → Nat} {amount : Nat} (other : Address) :
    credit m token amount other = m other + if token = other then amount else 0 := by
  by_cases same : token = other
  · subst same
    rw [credit_self, if_pos rfl]
  · rw [credit_other (Ne.symm same), if_neg same, Nat.add_zero]

theorem folios_writeService (e : Escrow) (id : Uint32) (t : ServiceSheet) (i : Uint32) :
    ((e.writeService id t).folios i).tokens = (e.folios i).tokens := by
  by_cases same : i = id
  · subst same
    simp only [Escrow.writeService, Escrow.write, Function.update_self]
  · simp only [Escrow.writeService, Escrow.write, Function.update_of_ne same]

/-- A step of the registry leaves the balances of everybody who stays registered backed. -/
theorem EscrowSound.service {e : Escrow} {action : ServiceAction} {waiting : List Waiting}
    (before : EscrowSound e) (step : (e.folios id).service.Step t action)
    (backed : ∀ a, (e.folios id).tokens.balances a ≠ 0 → (t.operators a ≠ [] ∨
      Joining waiting a id))
    (kept : ∀ i a, i ≠ id → Joining e.waiting a i → Joining waiting a i)
    (older : ∀ item ∈ waiting, item ∈ e.waiting)
    {pulled : Address → Nat}
    (balanced : ∀ token ≠ 0, pulled token + transit token waiting +
        tokensOwed token (e.folios id) =
      e.pulled token + transit token e.waiting +
        tokensOwed token ⟨t, (e.folios id).tokens⟩) :
    EscrowSound { e.writeService id t with pulled, waiting } := by
  have tokens := folios_writeService e id t
  refine ⟨?_, ?_, ?_, ?_, ?_⟩
  · intro i
    by_cases same : i = id
    · subst same
      simp only [Escrow.writeService, Escrow.write, Function.update_self]
      exact (before.books i).step step
    · simp only [Escrow.writeService, Escrow.write, Function.update_of_ne same]
      exact before.books i
  · intro i plain a
    rw [tokens] at plain ⊢
    exact before.plain i plain a
  · intro i a positive
    rw [tokens] at positive
    by_cases same : i = id
    · subst same
      simp only [Escrow.writeService, Escrow.write, Function.update_self]
      exact backed a positive
    · simp only [Escrow.writeService, Escrow.write, Function.update_of_ne same]
      exact (before.backed i a positive).imp_right (kept i a same)
  · intro item member
    have awaited := before.awaited item (older item member)
    cases item <;> simp only [Awaited] at awaited ⊢ <;> rw [tokens] <;> exact awaited
  · intro token real
    have moved : total (fun i => tokensOwed token ((e.writeService id t).folios i)) +
        tokensOwed token (e.folios id) = _ := owed_write ⟨t, (e.folios id).tokens⟩
    have held := before.balanced token real
    have change := balanced token real
    change pulled token + transit token waiting =
      e.sent token + total (fun i => tokensOwed token ((e.writeService id t).folios i)) +
        e.slashed token
    omega

theorem owed_writeBalances (balances : Address → Nat) :
    total (fun i => tokensOwed token ((e.writeBalances id balances).folios i)) +
        (if (e.folios id).tokens.token = token then total (e.folios id).tokens.balances else 0) =
      total (fun i => tokensOwed token (e.folios i)) +
        if (e.folios id).tokens.token = token then total balances else 0 := by
  have moved : total (fun i => tokensOwed token ((e.writeBalances id balances).folios i)) +
      tokensOwed token (e.folios id) = _ :=
    owed_write ⟨(e.folios id).service, { (e.folios id).tokens with balances }⟩
  by_cases own : (e.folios id).tokens.token = token
  · rw [if_pos own, if_pos own]
    simp only [tokensOwed, own, if_true] at moved ⊢
    omega
  · rw [if_neg own, if_neg own]
    simp only [tokensOwed, own, if_false] at moved ⊢
    exact moved

/-- A change of the token balances of a secured service. -/
theorem EscrowSound.rebalanced {e : Escrow} {balances : Address → Nat}
    {waiting : List Waiting} (before : EscrowSound e)
    (secured : (e.folios id).tokens.token ≠ 0)
    (backed : ∀ a, balances a ≠ 0 →
      (e.folios id).service.operators a ≠ [] ∨ Joining waiting a id)
    (kept : ∀ i a, i ≠ id → Joining e.waiting a i → Joining waiting a i)
    (awaited : ∀ item ∈ waiting, Awaited (e.writeBalances id balances).folios item)
    {sent slashed : Address → Nat}
    (balanced : ∀ token ≠ 0,
      e.sent token + e.slashed token + transit token waiting +
        (if (e.folios id).tokens.token = token then total (e.folios id).tokens.balances else 0) =
      sent token + slashed token + transit token e.waiting +
        if (e.folios id).tokens.token = token then total balances else 0) :
    EscrowSound { e.writeBalances id balances with sent, slashed, waiting } := by
  refine ⟨?_, ?_, ?_, awaited, ?_⟩
  · intro i
    by_cases same : i = id
    · subst same
      simp only [Escrow.writeBalances, Escrow.write, Function.update_self]
      exact before.books i
    · simp only [Escrow.writeBalances, Escrow.write, Function.update_of_ne same]
      exact before.books i
  · intro i plain a
    by_cases same : i = id
    · subst same
      simp only [Escrow.writeBalances, Escrow.write, Function.update_self] at plain
      exact absurd plain secured
    · simp only [Escrow.writeBalances, Escrow.write, Function.update_of_ne same] at plain ⊢
      exact before.plain i plain a
  · intro i a positive
    by_cases same : i = id
    · subst same
      simp only [Escrow.writeBalances, Escrow.write, Function.update_self] at positive ⊢
      exact backed a positive
    · simp only [Escrow.writeBalances, Escrow.write, Function.update_of_ne same] at positive ⊢
      exact (before.backed i a positive).imp_right (kept i a same)
  · intro token real
    have moved : total (fun i => tokensOwed token ((e.writeBalances id balances).folios i)) +
        _ = _ := owed_writeBalances balances
    have held := before.balanced token real
    have change := balanced token real
    change e.pulled token + transit token waiting =
      sent token + total (fun i => tokensOwed token ((e.writeBalances id balances).folios i)) +
        slashed token
    omega

end Writes

section Steps
variable {e e' : Escrow} {id : Uint32}

theorem transit_cons (token : Address) (item : Waiting) (rest : List Waiting) :
    transit token (item :: rest) = inTransit token item + transit token rest := by
  simp only [transit, List.map_cons, List.sum_cons]

theorem joining_nil {a : Address} {i : Uint32} : ¬ Joining [] a i := by
  rintro ⟨_, _, _, -, member⟩
  cases member

/-- Nobody has a token balance at a service that is being configured. -/
theorem EscrowSound.vacant (before : EscrowSound e) (free : e.waiting = [])
    (idle : (e.folios id).service.service.state = .nonExistent ∨
      (e.folios id).service.service.state = .preRegistration) (a : Address) :
    (e.folios id).tokens.balances a = 0 := by
  by_contra positive
  rcases before.backed id a positive with there | joining
  · exact there ((before.books id).vacant idle a).1
  · rw [free] at joining
    exact joining_nil joining

theorem EscrowSound.registry {t : ServiceSheet} {action : ServiceAction}
    (before : EscrowSound e) (untouched : (e.folios id).tokens.Untouched action)
    (step : (e.folios id).service.Step t action) : EscrowSound (e.writeService id t) := by
  refine before.service step ?_ (fun _ _ _ joining => joining) (fun _ member => member) ?_
  · intro a positive
    refine (before.backed id a positive).imp_left fun there => ?_
    refine (operators_step step there).resolve_right ?_
    rintro rfl
    rcases untouched with plain | none
    · exact positive (before.plain id plain a)
    · exact positive none
  · intro token real
    by_cases own : (e.folios id).tokens.token = token
    · have secured : (e.folios id).tokens.token ≠ 0 := by rwa [own]
      have other : action ≠ .activate ∧ action ≠ .terminate := by
        constructor <;> rintro rfl <;> exact secured untouched
      rw [tokensOwed_step step other]
    · rw [tokensOwed_other own, tokensOwed_other (f := ⟨t, (e.folios id).tokens⟩) own]

/-- The rewriting of one folio that holds nothing, before and after. -/
theorem EscrowSound.rewritten {f : Folio} (before : EscrowSound e) (free : e.waiting = [])
    (book : OperatorBook f.service)
    (idle : (e.folios id).service.service.state.holdsDeposit = false)
    (idle' : f.service.service.state.holdsDeposit = false)
    (none : ∀ a, (e.folios id).tokens.balances a = 0) (none' : ∀ a, f.tokens.balances a = 0) :
    EscrowSound (e.write id f) := by
  refine ⟨?_, ?_, ?_, ?_, ?_⟩
  · intro i
    by_cases same : i = id
    · subst same
      simp only [Escrow.write, Function.update_self]
      exact book
    · simp only [Escrow.write, Function.update_of_ne same]
      exact before.books i
  · intro i plain a
    by_cases same : i = id
    · subst same
      simp only [Escrow.write, Function.update_self]
      exact none' a
    · simp only [Escrow.write, Function.update_of_ne same] at plain ⊢
      exact before.plain i plain a
  · intro i a positive
    by_cases same : i = id
    · subst same
      simp only [Escrow.write, Function.update_self] at positive
      exact absurd (none' a) positive
    · simp only [Escrow.write, Function.update_of_ne same] at positive ⊢
      exact before.backed i a positive
  · intro item member
    change item ∈ e.waiting at member
    rw [free] at member
    cases member
  · intro token real
    have moved : total (fun i => tokensOwed token ((e.write id f).folios i)) +
        tokensOwed token (e.folios id) = _ := owed_write f
    rw [tokensOwed_nothing idle none, tokensOwed_nothing idle' none'] at moved
    have held := before.balanced token real
    change e.pulled token + transit token e.waiting =
      e.sent token + total (fun i => tokensOwed token ((e.write id f).folios i)) +
        e.slashed token
    omega

theorem configures_service {f f' : Folio} {kept : List (Uint32 × AgentParams)}
    (step : f.Configures f' kept) : f.service.Step f'.service (.configure kept) := by
  cases step <;> assumption

theorem configures_idle {f f' : Folio} {kept : List (Uint32 × AgentParams)}
    (step : f.Configures f' kept) :
    f.service.service.state = .nonExistent ∨ f.service.service.state = .preRegistration := by
  cases configures_service step with
  | configure idle => exact idle

theorem EscrowSound.configure {f : Folio} {kept : List (Uint32 × AgentParams)}
    (before : EscrowSound e) (free : e.waiting = [])
    (step : (e.folios id).Configures f kept) : EscrowSound (e.write id f) := by
  have service := configures_service step
  have balances : f.tokens.balances = (e.folios id).tokens.balances := by
    cases step with
    | created _ _ _ tokens => rw [tokens]
    | reset _ _ tokens => rw [tokens]
    | secured _ _ _ _ _ _ _ _ balances => exact balances
  have idle := configures_idle step
  have none := before.vacant free idle
  have unheld : (e.folios id).service.service.state.holdsDeposit = false := by
    rcases idle with idle | idle <;> (rw [idle]; rfl)
  refine before.rewritten free ((before.books id).step service) unheld ?_ none ?_
  · rw [holds_step service ⟨by simp, by simp⟩]
    exact unheld
  · rw [balances]
    exact none

/-- The second half of a function that registers nobody. -/
theorem EscrowSound.returned {item : Waiting} {rest : List Waiting} {t : ServiceSheet}
    {action : ServiceAction} (before : EscrowSound e) (waits : e.waiting = item :: rest)
    (other : ∀ operator i token amount agentIds,
      item ≠ .registering operator i token amount agentIds)
    (step : (e.folios id).service.Step t action)
    (leaving : ∀ a, action = .unbond a → (e.folios id).tokens.balances a = 0)
    {pulled : Address → Nat}
    (balanced : ∀ token ≠ 0, pulled token + tokensOwed token (e.folios id) =
      e.pulled token + inTransit token item + tokensOwed token ⟨t, (e.folios id).tokens⟩) :
    EscrowSound { e.writeService id t with pulled, waiting := rest } := by
  have joining : ∀ i a, Joining e.waiting a i → Joining rest a i := by
    rintro i a ⟨token, amount, agentIds, some, member⟩
    rw [waits, List.mem_cons] at member
    rcases member with same | member
    · exact absurd same.symm (other _ _ _ _ _)
    · exact ⟨token, amount, agentIds, some, member⟩
  refine before.service step ?_ (fun i a _ => joining i a) ?_ ?_
  · intro a positive
    refine (before.backed id a positive).imp (fun there => ?_) (joining id a)
    exact (operators_step step there).resolve_right fun same => positive (leaving a same)
  · intro queued member
    rw [waits]
    exact List.mem_cons_of_mem _ member
  · intro token real
    have change := balanced token real
    rw [waits, transit_cons]
    omega

theorem EscrowSound.activated {token : Address} {amount : Nat} {rest : List Waiting}
    {t : ServiceSheet} (before : EscrowSound e)
    (waits : e.waiting = .activating id token amount :: rest)
    (step : (e.folios id).service.Step t .activate) :
    EscrowSound { e.writeService id t with
      pulled := credit e.pulled token amount
      waiting := rest } := by
  obtain ⟨own, -, deposit⟩ := before.awaited _ (waits ▸ List.mem_cons_self)
  refine before.returned waits (by simp) step (by simp) ?_
  intro asked real
  rw [credit_apply, inTransit, tokensOwed_activate step, own, deposit]
  omega

theorem EscrowSound.terminated {token : Address} {amount : Nat} {rest : List Waiting}
    {t : ServiceSheet} (before : EscrowSound e)
    (waits : e.waiting = .terminating id token amount :: rest)
    (step : (e.folios id).service.Step t .terminate) :
    EscrowSound { e.writeService id t with waiting := rest } := by
  obtain ⟨own, -, deposit⟩ := before.awaited _ (waits ▸ List.mem_cons_self)
  refine before.returned waits (by simp) step (by simp) ?_
  intro asked real
  rw [inTransit, tokensOwed_terminate step, own, deposit]
  change e.pulled asked + _ = _
  omega

theorem EscrowSound.unbonded {operator : Address} {rest : List Waiting} {t : ServiceSheet}
    (before : EscrowSound e) (waits : e.waiting = .unbonding operator id :: rest)
    (step : (e.folios id).service.Step t (.unbond operator)) :
    EscrowSound { e.writeService id t with waiting := rest } := by
  have gone := before.awaited _ (waits ▸ List.mem_cons_self)
  refine before.returned waits (by simp) step ?_ ?_
  · rintro a same
    cases same
    exact gone
  · intro asked real
    rw [inTransit, tokensOwed_step step ⟨by simp, by simp⟩]
    rfl

theorem EscrowSound.registered {operator token : Address} {amount : Nat}
    {agentIds : List Uint32} {entries : List (Address × Uint32)} {rest : List Waiting}
    {t : ServiceSheet} (before : EscrowSound e)
    (waits : e.waiting = .registering operator id token amount agentIds :: rest)
    (named : entries.map Prod.snd = agentIds)
    (step : (e.folios id).service.Step t (.register operator entries)) :
    EscrowSound { e.writeService id t with
      pulled := credit e.pulled token amount
      waiting := rest } := by
  have operators : t.operators operator =
      (e.folios id).service.operators operator ++ instancesOf entries := by
    cases step with
    | register _ _ _ _ _ _ operators => rw [operators, Function.update_self]
  refine before.service step ?_ ?_ ?_ ?_
  · intro a positive
    rcases before.backed id a positive with there | ⟨moved, held, listed, some, member⟩
    · refine Or.inl ((operators_step step there).resolve_right ?_)
      intro same
      cases same
    · rw [waits, List.mem_cons] at member
      rcases member with same | member
      · cases same
        refine Or.inl ?_
        rw [operators]
        intro none
        have empty : entries = [] := List.map_eq_nil_iff.mp (List.append_eq_nil_iff.mp none).2
        rw [empty] at named
        exact some named.symm
      · exact Or.inr ⟨moved, held, listed, some, member⟩
  · rintro i a different ⟨moved, held, listed, some, member⟩
    rw [waits, List.mem_cons] at member
    rcases member with same | member
    · cases same
      exact absurd rfl different
    · exact ⟨moved, held, listed, some, member⟩
  · intro item member
    rw [waits]
    exact List.mem_cons_of_mem _ member
  · intro asked real
    rw [tokensOwed_step step ⟨by simp, by simp⟩, credit_apply, waits, transit_cons, inTransit]
    omega

/-- A suspended `activateRegistration` has booked nothing yet. -/
theorem EscrowSound.activating {tokens : TokenSheet} (before : EscrowSound e)
    (here : (e.folios id).tokens = tokens) (free : e.waiting = [])
    (secured : tokens.token ≠ 0) :
    EscrowSound { e with waiting := [.activating id tokens.token tokens.deposit] } := by
  subst here
  refine ⟨before.books, before.plain, ?_, ?_, ?_⟩
  · intro i a positive
    refine Or.inl ((before.backed i a positive).resolve_right ?_)
    rw [free]
    exact joining_nil
  · intro item member
    rw [List.mem_singleton.mp member]
    exact ⟨rfl, secured, rfl⟩
  · intro token real
    have held := before.balanced token real
    rw [free] at held
    exact held

theorem EscrowSound.terminating {tokens : TokenSheet} (before : EscrowSound e)
    (here : (e.folios id).tokens = tokens) (free : e.waiting = [])
    (secured : tokens.token ≠ 0) :
    EscrowSound { e with
      sent := credit e.sent tokens.token tokens.deposit
      waiting := [.terminating id tokens.token tokens.deposit] } := by
  subst here
  refine ⟨before.books, before.plain, ?_, ?_, ?_⟩
  · intro i a positive
    refine Or.inl ((before.backed i a positive).resolve_right ?_)
    rw [free]
    exact joining_nil
  · intro item member
    rw [List.mem_singleton.mp member]
    exact ⟨rfl, secured, rfl⟩
  · intro token real
    have held := before.balanced token real
    rw [free] at held
    simp only [credit_apply, transit_cons, inTransit]
    omega

theorem writeBalances_tokens (e : Escrow) (balances : Address → Nat) :
    ((e.writeBalances id balances).folios id).tokens = { (e.folios id).tokens with balances } := by
  simp only [Escrow.writeBalances, Escrow.write, Function.update_self]

theorem EscrowSound.registering {operator : Address} {agentIds : List Uint32}
    {tokens : TokenSheet} (before : EscrowSound e) (here : (e.folios id).tokens = tokens)
    (free : e.waiting = []) (secured : tokens.token ≠ 0) :
    EscrowSound { e.writeBalances id (credit tokens.balances operator
        (bondsOf tokens.bonds agentIds)) with
      waiting := [.registering operator id tokens.token (bondsOf tokens.bonds agentIds)
        agentIds] } := by
  subst here
  have nothing : agentIds = [] → bondsOf (e.folios id).tokens.bonds agentIds = 0 := by
    rintro rfl
    rfl
  refine before.rebalanced secured ?_ ?_ ?_ ?_
  · intro a positive
    by_cases added : a = operator ∧ agentIds ≠ []
    · obtain ⟨rfl, some⟩ := added
      exact Or.inr ⟨_, _, _, some, List.mem_singleton_self _⟩
    · refine Or.inl ((before.backed id a ?_).resolve_right ?_)
      · intro zero
        refine positive ?_
        rw [credit_apply, zero]
        split
        · next same => exact (Nat.zero_add _).trans (nothing (by_contra fun some =>
            added ⟨same.symm, some⟩))
        · rfl
      · rw [free]
        exact joining_nil
  · intro i a _ joining
    rw [free] at joining
    exact absurd joining joining_nil
  · intro item member
    rw [List.mem_singleton.mp member]
    refine ⟨?_, secured, nothing⟩
    rw [writeBalances_tokens]
  · intro token real
    have moved := total_update_add (e.folios id).tokens.balances operator
      ((e.folios id).tokens.balances operator + bondsOf (e.folios id).tokens.bonds agentIds)
    rw [free, transit_cons, inTransit]
    change e.sent token + e.slashed token + _ + _ = e.sent token + e.slashed token + _ + _
    split
    · rw [credit]
      omega
    · rfl

theorem EscrowSound.unbonding {operator : Address} {tokens : TokenSheet}
    (before : EscrowSound e) (here : (e.folios id).tokens = tokens) (free : e.waiting = [])
    (secured : tokens.token ≠ 0) :
    EscrowSound { e.writeBalances id (Function.update tokens.balances operator 0) with
      sent := credit e.sent tokens.token (tokens.balances operator)
      waiting := [.unbonding operator id] } := by
  subst here
  refine before.rebalanced secured ?_ ?_ ?_ ?_
  · intro a positive
    refine Or.inl ((before.backed id a ?_).resolve_right ?_)
    · by_cases same : a = operator
      · subst same
        rw [Function.update_self] at positive
        exact absurd rfl positive
      · rwa [Function.update_of_ne same] at positive
    · rw [free]
      exact joining_nil
  · intro i a _ joining
    rw [free] at joining
    exact absurd joining joining_nil
  · intro item member
    rw [List.mem_singleton.mp member]
    simp only [Awaited, writeBalances_tokens, Function.update_self]
  · intro token real
    have moved := total_update_add (e.folios id).tokens.balances operator 0
    rw [free, transit_cons, inTransit, credit_apply]
    change e.sent token + e.slashed token + _ + _ = _ + e.slashed token + _ + _
    split
    · omega
    · rfl

theorem EscrowSound.slash {balances : Address → Nat} {taken : Nat} {tokens : TokenSheet}
    (before : EscrowSound e) (here : (e.folios id).tokens = tokens)
    (secured : tokens.token ≠ 0) (below : ∀ a, balances a ≤ tokens.balances a)
    (conserved : total balances + taken = total tokens.balances) :
    EscrowSound { e.writeBalances id balances with
      slashed := credit e.slashed tokens.token taken } := by
  subst here
  refine before.rebalanced secured ?_ (fun i a _ joining => joining) ?_ ?_
  · intro a positive
    refine before.backed id a fun zero => positive ?_
    have := below a
    omega
  · intro item member
    have awaited := before.awaited item member
    cases item with
    | activating i | terminating i | registering _ i =>
      by_cases same : i = id
      · subst same
        simp only [Awaited, writeBalances_tokens] at awaited ⊢
        exact awaited
      · simp only [Awaited, Escrow.writeBalances, Escrow.write, Function.update_of_ne same]
        exact awaited
    | unbonding operator i =>
      by_cases same : i = id
      · subst same
        simp only [Awaited, writeBalances_tokens] at awaited ⊢
        have := below operator
        omega
      · simp only [Awaited, Escrow.writeBalances, Escrow.write, Function.update_of_ne same]
        exact awaited
  · intro token real
    rw [credit_apply]
    change e.sent token + _ + transit token e.waiting + _ =
      e.sent token + _ + transit token e.waiting + _
    split
    · omega
    · rfl

theorem EscrowSound.drain (before : EscrowSound e) (token : Address) :
    EscrowSound { e with
      slashed := Function.update e.slashed token 0
      sent := credit e.sent token (e.slashed token) } := by
  refine ⟨before.books, before.plain, before.backed, before.awaited, ?_⟩
  intro asked real
  have held := before.balanced asked real
  simp only [credit_apply]
  by_cases same : token = asked
  · subst same
    rw [Function.update_self, if_pos rfl]
    omega
  · rw [Function.update_of_ne (Ne.symm same), if_neg same]
    exact held

theorem EscrowSound.step (before : EscrowSound e) (taken : e.Step e') : EscrowSound e' := by
  cases taken with
  | idle => exact before
  | registry untouched step => exact before.registry untouched step
  | configure free step => exact before.configure free step
  | activating here free secured => exact before.activating here free secured
  | activated waits step => exact before.activated waits step
  | registering here free secured => exact before.registering here free secured
  | registered waits named step => exact before.registered waits named step
  | terminating here free secured => exact before.terminating here free secured
  | terminated waits step => exact before.terminated waits step
  | unbonding here free secured => exact before.unbonding here free secured
  | unbonded waits step => exact before.unbonded waits step
  | slash here deployed secured below conserved =>
    exact before.slash here secured below conserved
  | drain token => exact before.drain token

end Steps
end AutonolasRegistries.Guarantees
