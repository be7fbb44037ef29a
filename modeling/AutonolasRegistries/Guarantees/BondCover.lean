import AutonolasRegistries.Guarantees.EscrowLedger

/-!
# Balances cover bonds

The token utility credits an operator with the bonds of its instances before the registry
registers them, and takes tokens from it in two ways only: `slash`, which the multisig of a
deployed service calls, and `unbondTokenRefund`, which is undone unless the registry lets
the operator go. So an operator that was not slashed has at least the bonds of its
instances. `ServiceRegistryTokenUtility.sol:405-584`.

A mark stands for a slash that nothing later made good. It matters from `deploy` to the last
`unbond` only; a registration after that starts from nothing again.
-/
namespace AutonolasRegistries.Guarantees
open Library Source Model

def waitingService : Waiting → Uint32
  | .activating id _ _ | .registering _ id _ _ _ | .terminating id _ _ | .unbonding _ id => id

/-- What is under way at one service. -/
def underWay (e : Escrow) (id : Uint32) : List Waiting :=
  e.waiting.filter fun item => waitingService item = id

/-- The Ids an operator is about to be registered for. -/
def joiningFor (operator : Address) : Waiting → List Uint32
  | .registering other _ _ _ agentIds => if other = operator then agentIds else []
  | _ => []

/-- The Ids an operator has paid bonds for. -/
def bondedIds (own : List Waiting) (t : ServiceSheet) (operator : Address) : List Uint32 :=
  (t.operators operator).map AgentInstance.agentId ++ own.flatMap (joiningFor operator)

/-- A slash may still be felt. -/
def Exposed (own : List Waiting) (state : ServiceState) (operator : Address) : Prop :=
  state = .deployed ∨ state = .terminatedBonded ∨
    (state = .preRegistration ∧ own.flatMap (joiningFor operator) ≠ [])

def CoversBonds (marked : Address → Prop) (own : List Waiting) (id : Uint32) (f : Folio) : Prop :=
  f.tokens.token ≠ 0 → ∀ a,
    bondsOf f.tokens.bonds (bondedIds own f.service a) ≤ f.tokens.balances a ∨
      (marked a ∧ Exposed own f.service.service.state a) ∨ Waiting.unbonding a id ∈ own

structure BondCover (marked : Address → Uint32 → Prop) (e : Escrow) : Prop where
  alone : e.waiting.length ≤ 1
  covers : ∀ id, CoversBonds (marked · id) (underWay e id) id (e.folios id)

section Sums
variable {bonds : Uint32 → Nat}

theorem bondsOf_append (xs ys : List Uint32) :
    bondsOf bonds (xs ++ ys) = bondsOf bonds xs + bondsOf bonds ys := by
  unfold bondsOf
  rw [List.map_append, List.sum_append]

theorem bondsOf_nil : bondsOf bonds [] = 0 := rfl

end Sums

section Folio
variable {marked : Address → Prop} {own : List Waiting} {id : Uint32} {f : Folio}
  {t : ServiceSheet}

/-- Nobody is registered and nothing is under way. -/
theorem CoversBonds.vacant (none : ∀ a, f.service.operators a = []) :
    CoversBonds marked [] id f := by
  intro _ a
  apply Or.inl
  unfold bondedIds
  rw [none a]
  exact Nat.zero_le _

theorem CoversBonds.mono {more : Address → Prop} (grows : ∀ a, marked a → more a)
    (before : CoversBonds marked own id f) : CoversBonds more own id f := by
  intro secured a
  rcases before secured a with covered | ⟨slashed, exposed⟩ | leaving
  · exact Or.inl covered
  · exact Or.inr (Or.inl ⟨grows a slashed, exposed⟩)
  · exact Or.inr (Or.inr leaving)

/-- Marks of operators that can register do not matter. -/
theorem CoversBonds.remark {fewer : Address → Prop}
    (kept : ∀ a, marked a → fewer a ∨ f.service.service.state = .activeRegistration ∨
      f.service.service.state = .finishedRegistration)
    (before : CoversBonds marked own id f) : CoversBonds fewer own id f := by
  intro secured a
  rcases before secured a with covered | ⟨slashed, exposed⟩ | leaving
  · exact Or.inl covered
  · rcases kept a slashed with still | state | state
    · exact Or.inr (Or.inl ⟨still, exposed⟩)
    all_goals
      unfold Exposed at exposed
      rw [state] at exposed
      simp at exposed
  · exact Or.inr (Or.inr leaving)

/-- Actions of the registry other than a configuration and a registration. -/
def Passing : ServiceAction → Prop
  | .configure _ | .register .. => False
  | _ => True

/-- They add nobody to the operators of the service. -/
theorem passing_operators {t' : ServiceSheet} {action : ServiceAction} (passing : Passing action)
    (step : t.Step t' action) (a : Address) :
    t'.operators a = t.operators a ∨ t'.operators a = [] := by
  cases step with
  | configure => exact passing.elim
  | register => exact passing.elim
  | activate _ after | deploy _ _ after | slash _ _ after | terminate _ after =>
    rw [after]
    exact Or.inl rfl
  | @unbond operator _ _ _ after =>
    rw [after]
    by_cases same : a = operator
    · apply Or.inr
      simp only [same, Function.update_self]
    · apply Or.inl
      simp only [Function.update_of_ne same]

/-- A service in PreRegistration has no operators. -/
theorem exposed_idle {a : Address} (book : OperatorBook t)
    (idle : t.service.state = .preRegistration) :
    Exposed own t.service.state a ∨
      (t.operators a = [] ∧ own.flatMap (joiningFor a) = []) := by
  by_cases joins : own.flatMap (joiningFor a) = []
  · exact Or.inr ⟨(book.vacant (Or.inr idle) a).1, joins⟩
  · exact Or.inl (Or.inr (Or.inr ⟨idle, joins⟩))

/-- A slash is felt until the operator has left. -/
theorem exposed_step {t' : ServiceSheet} {action : ServiceAction} {a : Address}
    (passing : Passing action) (book : OperatorBook t') (step : t.Step t' action)
    (activates : action = .activate → own.flatMap (joiningFor a) = [])
    (exposed : Exposed own t.service.state a) :
    Exposed own t'.service.state a ∨
      (t'.operators a = [] ∧ own.flatMap (joiningFor a) = []) := by
  cases step with
  | configure => exact passing.elim
  | register => exact passing.elim
  | activate state =>
    unfold Exposed at exposed
    rw [state, activates rfl] at exposed
    simp at exposed
  | deploy _ state =>
    unfold Exposed at exposed
    rw [state] at exposed
    simp at exposed
  | slash _ _ after =>
    rw [after]
    exact Or.inl exposed
  | terminate _ after =>
    by_cases some : 0 < t.service.numAgentInstances
    · have state : t'.service.state = .terminatedBonded := by
        rw [after]
        exact if_pos some
      exact Or.inl (Or.inr (Or.inl state))
    · have state : t'.service.state = .preRegistration := by
        rw [after]
        exact if_neg some
      exact exposed_idle book state
  | @unbond operator state _ _ after =>
    by_cases last : t.service.numAgentInstances - (t.operators operator).length % 2 ^ 32 = 0
    · have state : t'.service.state = .preRegistration := by
        rw [after]
        exact if_pos last
      exact exposed_idle book state
    · have state : t'.service.state = .terminatedBonded := by
        rw [after, ← state]
        exact if_neg last
      exact Or.inl (Or.inr (Or.inl state))

/-- What such an action leaves covered. `own` becomes `rest` when a transfer is over. -/
theorem CoversBonds.acted {action : ServiceAction} {rest : List Waiting}
    (before : CoversBonds marked own id f) (step : f.service.Step t action)
    (passing : Passing action) (book : OperatorBook t)
    (joins : ∀ a, rest.flatMap (joiningFor a) = own.flatMap (joiningFor a))
    (activates : ∀ a, action = .activate → own.flatMap (joiningFor a) = [])
    (leaves : ∀ a, Waiting.unbonding a id ∈ own → Waiting.unbonding a id ∈ rest ∨
      (t.operators a = [] ∧ own.flatMap (joiningFor a) = [])) :
    CoversBonds marked rest id ⟨t, f.tokens⟩ := by
  intro secured a
  have nothing : t.operators a = [] ∧ own.flatMap (joiningFor a) = [] →
      bondsOf f.tokens.bonds (bondedIds rest t a) ≤ f.tokens.balances a := by
    rintro ⟨gone, none⟩
    unfold bondedIds
    rw [gone, joins a, none]
    exact Nat.zero_le _
  rcases before secured a with covered | ⟨slashed, exposed⟩ | leaving
  · apply Or.inl
    unfold bondedIds at covered ⊢
    rw [bondsOf_append] at covered ⊢
    rw [joins a]
    rcases passing_operators passing step a with same | gone
    · rw [same]
      exact covered
    · rw [gone]
      change 0 + bondsOf f.tokens.bonds _ ≤ f.tokens.balances a
      omega
  · rcases exposed_step passing book step (activates a) exposed with still | gone
    · refine Or.inr (Or.inl ⟨slashed, ?_⟩)
      unfold Exposed at still ⊢
      rw [joins a]
      exact still
    · exact Or.inl (nothing gone)
  · rcases leaves a leaving with still | gone
    · exact Or.inr (Or.inr still)
    · exact Or.inl (nothing gone)

/-- The bonds are paid, and the registration is under way. -/
theorem CoversBonds.joins {operator token : Address} {amount : Nat} {agentIds : List Uint32}
    (before : CoversBonds marked [] id f) :
    CoversBonds marked [.registering operator id token amount agentIds] id
      ⟨f.service, { f.tokens with
        balances := credit f.tokens.balances operator (bondsOf f.tokens.bonds agentIds) }⟩ := by
  intro secured a
  have paid : bondsOf f.tokens.bonds (joiningFor a
      (.registering operator id token amount agentIds)) + f.tokens.balances a =
      credit f.tokens.balances operator (bondsOf f.tokens.bonds agentIds) a := by
    rw [credit_apply, joiningFor]
    split
    · omega
    · rw [bondsOf_nil]
      omega
  rcases before secured a with covered | ⟨slashed, exposed⟩ | leaving
  · apply Or.inl
    unfold bondedIds at covered ⊢
    rw [bondsOf_append] at covered ⊢
    simp only [List.flatMap_nil, bondsOf_nil, List.flatMap_singleton] at covered ⊢
    omega
  · refine Or.inr (Or.inl ⟨slashed, ?_⟩)
    rcases exposed with state | state | ⟨-, some⟩
    · exact Or.inl state
    · exact Or.inr (Or.inl state)
    · exact absurd rfl some
  · cases leaving

/-- The registration is made. -/
theorem CoversBonds.joined {operator token : Address} {amount : Nat} {agentIds : List Uint32}
    {entries : List (Address × Uint32)}
    (before : CoversBonds marked [.registering operator id token amount agentIds] id f)
    (named : entries.map Prod.snd = agentIds)
    (step : f.service.Step t (.register operator entries)) :
    CoversBonds marked [] id ⟨t, f.tokens⟩ := by
  cases step with
  | register state _ _ _ _ _ operators =>
    intro secured a
    rcases before secured a with covered | ⟨-, exposed⟩ | leaving
    · apply Or.inl
      unfold bondedIds at covered ⊢
      rw [operators]
      rw [List.flatMap_singleton, joiningFor] at covered
      by_cases same : a = operator
      · subst same
        have ids : (instancesOf entries).map AgentInstance.agentId = agentIds := by
          rw [← named, instancesOf, List.map_map]
          rfl
        rw [if_pos rfl] at covered
        rw [Function.update_self, List.map_append, ids, List.flatMap_nil, List.append_nil]
        exact covered
      · rw [if_neg (Ne.symm same)] at covered
        rw [Function.update_of_ne same]
        exact covered
    · unfold Exposed at exposed
      rw [state] at exposed
      simp at exposed
    · cases List.mem_singleton.mp leaving

/-- The balances fall, and everybody who lost something is marked or on the way out. -/
theorem CoversBonds.lowered {rest : List Waiting} {balances : Address → Nat}
    (before : CoversBonds marked own id f)
    (joins : ∀ a, rest.flatMap (joiningFor a) = own.flatMap (joiningFor a))
    (waits : ∀ a, Waiting.unbonding a id ∈ own → Waiting.unbonding a id ∈ rest)
    (lost : ∀ a, f.tokens.balances a ≤ balances a ∨ Waiting.unbonding a id ∈ rest ∨
      (marked a ∧ f.service.service.state = .deployed)) :
    CoversBonds marked rest id ⟨f.service, { f.tokens with balances }⟩ := by
  intro secured a
  rcases lost a with kept | leaving | ⟨slashed, state⟩
  · rcases before secured a with covered | ⟨slashed, exposed⟩ | leaving
    · apply Or.inl
      unfold bondedIds at covered ⊢
      rw [joins a]
      exact le_trans covered kept
    · refine Or.inr (Or.inl ⟨slashed, ?_⟩)
      unfold Exposed at exposed ⊢
      rw [joins a]
      exact exposed
    · exact Or.inr (Or.inr (waits a leaving))
  · exact Or.inr (Or.inr leaving)
  · exact Or.inr (Or.inl ⟨slashed, Or.inl state⟩)

/-- Waiting for a transfer that moves nobody's bonds. -/
theorem CoversBonds.waits {rest : List Waiting} (before : CoversBonds marked own id f)
    (joins : ∀ a, rest.flatMap (joiningFor a) = own.flatMap (joiningFor a))
    (waits : ∀ a, Waiting.unbonding a id ∈ own → Waiting.unbonding a id ∈ rest) :
    CoversBonds marked rest id f :=
  before.lowered joins waits fun _ => Or.inl (le_refl _)

end Folio

section Steps
variable {marked : Address → Uint32 → Prop} {e e' : Escrow} {id : Uint32} {f : Folio}

/-- A step writes one folio, and what is under way elsewhere stays. -/
theorem BondCover.written (before : BondCover marked e) (id : Uint32)
    (folios : e'.folios = Function.update e.folios id f) (alone : e'.waiting.length ≤ 1)
    (others : ∀ i ≠ id, underWay e' i = underWay e i)
    (here : CoversBonds (marked · id) (underWay e' id) id f) : BondCover marked e' := by
  refine ⟨alone, fun i => ?_⟩
  rw [folios]
  by_cases same : i = id
  · subst same
    rw [Function.update_self]
    exact here
  · rw [Function.update_of_ne same, others i same]
    exact before.covers i

theorem underWay_nil (none : e.waiting = []) (i : Uint32) : underWay e i = [] := by
  unfold underWay
  rw [none]
  rfl

theorem underWay_single {item : Waiting} (one : e.waiting = [item]) :
    underWay e (waitingService item) = [item] ∧
      ∀ i ≠ waitingService item, underWay e i = [] := by
  unfold underWay
  rw [one]
  constructor
  · simp
  · intro i other
    simp [other.symm]

/-- A function of the manager starts to wait. -/
theorem BondCover.push (before : BondCover marked e) (item : Waiting)
    (folios : e'.folios = Function.update e.folios (waitingService item) f)
    (free : e.waiting = []) (waits : e'.waiting = [item])
    (here : CoversBonds (marked · (waitingService item)) [] (waitingService item)
        (e.folios (waitingService item)) →
      CoversBonds (marked · (waitingService item)) [item] (waitingService item) f) :
    BondCover marked e' := by
  obtain ⟨own, others⟩ := underWay_single waits
  have covers := before.covers (waitingService item)
  rw [underWay_nil free] at covers
  refine before.written _ folios (by rw [waits]; exact le_refl 1) ?_ ?_
  · intro i other
    rw [others i other, underWay_nil free]
  · rw [own]
    exact here covers

/-- A function of the manager goes on after its transfer. -/
theorem BondCover.pop {item : Waiting} {rest : List Waiting} (before : BondCover marked e)
    (folios : e'.folios = Function.update e.folios (waitingService item) f)
    (waits : e.waiting = item :: rest) (after : e'.waiting = rest)
    (here : CoversBonds (marked · (waitingService item)) [item] (waitingService item)
        (e.folios (waitingService item)) →
      CoversBonds (marked · (waitingService item)) [] (waitingService item) f) :
    BondCover marked e' := by
  have last : rest = [] := by
    have alone := before.alone
    rw [waits, List.length_cons] at alone
    exact List.eq_nil_of_length_eq_zero (by omega)
  subst last
  obtain ⟨own, others⟩ := underWay_single waits
  have covers := before.covers (waitingService item)
  rw [own] at covers
  refine before.written _ folios (by rw [after]; exact Nat.zero_le 1) ?_ ?_
  · intro i other
    rw [others i other, underWay_nil after]
  · rw [underWay_nil after]
    exact here covers

theorem update_same (e : Escrow) (id : Uint32) :
    e.folios = Function.update e.folios id (e.folios id) :=
  (Function.update_eq_self id e.folios).symm

/-- Everybody who lost tokens in the step is marked or on the way out. -/
def LossesMarked (marked : Address → Uint32 → Prop) (e e' : Escrow) : Prop :=
  ∀ id a, (e'.folios id).tokens.balances a < (e.folios id).tokens.balances a →
    marked a id ∨ Waiting.unbonding a id ∈ e'.waiting

theorem BondCover.registry {t : ServiceSheet} {action : ServiceAction}
    (before : BondCover marked e) (sound : EscrowSound e)
    (untouched : (e.folios id).tokens.Untouched action)
    (step : (e.folios id).service.Step t action) : BondCover marked (e.writeService id t) := by
  have book := (sound.books id).step step
  refine before.written id rfl before.alone (fun _ _ => rfl) ?_
  change CoversBonds _ (underWay e id) id ⟨t, (e.folios id).tokens⟩
  by_cases secured : (e.folios id).tokens.token = 0
  · exact fun token => absurd secured token
  · have passing : Passing action := by
      cases action with
      | configure => exact untouched.elim
      | register => exact absurd untouched secured
      | _ => trivial
    refine (before.covers id).acted step passing book (fun _ => rfl) ?_ fun _ leaving =>
      Or.inl leaving
    rintro a rfl
    exact absurd untouched secured

theorem BondCover.step_marked (before : BondCover marked e) (sound : EscrowSound e)
    (taken : e.Step e') (losses : LossesMarked marked e e') : BondCover marked e' := by
  cases taken with
  | idle => exact before
  | registry untouched step => exact before.registry sound untouched step
  | @configure id f kept free step =>
    have service := configures_service step
    have book := (sound.books id).step service
    refine before.written id rfl before.alone (fun _ _ => rfl) ?_
    change CoversBonds _ (underWay e id) id f
    rw [underWay_nil free]
    refine CoversBonds.vacant fun a => (book.vacant ?_ a).1
    cases service with
    | configure _ _ _ _ state => exact Or.inr state
  | @activating id tokens here free secured =>
    refine before.push (.activating id tokens.token tokens.deposit) (update_same e id) free rfl ?_
    exact fun covers => covers.waits (fun _ => rfl) fun a leaving => by cases leaving
  | activated waits step =>
    refine before.pop rfl waits rfl fun covers =>
      covers.acted step trivial ((sound.books _).step step) (fun _ => rfl) (fun _ _ => rfl) ?_
    intro a leaving
    cases List.mem_singleton.mp leaving
  | @registering operator id agentIds tokens here free secured =>
    subst here
    exact before.push (.registering operator id _ _ agentIds) rfl free rfl
      fun covers => covers.joins
  | registered waits named step =>
    exact before.pop rfl waits rfl fun covers => covers.joined named step
  | @terminating id tokens here free secured =>
    refine before.push (.terminating id tokens.token tokens.deposit) (update_same e id) free rfl ?_
    exact fun covers => covers.waits (fun _ => rfl) fun a leaving => by cases leaving
  | terminated waits step =>
    refine before.pop rfl waits rfl fun covers =>
      covers.acted step trivial ((sound.books _).step step) (fun _ => rfl) (fun _ _ => rfl) ?_
    intro a leaving
    cases List.mem_singleton.mp leaving
  | @unbonding operator id tokens here free secured =>
    subst here
    refine before.push (.unbonding operator id) rfl free rfl fun covers =>
      covers.lowered (fun _ => rfl) (fun a leaving => by cases leaving) ?_
    intro a
    by_cases same : a = operator
    · rw [same]
      exact Or.inr (Or.inl List.mem_cons_self)
    · apply Or.inl
      rw [Function.update_of_ne same]
      exact le_refl _
  | @unbonded operator id rest t waits step =>
    refine before.pop rfl waits rfl fun covers =>
      covers.acted step trivial ((sound.books _).step step) (fun _ => rfl) (fun _ _ => rfl) ?_
    intro a leaving
    cases List.mem_singleton.mp leaving
    cases step with
    | unbond _ _ _ after =>
      refine Or.inr ⟨?_, rfl⟩
      rw [after]
      exact Function.update_self _ _ _
  | @slash id balances taken tokens here deployed secured below conserved =>
    subst here
    refine before.written id rfl before.alone (fun _ _ => rfl)
      ((before.covers id).lowered (fun _ => rfl) (fun _ leaving => leaving) ?_)
    intro a
    by_cases lost : balances a < (e.folios id).tokens.balances a
    · have fell := losses id a (by
        simp only [Escrow.writeBalances, Escrow.write, Function.update_self]
        exact lost)
      rcases fell with slashed | leaving
      · exact Or.inr (Or.inr ⟨slashed, deployed⟩)
      · refine Or.inr (Or.inl (List.mem_filter.mpr ⟨leaving, ?_⟩))
        exact decide_eq_true rfl
    · exact Or.inl (by omega)
  | drain token => exact ⟨before.alone, before.covers⟩

/-- A step of the escrow with the marks before and after it: those who lost tokens are
marked, and a mark goes only when the operator has registered. -/
theorem BondCover.step {after : Address → Uint32 → Prop} (before : BondCover marked e)
    (sound : EscrowSound e) (taken : e.Step e') (losses : LossesMarked after e e')
    (kept : ∀ a id, marked a id → after a id ∨
      (e'.folios id).service.service.state = .activeRegistration ∨
      (e'.folios id).service.service.state = .finishedRegistration) : BondCover after e' := by
  have both : BondCover (fun a id => marked a id ∨ after a id) e :=
    ⟨before.alone, fun id => (before.covers id).mono fun _ => Or.inl⟩
  have moved := both.step_marked sound taken fun id a fell => (losses id a fell).imp_left Or.inr
  refine ⟨moved.alone, fun id => (moved.covers id).remark ?_⟩
  rintro a (old | new)
  · exact kept a id old
  · exact Or.inl new

end Steps
end AutonolasRegistries.Guarantees
