import AutonolasRegistries.Library.Ledger
import AutonolasRegistries.Guarantees.SolanaSlots

/-!
# The escrow account of the Solana registry

One account holds the deposits and bonds of all services. What moved into it and has not
moved out is the deposits of the services that are open or deployed, the balances of the
operators and the slashed funds. The balance of an operator is never more than the bonds of
its rows, so `unbond`, which adds these bonds up again, pays the whole balance.
-/
namespace AutonolasRegistries.Guarantees
open Library Source Source.ServiceRegistrySolana

/-- The deposit that is held for a service. -/
def depositOf (sv : SolanaService) : Nat :=
  if sv.state.holdsDeposit = true then sv.securityDeposit else 0

/-- The bonds of the instances of an operator. -/
def staked (sv : SolanaService) (operator : Pubkey) : Nat :=
  (((sv.operators.zip sv.agentIdForAgentInstances).filter fun entry => entry.1 = operator).map
    fun entry => sv.bondFor entry.2).sum

theorem staked_rows {sv : SolanaService} {rows : List Row} (lists : sv.Lists rows)
    (operator : Pubkey) : staked sv operator = sv.stakeOf operator rows := by
  rw [staked, SolanaService.stakeOf, lists.operators, lists.agentIds, List.zip_map',
    List.filter_map, List.map_map]
  rfl

section Keys
variable (operatorServiceIdHash : Pubkey → Uint32 → Bytes32) (K : Set (Pubkey × Uint32))

/-- The operators and services a call hashes. -/
def usedKeys (call : SolanaCall) (s : SolanaState) : List (Pubkey × Uint32) :=
  match call with
  | .registerAgents accounts _ serviceId _ _ | .unbond accounts _ serviceId =>
    match signingOperator accounts with
    | .ok operator => [(operator, serviceId)]
    | .error _ => []
  | .slash _ agentInstances _ serviceId =>
    agentInstances.map fun a => (s.mapAgentInstanceOperators a, serviceId)
  | _ => []

/-- All keys are from `K`. -/
def keyDiscipline : Discipline SolanaWorld SolanaCall Empty Empty where
  call call w := ∀ key ∈ usedKeys call w.store, key ∈ K
  answer _ _ _ := True

instance [DecidablePred (· ∈ K)] (call : SolanaCall) (w : SolanaWorld) :
    Decidable ((keyDiscipline K).call call w) :=
  List.decidableBAll (· ∈ K) (usedKeys call w.store)

instance (frame answer : Empty) (w : SolanaWorld) :
    Decidable ((keyDiscipline K).answer frame answer w) := .isTrue trivial

/-- The balance of an operator in a service. -/
def balanceOf (s : SolanaState) (key : Pubkey × Uint32) : Nat :=
  s.mapOperatorAndServiceIdOperatorBalances (operatorServiceIdHash key.1 key.2)

/-- The lamports in the escrow account, and the bonds behind each balance. -/
structure Escrowed (w : SolanaWorld) : Prop where
  balanced : w.received = w.paid + total (fun id => depositOf (w.store.services id)) +
    total w.store.mapOperatorAndServiceIdOperatorBalances + w.store.slashedFunds
  backed : ∀ key ∈ K, balanceOf operatorServiceIdHash w.store key ≤
    staked (w.store.services key.2) key.1

end Keys

section Stakes
variable {sv : SolanaService} {rows : List Row}

theorem Kept.staked_nil (kept : Kept sv []) (operator : Pubkey) : staked sv operator = 0 := by
  rw [staked_rows kept.lists]
  rfl

/-- Cleared rows carry no bond. -/
theorem Kept.bondFor_zero (kept : Kept sv rows) : sv.bondFor 0 = 0 := by
  rw [SolanaService.bondFor, if_neg kept.configured.positive]

theorem stakeOf_register (sv : SolanaService) (rows : List Row) (operator other : Pubkey)
    (entries : List (Pubkey × Uint32)) :
    sv.stakeOf other (rows ++ batchRows operator entries) = sv.stakeOf other rows +
      if other = operator then (entries.map fun entry => sv.bondFor entry.2).sum else 0 := by
  rw [SolanaService.stakeOf, List.filter_append, List.map_append, List.sum_append]
  congr 1
  split
  · next same =>
    subst same
    simp [batchRows, List.filter_map, Function.comp_def]
  · next different => simp [batchRows, List.filter_map, Function.comp_def, Ne.symm different]

/-- When an operator leaves the bonds of the others stay. -/
theorem stakeOf_clear (sv : SolanaService) (rows : List Row) {operator other : Pubkey}
    (different : other ≠ operator) :
    sv.stakeOf other rows ≤ sv.stakeOf other (rows.map (Row.clear operator)) := by
  induction rows with
  | nil => exact le_refl _
  | cons r rest ih =>
    have split_first : ∀ (r : Row) (rest : List Row), sv.stakeOf other (r :: rest) =
        (if r.operator = other then sv.bondFor r.agentId else 0) + sv.stakeOf other rest := by
      intro r rest
      simp only [SolanaService.stakeOf, List.filter_cons]
      split <;> simp_all
    rw [List.map_cons, split_first, split_first]
    refine Nat.add_le_add ?_ ih
    by_cases own : r.operator = operator
    · rw [if_neg fun same => different (same.symm.trans own)]
      exact Nat.zero_le _
    · rw [Row.clear, if_neg own]

/-- When the last operator leaves there are no other bonds. -/
theorem Kept.stakeOf_last (kept : Kept sv rows) {operator other : Pubkey}
    (different : other ≠ operator)
    (last : ∀ r ∈ rows, r.operator = operator ∨ r.operator = 0) : sv.stakeOf other rows = 0 := by
  rw [SolanaService.stakeOf, List.sum_eq_zero_iff]
  intro bond member
  obtain ⟨r, listed, rfl⟩ := List.mem_map.mp member
  obtain ⟨listed, own⟩ := List.mem_filter.mp listed
  have same : r.operator = other := by simpa using own
  rcases last r listed with leaving | gone
  · exact absurd (same.symm.trans leaving) different
  · rw [kept.cleared r listed gone]
    exact kept.bondFor_zero

end Stakes

namespace Escrowed
variable {operatorServiceIdHash : Pubkey → Uint32 → Bytes32} {K : Set (Pubkey × Uint32)}
  {w w' : SolanaWorld}

/-- One record is written: what moves is the deposit, and the balances stay backed. -/
theorem of_write (before : Escrowed operatorServiceIdHash K w) {id : Uint32} {sv : SolanaService}
    (services : w'.store.services = Function.update w.store.services id sv)
    (balances : w'.store.mapOperatorAndServiceIdOperatorBalances =
      w.store.mapOperatorAndServiceIdOperatorBalances)
    (slashed : w'.store.slashedFunds = w.store.slashedFunds)
    (moved : w'.received + w.paid + depositOf (w.store.services id) =
      w.received + w'.paid + depositOf sv)
    (stakes : ∀ operator, (operator, id) ∈ K →
      balanceOf operatorServiceIdHash w.store (operator, id) ≤ staked sv operator) :
    Escrowed operatorServiceIdHash K w' := by
  have deposits := total_map_update_add depositOf w.store.services id sv
  rw [← services] at deposits
  have balanced := before.balanced
  refine ⟨?_, fun key member => ?_⟩
  · rw [balances, slashed]
    omega
  · rw [balanceOf, balances, services, Function.update_apply]
    split
    · next same =>
      obtain ⟨operator, _⟩ := key
      subst same
      exact stakes operator member
    · exact before.backed key member

/-- The same parameters and rows. -/
theorem relabel (before : Escrowed operatorServiceIdHash K w) {id : Uint32}
    {sv : SolanaService}
    (services : w'.store.services = Function.update w.store.services id sv)
    (balances : w'.store.mapOperatorAndServiceIdOperatorBalances =
      w.store.mapOperatorAndServiceIdOperatorBalances)
    (slashed : w'.store.slashedFunds = w.store.slashedFunds)
    (moved : w'.received + w.paid + depositOf (w.store.services id) =
      w.received + w'.paid + depositOf sv)
    (same : ∀ operator, staked sv operator = staked (w.store.services id) operator) :
    Escrowed operatorServiceIdHash K w' := by
  refine before.of_write services balances slashed moved fun operator member => ?_
  rw [same]
  exact before.backed _ member

/-- Before registration opens there are no balances. -/
theorem none (before : Escrowed operatorServiceIdHash K w) (shape : SolanaShape w.store)
    {id : Uint32} {operator : Pubkey} (member : (operator, id) ∈ K)
    (vacant : (w.store.services id).state = .nonExistent ∨
      (w.store.services id).state = .preRegistration) :
    balanceOf operatorServiceIdHash w.store (operator, id) = 0 := by
  obtain ⟨rows, kept⟩ := shape.services id
  obtain rfl := kept.vacant vacant
  have bound := before.backed _ member
  rw [kept.staked_nil] at bound
  exact Nat.le_zero.mp bound

theorem register (free : K.InjOn fun key => operatorServiceIdHash key.1 key.2)
    (before : Escrowed operatorServiceIdHash K w) {accounts : List TxAccount}
    {transferred : Bool} {id : Uint32} {agentInstances : List Pubkey} {agentIds : List Uint32}
    {s : SolanaState} {amount : Nat} {rows : List Row} (kept : Kept (w.store.services id) rows)
    (used : ∀ key ∈ usedKeys (.registerAgents accounts transferred id agentInstances agentIds)
      w.store, key ∈ K)
    (ran : registerAgents operatorServiceIdHash accounts transferred id agentInstances agentIds
      w.store = .ok (s, amount)) :
    Escrowed operatorServiceIdHash K ⟨s, w.received + amount, w.paid⟩ := by
  obtain ⟨operator, signed, someone, lengths, state, listed, sum, -, -, rfl⟩ :=
    registerAgents_ok kept.lists ran
  have key : (operator, id) ∈ K := used _ (by simp [usedKeys, signed])
  have after := kept.register someone lengths state listed
  have balanced := before.balanced
  have batch : ((agentInstances.zip agentIds).map fun entry =>
      (w.store.services id).bondFor entry.2).sum = amount := by
    rw [sum, ← List.map_snd_zip (le_of_eq lengths.symm), List.map_map, List.map_snd_zip
      (le_of_eq lengths.symm)]
    rfl
  refine ⟨?_, fun other member => ?_⟩
  · have deposits := total_map_update_add depositOf w.store.services id
      ((w.store.services id).enrolled rows operator agentInstances agentIds)
    have balances := total_update_add w.store.mapOperatorAndServiceIdOperatorBalances
      (operatorServiceIdHash operator id)
      (w.store.mapOperatorAndServiceIdOperatorBalances (operatorServiceIdHash operator id) +
        amount)
    have held : depositOf ((w.store.services id).enrolled rows operator agentInstances agentIds) =
        depositOf (w.store.services id) := by
      unfold SolanaService.enrolled fill
      split <;> simp [depositOf, SolanaService.withInstances, state, ServiceState.holdsDeposit]
    dsimp only
    omega
  · obtain ⟨account, service⟩ := other
    dsimp only
    by_cases here : service = id
    · subst here
      rw [Function.update_self, staked_rows after.lists, SolanaService.stakeOf,
        ((w.store.services service).enrolled_parameters rows operator agentInstances
          agentIds).2.2, ← SolanaService.stakeOf, stakeOf_register, batch]
      have bound := before.backed _ member
      rw [staked_rows kept.lists] at bound
      simp only [balanceOf] at bound ⊢
      by_cases own : account = operator
      · subst own
        rw [Function.update_self, if_pos rfl]
        omega
      · have different : operatorServiceIdHash account service ≠
            operatorServiceIdHash operator service :=
          fun same => own (Prod.mk.inj (free member key same)).1
        rw [Function.update_of_ne different, if_neg own]
        exact bound
    · rw [Function.update_of_ne here]
      have different : operatorServiceIdHash account service ≠
          operatorServiceIdHash operator id :=
        fun same => here (Prod.mk.inj (free member key same)).2
      simp only [balanceOf, Function.update_of_ne different]
      exact before.backed _ member

theorem slash (before : Escrowed operatorServiceIdHash K w) {serviceId : Uint32}
    {entries : List (Pubkey × Uint64)} {s : SolanaState}
    (ran : loop (slashBody operatorServiceIdHash serviceId) entries w.store = .ok s) :
    Escrowed operatorServiceIdHash K ⟨s, w.received, w.paid⟩ := by
  obtain ⟨funds, balances, ⟨sum, backed⟩, rfl⟩ := slashLoop_ok ran
    (fun funds balances =>
      total balances + funds = total w.store.mapOperatorAndServiceIdOperatorBalances +
        w.store.slashedFunds ∧
      ∀ key ∈ K, balances (operatorServiceIdHash key.1 key.2) ≤
        staked (w.store.services key.2) key.1)
    ⟨rfl, before.backed⟩ (by
      rintro funds balances hash taken ⟨sum, backed⟩ enough
      refine ⟨?_, fun key member => ?_⟩
      · have moved := total_update_add balances hash (balances hash - taken)
        omega
      · rw [Function.update_apply]
        split
        · next same =>
          have bound := backed key member
          rw [same] at bound
          exact le_trans (Nat.sub_le _ _) bound
        · exact backed key member)
  refine ⟨?_, backed⟩
  have balanced := before.balanced
  dsimp only
  omega

/-- The operator that unbonds gets its whole balance. -/
theorem refund (before : Escrowed operatorServiceIdHash K w) {id : Uint32} {operator : Pubkey}
    {rows : List Row} (kept : Kept (w.store.services id) rows) (member : (operator, id) ∈ K) :
    min (w.store.mapOperatorAndServiceIdOperatorBalances (operatorServiceIdHash operator id))
      ((w.store.services id).stakeOf operator rows) =
      balanceOf operatorServiceIdHash w.store (operator, id) := by
  have bound := before.backed _ member
  rw [staked_rows kept.lists] at bound
  exact min_eq_left bound

theorem unbond (free : K.InjOn fun key => operatorServiceIdHash key.1 key.2)
    (before : Escrowed operatorServiceIdHash K w) {accounts : List TxAccount}
    {transferred : Bool} {id : Uint32} {s : SolanaState} {amount : Nat} {rows : List Row}
    (kept : Kept (w.store.services id) rows)
    (used : ∀ key ∈ usedKeys (.unbond accounts transferred id) w.store, key ∈ K)
    (ran : ServiceRegistrySolana.unbond operatorServiceIdHash accounts transferred id w.store =
      .ok (s, amount)) :
    Escrowed operatorServiceIdHash K ⟨s, w.received, w.paid + amount⟩ := by
  obtain ⟨operator, signed, someone, state, -, -, paid, rfl⟩ := unbond_ok kept.lists ran
  have key : (operator, id) ∈ K := used _ (by simp [usedKeys, signed])
  rw [before.refund kept key] at paid
  have cleared : (if 0 < amount then
      Function.update w.store.mapOperatorAndServiceIdOperatorBalances
        (operatorServiceIdHash operator id) 0
      else w.store.mapOperatorAndServiceIdOperatorBalances) =
      Function.update w.store.mapOperatorAndServiceIdOperatorBalances
        (operatorServiceIdHash operator id) 0 := by
    split
    · rfl
    · next zero =>
      have empty : w.store.mapOperatorAndServiceIdOperatorBalances
          (operatorServiceIdHash operator id) = 0 := by
        simp only [balanceOf] at paid
        omega
      rw [← empty, Function.update_eq_self]
  obtain ⟨rows', which, after⟩ := kept.unbond someone state
  have balanced := before.balanced
  refine ⟨?_, fun other member => ?_⟩
  · have deposits := total_map_update_add depositOf w.store.services id
      ((w.store.services id).released rows operator)
    have balances := total_update_add w.store.mapOperatorAndServiceIdOperatorBalances
      (operatorServiceIdHash operator id) 0
    have unheld : depositOf ((w.store.services id).released rows operator) = 0 ∧
        depositOf (w.store.services id) = 0 := by
      unfold SolanaService.released vacate
      split <;> simp [depositOf, SolanaService.withInstances, state, ServiceState.holdsDeposit]
    simp only [cleared, balanceOf] at paid ⊢
    omega
  · obtain ⟨account, service⟩ := other
    simp only [cleared]
    by_cases here : service = id
    · subst here
      have bound := before.backed _ member
      rw [staked_rows kept.lists] at bound
      rw [Function.update_self, staked_rows after.lists]
      simp only [balanceOf] at bound ⊢
      by_cases own : account = operator
      · subst own
        rw [Function.update_self]
        exact Nat.zero_le _
      · have different : operatorServiceIdHash account service ≠
            operatorServiceIdHash operator service :=
          fun same => own (Prod.mk.inj (free member key same)).1
        rw [Function.update_of_ne different]
        rcases which with rfl | ⟨rfl, last⟩
        · refine le_trans bound (le_trans (stakeOf_clear _ rows own) (le_of_eq ?_))
          unfold SolanaService.released vacate
          split <;> rfl
        · rw [kept.stakeOf_last own last] at bound
          exact le_trans bound (Nat.zero_le _)
    · rw [Function.update_of_ne here]
      have different : operatorServiceIdHash account service ≠
          operatorServiceIdHash operator id :=
        fun same => here (Prod.mk.inj (free member key same)).2
      simp only [balanceOf, Function.update_of_ne different]
      exact before.backed _ member

theorem deployment (owner : Pubkey) :
    Escrowed operatorServiceIdHash K (SolanaWorld.deployment owner) := by
  refine ⟨?_, fun _ _ => Nat.zero_le _⟩
  have deposits : total (fun id => depositOf ((SolanaWorld.deployment owner).store.services id)) =
      0 := total_zero
  have balances :
      total (SolanaWorld.deployment owner).store.mapOperatorAndServiceIdOperatorBalances = 0 :=
    total_zero
  rw [deposits, balances]
  rfl

end Escrowed

/-- A service that its owner terminates holds its deposit, and does not afterwards. -/
theorem terminate_held {s : SolanaState} (shape : SolanaShape s) {id : Uint32}
    (owned : (s.services id).serviceOwner ≠ 0)
    (opened : (s.services id).state ≠ .preRegistration)
    (bonded : (s.services id).state ≠ .terminatedBonded) :
    depositOf (s.services id) = (s.services id).securityDeposit := by
  have existing : (s.services id).state ≠ .nonExistent := by
    intro none
    rw [shape.existing id none] at owned
    exact owned rfl
  unfold depositOf
  cases state : (s.services id).state with
  | nonExistent => exact absurd state existing
  | preRegistration => exact absurd state opened
  | terminatedBonded => exact absurd state bonded
  | activeRegistration | finishedRegistration | deployed => rfl

theorem terminate_released (sv : SolanaService) :
    depositOf { sv with
      state := if 0 < sv.numAgentInstances then .terminatedBonded else .preRegistration } = 0 := by
  unfold depositOf
  split <;> rfl

theorem escrowed_step {operatorServiceIdHash : Pubkey → Uint32 → Bytes32}
    {K : Set (Pubkey × Uint32)} (free : K.InjOn fun key => operatorServiceIdHash key.1 key.2)
    {w w' : SolanaWorld} {call : SolanaCall} (used : (keyDiscipline K).call call w)
    (shape : SolanaShape w.store) (before : Escrowed operatorServiceIdHash K w)
    (ran : w.enter operatorServiceIdHash call = .ok w') :
    Escrowed operatorServiceIdHash K w' := by
  cases call with
  | create =>
    obtain ⟨s, run, rfl⟩ := keeping_eq_ok.mp ran
    obtain ⟨id, sv, fresh, -, -, state, -, -, rfl⟩ := create_ok run
    have blank := shape.blank id (by omega)
    refine before.of_write rfl rfl rfl ?_ fun operator member => ?_
    · rw [blank]
      simp [depositOf, state, SolanaService.empty, ServiceState.holdsDeposit]
    · rw [before.none shape member (Or.inl (by rw [blank]; rfl))]
      exact Nat.zero_le _
  | update _ _ _ _ _ _ id =>
    obtain ⟨s, run, rfl⟩ := keeping_eq_ok.mp ran
    obtain ⟨state, sv, -, state', -, -, -, -, -, rfl⟩ := update_ok run
    refine before.of_write rfl rfl rfl ?_ fun operator member => ?_
    · simp [depositOf, state, state', ServiceState.holdsDeposit]
    · rw [before.none shape member (Or.inr state)]
      exact Nat.zero_le _
  | activateRegistration =>
    obtain ⟨s, amount, run, rfl⟩ := taking_eq_ok.mp ran
    obtain ⟨state, rfl, rfl⟩ := activateRegistration_ok run
    refine before.relabel rfl rfl rfl ?_ fun _ => rfl
    simp only [depositOf, state, ServiceState.holdsDeposit, Bool.false_eq_true, if_false, if_true]
    omega
  | registerAgents _ _ id =>
    obtain ⟨s, amount, run, rfl⟩ := taking_eq_ok.mp ran
    obtain ⟨rows, kept⟩ := shape.services id
    exact before.register free kept used run
  | deploy =>
    obtain ⟨s, run, rfl⟩ := keeping_eq_ok.mp ran
    obtain ⟨state, rfl⟩ := deploy_ok run
    refine before.relabel rfl rfl rfl ?_ fun _ => rfl
    simp [depositOf, state, ServiceState.holdsDeposit]
  | slash =>
    obtain ⟨s, run, rfl⟩ := keeping_eq_ok.mp ran
    exact before.slash (slash_ok run).2
  | terminate _ _ id =>
    obtain ⟨s, amount, run, rfl⟩ := sending_eq_ok.mp ran
    obtain ⟨owned, opened, bonded, rfl, rfl⟩ := terminate_ok run
    refine before.relabel rfl rfl rfl ?_ fun _ => rfl
    rw [terminate_held shape owned opened bonded, terminate_released]
    dsimp only
    omega
  | unbond _ _ id =>
    obtain ⟨s, amount, run, rfl⟩ := sending_eq_ok.mp ran
    obtain ⟨rows, kept⟩ := shape.services id
    exact before.unbond free kept used run
  | drain =>
    obtain ⟨s, amount, run, rfl⟩ := sending_eq_ok.mp ran
    obtain ⟨rfl, rfl⟩ := drain_ok run
    refine ⟨?_, before.backed⟩
    have balanced := before.balanced
    dsimp only
    omega
  | changeOwner =>
    obtain ⟨s, run, rfl⟩ := keeping_eq_ok.mp ran
    obtain rfl := changeOwner_ok run
    exact ⟨before.balanced, before.backed⟩
  | transfer =>
    obtain ⟨s, run, rfl⟩ := keeping_eq_ok.mp ran
    obtain ⟨-, -, rfl⟩ := transfer_ok run
    exact before.relabel rfl rfl rfl rfl fun _ => rfl

/-- What a call that pays out of the escrow account has recorded for the one it pays: the
deposit held for the service, the balance of the operator, or the slashed funds. -/
def recordedFor (operatorServiceIdHash : Pubkey → Uint32 → Bytes32) (call : SolanaCall)
    (s : SolanaState) : Nat :=
  match call with
  | .terminate _ _ serviceId => depositOf (s.services serviceId)
  | .unbond accounts _ serviceId =>
    match signingOperator accounts with
    | .ok operator => balanceOf operatorServiceIdHash s (operator, serviceId)
    | .error _ => 0
  | .drain _ _ => s.slashedFunds
  | _ => 0

theorem paid_recorded {operatorServiceIdHash : Pubkey → Uint32 → Bytes32}
    {K : Set (Pubkey × Uint32)} {w w' : SolanaWorld} {call : SolanaCall}
    (used : (keyDiscipline K).call call w) (shape : SolanaShape w.store)
    (before : Escrowed operatorServiceIdHash K w)
    (ran : w.enter operatorServiceIdHash call = .ok w') :
    w'.paid = w.paid + recordedFor operatorServiceIdHash call w.store := by
  cases call with
  | terminate =>
    obtain ⟨s, amount, run, rfl⟩ := sending_eq_ok.mp ran
    obtain ⟨owned, opened, bonded, rfl, -⟩ := terminate_ok run
    rw [recordedFor, terminate_held shape owned opened bonded]
  | unbond _ _ id =>
    obtain ⟨s, amount, run, rfl⟩ := sending_eq_ok.mp ran
    obtain ⟨rows, kept⟩ := shape.services id
    obtain ⟨operator, signed, -, -, -, -, paid, -⟩ := unbond_ok kept.lists run
    have key : (operator, id) ∈ K := used _ (by simp [usedKeys, signed])
    rw [before.refund kept key] at paid
    simp only [recordedFor, signed, paid]
  | drain =>
    obtain ⟨s, amount, run, rfl⟩ := sending_eq_ok.mp ran
    obtain ⟨rfl, -⟩ := drain_ok run
    rfl
  | create | update | deploy | slash | changeOwner | transfer =>
    obtain ⟨s, run, rfl⟩ := keeping_eq_ok.mp ran
    rfl
  | activateRegistration | registerAgents =>
    obtain ⟨s, amount, run, rfl⟩ := taking_eq_ok.mp ran
    rfl

/-- In every run of the registry whose hash keys do not collide the escrow account holds the
deposits of the open and deployed services, the balances of the operators and the slashed
funds; the operators of a service before registration have no balance, and whatever is paid
out was recorded for the one it is paid to. -/
theorem solana_escrow_conserved (operatorServiceIdHash : Pubkey → Uint32 → Bytes32)
    (owner : Pubkey) (K : Set (Pubkey × Uint32))
    (free : K.InjOn fun key => operatorServiceIdHash key.1 key.2) {c : Config SolanaWorld Empty}
    (run : Reachable (solanaMachine operatorServiceIdHash) (keyDiscipline K)
      (SolanaWorld.deployment owner) c) :
    c.state.received = c.state.paid +
        (∑ serviceId : Uint32,
          if (c.state.store.services serviceId).state.holdsDeposit = true then
            (c.state.store.services serviceId).securityDeposit else 0) +
        (∑ key : Bytes32, c.state.store.mapOperatorAndServiceIdOperatorBalances key) +
        c.state.store.slashedFunds ∧
      (∀ serviceId, (c.state.store.services serviceId).state = .preRegistration →
        ∀ operator, (operator, serviceId) ∈ K →
          c.state.store.mapOperatorAndServiceIdOperatorBalances
            (operatorServiceIdHash operator serviceId) = 0) ∧
      ∀ call w', (keyDiscipline K).call call c.state →
        c.state.enter operatorServiceIdHash call = .ok w' →
        w'.paid = c.state.paid + recordedFor operatorServiceIdHash call c.state.store := by
  obtain ⟨shape, escrowed⟩ := solana_invariant (P := Escrowed operatorServiceIdHash K)
    (fun w call w' used shape before ran => escrowed_step free used shape before ran)
    (Escrowed.deployment owner) run
  refine ⟨?_, fun serviceId idle operator member => ?_, fun call w' used ran => ?_⟩
  · have balanced := escrowed.balanced
    rw [total_eq_sum, total_eq_sum] at balanced
    exact balanced
  · exact escrowed.none shape member (Or.inr idle)
  · exact paid_recorded used shape escrowed ran

/-- Two instances with bonds of 5 are registered and the service is terminated: the deposit of
5 is back with the owner. -/
theorem solana_escrow_conserved_terminated :
    ∃ c, Reachable (solanaMachine plainHash) (keyDiscipline {key | key = (4, 1)})
        (SolanaWorld.deployment 2) c ∧ c.state.received = 15 ∧ c.state.paid = 5 ∧
      15 = 5 +
        (∑ serviceId : Uint32,
          if (c.state.store.services serviceId).state.holdsDeposit = true then
            (c.state.store.services serviceId).securityDeposit else 0) +
        (∑ key : Bytes32, c.state.store.mapOperatorAndServiceIdOperatorBalances key) +
        c.state.store.slashedFunds := by
  obtain ⟨c, run, seen⟩ := Machine.play_observed (keyDiscipline {key | key = (4, 1)})
    (solanaMachine plainHash) (SolanaWorld.deployment 2) (openScript 2 ++ [pairCall,
      .call (.terminate (signedBy 3 (by decide)) true 1)])
    (fun c => (c.state.received, c.state.paid)) (15, 5) (by decide +kernel)
  obtain ⟨received, paid⟩ := Prod.mk.inj seen
  have apart : Set.InjOn (fun key : Pubkey × Uint32 => plainHash key.1 key.2)
      {key | key = (4, 1)} := by
    rintro first rfl second rfl _
    rfl
  have conserved := (solana_escrow_conserved plainHash 2 {key | key = (4, 1)} apart run).1
  rw [received, paid] at conserved
  exact ⟨c, run, received, paid, conserved⟩

end AutonolasRegistries.Guarantees
