import Mathlib.Algebra.BigOperators.Group.List.Basic
import AutonolasRegistries.Source.ServiceRegistrySolana

/-!
# What the functions of the Solana registry do

One lemma for each function of the registry on Solana. The three arrays of a service that
grow with every registration are read as one list of rows.
-/
namespace AutonolasRegistries.Source
open Library

/-- One index of the arrays `operators`, `agentInstances` and `agentIdForAgentInstances`. -/
structure Row where
  operator : Pubkey
  agentInstance : Pubkey
  agentId : Uint32
  deriving DecidableEq, Repr

namespace SolanaService

/-- The arrays of the service hold the rows. -/
structure Lists (sv : SolanaService) (rows : List Row) : Prop where
  operators : sv.operators = rows.map Row.operator
  agentInstances : sv.agentInstances = rows.map Row.agentInstance
  agentIds : sv.agentIdForAgentInstances = rows.map Row.agentId

/-- The service with other rows. -/
def withRows (sv : SolanaService) (rows : List Row) : SolanaService :=
  { sv with
    operators := rows.map Row.operator
    agentInstances := rows.map Row.agentInstance
    agentIdForAgentInstances := rows.map Row.agentId }

/-- The service with other rows and another number of instances. -/
def withInstances (sv : SolanaService) (rows : List Row) (number : Nat) : SolanaService :=
  { sv with
    operators := rows.map Row.operator
    agentInstances := rows.map Row.agentInstance
    agentIdForAgentInstances := rows.map Row.agentId
    numAgentInstances := number }

theorem withRows_lists (sv : SolanaService) (rows : List Row) : (sv.withRows rows).Lists rows :=
  ⟨rfl, rfl, rfl⟩

theorem Lists.eq_withRows {sv : SolanaService} {rows : List Row} (lists : sv.Lists rows) :
    sv = sv.withRows rows := by
  simp only [withRows, ← lists.operators, ← lists.agentInstances, ← lists.agentIds]

theorem Lists.eq_withInstances {sv : SolanaService} {rows : List Row} (lists : sv.Lists rows) :
    sv = sv.withInstances rows sv.numAgentInstances := by
  simp only [withInstances, ← lists.operators, ← lists.agentInstances, ← lists.agentIds]

/-- The bond of an agent Id of the service. -/
def bondFor (sv : SolanaService) (agentId : Uint32) : Nat :=
  if agentId ∈ sv.agentIds then (sv.bonds.getD (sv.agentIds.idxOf agentId) 0).val else 0

/-- The bonds of the instances of an operator. -/
def stakeOf (sv : SolanaService) (operator : Pubkey) (rows : List Row) : Nat :=
  ((rows.filter fun r => r.operator = operator).map fun r => sv.bondFor r.agentId).sum

end SolanaService

/-- A row of the operator that leaves. -/
def Row.clear (operator : Pubkey) (r : Row) : Row :=
  if r.operator = operator then ⟨0, 0, 0⟩ else r

namespace ServiceRegistrySolana
variable {accounts : List TxAccount} {s s' : SolanaState} {serviceId : Uint32}

/-- A signature is asked of an account that is not the zero account. -/
theorem requireSigner_ok {authority : Pubkey} {u : Unit}
    (h : requireSigner accounts authority = .ok u) : authority ≠ 0 := by
  unfold requireSigner at h
  split at h
  · next account found =>
    rw [revertIf_eq_ok, Bool.not_eq_false] at h
    have key : account.key = authority := by simpa using List.find?_some found
    rw [← key]
    exact account.signs h
  · cases h

theorem signingOperator_ok {operator : Pubkey} (h : signingOperator accounts = .ok operator) :
    operator ≠ 0 := by
  simp only [signingOperator, bind_eq_ok, revertIf_eq_ok, exists_const, pure_eq_ok] at h
  obtain ⟨someone, rfl⟩ := h
  exact someone

theorem service_ok {sv : SolanaService} (h : service serviceId s = .ok sv) :
    sv = s.services serviceId ∧ serviceId.val < 2 ^ 32 - 1 := by
  simp only [service, bind_eq_ok, revertIf_eq_ok, exists_const, pure_eq_ok, not_le] at h
  exact ⟨h.2.symm, h.1⟩

theorem lock_ok (h : lock s = .ok s') : s' = { s with locked := 2 } := by
  simp only [lock, bind_eq_ok, revertIf_eq_ok, exists_const, pure_eq_ok] at h
  exact h.2.symm

/-- Ascending agent Ids from above `last` on. -/
theorem ascending_ok {agentIds : List Uint32} {last final : Nat}
    (h : loop ascendingBody agentIds last = .ok final) :
    agentIds.Nodup ∧ ∀ agentId ∈ agentIds, last < agentId.val := by
  induction agentIds generalizing last with
  | nil => simp
  | cons agentId rest ih =>
    obtain ⟨next, ran, h⟩ := loop_cons_eq_ok.mp h
    simp only [ascendingBody, bind_eq_ok, checkedAdd_eq_ok, revertIf_eq_ok, exists_const,
      pure_eq_ok, not_lt] at ran
    obtain ⟨_, ⟨-, rfl⟩, above, rfl⟩ := ran
    obtain ⟨nodup, later⟩ := ih h
    refine ⟨List.nodup_cons.mpr ⟨fun member => lt_irrefl _ (later _ member), nodup⟩, ?_⟩
    intro other member
    rcases List.mem_cons.mp member with rfl | member
    · exact above
    · exact lt_trans above (later other member)

theorem addSlots_ok {slots : List Uint32} {start final : Nat}
    (h : loop addSlots slots start = .ok final) :
    final = start + (slots.map fun slot => slot.val).sum := by
  refine loop_total (fun n => n) (fun slot : Uint32 => slot.val) ?_ h
  intro slot _ n next ran
  simp only [addSlots, checkedAdd_eq_ok] at ran
  exact ran.2.symm

/-- The parameters of a service: Ids above zero without repetition, with slots and bonds for
each, and room for as many instances as there are slots. -/
structure Configured (sv : SolanaService) : Prop where
  nodup : sv.agentIds.Nodup
  positive : (0 : Uint32) ∉ sv.agentIds
  slots : sv.slots.length = sv.agentIds.length
  bonds : sv.bonds.length = sv.agentIds.length
  limit : sv.maxNumAgentInstances = (sv.slots.map fun slot => slot.val).sum

theorem empty_configured : Configured .empty :=
  ⟨List.nodup_nil, List.not_mem_nil, rfl, rfl, rfl⟩

theorem initialChecks_ok {configHash : Bytes32} {agentIds slots : List Uint32}
    {bonds : List Uint64} {u : Unit}
    (h : initialChecks configHash agentIds slots bonds = .ok u) :
    agentIds.Nodup ∧ (0 : Uint32) ∉ agentIds ∧ slots.length = agentIds.length ∧
      bonds.length = agentIds.length := by
  simp only [initialChecks, bind_eq_ok, revertIf_eq_ok, exists_const, not_or, ne_eq, not_not] at h
  obtain ⟨-, ⟨-, slots, bonds⟩, _, ascending, -⟩ := h
  obtain ⟨nodup, positive⟩ := ascending_ok ascending
  exact ⟨nodup, fun zero => lt_irrefl 0 (positive 0 zero), slots.symm, bonds.symm⟩

/-- `setServiceData` on a service whose maximum was reset. -/
theorem setServiceData_ok {sv sv' : SolanaService} {configHash : Bytes32}
    {agentIds slots : List Uint32} {bonds : List Uint64} {u : Unit}
    (checked : initialChecks configHash agentIds slots bonds = .ok u)
    (reset : sv.maxNumAgentInstances = 0)
    (h : setServiceData sv agentIds slots bonds = .ok sv') :
    Configured sv' ∧ ∃ limit, sv' = { sv with
      agentIds
      slots
      bonds
      maxNumAgentInstances := limit
      securityDeposit := maxBond bonds } := by
  simp only [setServiceData, bind_eq_ok, revertIf_eq_ok, exists_const, pure_eq_ok] at h
  obtain ⟨limit, total, _, -, _, -, -, rfl⟩ := h
  obtain ⟨nodup, positive, lengths, lengths'⟩ := initialChecks_ok checked
  have sum := addSlots_ok total
  rw [reset, Nat.zero_add] at sum
  exact ⟨⟨nodup, positive, lengths, lengths', sum⟩, limit, rfl⟩

theorem create_ok {serviceOwner : Pubkey} {configHash : Bytes32} {agentIds slots : List Uint32}
    {bonds : List Uint64} {threshold : Uint32}
    (h : create serviceOwner configHash agentIds slots bonds threshold s = .ok s') :
    ∃ (id : Uint32) (sv : SolanaService), id.val = s.totalSupply + 1 ∧ id.val < 2 ^ 32 - 1 ∧
      Configured sv ∧ sv.state = .preRegistration ∧ sv.Lists [] ∧ sv.numAgentInstances = 0 ∧
      s' = { s with
        locked := 1
        totalSupply := s.totalSupply + 1
        services := Function.update s.services id sv } := by
  simp only [create, bind_eq_ok, revertIf_eq_ok, exists_const, checkedAdd_eq_ok, pure_eq_ok] at h
  obtain ⟨_, locked, -, _, checked, _, ⟨bound, rfl⟩, sv, set, _, read, rfl⟩ := h
  obtain rfl := lock_ok locked
  obtain ⟨-, below⟩ := service_ok read
  obtain ⟨configured, limit, same⟩ := setServiceData_ok checked rfl set
  have value : (Fin.ofNat (2 ^ 32) (s.totalSupply + 1)).val = s.totalSupply + 1 :=
    Nat.mod_eq_of_lt bound
  refine ⟨Fin.ofNat _ (s.totalSupply + 1), { sv with serviceOwner }, value, below,
    ⟨configured.nodup, configured.positive, configured.slots, configured.bonds,
      configured.limit⟩, ?_, ?_, ?_, rfl⟩
  · rw [same]
  · rw [same]
    exact ⟨rfl, rfl, rfl⟩
  · rw [same]
    rfl

theorem update_ok {configHash : Bytes32} {agentIds slots : List Uint32} {bonds : List Uint64}
    {threshold : Uint32}
    (h : update accounts configHash agentIds slots bonds threshold serviceId s = .ok s') :
    (s.services serviceId).state = .preRegistration ∧
      ∃ sv : SolanaService, Configured sv ∧ sv.state = .preRegistration ∧
        sv.serviceOwner = (s.services serviceId).serviceOwner ∧
        sv.operators = (s.services serviceId).operators ∧
        sv.agentInstances = (s.services serviceId).agentInstances ∧
        sv.agentIdForAgentInstances = (s.services serviceId).agentIdForAgentInstances ∧
        sv.numAgentInstances = (s.services serviceId).numAgentInstances ∧
        s' = write serviceId sv s := by
  simp only [update, bind_eq_ok, revertIf_eq_ok, exists_const, pure_eq_ok, ne_eq, not_not] at h
  obtain ⟨sv, read, -, -, state, _, checked, sv', set, rfl⟩ := h
  obtain ⟨rfl, -⟩ := service_ok read
  obtain ⟨configured, limit, rfl⟩ := setServiceData_ok checked rfl set
  exact ⟨state, _, configured, state, rfl, rfl, rfl, rfl, rfl, rfl⟩

theorem activateRegistration_ok {transferred : Bool} {amount : Nat}
    (h : activateRegistration accounts transferred serviceId s = .ok (s', amount)) :
    (s.services serviceId).state = .preRegistration ∧
      amount = (s.services serviceId).securityDeposit ∧
      s' = write serviceId { s.services serviceId with state := .activeRegistration } s := by
  simp only [activateRegistration, bind_eq_ok, revertIf_eq_ok, exists_const, pure_eq_ok, ne_eq,
    not_not, Prod.mk.injEq] at h
  obtain ⟨sv, read, -, -, state, -, rfl, rfl⟩ := h
  obtain ⟨rfl, -⟩ := service_ok read
  exact ⟨state, rfl, rfl⟩

theorem deploy_ok {multisig : Pubkey} (h : deploy accounts serviceId multisig s = .ok s') :
    (s.services serviceId).state = .finishedRegistration ∧
      s' = { write serviceId { s.services serviceId with multisig, state := .deployed } s with
        locked := 1 } := by
  simp only [deploy, bind_eq_ok, revertIf_eq_ok, exists_const, pure_eq_ok, ne_eq, not_not] at h
  obtain ⟨_, locked, sv, read, -, -, state, -, rfl⟩ := h
  obtain rfl := lock_ok locked
  obtain ⟨rfl, -⟩ := service_ok read
  exact ⟨state, rfl⟩

theorem terminate_ok {transferred : Bool} {amount : Nat}
    (h : terminate accounts transferred serviceId s = .ok (s', amount)) :
    (s.services serviceId).serviceOwner ≠ 0 ∧
      (s.services serviceId).state ≠ .preRegistration ∧
      (s.services serviceId).state ≠ .terminatedBonded ∧
      amount = (s.services serviceId).securityDeposit ∧
      s' = { write serviceId { s.services serviceId with
          state := if 0 < (s.services serviceId).numAgentInstances then .terminatedBonded
            else .preRegistration } s with
        locked := 1 } := by
  simp only [terminate, bind_eq_ok, revertIf_eq_ok, exists_const, pure_eq_ok, not_or,
    Prod.mk.injEq] at h
  obtain ⟨_, locked, sv, read, _, signed, ⟨open', bonded⟩, -, rfl, rfl⟩ := h
  obtain rfl := lock_ok locked
  obtain ⟨rfl, -⟩ := service_ok read
  exact ⟨requireSigner_ok signed, open', bonded, rfl, rfl⟩

theorem drain_ok {transferred : Bool} {amount : Nat}
    (h : drain accounts transferred s = .ok (s', amount)) :
    amount = s.slashedFunds ∧ s' = { s with locked := 1, slashedFunds := 0 } := by
  simp only [drain, bind_eq_ok] at h
  obtain ⟨_, locked, -, -, h⟩ := h
  obtain rfl := lock_ok locked
  split at h
  · simp only [bind_eq_ok, revertIf_eq_ok, exists_const, pure_eq_ok, Prod.mk.injEq] at h
    obtain ⟨-, rfl, rfl⟩ := h
    exact ⟨rfl, rfl⟩
  · next none =>
    have zero : s.slashedFunds = 0 := Nat.eq_zero_of_not_pos none
    simp only [pure_eq_ok, Prod.mk.injEq] at h
    obtain ⟨rfl, rfl⟩ := h
    refine ⟨zero.symm, ?_⟩
    rw [← zero]
    rfl

theorem changeOwner_ok {newOwner : Pubkey} (h : changeOwner accounts newOwner s = .ok s') :
    s' = { s with owner := newOwner } := by
  simp only [changeOwner, bind_eq_ok, revertIf_eq_ok, exists_const, pure_eq_ok] at h
  obtain ⟨-, -, -, rfl⟩ := h
  rfl

theorem transfer_ok {newServiceOwner : Pubkey}
    (h : transfer accounts serviceId newServiceOwner s = .ok s') :
    (s.services serviceId).serviceOwner ≠ 0 ∧ newServiceOwner ≠ 0 ∧
      s' = write serviceId { s.services serviceId with serviceOwner := newServiceOwner } s := by
  simp only [transfer, bind_eq_ok, revertIf_eq_ok, exists_const, pure_eq_ok] at h
  obtain ⟨sv, read, _, signed, someone, rfl⟩ := h
  obtain ⟨rfl, -⟩ := service_ok read
  exact ⟨requireSigner_ok signed, someone, rfl⟩

/-- The rows of a batch. -/
def batchRows (operator : Pubkey) (entries : List (Pubkey × Uint32)) : List Row :=
  entries.map fun entry => ⟨operator, entry.1, entry.2⟩

end ServiceRegistrySolana

/-- The record that `registerAgents` leaves, -/
def SolanaService.enrolled (sv : SolanaService) (rows : List Row) (operator : Pubkey)
    (agentInstances : List Pubkey) (agentIds : List Uint32) : SolanaService :=
  ServiceRegistrySolana.fill (sv.withInstances
    (rows ++ ServiceRegistrySolana.batchRows operator (agentInstances.zip agentIds))
    (sv.numAgentInstances + agentInstances.length))

theorem SolanaService.enrolled_lists (sv : SolanaService) (rows : List Row) (operator : Pubkey)
    (agentInstances : List Pubkey) (agentIds : List Uint32) :
    (sv.enrolled rows operator agentInstances agentIds).Lists
      (rows ++ ServiceRegistrySolana.batchRows operator (agentInstances.zip agentIds)) := by
  unfold enrolled ServiceRegistrySolana.fill
  split <;> exact ⟨rfl, rfl, rfl⟩

/-- Registration leaves the parameters alone. -/
theorem SolanaService.enrolled_parameters (sv : SolanaService) (rows : List Row)
    (operator : Pubkey) (agentInstances : List Pubkey) (agentIds : List Uint32) :
    (sv.enrolled rows operator agentInstances agentIds).agentIds = sv.agentIds ∧
      (sv.enrolled rows operator agentInstances agentIds).slots = sv.slots ∧
      (sv.enrolled rows operator agentInstances agentIds).bondFor = sv.bondFor := by
  unfold enrolled ServiceRegistrySolana.fill
  split <;> exact ⟨rfl, rfl, rfl⟩

/-- and the one that `unbond` leaves. -/
def SolanaService.released (sv : SolanaService) (rows : List Row) (operator : Pubkey) :
    SolanaService :=
  ServiceRegistrySolana.vacate (sv.withInstances (rows.map (Row.clear operator))
    (sv.numAgentInstances - rows.countP fun r => r.operator = operator))

namespace ServiceRegistrySolana
variable {accounts : List TxAccount} {s s' : SolanaState} {serviceId : Uint32}

/-- The first loop of `registerAgents`: the Ids are Ids of the service, none of which was full
before the call, and their bonds are added up. -/
theorem bondLoop_ok {sv : SolanaService} {agentIds : List Uint32} {start final : Nat}
    (h : loop (bondBody sv) agentIds start = .ok final) :
    (∀ agentId ∈ agentIds, agentId ∈ sv.agentIds) ∧
      final = start + (agentIds.map sv.bondFor).sum := by
  induction agentIds generalizing start with
  | nil =>
    cases h
    simp
  | cons agentId rest ih =>
    obtain ⟨next, ran, h⟩ := loop_cons_eq_ok.mp h
    simp only [bondBody, bind_eq_ok, revertIf_eq_ok, exists_const, checkedAdd_eq_ok, readAt_eq_ok,
      pure_eq_ok] at ran
    obtain ⟨found, bond, read, _, ⟨-, rfl⟩, _, -, -, rfl⟩ := ran
    have member : agentId ∈ sv.agentIds :=
      List.idxOf_lt_length_iff.mp (lt_of_le_of_ne List.idxOf_le_length found)
    obtain ⟨others, rfl⟩ := ih h
    refine ⟨fun other listed => ?_, ?_⟩
    · rcases List.mem_cons.mp listed with rfl | listed
      · exact member
      · exact others other listed
    · have price : sv.bondFor agentId = bond.val := by
        rw [SolanaService.bondFor, if_pos member, List.getD_eq_getElem?_getD, read,
          Option.getD_some]
      rw [List.map_cons, List.sum_cons, price]
      omega

theorem extend_ok {α : Type} {count : Nat} {items written : List α} {item : α}
    (aligned : items.length = count) (h : extend count items item = .ok written) :
    written = items ++ [item] := by
  simp only [extend, bind_eq_ok, revertIf_eq_ok, exists_const, pure_eq_ok] at h
  rw [← h.2, ← aligned, List.take_length]

/-- The second loop of `registerAgents`. -/
theorem registerLoop_ok {operator : Pubkey} {entries : List (Pubkey × Uint32)} {rows : List Row}
    (someone : operator ≠ 0) (lists : (s.services serviceId).Lists rows)
    (h : loop (registerBody operator serviceId) entries s = .ok s') :
    (∀ a ∈ entries.map Prod.fst, s.mapAgentInstanceOperators a = 0) ∧
      (entries.map Prod.fst).Nodup ∧
      s' = { s with
        services := Function.update s.services serviceId
          ((s.services serviceId).withInstances (rows ++ batchRows operator entries)
          ((s.services serviceId).numAgentInstances + entries.length))
        mapAgentInstanceOperators := fun a =>
          if a ∈ entries.map Prod.fst then operator else s.mapAgentInstanceOperators a } := by
  induction entries generalizing s rows with
  | nil =>
    cases h
    refine ⟨by simp, List.nodup_nil, ?_⟩
    simp only [batchRows, List.map_nil, List.append_nil, List.length_nil, Nat.add_zero,
      ← lists.eq_withInstances, Function.update_eq_self, List.not_mem_nil, if_false]
  | cons entry rest ih =>
    obtain ⟨next, ran, h⟩ := loop_cons_eq_ok.mp h
    simp only [registerBody, bind_eq_ok, revertIf_eq_ok, exists_const, checkedAdd_eq_ok,
      pure_eq_ok, ne_eq, not_not] at ran
    obtain ⟨-, free, _, -, operators, first, instances, second, ids, third, _, ⟨-, rfl⟩, same⟩ :=
      ran
    have count : (s.services serviceId).operators.length = rows.length := by
      rw [lists.operators, List.length_map]
    obtain rfl := extend_ok rfl first
    obtain rfl := extend_ok (by rw [lists.agentInstances, List.length_map, count]) second
    obtain rfl := extend_ok (by rw [lists.agentIds, List.length_map, count]) third
    have lists' : (next.services serviceId).Lists (rows ++ [⟨operator, entry.1, entry.2⟩]) := by
      rw [← same]
      simp only [write, Function.update_self]
      constructor
      · rw [lists.operators, List.map_append, List.map_singleton]
      · rw [lists.agentInstances, List.map_append, List.map_singleton]
      · rw [lists.agentIds, List.map_append, List.map_singleton]
    obtain ⟨unused, nodup, rfl⟩ := ih lists' h
    subst same
    have fresh : entry.1 ∉ rest.map Prod.fst := by
      intro member
      have engaged := unused entry.1 member
      simp only [write, Function.update_self] at engaged
      exact someone engaged
    refine ⟨?_, ?_, ?_⟩
    · intro a member
      rcases List.mem_cons.mp member with rfl | member
      · exact free
      · have other : a ≠ entry.1 := fun same => fresh (same ▸ member)
        have before := unused a member
        simpa only [write, Function.update_of_ne other] using before
    · exact List.nodup_cons.mpr ⟨fresh, nodup⟩
    · simp only [write, Function.update_self, Function.update_idem, SolanaService.withInstances,
        batchRows, List.map_cons, List.append_assoc, List.singleton_append, List.length_cons]
      congr 1
      · funext a
        by_cases same : a = entry.1
        · subst same
          simp [fresh]
        · simp [same]
      · congr 2
        omega

theorem registerAgents_ok {operatorServiceIdHash : Pubkey → Uint32 → Bytes32}
    {transferred : Bool} {agentInstances : List Pubkey} {agentIds : List Uint32} {amount : Nat}
    {rows : List Row} (lists : (s.services serviceId).Lists rows)
    (h : registerAgents operatorServiceIdHash accounts transferred serviceId agentInstances
      agentIds s = .ok (s', amount)) :
    ∃ operator, signingOperator accounts = .ok operator ∧ operator ≠ 0 ∧
      agentInstances.length = agentIds.length ∧
      (s.services serviceId).state = .activeRegistration ∧
      (∀ agentId ∈ agentIds, agentId ∈ (s.services serviceId).agentIds) ∧
      amount = (agentIds.map (s.services serviceId).bondFor).sum ∧
      (∀ a ∈ agentInstances, s.mapAgentInstanceOperators a = 0) ∧ agentInstances.Nodup ∧
      s' = { s with
        services := Function.update s.services serviceId
          ((s.services serviceId).enrolled rows operator agentInstances agentIds)
        mapAgentInstanceOperators := fun a =>
          if a ∈ agentInstances then operator else s.mapAgentInstanceOperators a
        mapOperatorAndServiceIdOperatorBalances :=
          Function.update s.mapOperatorAndServiceIdOperatorBalances
            (operatorServiceIdHash operator serviceId)
            (s.mapOperatorAndServiceIdOperatorBalances
              (operatorServiceIdHash operator serviceId) + amount) } := by
  simp only [registerAgents, bind_eq_ok, revertIf_eq_ok, exists_const, checkedAdd_eq_ok,
    pure_eq_ok, ne_eq, not_not, Prod.mk.injEq] at h
  obtain ⟨lengths, sv, read, state, operator, signed, total, bonds, -, mid, run, -, _, ⟨-, rfl⟩,
    rfl, rfl⟩ := h
  obtain ⟨rfl, -⟩ := service_ok read
  obtain ⟨members, sum⟩ := bondLoop_ok bonds
  have someone := signingOperator_ok signed
  obtain ⟨unused, nodup, rfl⟩ := registerLoop_ok someone lists run
  rw [List.map_fst_zip (le_of_eq lengths)] at unused nodup
  refine ⟨operator, signed, someone, lengths, state, members, by omega, unused, nodup, ?_⟩
  simp only [write, Function.update_self, Function.update_idem, SolanaService.enrolled,
    List.map_fst_zip (le_of_eq lengths), List.length_zip, lengths, min_self]

/-- What the loop of `slash` does: it takes something off balances of this service, all of
which goes to the slashed funds. -/
theorem slashLoop_ok {operatorServiceIdHash : Pubkey → Uint32 → Bytes32}
    {entries : List (Pubkey × Uint64)}
    (h : loop (slashBody operatorServiceIdHash serviceId) entries s = .ok s')
    (P : Nat → (Bytes32 → Nat) → Prop)
    (start : P s.slashedFunds s.mapOperatorAndServiceIdOperatorBalances)
    (move : ∀ funds balances key taken, P funds balances → taken ≤ balances key →
      P (funds + taken) (Function.update balances key (balances key - taken))) :
    ∃ funds balances, P funds balances ∧ s' = { s with
      slashedFunds := funds
      mapOperatorAndServiceIdOperatorBalances := balances } := by
  induction entries generalizing s with
  | nil =>
    cases h
    exact ⟨_, _, start, rfl⟩
  | cons entry rest ih =>
    obtain ⟨next, ran, h⟩ := loop_cons_eq_ok.mp h
    simp only [slashBody, bind_eq_ok, checkedAdd_eq_ok, pure_eq_ok] at ran
    obtain ⟨_, ⟨-, rfl⟩, rfl⟩ := ran
    obtain ⟨funds, balances, holds, rfl⟩ := ih h (move _ _ _ _ start (by split <;> omega))
    exact ⟨funds, balances, holds, rfl⟩

theorem slash_ok {operatorServiceIdHash : Pubkey → Uint32 → Bytes32}
    {agentInstances : List Pubkey} {amounts : List Uint64}
    (h : slash operatorServiceIdHash accounts agentInstances amounts serviceId s = .ok s') :
    (s.services serviceId).state = .deployed ∧
      loop (slashBody operatorServiceIdHash serviceId) (agentInstances.zip amounts) s =
        .ok s' := by
  simp only [slash, bind_eq_ok, revertIf_eq_ok, exists_const, ne_eq, not_not] at h
  obtain ⟨sv, read, state, -, -, -, run⟩ := h
  obtain ⟨rfl, -⟩ := service_ok read
  exact ⟨state, run⟩

theorem addBond_ok {sv : SolanaService} {agentId : Uint32} {refund refund' : Nat}
    (h : addBond sv agentId refund = .ok refund') : refund' = refund + sv.bondFor agentId := by
  simp only [addBond] at h
  split at h
  · next found =>
    simp only [bind_eq_ok, readAt_eq_ok, checkedAdd_eq_ok] at h
    obtain ⟨bond, read, -, rfl⟩ := h
    rw [SolanaService.bondFor, if_pos (List.idxOf_lt_length_iff.mp found),
      List.getD_eq_getElem?_getD, read, Option.getD_some]
  · next missing =>
    simp only [pure_eq_ok] at h
    rw [SolanaService.bondFor, if_neg fun member => missing (List.idxOf_lt_length_iff.mpr member),
      ← h]
    rfl

/-- One row of the loop in `unbond`. -/
theorem unbondBody_ok {operator : Pubkey} {u u' : Unbonding} {gone todo : List Row} {r : Row}
    (lists : u.sv.Lists (gone ++ r :: todo))
    (h : unbondBody operator gone.length u = .ok u') :
    u'.sv = u.sv.withRows (gone ++ r.clear operator :: todo) ∧
      u'.refund = u.refund + (if r.operator = operator then u.sv.bondFor r.agentId else 0) ∧
      u'.numAgentsUnbond = u.numAgentsUnbond + (if r.operator = operator then 1 else 0) := by
  have read : ∀ {α : Type} (f : Row → α),
      ((gone ++ r :: todo).map f)[gone.length]? = some (f r) := by
    intro α f
    simp
  simp only [unbondBody, bind_eq_ok, readAt_eq_ok] at h
  obtain ⟨entry, found, h⟩ := h
  rw [lists.operators, read] at found
  cases found
  split at h
  · next own =>
    simp only [bind_eq_ok, readAt_eq_ok, writeAt_eq_ok, checkedAdd_eq_ok, pure_eq_ok] at h
    obtain ⟨agentId, listed, _, ⟨-, rfl⟩, _, ⟨-, rfl⟩, _, ⟨-, rfl⟩, _, ⟨-, rfl⟩, refund, added,
      rfl⟩ := h
    rw [lists.agentIds, read] at listed
    cases listed
    have price := addBond_ok added
    have set : ∀ {α : Type} (f : Row → α) (a : α), f ⟨0, 0, 0⟩ = a →
        ((gone ++ r :: todo).map f).set gone.length a =
          (gone ++ ⟨0, 0, 0⟩ :: todo).map f := by
      rintro α f a rfl
      simp
    rw [if_pos own.symm, if_pos own.symm, Row.clear, if_pos own.symm]
    refine ⟨?_, price, rfl⟩
    simp only [lists.operators, lists.agentInstances, lists.agentIds, set _ _ rfl]
    rfl
  · next other =>
    simp only [pure_eq_ok] at h
    subst h
    rw [if_neg fun own => other own.symm, if_neg fun own => other own.symm, Row.clear,
      if_neg fun own => other own.symm]
    exact ⟨lists.eq_withRows, rfl, rfl⟩

/-- The loop of `unbond`: the rows of the operator are cleared, their bonds added up. -/
theorem unbondLoop_ok {operator : Pubkey} {gone todo : List Row} {u u' : Unbonding}
    (lists : u.sv.Lists (gone ++ todo))
    (h : loop (unbondBody operator) (List.range' gone.length todo.length) u = .ok u') :
    u'.sv = u.sv.withRows (gone ++ todo.map (Row.clear operator)) ∧
      u'.refund = u.refund + u.sv.stakeOf operator todo ∧
      u'.numAgentsUnbond = u.numAgentsUnbond + todo.countP fun r => r.operator = operator := by
  induction todo generalizing gone u with
  | nil =>
    cases h
    rw [List.append_nil] at lists
    refine ⟨?_, rfl, rfl⟩
    rw [List.map_nil, List.append_nil]
    exact lists.eq_withRows
  | cons r rest ih =>
    rw [List.length_cons, List.range'_succ] at h
    obtain ⟨mid, ran, h⟩ := loop_cons_eq_ok.mp h
    obtain ⟨rows, refund, count⟩ := unbondBody_ok lists ran
    have lists' : mid.sv.Lists ((gone ++ [r.clear operator]) ++ rest) := by
      rw [rows, List.append_assoc, List.singleton_append]
      exact SolanaService.withRows_lists _ _
    have length : (gone ++ [r.clear operator]).length = gone.length + 1 := by simp
    rw [← length] at h
    obtain ⟨rows', refund', count'⟩ := ih lists' h
    have same : mid.sv.bondFor = u.sv.bondFor := by
      rw [rows]
      rfl
    refine ⟨?_, ?_, ?_⟩
    · rw [rows', rows, List.append_assoc]
      rfl
    · rw [refund', refund, SolanaService.stakeOf, SolanaService.stakeOf, same, List.filter_cons]
      by_cases own : r.operator = operator <;> simp [own, Nat.add_assoc]
    · rw [count', count, List.countP_cons]
      by_cases own : r.operator = operator
      · simp [own]
        omega
      · simp [own]

theorem refundOperator_ok {transferred : Bool} {key : Bytes32} {refund amount : Nat}
    (h : refundOperator transferred key refund s = .ok (s', amount)) :
    amount = min (s.mapOperatorAndServiceIdOperatorBalances key) refund ∧ s' = { s with
      mapOperatorAndServiceIdOperatorBalances :=
        if 0 < amount then Function.update s.mapOperatorAndServiceIdOperatorBalances key 0
        else s.mapOperatorAndServiceIdOperatorBalances } := by
  have clamped : (if s.mapOperatorAndServiceIdOperatorBalances key < refund then
      s.mapOperatorAndServiceIdOperatorBalances key else refund) =
      min (s.mapOperatorAndServiceIdOperatorBalances key) refund := by
    split <;> omega
  simp only [refundOperator, clamped] at h
  split at h
  · next owed =>
    simp only [bind_eq_ok, revertIf_eq_ok, exists_const, pure_eq_ok, Prod.mk.injEq] at h
    obtain ⟨-, rfl, rfl⟩ := h
    exact ⟨rfl, by rw [if_pos owed]⟩
  · next none =>
    simp only [pure_eq_ok, Prod.mk.injEq] at h
    obtain ⟨rfl, rfl⟩ := h
    exact ⟨by omega, by rw [if_neg (lt_irrefl 0)]⟩

theorem unbond_ok {operatorServiceIdHash : Pubkey → Uint32 → Bytes32} {transferred : Bool}
    {amount : Nat} {rows : List Row} (lists : (s.services serviceId).Lists rows)
    (h : unbond operatorServiceIdHash accounts transferred serviceId s = .ok (s', amount)) :
    ∃ operator, signingOperator accounts = .ok operator ∧ operator ≠ 0 ∧
      (s.services serviceId).state = .terminatedBonded ∧
      (∃ r ∈ rows, r.operator = operator) ∧
      (rows.countP fun r => r.operator = operator) ≤ (s.services serviceId).numAgentInstances ∧
      amount = min (s.mapOperatorAndServiceIdOperatorBalances
          (operatorServiceIdHash operator serviceId))
        ((s.services serviceId).stakeOf operator rows) ∧
      s' = { s with
        locked := 1
        services := Function.update s.services serviceId
          ((s.services serviceId).released rows operator)
        mapOperatorAndServiceIdOperatorBalances :=
          if 0 < amount then
            Function.update s.mapOperatorAndServiceIdOperatorBalances
              (operatorServiceIdHash operator serviceId) 0
          else s.mapOperatorAndServiceIdOperatorBalances } := by
  simp only [unbond, bind_eq_ok, revertIf_eq_ok, exists_const, ne_eq, not_not,
    checkedSub_eq_ok, Prod.exists, pure_eq_ok, Prod.mk.injEq] at h
  obtain ⟨_, locked, operator, signed, sv, read, state, u, run, some, _, ⟨enough, rfl⟩, last,
    paid, refunded, rfl, rfl⟩ := h
  obtain rfl := lock_ok locked
  obtain ⟨rfl, -⟩ := service_ok read
  have length : (s.services serviceId).operators.length = rows.length := by
    rw [lists.operators, List.length_map]
  have ran : loop (unbondBody operator)
      (List.range' (List.length ([] : List Row)) rows.length) ⟨s.services serviceId, 0, 0⟩ =
        .ok u := by
    rw [List.length_nil, ← List.range_eq_range', ← length]
    exact run
  obtain ⟨after, refund, count⟩ := unbondLoop_ok lists ran
  simp only [List.nil_append, Nat.zero_add] at after refund count
  have present : ∃ r ∈ rows, r.operator = operator := by
    rw [count] at some
    have positive : 0 < rows.countP fun r => r.operator = operator := Nat.pos_of_ne_zero some
    simpa using List.countP_pos_iff.mp positive
  have instances : u.sv.numAgentInstances = (s.services serviceId).numAgentInstances := by
    rw [after]
    rfl
  rw [instances, count] at enough
  obtain ⟨amount, rfl⟩ := refundOperator_ok refunded
  rw [refund] at amount
  refine ⟨operator, signed, signingOperator_ok signed, state, present, enough, amount, ?_⟩
  simp only [count, after]
  rfl

end ServiceRegistrySolana
end AutonolasRegistries.Source
