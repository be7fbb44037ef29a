import Mathlib.Algebra.BigOperators.Group.Finset.Basic
import AutonolasRegistries.Library.Ledger
import AutonolasRegistries.Source.RegistryEffects

/-!
# Reading the packed maps service by service

The storage maps are keyed by packed words. Below the bounds at which the
packing is injective a write for one service is invisible to every other one, and
the loops of the source read back as plain list operations. These are the only
lemmas that look at keys.
-/
namespace AutonolasRegistries.Source
open Library

section Keys
variable {V : Type}

theorem update_serviceAgent {serviceId serviceId' : Nat} (bound : serviceId < 2 ^ 32)
    (bound' : serviceId' < 2 ^ 32) (m : Word → V) (x y : Uint32) (v : V) :
    Function.update m (serviceAgent serviceId x) v (serviceAgent serviceId' y) =
      if serviceId' = serviceId ∧ y = x then v else m (serviceAgent serviceId' y) := by
  rw [Function.update_apply]
  refine if_congr ⟨fun same => serviceAgent_injective bound' bound same, ?_⟩ rfl rfl
  rintro ⟨rfl, rfl⟩
  rfl

theorem update_operatorService {serviceId serviceId' : Nat} (bound : serviceId < 2 ^ 96)
    (bound' : serviceId' < 2 ^ 96) (m : Word → V) (a b : Address) (v : V) :
    Function.update m (operatorService a serviceId) v (operatorService b serviceId') =
      if serviceId' = serviceId ∧ b = a then v else m (operatorService b serviceId') := by
  rw [Function.update_apply]
  refine if_congr ⟨fun same => (operatorService_injective bound' bound same).symm, ?_⟩ rfl rfl
  rintro ⟨rfl, rfl⟩
  rfl

end Keys

namespace ServiceRegistry

theorem deleteInstances_read {serviceId serviceId' : Nat} (bound : serviceId < 2 ^ 32)
    (bound' : serviceId' < 2 ^ 32) (ids : List Uint32) (m : Word → List Address) (y : Uint32) :
    deleteInstances serviceId ids m (serviceAgent serviceId' y) =
      if serviceId' = serviceId ∧ y ∈ ids then [] else m (serviceAgent serviceId' y) := by
  induction ids generalizing m with
  | nil => simp [deleteInstances]
  | cons x rest ih =>
    rw [deleteInstances, List.foldl_cons]
    change deleteInstances serviceId rest _ _ = _
    rw [ih, update_serviceAgent bound bound']
    by_cases same : serviceId' = serviceId <;> by_cases first : y = x <;> simp [same, first]

theorem writeParams_other {serviceId serviceId' : Nat} (bound : serviceId < 2 ^ 32)
    (bound' : serviceId' < 2 ^ 32) (different : serviceId' ≠ serviceId)
    (entries : List (Uint32 × AgentParams)) (m : Word → AgentParams) (y : Uint32) :
    writeParams serviceId entries m (serviceAgent serviceId' y) =
      m (serviceAgent serviceId' y) := by
  induction entries generalizing m with
  | nil => rfl
  | cons e rest ih =>
    rw [writeParams, List.foldl_cons]
    change writeParams serviceId rest _ _ = _
    rw [ih, update_serviceAgent bound bound', if_neg (fun h => different h.1)]

theorem writeParams_absent {serviceId : Nat} (bound : serviceId < 2 ^ 32)
    {entries : List (Uint32 × AgentParams)} (m : Word → AgentParams) {y : Uint32}
    (absent : y ∉ entries.map Prod.fst) :
    writeParams serviceId entries m (serviceAgent serviceId y) =
      m (serviceAgent serviceId y) := by
  induction entries generalizing m with
  | nil => rfl
  | cons e rest ih =>
    simp only [List.map_cons, List.mem_cons, not_or] at absent
    rw [writeParams, List.foldl_cons]
    change writeParams serviceId rest _ _ = _
    rw [ih _ absent.2, update_serviceAgent bound bound, if_neg (fun h => absent.1 h.2)]

theorem writeParams_listed {serviceId : Nat} (bound : serviceId < 2 ^ 32)
    {entries : List (Uint32 × AgentParams)} (unique : (entries.map Prod.fst).Nodup)
    (m : Word → AgentParams) {e : Uint32 × AgentParams} (member : e ∈ entries) :
    writeParams serviceId entries m (serviceAgent serviceId e.1) = e.2 := by
  induction entries generalizing m with
  | nil => simp at member
  | cons head rest ih =>
    simp only [List.map_cons, List.nodup_cons] at unique
    rw [writeParams, List.foldl_cons]
    change writeParams serviceId rest _ _ = _
    rcases List.mem_cons.mp member with rfl | member
    · rw [writeParams_absent bound _ unique.1, update_serviceAgent bound bound,
        if_pos ⟨rfl, rfl⟩]
    · exact ih unique.2 _ member

/-- The slots the written parameters give to the listed Ids add up to `slotSum`. -/
theorem writeParams_slots {serviceId : Nat} (bound : serviceId < 2 ^ 32)
    {entries : List (Uint32 × AgentParams)} (unique : (entries.map Prod.fst).Nodup)
    (m : Word → AgentParams) :
    ((entries.map Prod.fst).map fun x =>
      (writeParams serviceId entries m (serviceAgent serviceId x)).slots.val).sum =
      slotSum entries := by
  rw [slotSum, List.map_map]
  apply congrArg List.sum
  apply List.map_congr_left
  intro e member
  simp only [Function.comp]
  rw [writeParams_listed bound unique m member]

theorem deleteParams_other {serviceId serviceId' : Nat} (bound : serviceId < 2 ^ 32)
    (bound' : serviceId' < 2 ^ 32) (different : serviceId' ≠ serviceId)
    (entries : List (Uint32 × AgentParams)) (m : Word → AgentParams) (y : Uint32) :
    deleteParams serviceId entries m (serviceAgent serviceId' y) =
      m (serviceAgent serviceId' y) := by
  induction entries generalizing m with
  | nil => rfl
  | cons e rest ih =>
    rw [deleteParams, List.foldl_cons]
    change deleteParams serviceId rest _ _ = _
    rw [ih]
    split
    · rw [update_serviceAgent bound bound', if_neg (fun h => different h.1)]
    · rfl

/-- An Id that is not passed with no slots keeps its parameters. -/
theorem deleteParams_kept {serviceId : Nat} (bound : serviceId < 2 ^ 32)
    {entries : List (Uint32 × AgentParams)} (m : Word → AgentParams) {y : Uint32}
    (kept : ∀ e ∈ entries, e.1 = y → e.2.slots ≠ 0) :
    deleteParams serviceId entries m (serviceAgent serviceId y) =
      m (serviceAgent serviceId y) := by
  induction entries generalizing m with
  | nil => rfl
  | cons e rest ih =>
    rw [deleteParams, List.foldl_cons]
    change deleteParams serviceId rest _ _ = _
    rw [ih _ fun e' member => kept e' (List.mem_cons_of_mem _ member)]
    split
    · next dropped =>
      rw [update_serviceAgent bound bound, if_neg]
      rintro ⟨-, rfl⟩
      exact kept e List.mem_cons_self rfl dropped
    · rfl

/-- An Id passed with no slots loses them. -/
theorem deleteParams_dropped {serviceId : Nat} (bound : serviceId < 2 ^ 32)
    {entries : List (Uint32 × AgentParams)} (m : Word → AgentParams) {y : Uint32}
    (dropped : m (serviceAgent serviceId y) = default ∨ ∃ e ∈ entries, e.1 = y ∧ e.2.slots = 0) :
    deleteParams serviceId entries m (serviceAgent serviceId y) = default := by
  induction entries generalizing m with
  | nil =>
    rcases dropped with gone | ⟨e, member, -⟩
    · exact gone
    · cases member
  | cons e rest ih =>
    rw [deleteParams, List.foldl_cons]
    change deleteParams serviceId rest _ _ = _
    refine ih _ ?_
    by_cases here : e.2.slots = 0
    · rw [if_pos here, update_serviceAgent bound bound]
      by_cases first : y = e.1
      · exact Or.inl (if_pos ⟨rfl, first⟩)
      · rw [if_neg fun h => first h.2]
        refine dropped.imp_right fun ⟨e', member, same, zero⟩ => ⟨e', ?_, same, zero⟩
        refine (List.mem_cons.mp member).resolve_left ?_
        rintro rfl
        exact first same.symm
    · rw [if_neg here]
      refine dropped.imp_right fun ⟨e', member, same, zero⟩ => ⟨e', ?_, same, zero⟩
      refine (List.mem_cons.mp member).resolve_left ?_
      rintro rfl
      exact here zero

theorem kept_ordered {agentIds : List Uint32} {agentParams : List AgentParams}
    (lengths : agentIds.length = agentParams.length) (sorted : agentIds.Pairwise (· < ·))
    (f : Uint32 × AgentParams → Bool) :
    (((agentIds.zip agentParams).filter f).map Prod.fst).Pairwise (· < ·) := by
  have sub : (((agentIds.zip agentParams).filter f).map Prod.fst).Sublist
      ((agentIds.zip agentParams).map Prod.fst) :=
    List.Sublist.map _ List.filter_sublist
  rw [List.map_fst_zip (le_of_eq lengths)] at sub
  exact sorted.sublist sub

theorem kept_nodup {agentIds : List Uint32} {agentParams : List AgentParams}
    (lengths : agentIds.length = agentParams.length) (sorted : agentIds.Pairwise (· < ·))
    (f : Uint32 × AgentParams → Bool) :
    (((agentIds.zip agentParams).filter f).map Prod.fst).Nodup :=
  (kept_ordered lengths sorted f).imp fun h => ne_of_lt h

/-- The registration loop writes four maps and nothing else. -/
theorem registerLoop_frame {operator : Address} {serviceId : Nat}
    {entries : List (Address × Uint32)} {s s' : RegistryState}
    (h : loop (registerAgentBody operator serviceId) entries s = .ok s') :
    ∃ lists operators services engaged, s' = { s with
      mapServiceAndAgentIdAgentInstances := lists
      mapOperatorAndServiceIdAgentInstances := operators
      mapServices := services
      mapAgentInstanceOperators := engaged } := by
  refine loop_invariant (fun t => ∃ lists operators services engaged, t = { s with
      mapServiceAndAgentIdAgentInstances := lists
      mapOperatorAndServiceIdAgentInstances := operators
      mapServices := services
      mapAgentInstanceOperators := engaged }) ?_ ⟨_, _, _, _, rfl⟩ h
  rintro entry - t next ⟨lists, operators, services, engaged, rfl⟩ ran
  obtain ⟨-, rfl⟩ := registerAgentBody_ok ran
  exact ⟨_, _, _, _, rfl⟩

/-- It counts the service's instances up and touches no other record. -/
theorem registerLoop_services {operator : Address} {serviceId : Nat}
    {entries : List (Address × Uint32)} {s s' : RegistryState}
    (h : loop (registerAgentBody operator serviceId) entries s = .ok s') :
    s'.mapServices = Function.update s.mapServices serviceId
      { s.mapServices serviceId with
        numAgentInstances := (s.mapServices serviceId).numAgentInstances + entries.length } := by
  induction entries generalizing s with
  | nil =>
    cases h
    simp
  | cons entry rest ih =>
    obtain ⟨next, ran, h⟩ := loop_cons_eq_ok.mp h
    obtain ⟨-, rfl⟩ := registerAgentBody_ok ran
    rw [ih h]
    simp only [Function.update_self, Function.update_idem, List.length_cons]
    congr 2
    omega

/-- It appends the entries to the operator's own list. -/
theorem registerLoop_operators {operator : Address} {serviceId : Nat}
    {entries : List (Address × Uint32)} {s s' : RegistryState}
    (h : loop (registerAgentBody operator serviceId) entries s = .ok s') :
    s'.mapOperatorAndServiceIdAgentInstances =
      Function.update s.mapOperatorAndServiceIdAgentInstances
        (operatorService operator serviceId)
        (s.mapOperatorAndServiceIdAgentInstances (operatorService operator serviceId) ++
          entries.map fun e => ⟨e.1, e.2⟩) := by
  induction entries generalizing s with
  | nil =>
    cases h
    simp
  | cons entry rest ih =>
    obtain ⟨next, ran, h⟩ := loop_cons_eq_ok.mp h
    obtain ⟨-, rfl⟩ := registerAgentBody_ok ran
    rw [ih h]
    simp only [Function.update_self, Function.update_idem, List.map_cons, List.append_assoc,
      List.singleton_append]

/-- It appends the instances registered for an Id to the list of that Id. -/
theorem registerLoop_lists {operator : Address} {serviceId serviceId' : Nat}
    (bound : serviceId < 2 ^ 32) (bound' : serviceId' < 2 ^ 32)
    {entries : List (Address × Uint32)} {s s' : RegistryState}
    (h : loop (registerAgentBody operator serviceId) entries s = .ok s') (x : Uint32) :
    s'.mapServiceAndAgentIdAgentInstances (serviceAgent serviceId' x) =
      s.mapServiceAndAgentIdAgentInstances (serviceAgent serviceId' x) ++
        if serviceId' = serviceId then (entries.filter fun e => e.2 = x).map Prod.fst else [] := by
  induction entries generalizing s with
  | nil =>
    cases h
    simp
  | cons entry rest ih =>
    obtain ⟨next, ran, h⟩ := loop_cons_eq_ok.mp h
    obtain ⟨-, rfl⟩ := registerAgentBody_ok ran
    rw [ih h]
    simp only [update_serviceAgent bound bound']
    by_cases same : serviceId' = serviceId
    · subst same
      by_cases first : x = entry.2
      · subst first
        simp
      · simp [first, Ne.symm first]
    · simp [same]

/-- A list within its slots stays within them. -/
theorem registerLoop_room {operator : Address} {serviceId : Nat} (bound : serviceId < 2 ^ 32)
    {entries : List (Address × Uint32)} {s s' : RegistryState}
    (h : loop (registerAgentBody operator serviceId) entries s = .ok s') {x : Uint32}
    (fits : (s.mapServiceAndAgentIdAgentInstances (serviceAgent serviceId x)).length ≤
      (s.mapServiceAndAgentIdAgentParams (serviceAgent serviceId x)).slots.val) :
    (s'.mapServiceAndAgentIdAgentInstances (serviceAgent serviceId x)).length ≤
      (s.mapServiceAndAgentIdAgentParams (serviceAgent serviceId x)).slots.val := by
  induction entries generalizing s with
  | nil =>
    cases h
    exact fits
  | cons entry rest ih =>
    obtain ⟨next, ran, h⟩ := loop_cons_eq_ok.mp h
    obtain ⟨⟨-, -, room⟩, rfl⟩ := registerAgentBody_ok ran
    have others := ih h
    apply others
    simp only [update_serviceAgent bound bound]
    split
    · next same =>
      obtain ⟨-, rfl⟩ := same
      simp only [List.length_append, List.length_singleton]
      omega
    · exact fits

/-- The counter stays within its 32 bits. -/
theorem registerLoop_count {operator : Address} {serviceId : Nat}
    {entries : List (Address × Uint32)} {s s' : RegistryState}
    (h : loop (registerAgentBody operator serviceId) entries s = .ok s')
    (fits : (s.mapServices serviceId).numAgentInstances < 2 ^ 32) :
    (s'.mapServices serviceId).numAgentInstances < 2 ^ 32 := by
  refine loop_invariant
    (fun t => (t.mapServices serviceId).numAgentInstances < 2 ^ 32) ?_ fits h
  intro entry _ t next _ ran
  obtain ⟨⟨-, -, -, counted⟩, rfl⟩ := registerAgentBody_ok ran
  simpa only [Function.update_self] using counted

/-- Only free accounts are registered, each once, and all of them are engaged
with the operator afterwards. -/
theorem registerLoop_engaged {operator : Address} (someone : operator ≠ 0) {serviceId : Nat}
    {entries : List (Address × Uint32)} {s s' : RegistryState}
    (h : loop (registerAgentBody operator serviceId) entries s = .ok s') :
    (entries.map Prod.fst).Nodup ∧
    (∀ a ∈ entries.map Prod.fst, s.mapAgentInstanceOperators a = 0) ∧
    ∀ a, s'.mapAgentInstanceOperators a =
      if a ∈ entries.map Prod.fst then operator else s.mapAgentInstanceOperators a := by
  induction entries generalizing s with
  | nil =>
    cases h
    simp
  | cons entry rest ih =>
    obtain ⟨next, ran, h⟩ := loop_cons_eq_ok.mp h
    obtain ⟨⟨-, free, -⟩, rfl⟩ := registerAgentBody_ok ran
    obtain ⟨unique, unused, read⟩ := ih h
    simp only [Function.update_apply] at unused read
    have fresh : entry.1 ∉ rest.map Prod.fst := by
      intro member
      have := unused entry.1 member
      rw [if_pos rfl] at this
      exact someone this
    refine ⟨List.nodup_cons.mpr ⟨fresh, unique⟩, ?_, ?_⟩
    · intro a member
      rcases List.mem_cons.mp member with rfl | member
      · exact free
      · have different : a ≠ entry.1 := by
          rintro rfl
          exact fresh member
        simpa only [if_neg different] using unused a member
    · intro a
      rw [read a]
      by_cases first : a = entry.1 <;> simp [first]

/-- The whole registration: the loops' closed forms in one record. -/
theorem registerAgents_done {sender operator : Address} {value serviceId : Nat}
    {agentInstances : List Address} {agentIds : List Uint32} {s s' : RegistryState}
    (h : registerAgents sender value operator serviceId agentInstances agentIds s = .ok s') :
    ∃ mid, loop (registerAgentBody operator serviceId) (agentInstances.zip agentIds) s = .ok mid ∧
    s' = { s with
      mapServiceAndAgentIdAgentInstances := mid.mapServiceAndAgentIdAgentInstances
      mapAgentInstanceOperators := mid.mapAgentInstanceOperators
      mapServices := Function.update s.mapServices serviceId
        { s.mapServices serviceId with
          numAgentInstances :=
            (s.mapServices serviceId).numAgentInstances + (agentInstances.zip agentIds).length
          state :=
            if (s.mapServices serviceId).numAgentInstances +
                (agentInstances.zip agentIds).length =
                (s.mapServices serviceId).maxNumAgentInstances then .finishedRegistration
            else (s.mapServices serviceId).state }
      mapOperatorAndServiceIdAgentInstances :=
        Function.update s.mapOperatorAndServiceIdAgentInstances
          (operatorService operator serviceId)
          (s.mapOperatorAndServiceIdAgentInstances (operatorService operator serviceId) ++
            (agentInstances.zip agentIds).map fun e => ⟨e.1, e.2⟩)
      mapOperatorAndServiceIdOperatorBalances :=
        Function.update s.mapOperatorAndServiceIdOperatorBalances
          (operatorService operator serviceId)
          (s.mapOperatorAndServiceIdOperatorBalances (operatorService operator serviceId) +
            value % 2 ^ 96) } := by
  obtain ⟨mid, -, run, rfl⟩ := registerAgents_ok h
  refine ⟨mid, run, ?_⟩
  have services := registerLoop_services run
  have operators := registerLoop_operators run
  obtain ⟨lists, operators', services', engaged, rfl⟩ := registerLoop_frame run
  simp only at services operators
  subst services operators
  simp only [Function.update_self, Function.update_idem]
  split <;> rfl

/-- The slashing loop moves balances of the service into the slashed funds and
writes nothing else. -/
theorem slashLoop_frame {serviceId : Nat} {entries : List (Address × Uint96)}
    {s s' : RegistryState} (h : loop (slashBody serviceId) entries s = .ok s') :
    ∃ slashed balances, s' = { s with
      slashedFunds := slashed
      mapOperatorAndServiceIdOperatorBalances := balances } ∧
      total balances + slashed =
        total s.mapOperatorAndServiceIdOperatorBalances + s.slashedFunds ∧
      (∀ k, balances k ≤ s.mapOperatorAndServiceIdOperatorBalances k) ∧
      ∀ k, (∀ operator, k ≠ operatorService operator serviceId) →
        balances k = s.mapOperatorAndServiceIdOperatorBalances k := by
  refine loop_invariant (fun t => ∃ slashed balances, t = { s with
      slashedFunds := slashed
      mapOperatorAndServiceIdOperatorBalances := balances } ∧
      total balances + slashed =
        total s.mapOperatorAndServiceIdOperatorBalances + s.slashedFunds ∧
      (∀ k, balances k ≤ s.mapOperatorAndServiceIdOperatorBalances k) ∧
      ∀ k, (∀ operator, k ≠ operatorService operator serviceId) →
        balances k = s.mapOperatorAndServiceIdOperatorBalances k) ?_
    ⟨s.slashedFunds, s.mapOperatorAndServiceIdOperatorBalances, rfl, rfl,
      fun _ => le_refl _, fun _ _ => rfl⟩ h
  rintro entry - t next ⟨slashed, balances, rfl, conserved, below, others⟩ ran
  obtain ⟨operator, taken, enough, rfl⟩ := slashBody_ok ran
  simp only at enough
  refine ⟨_, _, rfl, ?_, ?_, ?_⟩
  · have moved := total_update_add balances (operatorService operator serviceId)
      (balances (operatorService operator serviceId) - taken)
    simp only
    omega
  · intro k
    by_cases same : k = operatorService operator serviceId
    · subst same
      simp only [Function.update_self]
      exact le_trans (Nat.sub_le _ _) (below _)
    · simp only [Function.update_of_ne same]
      exact below k
  · intro k outside
    simp only [Function.update_of_ne (outside operator)]
    exact others k outside

theorem freeInstances_read (instances : List AgentInstance) (m : Address → Address)
    (a : Address) :
    freeInstances instances m a = if a ∈ instances.map AgentInstance.inst then 0 else m a := by
  induction instances generalizing m with
  | nil => simp [freeInstances]
  | cons head rest ih =>
    rw [freeInstances, List.foldl_cons]
    change freeInstances rest _ _ = _
    rw [ih, Function.update_apply]
    by_cases first : a = head.inst <;> simp [first]

end ServiceRegistry
end AutonolasRegistries.Source
