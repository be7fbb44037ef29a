import Mathlib.Data.List.Nodup
import AutonolasRegistries.Source.RegistryMachine

/-!
# What a successful registry call did

One lemma for each function: the checks that passed and the storage it leaves,
as one explicit record. The loops are replaced by their closed form here, so no
later proof looks into a function body.
-/
namespace AutonolasRegistries.Source
open Library

namespace ServiceRegistry

/-- Writes the parameters of the listed Ids. -/
def writeParams (serviceId : Nat) (entries : List (Uint32 × AgentParams))
    (m : Word → AgentParams) : Word → AgentParams :=
  entries.foldl (fun m entry => Function.update m (serviceAgent serviceId entry.1) entry.2) m

def slotSum (entries : List (Uint32 × AgentParams)) : Nat :=
  (entries.map fun entry => entry.2.slots.val).sum

def bondMax (entries : List (Uint32 × AgentParams)) : Nat :=
  entries.foldl (fun deposit entry => max deposit entry.2.bond.val) 0

theorem checkAgentIds_ok {edition : Edition} {agentTotalSupply lastId : Nat}
    {agentIds : List Uint32}
    (h : checkAgentIds edition agentTotalSupply lastId agentIds = .ok ()) :
    (∀ x ∈ agentIds, lastId < x.val) ∧ agentIds.Pairwise (· < ·) := by
  induction agentIds generalizing lastId with
  | nil => simp
  | cons agentId rest ih =>
    simp only [checkAgentIds, revertIf_bind_eq_ok, not_or] at h
    obtain ⟨⟨ascending, -⟩, h⟩ := h
    obtain ⟨above, sorted⟩ := ih h
    refine ⟨?_, List.pairwise_cons.mpr ⟨above, sorted⟩⟩
    intro x member
    rcases List.mem_cons.mp member with rfl | member
    · omega
    · exact lt_trans (by omega) (above x member)

theorem initialChecks_ok {edition : Edition} {agentTotalSupply : Nat} {configHash : Bytes32}
    {agentIds : List Uint32} {agentParams : List AgentParams}
    (h : initialChecks edition agentTotalSupply configHash agentIds agentParams = .ok ()) :
    configHash ≠ 0 ∧ agentIds ≠ [] ∧ agentIds.length = agentParams.length ∧
      agentIds.Pairwise (· < ·) := by
  simp only [initialChecks, revertIf_bind_eq_ok, not_or, not_not] at h
  obtain ⟨hash, ⟨nonempty, lengths⟩, h⟩ := h
  exact ⟨hash, by simpa using nonempty, lengths, (checkAgentIds_ok h).2⟩

/-- On L1 the Ids are those of agents that exist. -/
theorem checkAgentIds_known {agentTotalSupply lastId : Nat} {agentIds : List Uint32}
    (h : checkAgentIds .l1 agentTotalSupply lastId agentIds = .ok ()) :
    ∀ x ∈ agentIds, lastId < x.val ∧ x.val ≤ agentTotalSupply := by
  induction agentIds generalizing lastId with
  | nil => simp
  | cons agentId rest ih =>
    simp only [checkAgentIds, revertIf_bind_eq_ok, not_or, true_and, not_lt] at h
    obtain ⟨⟨ascending, known⟩, h⟩ := h
    intro x member
    rcases List.mem_cons.mp member with rfl | member
    · exact ⟨ascending, known⟩
    · have := ih h x member
      omega

theorem initialChecks_known {agentTotalSupply : Nat} {configHash : Bytes32}
    {agentIds : List Uint32} {agentParams : List AgentParams}
    (h : initialChecks .l1 agentTotalSupply configHash agentIds agentParams = .ok ()) :
    ∀ x ∈ agentIds, 0 < x.val ∧ x.val ≤ agentTotalSupply := by
  simp only [initialChecks, revertIf_bind_eq_ok] at h
  exact checkAgentIds_known h.2.2

theorem setServiceData_loop {serviceId : Nat} {entries : List (Uint32 × AgentParams)}
    {d d' : ServiceData} (h : loop (setServiceDataBody serviceId) entries d = .ok d') :
    d'.mapParams = writeParams serviceId entries d.mapParams ∧
      d'.maxNumAgentInstances = d.maxNumAgentInstances + slotSum entries ∧
      d'.securityDeposit =
        entries.foldl (fun deposit entry => max deposit entry.2.bond.val) d.securityDeposit := by
  induction entries generalizing d with
  | nil =>
    cases h
    exact ⟨rfl, rfl, rfl⟩
  | cons entry rest ih =>
    obtain ⟨next, ran, h⟩ := loop_cons_eq_ok.mp h
    simp only [setServiceDataBody, bind_eq_ok, checkedAdd_eq_ok, pure_eq_ok] at ran
    obtain ⟨total, ⟨-, rfl⟩, rfl⟩ := ran
    obtain ⟨params, slots, deposit⟩ := ih h
    refine ⟨params, ?_, deposit⟩
    rw [slots]
    simp only [slotSum, List.map_cons, List.sum_cons]
    omega

theorem setServiceData_ok {service service' : Service} {entries : List (Uint32 × AgentParams)}
    {serviceId : Nat} {s s' : RegistryState}
    (h : setServiceData service entries serviceId s = .ok (s', service')) :
    (checkThreshold (slotSum entries) ≤ service.threshold.val ∧
      service.threshold.val ≤ slotSum entries ∧ slotSum entries * 2 + 1 < 2 ^ 32) ∧
    s' = { s with
      mapServiceAndAgentIdAgentParams :=
        writeParams serviceId entries s.mapServiceAndAgentIdAgentParams } ∧
    service' = { service with
      agentIds := entries.map Prod.fst
      maxNumAgentInstances := slotSum entries
      securityDeposit := bondMax entries } := by
  simp only [setServiceData, bind_eq_ok, revertIf_eq_ok, exists_const, checkedMul_eq_ok,
    checkedAdd_eq_ok, pure_eq_ok, Prod.mk.injEq, not_or, not_lt] at h
  obtain ⟨d, run, doubled, ⟨-, rfl⟩, _, ⟨fits, -⟩, ⟨low, high⟩, rfl, rfl⟩ := h
  obtain ⟨params, slots, deposit⟩ := setServiceData_loop run
  simp only [Nat.zero_add] at slots
  rw [slots] at low high fits
  refine ⟨⟨low, high, fits⟩, ?_, ?_⟩
  · rw [params]
  · rw [slots, deposit]
    rfl

/-- The loop only fails when the slots do not fit. -/
theorem setServiceData_fits {serviceId : Nat} {entries : List (Uint32 × AgentParams)}
    {d : ServiceData} (fits : d.maxNumAgentInstances + slotSum entries < 2 ^ 32) :
    ∃ d', loop (setServiceDataBody serviceId) entries d = .ok d' := by
  induction entries generalizing d with
  | nil => exact ⟨d, rfl⟩
  | cons entry rest ih =>
    simp only [slotSum, List.map_cons, List.sum_cons] at fits ih
    have room : d.maxNumAgentInstances + entry.2.slots.val < 2 ^ 32 := by omega
    obtain ⟨d', ran⟩ := @ih ⟨Function.update d.mapParams (serviceAgent serviceId entry.1) entry.2,
      d.maxNumAgentInstances + entry.2.slots.val, max d.securityDeposit entry.2.bond.val⟩
        (by simp only; omega)
    refine ⟨d', loop_cons_eq_ok.mpr ⟨_, ?_, ran⟩⟩
    simp only [setServiceDataBody, checkedAdd, if_pos room, ok_bind]
    rfl

theorem setServiceData_accepts {service : Service} {entries : List (Uint32 × AgentParams)}
    {serviceId : Nat} {s : RegistryState} :
    (∃ result, setServiceData service entries serviceId s = .ok result) ↔
      checkThreshold (slotSum entries) ≤ service.threshold.val ∧
        service.threshold.val ≤ slotSum entries ∧ slotSum entries * 2 + 1 < 2 ^ 32 := by
  constructor
  · rintro ⟨⟨s', service'⟩, ran⟩
    exact (setServiceData_ok ran).1
  · rintro ⟨low, high, fits⟩
    obtain ⟨d, ran⟩ := @setServiceData_fits serviceId entries
      ⟨s.mapServiceAndAgentIdAgentParams, 0, 0⟩ (by simp only; omega)
    obtain ⟨-, slots, -⟩ := setServiceData_loop ran
    rw [Nat.zero_add] at slots
    have inside : ¬ (service.threshold.val < checkThreshold (slotSum entries) ∨
        slotSum entries < service.threshold.val) := by omega
    have doubled : slotSum entries * 2 < 2 ^ 32 := by omega
    simp only [setServiceData, ran, ok_bind, slots, checkedMul, if_pos doubled, checkedAdd,
      if_pos fits, revertIf, if_neg inside]
    exact ⟨_, rfl⟩

theorem create_ok {edition : Edition} {agentTotalSupply : Nat} {sender serviceOwner : Address}
    {configHash : Bytes32} {agentIds : List Uint32} {agentParams : List AgentParams}
    {threshold : Uint32} {s s' : RegistryState} {serviceId : Nat}
    (h : create edition agentTotalSupply sender serviceOwner configHash agentIds agentParams
      threshold s = .ok (s', serviceId)) :
    (s.locked ≤ 1 ∧ s.manager = sender ∧ serviceOwner ≠ 0 ∧ agentIds ≠ [] ∧
      agentIds.length = agentParams.length ∧ agentIds.Pairwise (· < ·) ∧
      (∀ p ∈ agentParams, p.slots ≠ 0 ∧ p.bond ≠ 0) ∧
      checkThreshold (slotSum (agentIds.zip agentParams)) ≤ threshold.val ∧
      threshold.val ≤ slotSum (agentIds.zip agentParams) ∧
      slotSum (agentIds.zip agentParams) * 2 + 1 < 2 ^ 32) ∧
    serviceId = s.totalSupply + 1 ∧
    s' = { s with
      locked := 2
      mapServiceAndAgentIdAgentParams := writeParams serviceId (agentIds.zip agentParams)
        s.mapServiceAndAgentIdAgentParams
      mapServices := Function.update s.mapServices serviceId
        { Service.empty with
          threshold, configHash
          state := .preRegistration
          agentIds := agentIds
          maxNumAgentInstances := slotSum (agentIds.zip agentParams)
          securityDeposit := bondMax (agentIds.zip agentParams) }
      totalSupply := serviceId
      erc721 := { s.erc721 with
        owners := Function.update s.erc721.owners serviceId serviceOwner } } := by
  simp only [create, bind_eq_ok, revertIf_eq_ok, exists_const, checkedAdd_eq_ok, pure_eq_ok,
    Prod.mk.injEq, Prod.exists, not_lt, ne_eq, not_not] at h
  obtain ⟨unlocked, manager, owner, _, checks, filled, id, ⟨-, rfl⟩, s1, service, data,
    erc721, minted, rfl, rfl⟩ := h
  obtain ⟨-, nonempty, lengths, sorted⟩ := initialChecks_ok checks
  obtain ⟨⟨low, high, fits⟩, rfl, rfl⟩ := setServiceData_ok data
  obtain ⟨-, -, rfl⟩ := ERC721.mint_eq_ok.mp minted
  have ids : (agentIds.zip agentParams).map Prod.fst = agentIds :=
    List.map_fst_zip (le_of_eq lengths)
  have positive : ∀ p ∈ agentParams, p.slots ≠ 0 ∧ p.bond ≠ 0 := by
    intro p member
    exact ⟨fun zero => filled ⟨p, member, Or.inl zero⟩,
      fun zero => filled ⟨p, member, Or.inr zero⟩⟩
  refine ⟨⟨unlocked, manager, owner, nonempty, lengths, sorted, positive, low, high, fits⟩,
    rfl, ?_⟩
  rw [ids]

theorem create_known {agentTotalSupply : Nat} {sender serviceOwner : Address}
    {configHash : Bytes32} {agentIds : List Uint32} {agentParams : List AgentParams}
    {threshold : Uint32} {s s' : RegistryState} {serviceId : Nat}
    (h : create .l1 agentTotalSupply sender serviceOwner configHash agentIds agentParams
      threshold s = .ok (s', serviceId)) :
    ∀ x ∈ agentIds, 0 < x.val ∧ x.val ≤ agentTotalSupply := by
  simp only [create, bind_eq_ok, revertIf_eq_ok, exists_const] at h
  obtain ⟨-, -, -, _, checks, -⟩ := h
  exact initialChecks_known checks

theorem update_known {agentTotalSupply : Nat} {sender serviceOwner : Address}
    {configHash : Bytes32} {agentIds : List Uint32} {agentParams : List AgentParams}
    {threshold : Uint32} {serviceId : Nat} {s s' : RegistryState}
    (h : update .l1 agentTotalSupply sender serviceOwner configHash agentIds agentParams
      threshold serviceId s = .ok s') :
    ∀ x ∈ agentIds, 0 < x.val ∧ x.val ≤ agentTotalSupply := by
  simp only [update, bind_eq_ok, revertIf_eq_ok, exists_const] at h
  obtain ⟨-, -, -, -, -, _, checks, -⟩ := h
  exact initialChecks_known checks

theorem update_ok {edition : Edition} {agentTotalSupply : Nat} {sender serviceOwner : Address}
    {configHash : Bytes32} {agentIds : List Uint32} {agentParams : List AgentParams}
    {threshold : Uint32} {serviceId : Nat} {s s' : RegistryState}
    (h : update edition agentTotalSupply sender serviceOwner configHash agentIds agentParams
      threshold serviceId s = .ok s') :
    ∃ kept, kept = (agentIds.zip agentParams).filter (fun e => e.2.slots ≠ 0) ∧
    (s.manager = sender ∧ s.erc721.owners serviceId ≠ 0 ∧
      s.erc721.owners serviceId = serviceOwner ∧
      (s.mapServices serviceId).state = .preRegistration ∧
      agentIds.length = agentParams.length ∧ agentIds.Pairwise (· < ·) ∧
      checkThreshold (slotSum kept) ≤ threshold.val ∧ threshold.val ≤ slotSum kept ∧
      slotSum kept * 2 + 1 < 2 ^ 32) ∧
    ∃ hashes, s' = { s with
      mapServiceAndAgentIdAgentParams := writeParams serviceId kept
        (deleteParams serviceId (agentIds.zip agentParams) s.mapServiceAndAgentIdAgentParams)
      mapConfigHashes := hashes
      mapServices := Function.update s.mapServices serviceId
        { s.mapServices serviceId with
          threshold, configHash
          agentIds := kept.map Prod.fst
          maxNumAgentInstances := slotSum kept
          securityDeposit := bondMax kept } } := by
  simp only [update, bind_eq_ok, revertIf_eq_ok, exists_const, pure_eq_ok, ERC721.ownerOf_eq_ok,
    Prod.exists, ne_eq, not_not] at h
  obtain ⟨manager, actual, ⟨minted, rfl⟩, owner, state, _, checks, s1, service, data, rfl⟩ := h
  obtain ⟨-, -, lengths, sorted⟩ := initialChecks_ok checks
  obtain ⟨⟨low, high, fits⟩, rfl, rfl⟩ := setServiceData_ok data
  refine ⟨_, rfl, ⟨manager, minted, owner, state, lengths, sorted, ?_, ?_, ?_⟩, _, rfl⟩
  · simpa only [ne_eq] using low
  · simpa only [ne_eq] using high
  · simpa only [ne_eq] using fits

/-- The history of configurations grows only for the service that is updated. -/
theorem update_hashes {edition : Edition} {agentTotalSupply : Nat}
    {sender serviceOwner : Address} {configHash : Bytes32} {agentIds : List Uint32}
    {agentParams : List AgentParams} {threshold : Uint32} {serviceId : Nat}
    {s s' : RegistryState}
    (h : update edition agentTotalSupply sender serviceOwner configHash agentIds agentParams
      threshold serviceId s = .ok s') :
    ∃ lastConfigHash, s'.mapConfigHashes =
      if lastConfigHash ≠ configHash then
        Function.update s.mapConfigHashes serviceId
          (s.mapConfigHashes serviceId ++ [lastConfigHash])
      else s.mapConfigHashes := by
  simp only [update, bind_eq_ok, revertIf_eq_ok, exists_const, pure_eq_ok, ERC721.ownerOf_eq_ok,
    Prod.exists, ne_eq, not_not] at h
  obtain ⟨-, actual, -, -, -, _, -, s1, service, data, rfl⟩ := h
  obtain ⟨-, rfl, rfl⟩ := setServiceData_ok data
  exact ⟨(s.mapServices serviceId).configHash, by simp only [ne_eq]⟩

theorem activateRegistration_ok {sender serviceOwner : Address} {value serviceId : Nat}
    {s s' : RegistryState}
    (h : activateRegistration sender value serviceOwner serviceId s = .ok s') :
    (s.manager = sender ∧ s.erc721.owners serviceId ≠ 0 ∧
      s.erc721.owners serviceId = serviceOwner ∧
      (s.mapServices serviceId).state = .preRegistration ∧
      value = (s.mapServices serviceId).securityDeposit) ∧
    s' = { s with
      mapServices := Function.update s.mapServices serviceId
        { s.mapServices serviceId with state := .activeRegistration } } := by
  simp only [activateRegistration, bind_eq_ok, revertIf_eq_ok, exists_const, pure_eq_ok,
    ERC721.ownerOf_eq_ok, ne_eq, not_not] at h
  obtain ⟨manager, actual, ⟨minted, rfl⟩, owner, state, value, rfl⟩ := h
  exact ⟨⟨manager, minted, owner, state, value⟩, rfl⟩

theorem totalBond_ok {serviceId start total : Nat} {m : Word → AgentParams}
    {agentIds : List Uint32} (h : loop (totalBondBody serviceId m) agentIds start = .ok total) :
    (∀ x ∈ agentIds, (m (serviceAgent serviceId x)).slots ≠ 0) ∧
      total = start + (agentIds.map fun x => (m (serviceAgent serviceId x)).bond.val).sum := by
  induction agentIds generalizing start with
  | nil =>
    cases h
    simp
  | cons agentId rest ih =>
    obtain ⟨next, ran, h⟩ := loop_cons_eq_ok.mp h
    simp only [totalBondBody, revertIf_bind_eq_ok, checkedAdd_eq_ok] at ran
    obtain ⟨slots, -, rfl⟩ := ran
    obtain ⟨others, sum⟩ := ih h
    refine ⟨?_, ?_⟩
    · intro x member
      rcases List.mem_cons.mp member with rfl | member
      · exact slots
      · exact others x member
    · rw [sum]
      simp only [List.map_cons, List.sum_cons]
      omega

/-- One iteration of the registration loop. -/
theorem registerAgentBody_ok {operator : Address} {serviceId : Nat} {entry : Address × Uint32}
    {s s' : RegistryState} (h : registerAgentBody operator serviceId entry s = .ok s') :
    (operator ≠ entry.1 ∧ s.mapAgentInstanceOperators entry.1 = 0 ∧
      (s.mapServiceAndAgentIdAgentInstances (serviceAgent serviceId entry.2)).length ≠
        (s.mapServiceAndAgentIdAgentParams (serviceAgent serviceId entry.2)).slots.val ∧
      (s.mapServices serviceId).numAgentInstances + 1 < 2 ^ 32) ∧
    s' = { s with
      mapServiceAndAgentIdAgentInstances :=
        Function.update s.mapServiceAndAgentIdAgentInstances (serviceAgent serviceId entry.2)
          (s.mapServiceAndAgentIdAgentInstances (serviceAgent serviceId entry.2) ++ [entry.1])
      mapOperatorAndServiceIdAgentInstances :=
        Function.update s.mapOperatorAndServiceIdAgentInstances
          (operatorService operator serviceId)
          (s.mapOperatorAndServiceIdAgentInstances (operatorService operator serviceId) ++
            [⟨entry.1, entry.2⟩])
      mapServices := Function.update s.mapServices serviceId
        { s.mapServices serviceId with
          numAgentInstances := (s.mapServices serviceId).numAgentInstances + 1 }
      mapAgentInstanceOperators :=
        Function.update s.mapAgentInstanceOperators entry.1 operator } := by
  simp only [registerAgentBody, bind_eq_ok, revertIf_eq_ok, exists_const, checkedAdd_eq_ok, pure_eq_ok,
    ne_eq, not_not] at h
  obtain ⟨own, free, room, total, ⟨counted, rfl⟩, rfl⟩ := h
  exact ⟨⟨own, free, room, counted⟩, rfl⟩

/-- The registration after the loop: the state moves on when the service is full,
and the bond is credited. `mid` is the storage the loop left. -/
theorem registerAgents_ok {sender operator : Address} {value serviceId : Nat}
    {agentInstances : List Address} {agentIds : List Uint32} {s s' : RegistryState}
    (h : registerAgents sender value operator serviceId agentInstances agentIds s = .ok s') :
    ∃ mid,
    (s.manager = sender ∧ agentInstances.length = agentIds.length ∧
      (s.mapServices serviceId).state = .activeRegistration ∧
      (∀ x ∈ agentIds,
        (s.mapServiceAndAgentIdAgentParams (serviceAgent serviceId x)).slots ≠ 0) ∧
      value = (agentIds.map fun x =>
        (s.mapServiceAndAgentIdAgentParams (serviceAgent serviceId x)).bond.val).sum ∧
      s.mapAgentInstanceOperators operator = 0) ∧
    loop (registerAgentBody operator serviceId) (agentInstances.zip agentIds) s = .ok mid ∧
    s' = { mid with
      mapServices :=
        if (mid.mapServices serviceId).numAgentInstances =
            (mid.mapServices serviceId).maxNumAgentInstances then
          Function.update mid.mapServices serviceId
            { mid.mapServices serviceId with state := .finishedRegistration }
        else mid.mapServices
      mapOperatorAndServiceIdOperatorBalances :=
        Function.update mid.mapOperatorAndServiceIdOperatorBalances
          (operatorService operator serviceId)
          (mid.mapOperatorAndServiceIdOperatorBalances (operatorService operator serviceId) +
            value % 2 ^ 96) } := by
  simp only [registerAgents, bind_eq_ok, revertIf_eq_ok, exists_const, checkedAdd_eq_ok, pure_eq_ok,
    ne_eq, not_not] at h
  obtain ⟨manager, lengths, state, total, bonds, rfl, free, mid, run, balance, ⟨-, rfl⟩, rfl⟩ := h
  obtain ⟨slots, sum⟩ := totalBond_ok bonds
  exact ⟨mid, ⟨manager, lengths, state, slots, by omega, free⟩, run, rfl⟩

theorem deploy_ok {sender serviceOwner multisigImplementation : Address} {serviceId : Nat}
    {s s' : RegistryState} {owners : List Address}
    (h : deploy sender serviceOwner serviceId multisigImplementation s = .ok (s', owners)) :
    (s.locked ≤ 1 ∧ s.manager = sender ∧ s.erc721.owners serviceId ≠ 0 ∧
      s.erc721.owners serviceId = serviceOwner ∧
      s.mapMultisigs multisigImplementation = true ∧
      (s.mapServices serviceId).state = .finishedRegistration) ∧
    getAgentInstances (s.mapServices serviceId) serviceId s' = .ok owners ∧
    s' = { s with locked := 2 } := by
  simp only [deploy, bind_eq_ok, revertIf_eq_ok, exists_const, pure_eq_ok, ERC721.ownerOf_eq_ok,
    Prod.mk.injEq, not_lt, ne_eq, not_not, Bool.not_eq_false] at h
  obtain ⟨unlocked, manager, actual, ⟨minted, rfl⟩, owner, allowed, state, list, filled, rfl, rfl⟩ := h
  exact ⟨⟨unlocked, manager, minted, owner, allowed, state⟩, filled, rfl⟩

theorem slash_ok {sender : Address} {agentInstances : List Address} {amounts : List Uint96}
    {serviceId : Nat} {s s' : RegistryState}
    (h : slash sender agentInstances amounts serviceId s = .ok s') :
    ((s.mapServices serviceId).state = .deployed ∧ agentInstances.length = amounts.length ∧
      sender = (s.mapServices serviceId).multisig) ∧
    loop (slashBody serviceId) (agentInstances.zip amounts) s = .ok s' := by
  simp only [slash, revertIf_bind_eq_ok, ne_eq, not_not] at h
  obtain ⟨state, lengths, multisig, run⟩ := h
  exact ⟨⟨state, lengths, multisig⟩, run⟩

/-- One slashed instance: `taken` moves from the operator's balance to the slashed
funds. -/
theorem slashBody_ok {serviceId : Nat} {entry : Address × Uint96} {s s' : RegistryState}
    (h : slashBody serviceId entry s = .ok s') :
    ∃ operator taken, taken ≤ s.mapOperatorAndServiceIdOperatorBalances
        (operatorService operator serviceId) ∧
    s' = { s with
      slashedFunds := s.slashedFunds + taken
      mapOperatorAndServiceIdOperatorBalances :=
        Function.update s.mapOperatorAndServiceIdOperatorBalances
          (operatorService operator serviceId)
          (s.mapOperatorAndServiceIdOperatorBalances (operatorService operator serviceId) -
            taken) } := by
  simp only [slashBody, bind_eq_ok, checkedAdd_eq_ok, pure_eq_ok] at h
  obtain ⟨bumped, ⟨-, rfl⟩, total, ⟨-, rfl⟩, rfl⟩ := h
  refine ⟨_, _, ?_, rfl⟩
  split
  · exact le_refl _
  · omega

theorem terminate_ok {edition : Edition} {sender serviceOwner : Address} {serviceId refund : Nat}
    {s s' : RegistryState}
    (h : terminate edition sender serviceOwner serviceId s = .ok (s', refund)) :
    (s.locked ≤ 1 ∧ s.manager = sender ∧ s.erc721.owners serviceId ≠ 0 ∧
      s.erc721.owners serviceId = serviceOwner ∧
      (s.mapServices serviceId).state ≠ .preRegistration ∧
      (s.mapServices serviceId).state ≠ .terminatedBonded) ∧
    refund = (s.mapServices serviceId).securityDeposit ∧
    ∃ components agents, s' = { s with
      locked := 2
      mapServices := Function.update s.mapServices serviceId
        { s.mapServices serviceId with
          state := if 0 < (s.mapServices serviceId).numAgentInstances then .terminatedBonded
            else .preRegistration }
      mapServiceIdSetComponentIds := components
      mapServiceIdSetAgentIds := agents
      mapServiceAndAgentIdAgentInstances := deleteInstances serviceId
        (s.mapServices serviceId).agentIds s.mapServiceAndAgentIdAgentInstances } := by
  simp only [terminate, bind_eq_ok, revertIf_eq_ok, exists_const, pure_eq_ok, ERC721.ownerOf_eq_ok,
    Prod.mk.injEq, not_lt, ne_eq, not_not, not_or] at h
  obtain ⟨unlocked, manager, actual, ⟨minted, rfl⟩, owner, ⟨pre, bonded⟩, rfl, rfl⟩ := h
  exact ⟨⟨unlocked, manager, minted, owner, pre, bonded⟩, rfl, _, _, rfl⟩

theorem unbond_ok {sender operator : Address} {serviceId refund : Nat} {s s' : RegistryState}
    (h : unbond sender operator serviceId s = .ok (s', refund)) :
    ∃ instances, instances =
      s.mapOperatorAndServiceIdAgentInstances (operatorService operator serviceId) ∧
    (s.locked ≤ 1 ∧ s.manager = sender ∧ operator ≠ 0 ∧
      (s.mapServices serviceId).state = .terminatedBonded ∧ instances ≠ [] ∧
      instances.length % 2 ^ 32 ≤ (s.mapServices serviceId).numAgentInstances) ∧
    refund = min (bondSum serviceId instances s.mapServiceAndAgentIdAgentParams)
      (s.mapOperatorAndServiceIdOperatorBalances (operatorService operator serviceId)) ∧
    s' = { s with
      locked := 2
      mapServices := Function.update s.mapServices serviceId
        { s.mapServices serviceId with
          numAgentInstances :=
            (s.mapServices serviceId).numAgentInstances - instances.length % 2 ^ 32
          state := if (s.mapServices serviceId).numAgentInstances -
              instances.length % 2 ^ 32 = 0 then .preRegistration
            else (s.mapServices serviceId).state }
      mapAgentInstanceOperators := freeInstances instances s.mapAgentInstanceOperators
      mapOperatorAndServiceIdAgentInstances :=
        Function.update s.mapOperatorAndServiceIdAgentInstances
          (operatorService operator serviceId) []
      mapOperatorAndServiceIdOperatorBalances :=
        Function.update s.mapOperatorAndServiceIdOperatorBalances
          (operatorService operator serviceId)
          (if 0 < refund then 0 else
            s.mapOperatorAndServiceIdOperatorBalances (operatorService operator serviceId)) } := by
  simp only [unbond, bind_eq_ok, revertIf_eq_ok, exists_const, checkedAdd_eq_ok, checkedSub_eq_ok,
    pure_eq_ok, Prod.mk.injEq, not_lt, ne_eq, not_not, Nat.zero_add] at h
  obtain ⟨unlocked, manager, operator, state, some, left, ⟨enough, rfl⟩, total, ⟨-, rfl⟩, rfl, rfl⟩ := h
  refine ⟨_, rfl, ⟨unlocked, manager, operator, state, by simpa using some, enough⟩, rfl, ?_⟩
  split
  · rfl
  · rw [Function.update_eq_self]

theorem drain_ok {sender : Address} {amount : Nat} {s s' : RegistryState}
    (h : drain sender s = .ok (s', amount)) :
    (s.locked ≤ 1 ∧ sender = s.drainer) ∧ amount = s.slashedFunds ∧
    s' = { s with locked := 2, slashedFunds := 0 } := by
  simp only [drain, revertIf_bind_eq_ok, pure_eq_ok, Prod.mk.injEq, not_lt, ne_eq, not_not] at h
  obtain ⟨unlocked, drainer, rfl, rfl⟩ := h
  exact ⟨⟨unlocked, drainer⟩, rfl, rfl⟩

end ServiceRegistry
end AutonolasRegistries.Source
