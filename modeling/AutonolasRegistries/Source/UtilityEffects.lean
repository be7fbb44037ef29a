import AutonolasRegistries.Library.Ledger
import AutonolasRegistries.Source.RegistryRecords
import AutonolasRegistries.Source.TokenUtility

/-!
# What a successful call of the token utility did

One lemma for each function: the checks that passed and the storage it leaves. The
loops are replaced by their closed form, and the packed keys are resolved for services
below `2 ^ 32`.
-/
namespace AutonolasRegistries.Source
open Library

namespace ServiceRegistryTokenUtility

/-- Writes the bonds that are not zero. -/
def writeBonds (serviceId : Nat) (entries : List (Uint32 × Nat)) (m : Word → Nat) : Word → Nat :=
  entries.foldl (fun m entry =>
    if entry.2 = 0 then m else Function.update m (serviceAgent serviceId entry.1) entry.2) m

def largestBond (entries : List (Uint32 × Nat)) : Nat :=
  entries.foldl (fun deposit entry => max deposit entry.2) 0

theorem writeBonds_cons (serviceId : Nat) (entry : Uint32 × Nat) (rest : List (Uint32 × Nat))
    (m : Word → Nat) :
    writeBonds serviceId (entry :: rest) m = writeBonds serviceId rest
      (if entry.2 = 0 then m else Function.update m (serviceAgent serviceId entry.1) entry.2) :=
  rfl

theorem writeBonds_other {serviceId serviceId' : Nat} (bound : serviceId < 2 ^ 32)
    (bound' : serviceId' < 2 ^ 32) (different : serviceId' ≠ serviceId)
    (entries : List (Uint32 × Nat)) (m : Word → Nat) (y : Uint32) :
    writeBonds serviceId entries m (serviceAgent serviceId' y) = m (serviceAgent serviceId' y) := by
  induction entries generalizing m with
  | nil => rfl
  | cons entry rest ih =>
    rw [writeBonds_cons, ih]
    split
    · rfl
    · rw [update_serviceAgent bound bound', if_neg fun h => different h.1]

/-- An Id that is not passed, or passed with no bond, keeps what it had. -/
theorem writeBonds_absent {serviceId : Nat} (bound : serviceId < 2 ^ 32)
    {entries : List (Uint32 × Nat)} (m : Word → Nat) {y : Uint32}
    (absent : ∀ e ∈ entries, e.1 = y → e.2 = 0) :
    writeBonds serviceId entries m (serviceAgent serviceId y) = m (serviceAgent serviceId y) := by
  induction entries generalizing m with
  | nil => rfl
  | cons entry rest ih =>
    rw [writeBonds_cons, ih _ fun e member => absent e (List.mem_cons_of_mem _ member)]
    split
    · rfl
    · next positive =>
      rw [update_serviceAgent bound bound, if_neg]
      rintro ⟨-, rfl⟩
      exact positive (absent entry List.mem_cons_self rfl)

theorem writeBonds_listed {serviceId : Nat} (bound : serviceId < 2 ^ 32)
    {entries : List (Uint32 × Nat)} (unique : (entries.map Prod.fst).Nodup) (m : Word → Nat)
    {e : Uint32 × Nat} (member : e ∈ entries) (positive : e.2 ≠ 0) :
    writeBonds serviceId entries m (serviceAgent serviceId e.1) = e.2 := by
  induction entries generalizing m with
  | nil => cases member
  | cons head rest ih =>
    simp only [List.map_cons, List.nodup_cons] at unique
    rw [writeBonds_cons]
    rcases List.mem_cons.mp member with rfl | member
    · rw [writeBonds_absent bound, if_neg positive, update_serviceAgent bound bound,
        if_pos ⟨rfl, rfl⟩]
      intro other later same
      exact absurd (List.mem_map.mpr ⟨other, later, same⟩) unique.1
    · exact ih unique.2 _ member

theorem createWithTokenBody_ok {serviceId : Nat} {bonds : List Nat} {entry : Uint32 × Nat}
    {d d' : BondData} (h : createWithTokenBody serviceId bonds entry d = .ok d') :
    ∃ bond, bonds[entry.2]? = some bond ∧ bond < 2 ^ 96 ∧
      d'.mapBonds = (if bond = 0 then d.mapBonds
        else Function.update d.mapBonds (serviceAgent serviceId entry.1) bond) ∧
      d'.securityDeposit = max d.securityDeposit bond := by
  simp only [createWithTokenBody, bind_eq_ok, readAt_eq_ok] at h
  obtain ⟨bond, read, h⟩ := h
  refine ⟨bond, read, ?_⟩
  split at h
  · next zero =>
    cases h
    subst zero
    exact ⟨by decide, rfl, by omega⟩
  · next positive =>
    simp only [bind_eq_ok, revertIf_eq_ok, exists_const, pure_eq_ok] at h
    obtain ⟨fits, rfl⟩ := h
    rw [uint96Max] at fits
    exact ⟨by omega, by rw [if_neg positive], rfl⟩

theorem createWithToken_loop {serviceId : Nat} {bonds : List Nat} {agentIds : List Uint32}
    {start : Nat} {d d' : BondData}
    (h : loop (createWithTokenBody serviceId bonds) (agentIds.zipIdx start) d = .ok d') :
    agentIds.length ≤ (bonds.drop start).length ∧
    (∀ e ∈ agentIds.zip (bonds.drop start), e.2 < 2 ^ 96) ∧
    d'.mapBonds = writeBonds serviceId (agentIds.zip (bonds.drop start)) d.mapBonds ∧
    d'.securityDeposit = (agentIds.zip (bonds.drop start)).foldl
      (fun deposit entry => max deposit entry.2) d.securityDeposit := by
  induction agentIds generalizing start d with
  | nil =>
    cases h
    refine ⟨Nat.zero_le _, ?_, rfl, rfl⟩
    intro e member
    cases member
  | cons agentId rest ih =>
    rw [List.zipIdx_cons] at h
    obtain ⟨next, ran, h⟩ := loop_cons_eq_ok.mp h
    obtain ⟨bond, read, fits, written, deposit⟩ := createWithTokenBody_ok ran
    obtain ⟨enough, small, writes, total⟩ := ih h
    have here : bonds.drop start = bond :: bonds.drop (start + 1) := by
      obtain ⟨inside, value⟩ := List.getElem?_eq_some_iff.mp read
      rw [List.drop_eq_getElem_cons inside, value]
    rw [here]
    simp only [List.length_cons, List.zip_cons_cons, List.forall_mem_cons, writeBonds,
      List.foldl_cons] at *
    refine ⟨by omega, ⟨fits, small⟩, ?_, ?_⟩
    · rw [writes, written]
    · rw [total, deposit]

theorem largestBond_lt {entries : List (Uint32 × Nat)} (small : ∀ e ∈ entries, e.2 < 2 ^ 96) :
    largestBond entries < 2 ^ 96 := by
  have running : ∀ start < 2 ^ 96,
      entries.foldl (fun deposit entry => max deposit entry.2) start < 2 ^ 96 := by
    induction entries with
    | nil => exact fun start below => below
    | cons entry rest ih =>
      intro start below
      exact ih (fun e member => small e (List.mem_cons_of_mem _ member)) _
        (max_lt below (small entry List.mem_cons_self))
  exact running 0 (by decide)

theorem createWithToken_ok {tokenAccepted : Bool} {sender token : Address} {serviceId : Nat}
    {agentIds : List Uint32} {bonds : List Nat} {s s' : UtilityState}
    (h : createWithToken tokenAccepted sender serviceId token agentIds bonds s = .ok s') :
    (s.manager = sender ∧ agentIds.length ≤ bonds.length ∧
      ∀ e ∈ agentIds.zip bonds, e.2 < 2 ^ 96) ∧
    s' = { s with
      mapServiceAndAgentIdAgentBond :=
        writeBonds serviceId (agentIds.zip bonds) s.mapServiceAndAgentIdAgentBond
      mapServiceIdTokenDeposit := Function.update s.mapServiceIdTokenDeposit serviceId
        ⟨token, largestBond (agentIds.zip bonds)⟩ } := by
  simp only [createWithToken, bind_eq_ok, revertIf_eq_ok, exists_const, pure_eq_ok, ne_eq,
    not_not] at h
  obtain ⟨manager, -, d, run, rfl⟩ := h
  obtain ⟨enough, small, writes, deposit⟩ := createWithToken_loop run
  rw [List.drop_zero] at *
  have fits : d.securityDeposit % 2 ^ 96 = largestBond (agentIds.zip bonds) := by
    rw [deposit]
    exact Nat.mod_eq_of_lt (largestBond_lt small)
  exact ⟨⟨manager, enough, small⟩, by rw [writes, fits]⟩

theorem resetServiceToken_ok {sender : Address} {serviceId : Nat} {s s' : UtilityState}
    (h : resetServiceToken sender serviceId s = .ok s') :
    s.manager = sender ∧ s' = { s with
      mapServiceIdTokenDeposit :=
        Function.update s.mapServiceIdTokenDeposit serviceId .empty } := by
  simp only [resetServiceToken, bind_eq_ok, revertIf_eq_ok, exists_const, pure_eq_ok, ne_eq,
    not_not] at h
  exact ⟨h.1, h.2.symm⟩

theorem activateRegistrationTokenDeposit_ok {registry : RegistryState} {views : TokenViews}
    {sender : Address} {serviceId : Nat} {s s' : UtilityState} {pull : Option TokenPull}
    (h : activateRegistrationTokenDeposit registry views sender serviceId s = .ok (s', pull)) :
    s.locked ≤ 1 ∧ s.manager = sender ∧
      (((s.mapServiceIdTokenDeposit serviceId).token = 0 ∧ pull = none ∧
          s' = { s with locked := 1 }) ∨
        ∃ account balanceBefore, (s.mapServiceIdTokenDeposit serviceId).token ≠ 0 ∧
          pull = some ⟨(s.mapServiceIdTokenDeposit serviceId).token, account,
            (s.mapServiceIdTokenDeposit serviceId).securityDeposit, balanceBefore⟩ ∧
          s' = { s with locked := 2 }) := by
  simp only [activateRegistrationTokenDeposit, bind_eq_ok, revertIf_eq_ok, exists_const, ne_eq,
    not_not, not_lt] at h
  obtain ⟨free, manager, h⟩ := h
  refine ⟨free, manager, ?_⟩
  split at h
  · next secured =>
    simp only [bind_eq_ok, revertIf_eq_ok, exists_const, pure_eq_ok, Prod.mk.injEq] at h
    obtain ⟨account, -, -, rfl, rfl⟩ := h
    exact Or.inr ⟨account, views.balanceBefore, secured, rfl, rfl⟩
  · next unsecured =>
    simp only [pure_eq_ok, Prod.mk.injEq] at h
    obtain ⟨rfl, rfl⟩ := h
    exact Or.inl ⟨not_not.mp unsecured, rfl, rfl⟩

/-- The bonds of the listed Ids, each counted as often as it is listed. -/
def bondTotal (serviceId : Nat) (agentIds : List Uint32) (m : Word → Nat) : Nat :=
  (agentIds.map fun agentId => m (serviceAgent serviceId agentId)).sum

theorem registerAgentsTokenDeposit_ok {views : TokenViews} {sender operator : Address}
    {serviceId : Nat} {agentIds : List Uint32} {s s' : UtilityState} {pull : Option TokenPull}
    (h : registerAgentsTokenDeposit views sender operator serviceId agentIds s =
      .ok (s', pull)) :
    s.locked ≤ 1 ∧ s.manager = sender ∧
      (((s.mapServiceIdTokenDeposit serviceId).token = 0 ∧ pull = none ∧
          s' = { s with locked := 1 }) ∨
        ∃ balanceBefore, (s.mapServiceIdTokenDeposit serviceId).token ≠ 0 ∧
          pull = some ⟨(s.mapServiceIdTokenDeposit serviceId).token, operator,
            bondTotal serviceId agentIds s.mapServiceAndAgentIdAgentBond, balanceBefore⟩ ∧
          s' = { s with
            locked := 2
            mapOperatorAndServiceIdOperatorBalances :=
              Function.update s.mapOperatorAndServiceIdOperatorBalances
                (operatorService operator serviceId)
                (s.mapOperatorAndServiceIdOperatorBalances (operatorService operator serviceId) +
                  bondTotal serviceId agentIds s.mapServiceAndAgentIdAgentBond) }) := by
  simp only [registerAgentsTokenDeposit, bind_eq_ok, revertIf_eq_ok, exists_const, ne_eq,
    not_not, not_lt] at h
  obtain ⟨free, manager, h⟩ := h
  refine ⟨free, manager, ?_⟩
  split at h
  · next secured =>
    simp only [bind_eq_ok, revertIf_eq_ok, exists_const, checkedAdd_eq_ok, pure_eq_ok,
      Prod.mk.injEq] at h
    obtain ⟨totalBond, run, -, balance, ⟨-, rfl⟩, rfl, rfl⟩ := h
    have total := loop_total id
      (fun agentId => s.mapServiceAndAgentIdAgentBond (serviceAgent serviceId agentId))
      (fun agentId _ state next ran => by
        simp only [totalBondBody, checkedAdd_eq_ok] at ran
        exact ran.2.symm) run
    simp only [id, Nat.zero_add] at total
    subst total
    exact Or.inr ⟨views.balanceBefore, secured, rfl, rfl⟩
  · next unsecured =>
    simp only [pure_eq_ok, Prod.mk.injEq] at h
    obtain ⟨rfl, rfl⟩ := h
    exact Or.inl ⟨not_not.mp unsecured, rfl, rfl⟩

theorem pullReturn_ok {wrongValue : Revert} {pull : TokenPull} {answer : TokenAnswer}
    {s s' : UtilityState} (h : pullReturn wrongValue pull answer s = .ok s') :
    s' = { s with locked := 1 } := by
  simp only [pullReturn, bind_eq_ok, revertIf_eq_ok, exists_const, pure_eq_ok] at h
  exact h.2.2.symm

theorem pushReturn_ok {push : TokenPush} {answer : TokenAnswer} {s s' : UtilityState}
    (h : pushReturn push answer s = .ok s') : s' = { s with locked := 1 } := by
  simp only [pushReturn, bind_eq_ok, revertIf_eq_ok, exists_const, pure_eq_ok] at h
  exact h.2.symm

theorem terminateTokenRefund_ok {registry : RegistryState} {sender : Address} {serviceId : Nat}
    {s s' : UtilityState} {push : Option TokenPush}
    (h : terminateTokenRefund registry sender serviceId s = .ok (s', push)) :
    s.locked ≤ 1 ∧ s.manager = sender ∧
      (((s.mapServiceIdTokenDeposit serviceId).token = 0 ∧ push = none ∧
          s' = { s with locked := 1 }) ∨
        ∃ account, (s.mapServiceIdTokenDeposit serviceId).token ≠ 0 ∧
          push = some ⟨(s.mapServiceIdTokenDeposit serviceId).token, account,
            (s.mapServiceIdTokenDeposit serviceId).securityDeposit⟩ ∧
          s' = { s with locked := 2 }) := by
  simp only [terminateTokenRefund, bind_eq_ok, revertIf_eq_ok, exists_const, ne_eq, not_not,
    not_lt] at h
  obtain ⟨free, manager, h⟩ := h
  refine ⟨free, manager, ?_⟩
  split at h
  · next secured =>
    simp only [bind_eq_ok, pure_eq_ok, Prod.mk.injEq] at h
    obtain ⟨account, -, rfl, rfl⟩ := h
    exact Or.inr ⟨account, secured, rfl, rfl⟩
  · next unsecured =>
    simp only [pure_eq_ok, Prod.mk.injEq] at h
    obtain ⟨rfl, rfl⟩ := h
    exact Or.inl ⟨not_not.mp unsecured, rfl, rfl⟩

theorem unbondTokenRefund_ok {sender operator : Address} {serviceId : Nat} {s s' : UtilityState}
    {push : Option TokenPush}
    (h : unbondTokenRefund sender operator serviceId s = .ok (s', push)) :
    s.locked ≤ 1 ∧ s.manager = sender ∧
      ((((s.mapServiceIdTokenDeposit serviceId).token = 0 ∨
            s.mapOperatorAndServiceIdOperatorBalances (operatorService operator serviceId) = 0) ∧
          push = none ∧ s' = { s with locked := 1 }) ∨
        ((s.mapServiceIdTokenDeposit serviceId).token ≠ 0 ∧
          push = some ⟨(s.mapServiceIdTokenDeposit serviceId).token, operator,
            s.mapOperatorAndServiceIdOperatorBalances (operatorService operator serviceId)⟩ ∧
          s' = { s with
            locked := 2
            mapOperatorAndServiceIdOperatorBalances :=
              Function.update s.mapOperatorAndServiceIdOperatorBalances
                (operatorService operator serviceId) 0 })) := by
  simp only [unbondTokenRefund, bind_eq_ok, revertIf_eq_ok, exists_const, ne_eq, not_not,
    not_lt] at h
  obtain ⟨free, manager, h⟩ := h
  refine ⟨free, manager, ?_⟩
  split at h
  · next owed =>
    simp only [pure_eq_ok, Prod.mk.injEq] at h
    obtain ⟨rfl, rfl⟩ := h
    exact Or.inr ⟨owed.1, rfl, rfl⟩
  · next nothing =>
    simp only [pure_eq_ok, Prod.mk.injEq] at h
    obtain ⟨rfl, rfl⟩ := h
    refine Or.inl ⟨?_, rfl, rfl⟩
    by_cases unsecured : (s.mapServiceIdTokenDeposit serviceId).token = 0
    · exact Or.inl unsecured
    · exact Or.inr (by by_contra positive; exact nothing ⟨unsecured, by omega⟩)

theorem drain_ok {sender token : Address} {s s' : UtilityState} {push : Option TokenPush}
    (h : drain sender token s = .ok (s', push)) :
    s.locked ≤ 1 ∧
      ((push = none ∧ s' = { s with locked := 1 }) ∨
        (push = some ⟨token, s.drainer, s.mapSlashedFunds token⟩ ∧
          s' = { s with
            locked := 2
            mapSlashedFunds := Function.update s.mapSlashedFunds token 0 })) := by
  simp only [drain, bind_eq_ok, revertIf_eq_ok, exists_const, ne_eq, not_not, not_lt] at h
  obtain ⟨free, -, -, h⟩ := h
  refine ⟨free, ?_⟩
  split at h <;> simp only [pure_eq_ok, Prod.mk.injEq] at h
  · obtain ⟨rfl, rfl⟩ := h
    exact Or.inr ⟨rfl, rfl⟩
  · obtain ⟨rfl, rfl⟩ := h
    exact Or.inl ⟨rfl, rfl⟩

/-- The balances of one service after slashing: what was taken, and from whom. -/
structure Slashed (registry : RegistryState) (serviceId : Nat) (agentInstances : List Address)
    (m m' : Word → Nat) (taken : Nat) : Prop where
  below : ∀ k, m' k ≤ m k
  others : ∀ k, (∀ agentInstance ∈ agentInstances,
    k ≠ operatorService (registry.mapAgentInstanceOperators agentInstance) serviceId) → m' k = m k
  conserved : total (fun a => m' (operatorService a serviceId)) + taken =
    total fun a => m (operatorService a serviceId)

theorem slashBody_ok {registry : RegistryState} {serviceId : Nat} {entry : Address × Word}
    {d d' : SlashData} (h : slashBody registry serviceId entry d = .ok d') :
    ∃ taken, taken ≤ d.mapBalances
        (operatorService (registry.mapAgentInstanceOperators entry.1) serviceId) ∧
      d' = ⟨Function.update d.mapBalances
        (operatorService (registry.mapAgentInstanceOperators entry.1) serviceId)
        (d.mapBalances (operatorService (registry.mapAgentInstanceOperators entry.1) serviceId) -
          taken), d.slashedFunds + taken⟩ := by
  simp only [slashBody] at h
  split at h
  · cases h
    refine ⟨0, Nat.zero_le _, ?_⟩
    rw [Nat.sub_zero, Function.update_eq_self]
    rfl
  · simp only [bind_eq_ok, checkedAdd_eq_ok, pure_eq_ok] at h
    obtain ⟨funds, ⟨-, rfl⟩, rfl⟩ := h
    refine ⟨_, ?_, rfl⟩
    split
    · exact le_refl _
    · omega

theorem slash_loop {registry : RegistryState} {serviceId : Nat} (bound : serviceId < 2 ^ 96)
    {agentInstances : List Address} {amounts : List Word} {d d' : SlashData}
    (h : loop (slashBody registry serviceId) (agentInstances.zip amounts) d = .ok d') :
    ∃ taken, d'.slashedFunds = d.slashedFunds + taken ∧
      Slashed registry serviceId agentInstances d.mapBalances d'.mapBalances taken := by
  refine loop_invariant (fun t => ∃ taken, t.slashedFunds = d.slashedFunds + taken ∧
    Slashed registry serviceId agentInstances d.mapBalances t.mapBalances taken) ?_
    ⟨0, rfl, fun _ => le_refl _, fun _ _ => rfl, rfl⟩ h
  rintro entry member t next ⟨already, funds, before⟩ ran
  obtain ⟨taken, enough, rfl⟩ := slashBody_ok ran
  have slashed : entry.1 ∈ agentInstances := (List.of_mem_zip member).1
  refine ⟨already + taken, by simp only; omega, ?_, ?_, ?_⟩
  · intro k
    simp only [Function.update_apply]
    split
    · next same =>
      subst same
      exact le_trans (Nat.sub_le _ _) (before.below _)
    · exact before.below k
  · intro k outside
    simp only [Function.update_of_ne (outside _ slashed)]
    exact before.others k outside
  · have entries : (fun a => Function.update t.mapBalances
        (operatorService (registry.mapAgentInstanceOperators entry.1) serviceId)
        (t.mapBalances (operatorService (registry.mapAgentInstanceOperators entry.1) serviceId) -
          taken) (operatorService a serviceId)) =
        Function.update (fun a => t.mapBalances (operatorService a serviceId))
          (registry.mapAgentInstanceOperators entry.1)
          (t.mapBalances (operatorService (registry.mapAgentInstanceOperators entry.1) serviceId) -
            taken) := by
      funext a
      rw [update_operatorService bound bound, Function.update_apply]
      simp only [true_and]
    have moved := total_update_add (fun a => t.mapBalances (operatorService a serviceId))
      (registry.mapAgentInstanceOperators entry.1)
      (t.mapBalances (operatorService (registry.mapAgentInstanceOperators entry.1) serviceId) -
        taken)
    have held := before.conserved
    simp only [entries]
    omega

theorem slash_deployed {registry : RegistryState} {sender : Address}
    {agentInstances : List Address} {amounts : List Word} {serviceId : Nat} {s s' : UtilityState}
    (h : slash registry sender agentInstances amounts serviceId s = .ok s') :
    (registry.mapServices serviceId).state = .deployed := by
  simp only [slash, bind_eq_ok, revertIf_eq_ok, exists_const, ne_eq, not_not] at h
  exact h.1

theorem slash_ok {registry : RegistryState} {sender : Address} {agentInstances : List Address}
    {amounts : List Word} {serviceId : Nat} {s s' : UtilityState} (bound : serviceId < 2 ^ 96)
    (h : slash registry sender agentInstances amounts serviceId s = .ok s') :
    ((registry.mapServices serviceId).state = .deployed ∧
      sender = (registry.mapServices serviceId).multisig ∧
      (s.mapServiceIdTokenDeposit serviceId).token ≠ 0) ∧
    ∃ balances taken,
      Slashed registry serviceId agentInstances s.mapOperatorAndServiceIdOperatorBalances
        balances taken ∧
      s' = { s with
        mapOperatorAndServiceIdOperatorBalances := balances
        mapSlashedFunds := Function.update s.mapSlashedFunds
          (s.mapServiceIdTokenDeposit serviceId).token
          (s.mapSlashedFunds (s.mapServiceIdTokenDeposit serviceId).token + taken) } := by
  simp only [slash, bind_eq_ok, revertIf_eq_ok, exists_const, checkedAdd_eq_ok, pure_eq_ok, ne_eq,
    not_not] at h
  obtain ⟨deployed, -, multisig, secured, d, run, _, ⟨-, rfl⟩, rfl⟩ := h
  obtain ⟨taken, funds, slashed⟩ := slash_loop bound run
  refine ⟨⟨deployed, multisig, secured⟩, d.mapBalances, taken, slashed, ?_⟩
  rw [funds, Nat.zero_add, Nat.add_comm taken]

end ServiceRegistryTokenUtility
end AutonolasRegistries.Source
