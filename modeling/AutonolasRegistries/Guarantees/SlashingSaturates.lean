import AutonolasRegistries.Guarantees.RegistrySolvency
import AutonolasRegistries.Guarantees.TokenConservation
import AutonolasRegistries.Source.UtilityEffects

/-!
# Slashing saturates

Slashing takes at most what an operator has left in the service and moves it to the
slashed funds. The three implementations compare differently: the registries test
`amounts[i] + 1 > balance` in 96 bits, the token utility skips empty balances and tests
`amounts[i] >= balance`. They do the same for every amount but one: the largest 96-bit
value has no successor, and the registries revert on it.
`ServiceRegistryL2.sol:537-585`, `ServiceRegistry.sol:548-596`,
`ServiceRegistryTokenUtility.sol:553-612`.
-/
namespace AutonolasRegistries.Guarantees
open Library Source

/-- The operator balances and the slashed funds of one ledger. -/
structure SlashLedger where
  balances : Word → Nat
  funds : Nat

/-- Slashing one instance: no more than the balance of its operator is moved. -/
def SlashLedger.slash (operators : Address → Address) (serviceId : Nat) (l : SlashLedger)
    (entry : Address × Nat) : SlashLedger :=
  let key := operatorService (operators entry.1) serviceId
  let moved := min entry.2 (l.balances key)
  ⟨Function.update l.balances key (l.balances key - moved), l.funds + moved⟩

def SlashLedger.slashAll (operators : Address → Address) (serviceId : Nat)
    (entries : List (Address × Nat)) (l : SlashLedger) : SlashLedger :=
  entries.foldl (·.slash operators serviceId) l

/-- What the operators of a service have, and what was taken from them. -/
noncomputable def SlashLedger.worth (l : SlashLedger) (serviceId : Nat) : Nat :=
  total (fun operator => l.balances (operatorService operator serviceId)) + l.funds

namespace SlashLedger
variable {operators : Address → Address} {serviceId : Nat}

theorem worth_slash (l : SlashLedger) (entry : Address × Nat) :
    (l.slash operators serviceId entry).worth serviceId = l.worth serviceId := by
  have entries : (fun operator => (l.slash operators serviceId entry).balances
      (operatorService operator serviceId)) =
        Function.update (fun operator => l.balances (operatorService operator serviceId))
          (operators entry.1) (l.balances (operatorService (operators entry.1) serviceId) -
            min entry.2 (l.balances (operatorService (operators entry.1) serviceId))) := by
    funext operator
    simp only [slash, Function.update_apply]
    refine if_congr ⟨operatorService_operator, ?_⟩ rfl rfl
    rintro rfl
    rfl
  have moved := total_update_add (fun operator => l.balances (operatorService operator serviceId))
    (operators entry.1) (l.balances (operatorService (operators entry.1) serviceId) -
      min entry.2 (l.balances (operatorService (operators entry.1) serviceId)))
  have enough := Nat.min_le_right entry.2
    (l.balances (operatorService (operators entry.1) serviceId))
  rw [worth, entries]
  simp only [worth, slash]
  omega

theorem worth_slashAll (l : SlashLedger) (entries : List (Address × Nat)) :
    (l.slashAll operators serviceId entries).worth serviceId = l.worth serviceId := by
  induction entries generalizing l with
  | nil => rfl
  | cons entry rest ih =>
    rw [slashAll, List.foldl_cons]
    exact (ih _).trans (worth_slash l entry)

/-- The slashed funds never exceed what was there in total. -/
theorem slash_fits (operators : Address → Address) {l : SlashLedger} {bound : Nat}
    (fits : l.worth serviceId < bound) (entry : Address × Nat) :
    l.funds + min entry.2 (l.balances (operatorService (operators entry.1) serviceId)) < bound := by
  have same : (l.slash operators serviceId entry).worth serviceId = l.worth serviceId :=
    worth_slash l entry
  rw [← same] at fits
  exact lt_of_le_of_lt (Nat.le_add_left _ _) fits

/-- The funds at the start are carried along and nothing else. -/
theorem slashAll_funds (operators : Address → Address) (serviceId : Nat)
    (entries : List (Address × Nat)) (balances : Word → Nat) (funds more : Nat) :
    slashAll operators serviceId entries ⟨balances, funds + more⟩ =
      ⟨(slashAll operators serviceId entries ⟨balances, funds⟩).balances,
        (slashAll operators serviceId entries ⟨balances, funds⟩).funds + more⟩ := by
  induction entries generalizing balances funds with
  | nil => rfl
  | cons entry rest ih =>
    simp only [slashAll, List.foldl_cons] at ih ⊢
    have carried : SlashLedger.slash operators serviceId ⟨balances, funds + more⟩ entry =
        ⟨(SlashLedger.slash operators serviceId ⟨balances, funds⟩ entry).balances,
          (SlashLedger.slash operators serviceId ⟨balances, funds⟩ entry).funds + more⟩ := by
      simp only [slash, mk.injEq, true_and]
      omega
    rw [carried]
    exact ih _ _

/-- The same for amounts of a machine type. -/
theorem slashAll_zip {n : Nat} (l : SlashLedger) (agentInstances : List Address)
    (amounts : List (Fin n)) :
    (agentInstances.zip amounts).foldl
        (fun l entry => l.slash operators serviceId (entry.1, entry.2.val)) l =
      l.slashAll operators serviceId (agentInstances.zip (amounts.map Fin.val)) := by
  rw [slashAll, List.zip_map_right, List.foldl_map]
  rfl

end SlashLedger

section Registry
variable {s : RegistryState} {serviceId : Nat}

def registrySlashLedger (s : RegistryState) : SlashLedger :=
  ⟨s.mapOperatorAndServiceIdOperatorBalances, s.slashedFunds⟩

def withRegistryLedger (s : RegistryState) (l : SlashLedger) : RegistryState :=
  { s with
    mapOperatorAndServiceIdOperatorBalances := l.balances
    slashedFunds := l.funds }

/-- What the registry's `slash` has to do when the service's multisig calls it. -/
def RegistrySaturates (s : RegistryState) (agentInstances : List Address)
    (amounts : List Uint96) (serviceId : Nat) : Prop :=
  let after := (registrySlashLedger s).slashAll s.mapAgentInstanceOperators serviceId
    (agentInstances.zip (amounts.map Fin.val))
  ServiceRegistry.slash (s.mapServices serviceId).multisig agentInstances amounts serviceId s =
      .ok (withRegistryLedger s after) ∧
    after.worth serviceId = (registrySlashLedger s).worth serviceId

theorem slashBody_saturates {l : SlashLedger} {entry : Address × Uint96}
    (bump : entry.2.val + 1 < 2 ^ 96) (fits : l.worth serviceId < 2 ^ 96) :
    ServiceRegistry.slashBody serviceId entry (withRegistryLedger s l) =
      .ok (withRegistryLedger s
        (l.slash s.mapAgentInstanceOperators serviceId (entry.1, entry.2.val))) := by
  have room := SlashLedger.slash_fits s.mapAgentInstanceOperators fits (entry.1, entry.2.val)
  have moved : (if l.balances (operatorService (s.mapAgentInstanceOperators entry.1) serviceId) <
      entry.2.val + 1 then
        l.balances (operatorService (s.mapAgentInstanceOperators entry.1) serviceId)
      else entry.2.val) = min entry.2.val
        (l.balances (operatorService (s.mapAgentInstanceOperators entry.1) serviceId)) := by
    split <;> omega
  refine bind_eq_ok.mpr ⟨_, checkedAdd_eq_ok.mpr ⟨bump, rfl⟩, bind_eq_ok.mpr ⟨_,
    checkedAdd_eq_ok.mpr ⟨?_, rfl⟩, ?_⟩⟩
  · exact moved ▸ room
  · exact congrArg (fun taken => Except.ok { s with
      slashedFunds := l.funds + taken
      mapOperatorAndServiceIdOperatorBalances := Function.update l.balances
        (operatorService (s.mapAgentInstanceOperators entry.1) serviceId)
        (l.balances (operatorService (s.mapAgentInstanceOperators entry.1) serviceId) - taken) })
      moved

theorem registry_saturates {agentInstances : List Address} {amounts : List Uint96}
    (state : (s.mapServices serviceId).state = .deployed)
    (lengths : agentInstances.length = amounts.length)
    (supply : (registrySlashLedger s).worth serviceId < 2 ^ 96)
    (bump : ∀ amount ∈ amounts, amount.val ≠ 2 ^ 96 - 1) :
    RegistrySaturates s agentInstances amounts serviceId := by
  refine ⟨?_, SlashLedger.worth_slashAll _ _⟩
  have each : ∀ entry ∈ agentInstances.zip amounts, ∀ l : SlashLedger, l.worth serviceId < 2 ^ 96 →
      ServiceRegistry.slashBody serviceId entry (withRegistryLedger s l) =
        .ok (withRegistryLedger s
          (l.slash s.mapAgentInstanceOperators serviceId (entry.1, entry.2.val))) ∧
      (l.slash s.mapAgentInstanceOperators serviceId (entry.1, entry.2.val)).worth serviceId <
        2 ^ 96 := by
    intro entry member l fits
    have valid := bump entry.2 (List.of_mem_zip member).2
    refine ⟨slashBody_saturates (by have := entry.2.isLt; omega) fits, ?_⟩
    rwa [SlashLedger.worth_slash]
  have run := (loop_fold (withRegistryLedger s) _ _ each supply).1
  rw [SlashLedger.slashAll_zip] at run
  simp only [ServiceRegistry.slash, revertIf, state, lengths, ne_eq, not_true_eq_false, if_false,
    ok_bind]
  exact run

/-- A call that went through did not name the largest value. -/
theorem registry_amounts {agentInstances : List Address} {amounts : List Uint96} {sender : Address}
    {s' : RegistryState}
    (ran : ServiceRegistry.slash sender agentInstances amounts serviceId s = .ok s') :
    ∀ amount ∈ amounts, amount.val ≠ 2 ^ 96 - 1 := by
  obtain ⟨⟨-, lengths, -⟩, run⟩ := ServiceRegistry.slash_ok ran
  have bumped : ∀ (entries : List (Address × Uint96)) (s s' : RegistryState),
      loop (ServiceRegistry.slashBody serviceId) entries s = .ok s' →
        ∀ entry ∈ entries, entry.2.val + 1 < 2 ^ 96 := by
    intro entries
    induction entries with
    | nil => simp
    | cons entry rest ih =>
      intro s s' run
      obtain ⟨next, first, run⟩ := loop_cons_eq_ok.mp run
      simp only [ServiceRegistry.slashBody, bind_eq_ok, checkedAdd_eq_ok] at first
      obtain ⟨_, ⟨bump, -⟩, -⟩ := first
      exact List.forall_mem_cons.mpr ⟨bump, ih next s' run⟩
  intro amount listed
  rw [← List.map_snd_zip (le_of_eq lengths.symm)] at listed
  obtain ⟨entry, member, rfl⟩ := List.mem_map.mp listed
  have := bumped _ _ _ run entry member
  omega

end Registry

section Utility
variable {registry : RegistryState} {u : UtilityState} {serviceId : Nat}

/-- The ledger of the utility in the token of a service. -/
def utilitySlashLedger (u : UtilityState) (serviceId : Nat) : SlashLedger :=
  ⟨u.mapOperatorAndServiceIdOperatorBalances,
    u.mapSlashedFunds (u.mapServiceIdTokenDeposit serviceId).token⟩

def withUtilityLedger (u : UtilityState) (serviceId : Nat) (l : SlashLedger) : UtilityState :=
  { u with
    mapOperatorAndServiceIdOperatorBalances := l.balances
    mapSlashedFunds := Function.update u.mapSlashedFunds
      (u.mapServiceIdTokenDeposit serviceId).token l.funds }

/-- What the utility's `slash` has to do when the service's multisig calls it. -/
def UtilitySaturates (registry : RegistryState) (u : UtilityState) (agentInstances : List Address)
    (amounts : List Word) (serviceId : Nat) : Prop :=
  let after := (utilitySlashLedger u serviceId).slashAll registry.mapAgentInstanceOperators
    serviceId (agentInstances.zip (amounts.map Fin.val))
  ServiceRegistryTokenUtility.slash registry (registry.mapServices serviceId).multisig
      agentInstances amounts serviceId u = .ok (withUtilityLedger u serviceId after) ∧
    after.worth serviceId = (utilitySlashLedger u serviceId).worth serviceId

def slashData (l : SlashLedger) : ServiceRegistryTokenUtility.SlashData := ⟨l.balances, l.funds⟩

/-- One iteration, with the skipped and the clamped case taken together. -/
theorem utility_slashBody_min {entry : Address × Word} {key : Word}
    {d : ServiceRegistryTokenUtility.SlashData}
    (own : operatorService (registry.mapAgentInstanceOperators entry.1) serviceId = key)
    (room : d.slashedFunds + min entry.2.val (d.mapBalances key) < 2 ^ 256) :
    ServiceRegistryTokenUtility.slashBody registry serviceId entry d =
      .ok ⟨Function.update d.mapBalances key
          (d.mapBalances key - min entry.2.val (d.mapBalances key)),
        d.slashedFunds + min entry.2.val (d.mapBalances key)⟩ := by
  subst own
  simp only [ServiceRegistryTokenUtility.slashBody]
  split
  · next empty =>
    rw [empty, Nat.min_zero, Nat.sub_zero, Nat.add_zero, ← empty, Function.update_eq_self]
    rfl
  · split
    · next all =>
      rw [Nat.min_eq_right all] at room ⊢
      rw [checkedAdd, if_pos room]
      rfl
    · next part =>
      rw [Nat.min_eq_left (le_of_lt (not_le.mp part))] at room ⊢
      rw [checkedAdd, if_pos room]
      rfl

theorem utility_saturates {agentInstances : List Address} {amounts : List Word}
    (state : (registry.mapServices serviceId).state = .deployed) (some : agentInstances ≠ [])
    (lengths : agentInstances.length = amounts.length)
    (secured : (u.mapServiceIdTokenDeposit serviceId).token ≠ 0)
    (supply : (utilitySlashLedger u serviceId).worth serviceId < 2 ^ 96) :
    UtilitySaturates registry u agentInstances amounts serviceId := by
  refine ⟨?_, SlashLedger.worth_slashAll _ _⟩
  -- The loop counts the slashed funds from zero, the old ones are added at the end.
  have start : SlashLedger.worth ⟨u.mapOperatorAndServiceIdOperatorBalances, 0⟩ serviceId <
      2 ^ 256 := by
    refine lt_trans (lt_of_le_of_lt ?_ supply) (Nat.pow_lt_pow_right (by decide) (by decide))
    exact Nat.add_le_add_left (Nat.zero_le _) _
  have each : ∀ entry ∈ agentInstances.zip amounts, ∀ l : SlashLedger, l.worth serviceId < 2 ^ 256 →
      ServiceRegistryTokenUtility.slashBody registry serviceId entry (slashData l) =
        .ok (slashData
          (l.slash registry.mapAgentInstanceOperators serviceId (entry.1, entry.2.val))) ∧
      (l.slash registry.mapAgentInstanceOperators serviceId (entry.1, entry.2.val)).worth serviceId <
        2 ^ 256 := by
    intro entry _ l fits
    refine ⟨utility_slashBody_min rfl
      (SlashLedger.slash_fits registry.mapAgentInstanceOperators fits (entry.1, entry.2.val)), ?_⟩
    rwa [SlashLedger.worth_slash]
  have run := (loop_fold slashData _ _ each start).1
  rw [SlashLedger.slashAll_zip] at run
  have carried := SlashLedger.slashAll_funds registry.mapAgentInstanceOperators serviceId
    (agentInstances.zip (amounts.map Fin.val)) u.mapOperatorAndServiceIdOperatorBalances 0
    (u.mapSlashedFunds (u.mapServiceIdTokenDeposit serviceId).token)
  rw [Nat.zero_add] at carried
  have room : ((SlashLedger.mk u.mapOperatorAndServiceIdOperatorBalances 0).slashAll
      registry.mapAgentInstanceOperators serviceId (agentInstances.zip (amounts.map Fin.val))).funds +
        u.mapSlashedFunds (u.mapServiceIdTokenDeposit serviceId).token < 2 ^ 256 := by
    have same : ((utilitySlashLedger u serviceId).slashAll registry.mapAgentInstanceOperators
        serviceId (agentInstances.zip (amounts.map Fin.val))).worth serviceId =
          (utilitySlashLedger u serviceId).worth serviceId := SlashLedger.worth_slashAll _ _
    rw [← same, utilitySlashLedger, carried] at supply
    refine lt_trans (lt_of_le_of_lt ?_ supply) (Nat.pow_lt_pow_right (by decide) (by decide))
    exact Nat.le_add_left _ _
  have nonempty : ¬ (agentInstances.length = 0 ∨ agentInstances.length ≠ amounts.length) := by
    rintro (none | differ)
    · exact some (List.length_eq_zero_iff.mp none)
    · exact differ lengths
  simp only [ServiceRegistryTokenUtility.slash, bind_eq_ok, revertIf_eq_ok, exists_const]
  refine ⟨not_not.mpr state, nonempty, not_not.mpr rfl, secured, _, run, _,
    checkedAdd_eq_ok.mpr ⟨room, rfl⟩, ?_⟩
  simp only [utilitySlashLedger, carried, withUtilityLedger]
  rfl

end Utility

/-- What the two ledgers do on the same inputs: the balances and what is taken agree. -/
theorem SlashLedger.slashAll_agree (operators : Address → Address) (serviceId : Nat)
    (entries : List (Address × Nat)) {l l' : SlashLedger} (same : l.balances = l'.balances) :
    (l.slashAll operators serviceId entries).balances =
        (l'.slashAll operators serviceId entries).balances ∧
      (l.slashAll operators serviceId entries).funds + l'.funds =
        (l'.slashAll operators serviceId entries).funds + l.funds := by
  have first := slashAll_funds operators serviceId entries l.balances 0 l.funds
  have second := slashAll_funds operators serviceId entries l'.balances 0 l'.funds
  rw [Nat.zero_add] at first second
  change l.slashAll operators serviceId entries = _ at first
  change l'.slashAll operators serviceId entries = _ at second
  rw [first, second, same]
  refine ⟨rfl, ?_⟩
  simp only
  omega

/-- A call of `slash` by the multisig of a deployed service saturates, in the registries if
and only if no amount is the largest 96-bit value, in the token utility always. On equal
ledgers and equal amounts the three take the same from the same operators. -/
theorem slashing_saturates_iff (s : RegistryState) (u : UtilityState)
    (agentInstances : List Address) (serviceId : Nat) :
    (∀ amounts : List Uint96, (s.mapServices serviceId).state = .deployed →
      agentInstances ≠ [] → agentInstances.length = amounts.length →
      (∑ operator : Address, s.mapOperatorAndServiceIdOperatorBalances
        (operatorService operator serviceId)) + s.slashedFunds < 2 ^ 96 →
      (RegistrySaturates s agentInstances amounts serviceId ↔
        ∀ amount ∈ amounts, amount.val ≠ 2 ^ 96 - 1)) ∧
    (∀ amounts : List Word, (s.mapServices serviceId).state = .deployed →
      agentInstances ≠ [] → agentInstances.length = amounts.length →
      (u.mapServiceIdTokenDeposit serviceId).token ≠ 0 →
      (∑ operator : Address, u.mapOperatorAndServiceIdOperatorBalances
        (operatorService operator serviceId)) +
          u.mapSlashedFunds (u.mapServiceIdTokenDeposit serviceId).token < 2 ^ 96 →
      UtilitySaturates s u agentInstances amounts serviceId) ∧
    ∀ (s' : RegistryState) (u' : UtilityState) (amounts : List Uint96) (amounts' : List Word),
      amounts.map Fin.val = amounts'.map Fin.val →
      s.mapOperatorAndServiceIdOperatorBalances = u.mapOperatorAndServiceIdOperatorBalances →
      RegistrySaturates s agentInstances amounts serviceId →
      UtilitySaturates s u agentInstances amounts' serviceId →
      ServiceRegistry.slash (s.mapServices serviceId).multisig agentInstances amounts serviceId s =
        .ok s' →
      ServiceRegistryTokenUtility.slash s (s.mapServices serviceId).multisig agentInstances amounts'
        serviceId u = .ok u' →
      s'.mapOperatorAndServiceIdOperatorBalances = u'.mapOperatorAndServiceIdOperatorBalances ∧
      s'.slashedFunds + u.mapSlashedFunds (u.mapServiceIdTokenDeposit serviceId).token =
        u'.mapSlashedFunds (u.mapServiceIdTokenDeposit serviceId).token + s.slashedFunds := by
  refine ⟨?_, ?_, ?_⟩
  · intro amounts state _ lengths supply
    rw [← total_eq_sum] at supply
    refine ⟨fun held => registry_amounts held.1, fun bump => ?_⟩
    exact registry_saturates state lengths supply bump
  · intro amounts state some lengths secured supply
    rw [← total_eq_sum] at supply
    exact utility_saturates state some lengths secured supply
  · intro s' u' amounts amounts' values balances first second ran ran'
    obtain rfl : withRegistryLedger s _ = s' := Except.ok.inj (first.1.symm.trans ran)
    obtain rfl : withUtilityLedger u serviceId _ = u' := Except.ok.inj (second.1.symm.trans ran')
    have agreed := SlashLedger.slashAll_agree s.mapAgentInstanceOperators serviceId
      (agentInstances.zip (amounts.map Fin.val))
      (show (registrySlashLedger s).balances = (utilitySlashLedger u serviceId).balances from
        balances)
    refine ⟨agreed.1.trans (by rw [values]; rfl), ?_⟩
    simp only [withUtilityLedger, Function.update_self, ← values]
    exact agreed.2

/-- Service 1 secured by token 20 at a bond of 1, deployed with instance 5 of the operator 4. -/
def deployedScript : List (Move SystemCall SystemAnswer) :=
  [.call (.manager (.create exampleOwner true 2 3 20 1 [1] [⟨1, 1⟩] 1)),
    .answer ⟨⟨0, [], true⟩, ⟨true, 0⟩⟩,
    .call (.manager (.activateRegistration exampleOwner 1 ⟨1, 0⟩ 1)),
    .answer ⟨⟨0, [], true⟩, ⟨true, 1⟩⟩,
    .call (.manager (.registerAgents exampleOperator 1 true ⟨1, 1⟩ 1 [5] [1])),
    .answer ⟨⟨0, [], true⟩, ⟨true, 2⟩⟩,
    .call (.registry (.changeMultisigPermission registryOwner 8 true)),
    .call (.manager (.deploy exampleOwner 1 8)), .answer ⟨⟨9, [], true⟩, ⟨true, 0⟩⟩]

def deployedWorld : SystemWorld :=
  (systemMachine exampleSetup).after (jointDiscipline exampleSetup) deployedScript exampleTakeover

/-- One operator has a balance. -/
theorem sum_single_balance (operator : Address) (serviceId value : Nat) :
    ∑ other : Address, Function.update (fun _ => 0) (operatorService operator serviceId) value
      (operatorService other serviceId) = value := by
  rw [Finset.sum_eq_single operator, Function.update_self]
  · intro other _ different
    exact Function.update_of_ne (fun same => different (operatorService_operator same)) _ _
  · intro missing
    exact absurd (Finset.mem_univ operator) missing

/-- The two ledgers of the deployed service are the same, and a slash of more than the operator
has takes the same from both. -/
theorem slashing_saturates_deployed :
    ∃ c, Reachable (systemMachine exampleSetup) (jointDiscipline exampleSetup) exampleTakeover c ∧
      (c.state.utility.store.mapServiceIdTokenDeposit 1).token = 20 ∧
      RegistrySaturates c.state.registry.store [5] [3] 1 ∧
      UtilitySaturates c.state.registry.store c.state.utility.store [5] [3] 1 ∧
      ∃ s' u', ServiceRegistry.slash (c.state.registry.store.mapServices 1).multisig [5] [3] 1
          c.state.registry.store = .ok s' ∧
        ServiceRegistryTokenUtility.slash c.state.registry.store
          (c.state.registry.store.mapServices 1).multisig [5] [3] 1 c.state.utility.store =
            .ok u' ∧
        s'.mapOperatorAndServiceIdOperatorBalances = u'.mapOperatorAndServiceIdOperatorBalances ∧
        s'.slashedFunds = u'.mapSlashedFunds 20 := by
  have state : (deployedWorld.registry.store.mapServices 1).state = .deployed := by decide +kernel
  have token : (deployedWorld.utility.store.mapServiceIdTokenDeposit 1).token = 20 := by
    decide +kernel
  have slashed : deployedWorld.registry.store.slashedFunds = 0 := by decide +kernel
  have funds : deployedWorld.utility.store.mapSlashedFunds 20 = 0 := by decide +kernel
  have first : deployedWorld.registry.store.mapOperatorAndServiceIdOperatorBalances =
      Function.update (fun _ => 0) (operatorService 4 1) 1 := rfl
  have second : deployedWorld.utility.store.mapOperatorAndServiceIdOperatorBalances =
      Function.update (fun _ => 0) (operatorService 4 1) 1 := rfl
  obtain ⟨saturates, saturates', agree⟩ := slashing_saturates_iff deployedWorld.registry.store
    deployedWorld.utility.store [5] 1
  have registry : RegistrySaturates deployedWorld.registry.store [5] [3] 1 := by
    have bounded : ∀ amount ∈ [(3 : Uint96)], amount.val ≠ 2 ^ 96 - 1 := by simp
    refine (saturates [3] state (by decide) (by decide) ?_).mpr bounded
    rw [first, sum_single_balance, slashed]
    decide
  have utility : UtilitySaturates deployedWorld.registry.store deployedWorld.utility.store [5] [3]
      1 := by
    refine saturates' [3] state (by decide) (by decide) (by rw [token]; decide) ?_
    rw [second, sum_single_balance, token, funds]
    decide
  have same : [(3 : Uint96)].map Fin.val = [(3 : Word)].map Fin.val := by decide
  obtain ⟨balances, moved⟩ := agree _ _ [3] [3] same (first.trans second.symm) registry utility
    registry.1 utility.1
  rw [token, slashed, funds] at moved
  exact ⟨⟨deployedWorld, []⟩, Machine.after_reachable _ _ _ deployedScript (by decide +kernel),
    token, registry, utility, _, _, registry.1, utility.1, balances, moved⟩

/-- The operators of one service have no more than all operators of all services. -/
theorem service_balances_le (balances : Word → Nat) (serviceId : Nat) :
    ∑ operator : Address, balances (operatorService operator serviceId) ≤ ∑ key, balances key := by
  let keys : Address ↪ Word := ⟨fun operator => operatorService operator serviceId,
    fun _ _ same => operatorService_operator same⟩
  calc ∑ operator : Address, balances (operatorService operator serviceId)
      = ∑ key ∈ Finset.univ.map keys, balances key := (Finset.sum_map _ keys balances).symm
    _ ≤ ∑ key, balances key := Finset.sum_le_sum_of_subset (Finset.subset_univ _)

/-- Why a call failed, if it did. -/
def failure {α : Type} : Except Revert α → Option Revert
  | .ok _ => none
  | .error reason => some reason

theorem failure_eq_some {α : Type} {run : Except Revert α} {reason : Revert}
    (failed : failure run = some reason) : run = .error reason := by
  cases run with
  | ok value => cases failed
  | error other =>
    cases failed
    rfl

/-- The multisig of a deployed service slashes instance 5, whose operator has two wei left,
by the largest amount there is: the call reverts. -/
theorem slashing_largest_amount :
    ∃ c, Reachable (registryMachine .l2) fundedDiscipline (RegistryWorld.deployment 1) c ∧
      (c.state.store.mapServices 1).state = .deployed ∧
      c.state.store.mapOperatorAndServiceIdOperatorBalances (operatorService 4 1) = 2 ∧
      (∑ operator : Address, c.state.store.mapOperatorAndServiceIdOperatorBalances
        (operatorService operator 1)) + c.state.store.slashedFunds < 2 ^ 96 ∧
      ServiceRegistry.slash (c.state.store.mapServices 1).multisig [5]
        [79228162514264337593543950335] 1 c.state.store = .error (.panic .arithmetic) ∧
      ¬ RegistrySaturates c.state.store [5] [79228162514264337593543950335] 1 := by
  obtain ⟨c, run, seen⟩ := Machine.play_observed fundedDiscipline (registryMachine .l2)
    (RegistryWorld.deployment 1)
    (twoSlotsScript ++ fillScript ++ [.call (.changeMultisigPermission registryOwner 8 true),
      .call (.deploy registryManager 3 1 8), .answer ⟨9, [], true⟩])
    (fun c => (c.state.received, (c.state.store.mapServices 1).state,
      c.state.store.mapOperatorAndServiceIdOperatorBalances (operatorService 4 1),
      failure (ServiceRegistry.slash (c.state.store.mapServices 1).multisig [5]
        [79228162514264337593543950335] 1 c.state.store)))
    (3, .deployed, 2, some (.panic .arithmetic)) (by decide +kernel)
  obtain ⟨received, seen⟩ := Prod.mk.inj seen
  obtain ⟨state, seen⟩ := Prod.mk.inj seen
  obtain ⟨balance, outcome⟩ := Prod.mk.inj seen
  have ledger : Preserved (registryMachine .l2) fundedDiscipline always RegistryLedger :=
    registryLedger_preserved .l2 fun _ _ allowed => allowed.1
  have conserved := (run.invariant (ledger.join (solvent_preserved .l2))
    ⟨registryLedger_deployment 1, solvent_deployment 1⟩).2
  rw [Solvent, liabilities, total_eq_sum] at conserved
  have part := service_balances_le c.state.store.mapOperatorAndServiceIdOperatorBalances 1
  have failed : ServiceRegistry.slash (c.state.store.mapServices 1).multisig [5]
      [79228162514264337593543950335] 1 c.state.store = .error (.panic .arithmetic) :=
    failure_eq_some outcome
  refine ⟨c, run, state, balance, ?_, failed, fun held => ?_⟩
  · change c.state.received = 3 at received
    omega
  · rw [RegistrySaturates, failed] at held
    cases held.1

end AutonolasRegistries.Guarantees
