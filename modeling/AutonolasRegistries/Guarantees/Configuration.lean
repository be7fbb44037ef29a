import AutonolasRegistries.Guarantees.SheetRuns

/-!
# The configuration of a service

`create` and `update` are the only functions that write the parameters of a service
and the part of its record they are summed up in. The sheet actions say which Ids end
up listed; here it is said what happens to all the others as well, and that the
threshold check passed. `ServiceRegistryL2.sol:127-340`.
-/
namespace AutonolasRegistries.Guarantees
open Library Source Model

/-- The entries that stay in the service. -/
def keptEntries (entries : List (Uint32 × AgentParams)) : List (Uint32 × AgentParams) :=
  entries.filter fun e => e.2.slots ≠ 0

/-- A reconfiguration with the given Ids, in full. -/
structure Configures (t t' : ServiceSheet) (entries : List (Uint32 × AgentParams)) : Prop where
  sorted : (entries.map Prod.fst).Pairwise (· < ·)
  ids : t'.service.agentIds = (keptEntries entries).map Prod.fst
  written : ∀ e ∈ keptEntries entries, t'.params e.1 = e.2
  dropped : ∀ e ∈ entries, e.2.slots = 0 → t'.params e.1 = default
  rest : ∀ x, x ∉ entries.map Prod.fst → t'.params x = t.params x
  capacity : t'.service.maxNumAgentInstances = ServiceRegistry.slotSum (keptEntries entries)
  deposit : t'.service.securityDeposit = ServiceRegistry.bondMax (keptEntries entries)
  low : ServiceRegistry.checkThreshold t'.service.maxNumAgentInstances ≤ t'.service.threshold.val
  high : t'.service.threshold.val ≤ t'.service.maxNumAgentInstances
  fits : t'.service.maxNumAgentInstances * 2 + 1 < 2 ^ 32

/-- Everything else leaves the configuration alone. -/
def SameConfiguration (t t' : ServiceSheet) : Prop :=
  t'.params = t.params ∧ ∃ multisig numAgentInstances state,
    t'.service = { t.service with multisig, numAgentInstances, state }

/-- The service a call configures, and the Ids it passes. -/
def callEntries (s : RegistryState) : RegistryCall → Option (Nat × List (Uint32 × AgentParams))
  | .create _ _ _ _ agentIds agentParams _ => some (s.totalSupply + 1, agentIds.zip agentParams)
  | .update _ _ _ _ agentIds agentParams _ serviceId => some (serviceId, agentIds.zip agentParams)
  | _ => none

theorem mem_keptEntries {entries : List (Uint32 × AgentParams)} {e : Uint32 × AgentParams} :
    e ∈ keptEntries entries ↔ e ∈ entries ∧ e.2.slots ≠ 0 := by
  simp only [keptEntries, List.mem_filter, decide_eq_true_eq]

theorem keptEntries_all {entries : List (Uint32 × AgentParams)}
    (filled : ∀ e ∈ entries, e.2.slots ≠ 0) : keptEntries entries = entries := by
  rw [keptEntries, List.filter_eq_self]
  intro e member
  simpa only [decide_eq_true_eq] using filled e member

/-- In a sorted list an Id stands once, so it is not passed with and without slots. -/
theorem kept_unless_dropped {entries : List (Uint32 × AgentParams)}
    (sorted : (entries.map Prod.fst).Pairwise (· < ·)) {e : Uint32 × AgentParams}
    (member : e ∈ keptEntries entries) : ∀ e' ∈ entries, e'.1 = e.1 → e'.2.slots ≠ 0 := by
  have unique : (entries.map Prod.fst).Nodup := sorted.imp fun h => ne_of_lt h
  obtain ⟨here, filled⟩ := mem_keptEntries.mp member
  intro e' member' same
  rwa [List.inj_on_of_nodup_map unique member' here same]

theorem kept_ids_of_dropped {entries : List (Uint32 × AgentParams)}
    (sorted : (entries.map Prod.fst).Pairwise (· < ·)) {e : Uint32 × AgentParams}
    (member : e ∈ entries) (dropped : e.2.slots = 0) :
    e.1 ∉ (keptEntries entries).map Prod.fst := by
  intro listed
  obtain ⟨e', kept, same⟩ := List.mem_map.mp listed
  exact kept_unless_dropped sorted kept e member same.symm dropped

theorem create_configures {edition : Edition} {sender serviceOwner : Address}
    {agentTotalSupply : Nat} {configHash : Bytes32} {agentIds : List Uint32}
    {agentParams : List AgentParams} {threshold : Uint32} {s s' : RegistryState}
    {serviceId : Nat} (bound : s.totalSupply + 1 < 2 ^ 32)
    (ran : ServiceRegistry.create edition agentTotalSupply sender serviceOwner configHash
      agentIds agentParams threshold s = .ok (s', serviceId)) :
    Configures (sheet s (s.totalSupply + 1)) (sheet s' (s.totalSupply + 1))
      (agentIds.zip agentParams) := by
  obtain ⟨⟨-, -, -, -, lengths, sorted, filled, low, high, fits⟩, rfl, rfl⟩ :=
    ServiceRegistry.create_ok ran
  have ids : (agentIds.zip agentParams).map Prod.fst = agentIds :=
    List.map_fst_zip (le_of_eq lengths)
  have all : ∀ e ∈ agentIds.zip agentParams, e.2.slots ≠ 0 :=
    fun e member => (filled e.2 (List.of_mem_zip member).2).1
  have unique : ((agentIds.zip agentParams).map Prod.fst).Nodup := by
    rw [ids]
    exact sorted.imp fun h => ne_of_lt h
  refine ⟨ids.symm ▸ sorted, ?_, ?_, ?_, ?_, ?_, ?_, ?_, ?_, ?_⟩ <;>
    simp only [keptEntries_all all, sheet, Function.update_self]
  · exact ids.symm
  · exact fun e member => ServiceRegistry.writeParams_listed bound unique _ member
  · exact fun e member zero => absurd zero (all e member)
  · exact fun x absent => ServiceRegistry.writeParams_absent bound _ absent
  · exact low
  · exact high
  · exact fits

theorem update_configures {edition : Edition} {sender serviceOwner : Address}
    {agentTotalSupply : Nat} {configHash : Bytes32} {agentIds : List Uint32}
    {agentParams : List AgentParams} {threshold : Uint32} {s s' : RegistryState}
    {serviceId : Nat} (bound : serviceId < 2 ^ 32)
    (ran : ServiceRegistry.update edition agentTotalSupply sender serviceOwner configHash
      agentIds agentParams threshold serviceId s = .ok s') :
    Configures (sheet s serviceId) (sheet s' serviceId) (agentIds.zip agentParams) := by
  obtain ⟨kept, rfl, ⟨-, -, -, -, lengths, sorted, low, high, fits⟩, hashes, rfl⟩ :=
    ServiceRegistry.update_ok ran
  have ids : (agentIds.zip agentParams).map Prod.fst = agentIds :=
    List.map_fst_zip (le_of_eq lengths)
  have ordered : ((agentIds.zip agentParams).map Prod.fst).Pairwise (· < ·) := ids.symm ▸ sorted
  have unique := ServiceRegistry.kept_nodup lengths sorted fun e => decide (e.2.slots ≠ 0)
  refine ⟨ordered, ?_, ?_, ?_, ?_, ?_, ?_, ?_, ?_, ?_⟩ <;>
    simp only [sheet, Function.update_self]
  · rfl
  · exact fun e member => ServiceRegistry.writeParams_listed bound unique _ member
  · intro e member zero
    have gone := kept_ids_of_dropped ordered member zero
    refine (ServiceRegistry.writeParams_absent bound _ gone).trans ?_
    exact ServiceRegistry.deleteParams_dropped bound _ (Or.inr ⟨e, member, rfl, zero⟩)
  · intro x absent
    have gone : x ∉ (keptEntries (agentIds.zip agentParams)).map Prod.fst := by
      intro listed
      obtain ⟨e, member, rfl⟩ := List.mem_map.mp listed
      exact absent (List.mem_map.mpr ⟨e, (mem_keptEntries.mp member).1, rfl⟩)
    refine (ServiceRegistry.writeParams_absent bound _ gone).trans ?_
    refine ServiceRegistry.deleteParams_kept bound _ fun e member same => absurd ?_ absent
    exact List.mem_map.mpr ⟨e, member, same⟩
  · rfl
  · rfl
  · exact low
  · exact high
  · exact fits

/-- The actions besides `configure`. -/
theorem sameConfiguration_of_step {t t' : ServiceSheet} {action : ServiceAction}
    (step : t.Step t' action) (other : ∀ entries, action ≠ .configure entries) :
    t.service.state ≠ .nonExistent ∧ SameConfiguration t t' := by
  cases step with
  | configure => exact absurd rfl (other _)
  | activate state after =>
    subst after
    exact ⟨by rw [state]; decide, rfl, _, _, _, rfl⟩
  | register state service _ params =>
    exact ⟨by rw [state]; decide, params, _, _, _, service⟩
  | deploy multisig state after =>
    subst after
    exact ⟨by rw [state]; decide, rfl, _, _, _, rfl⟩
  | slash state below after =>
    subst after
    exact ⟨by rw [state]; decide, rfl, _, _, _, rfl⟩
  | terminate held after =>
    subst after
    refine ⟨?_, rfl, _, _, _, rfl⟩
    intro gone
    rw [gone] at held
    cases held
  | unbond state _ _ after =>
    subst after
    exact ⟨by rw [state]; decide, rfl, _, _, _, rfl⟩

theorem enter_configures {edition : Edition} {w : RegistryWorld} {call : RegistryCall}
    {out : Outcome RegistryWorld RegistryFrame} {target : Nat}
    {entries : List (Uint32 × AgentParams)} (registered : Registered w.store)
    (supply : w.store.totalSupply < 2 ^ 32) (after : out.state.store.totalSupply < 2 ^ 32)
    (taken : RegistryTransition edition w call out)
    (label : callEntries w.store call = some (target, entries)) :
    Configures (sheet w.store target) (sheet out.state.store target) entries := by
  cases taken with
  | create ran =>
    cases label
    obtain ⟨-, rfl, rfl⟩ := ServiceRegistry.create_ok ran
    exact create_configures after ran
  | update ran =>
    cases label
    obtain ⟨-, -, ⟨-, -, -, state, -⟩, -⟩ := ServiceRegistry.update_ok ran
    have here := registered.of_state (by rw [state]; decide)
    exact update_configures (lt_of_le_of_lt here.2 supply) ran
  | @administer call _ _ _ _ _ kind _ _ => cases call <;> cases kind <;> cases label
  | activateRegistration | registerAgents | deploy | slash | terminate | unbond | drain =>
    cases label

/-- A call that configures nothing is no `configure` of any sheet. -/
theorem callAction_configure {s : RegistryState} {call : RegistryCall} {target : Nat}
    {entries : List (Uint32 × AgentParams)}
    (label : callAction s call = some (target, .configure entries)) :
    ∃ listed, callEntries s call = some (target, listed) := by
  cases call <;> cases label <;> exact ⟨_, rfl⟩

section Runs
variable {edition : Edition} {P : ServiceSheet → Prop}

/-- What every allowed reconfiguration establishes and what depends on nothing else is
kept by every call, -/
theorem configuration_entered (allowed : List (Uint32 × AgentParams) → ServiceSheet → Prop)
    (same : ∀ t t', t.service.state ≠ .nonExistent → SameConfiguration t t' → P t → P t')
    (configure : ∀ t t' entries, allowed entries t → Configures t t' entries → P t → P t')
    {w : RegistryWorld} {frames : List RegistryFrame} {call : RegistryCall}
    {out : Outcome RegistryWorld RegistryFrame} (shape : RegistryShape w.store frames)
    (supply : w.store.totalSupply < 2 ^ 32) (after : out.state.store.totalSupply < 2 ^ 32)
    (kind : RegistryTransition edition w call out)
    (follows : ∀ target entries, callEntries w.store call = some (target, entries) →
      allowed entries (sheet w.store target))
    (before : ∀ serviceId < 2 ^ 32, P (sheet w.store serviceId)) :
    ∀ serviceId < 2 ^ 32, P (sheet out.state.store serviceId) := by
  intro serviceId small
  have moved := enter_moves shape supply after kind
  cases label : callAction w.store call with
  | none =>
    rw [label] at moved
    rw [moved serviceId small]
    exact before serviceId small
  | some labelled =>
    obtain ⟨target, action⟩ := labelled
    rw [label] at moved
    obtain ⟨-, step, others⟩ := moved
    by_cases here : serviceId = target
    · subst here
      by_cases writes : ∃ entries, action = .configure entries
      · obtain ⟨entries, rfl⟩ := writes
        obtain ⟨listed, entered⟩ := callAction_configure label
        exact configure _ _ listed (follows _ listed entered)
          (enter_configures shape.registered supply after kind entered) (before serviceId small)
      · obtain ⟨alive, kept⟩ := sameConfiguration_of_step step fun entries same =>
          writes ⟨entries, same⟩
        exact same _ _ alive kept (before serviceId small)
    · rw [others serviceId small here]
      exact before serviceId small

/-- and by every return from an external call. -/
theorem configuration_resumed
    (same : ∀ t t', t.service.state ≠ .nonExistent → SameConfiguration t t' → P t → P t')
    {w : RegistryWorld} {frame : RegistryFrame} {frames : List RegistryFrame}
    {answer : RegistryAnswer} {out : Outcome RegistryWorld RegistryFrame}
    (shape : RegistryShape w.store (frame :: frames)) (supply : w.store.totalSupply < 2 ^ 32)
    (ran : w.resume edition frame answer = .ok out)
    (before : ∀ serviceId < 2 ^ 32, P (sheet w.store serviceId)) :
    ∀ serviceId < 2 ^ 32, P (sheet out.state.store serviceId) := by
  intro serviceId small
  have moved := resume_moves shape supply ran
  cases label : frameAction frame with
  | none =>
    rw [label] at moved
    rw [moved serviceId small]
    exact before serviceId small
  | some labelled =>
    obtain ⟨target, action⟩ := labelled
    rw [label] at moved
    obtain ⟨-, step, others⟩ := moved
    by_cases here : serviceId = target
    · subst here
      obtain ⟨alive, kept⟩ := sameConfiguration_of_step step fun entries written => by
        subst written
        cases frame <;> cases label
      exact same _ _ alive kept (before serviceId small)
    · rw [others serviceId small here]
      exact before serviceId small

/-- Rule for invariants of the configuration: what every allowed reconfiguration
establishes and what depends on nothing else holds of all sheets in every run. -/
theorem configuration_preserved
    {D : Discipline RegistryWorld RegistryCall RegistryFrame RegistryAnswer}
    (allowed : List (Uint32 × AgentParams) → ServiceSheet → Prop)
    (bounded : ∀ call w, D.call call w → Bounded call w)
    (follows : ∀ call w out target entries, Registered w.store → D.call call w →
      RegistryTransition edition w call out →
      callEntries w.store call = some (target, entries) → allowed entries (sheet w.store target))
    (same : ∀ t t', t.service.state ≠ .nonExistent → SameConfiguration t t' → P t → P t')
    (configure : ∀ t t' entries, allowed entries t → Configures t t' entries → P t → P t') :
    Preserved (registryMachine edition) D RegistryBase
      fun w _ => ∀ serviceId < 2 ^ 32, P (sheet w.store serviceId) := by
  intro w frames w' frames' taken base before
  obtain ⟨shape, supply⟩ := base
  cases taken with
  | entered call permitted ran =>
    have kind := RegistryWorld.enter_transition shape.registered.guarded ran
    exact configuration_entered allowed same configure shape supply
      (enter_supply kind (bounded call w permitted) supply) kind
      (fun target entries => follows call w _ target entries shape.registered permitted kind)
      before
  | resumed answer permitted ran => exact configuration_resumed same shape supply ran before

end Runs

/-- What the checks of `create` and `update` leave behind. -/
structure ConfigBook (t : ServiceSheet) : Prop where
  sorted : t.service.agentIds.Pairwise (· < ·)
  filled : ∀ x ∈ t.service.agentIds, (t.params x).slots ≠ 0
  capacity : t.service.maxNumAgentInstances = slotsOf t.params t.service.agentIds
  deposit : t.service.securityDeposit =
    (t.service.agentIds.map fun x => (t.params x).bond.val).foldl max 0
  quorum : t.service.state ≠ .nonExistent →
    ServiceRegistry.checkThreshold t.service.maxNumAgentInstances ≤ t.service.threshold.val ∧
    t.service.threshold.val ≤ t.service.maxNumAgentInstances ∧
    t.service.maxNumAgentInstances * 2 + 1 < 2 ^ 32

namespace ConfigBook
variable {t t' : ServiceSheet}

theorem same (before : ConfigBook t) (alive : t.service.state ≠ .nonExistent)
    (kept : SameConfiguration t t') : ConfigBook t' := by
  obtain ⟨params, multisig, num, state, service⟩ := kept
  refine ⟨?_, ?_, ?_, ?_, fun _ => ?_⟩ <;> simp only [service, params]
  · exact before.sorted
  · exact before.filled
  · exact before.capacity
  · exact before.deposit
  · exact before.quorum alive

/-- The listed parameters are those that were passed, so sums and maxima over them
are those of the entries. -/
theorem map_ids {entries : List (Uint32 × AgentParams)} (step : Configures t t' entries)
    (f : AgentParams → Nat) :
    (t'.service.agentIds.map fun x => f (t'.params x)) =
      (keptEntries entries).map fun e => f e.2 := by
  rw [step.ids, List.map_map]
  refine List.map_congr_left fun e member => ?_
  simp only [Function.comp, step.written e member]

theorem configure {entries : List (Uint32 × AgentParams)} (step : Configures t t' entries) :
    ConfigBook t' := by
  refine ⟨?_, ?_, ?_, ?_, fun _ => ⟨step.low, step.high, step.fits⟩⟩
  · rw [step.ids]
    exact step.sorted.sublist (List.Sublist.map _ List.filter_sublist)
  · intro x member
    rw [step.ids] at member
    obtain ⟨e, kept, rfl⟩ := List.mem_map.mp member
    rw [step.written e kept]
    exact (mem_keptEntries.mp kept).2
  · rw [step.capacity, slotsOf, map_ids step fun p => p.slots.val]
    rfl
  · rw [step.deposit, map_ids step fun p => p.bond.val, List.foldl_map]
    rfl

/-- A service has at least one slot. -/
theorem positive (book : ConfigBook t) (alive : t.service.state ≠ .nonExistent) :
    1 ≤ t.service.maxNumAgentInstances := by
  obtain ⟨low, high, -⟩ := book.quorum alive
  by_contra none
  have zero : t.service.maxNumAgentInstances = 0 := by omega
  rw [zero] at low high
  have : ServiceRegistry.checkThreshold 0 = 1 := by decide
  omega

end ConfigBook

theorem configBook_preserved {edition : Edition}
    {D : Discipline RegistryWorld RegistryCall RegistryFrame RegistryAnswer}
    (bounded : ∀ call w, D.call call w → Bounded call w) :
    Preserved (registryMachine edition) D RegistryBase
      fun w _ => ∀ serviceId < 2 ^ 32, ConfigBook (sheet w.store serviceId) :=
  configuration_preserved (fun _ _ => True) bounded (fun _ _ _ _ _ _ _ _ _ => trivial)
    (fun _ _ alive kept before => before.same alive kept)
    fun _ _ _ _ step _ => ConfigBook.configure step

theorem configBook_deployment (deployer : Address) (serviceId : Nat) :
    ConfigBook (sheet (RegistryWorld.deployment deployer).store serviceId) := by
  refine ⟨List.Pairwise.nil, ?_, rfl, rfl, fun alive => absurd rfl alive⟩
  intro x member
  cases member

end AutonolasRegistries.Guarantees
