import AutonolasRegistries.Guarantees.Configuration
import AutonolasRegistries.Guarantees.TokenConservation

/-!
# The two ledgers agree

The configuration of a service is split over the registry and the token utility, which
`create` and `update` write in different orders. A service without a token has its bonds in
the registry. A service with one has bonds of 1 there, and the real bonds, with their
maximum as the deposit, in the token utility. `ServiceManager.sol:204-341`.
-/
namespace AutonolasRegistries.Guarantees
open Library Source Model

/-- The largest of the bonds of the listed Ids. -/
def highestBond (bonds : Uint32 → Nat) (agentIds : List Uint32) : Nat :=
  (agentIds.map bonds).foldl max 0

structure Agreement (f : Folio) : Prop where
  plain : f.service.service.state ≠ .nonExistent → f.tokens.token = 0 →
    ∀ x ∈ f.service.service.agentIds, (f.service.params x).bond ≠ 0
  alive : f.tokens.token ≠ 0 → f.service.service.state ≠ .nonExistent
  wrapped : f.tokens.token ≠ 0 →
    ∀ x ∈ f.service.service.agentIds, (f.service.params x).bond = 1
  priced : f.tokens.token ≠ 0 →
    ∀ x ∈ f.service.service.agentIds, 1 ≤ f.tokens.bonds x ∧ f.tokens.bonds x ≤ 2 ^ 96 - 1
  deposit : f.tokens.token ≠ 0 →
    f.tokens.deposit = highestBond f.tokens.bonds f.service.service.agentIds

/-- The token utility's part of the configuration. -/
def SameTerms (t t' : TokenSheet) : Prop :=
  t'.token = t.token ∧ t'.deposit = t.deposit ∧ t'.bonds = t.bonds

theorem SameTerms.refl (t : TokenSheet) : SameTerms t t := ⟨rfl, rfl, rfl⟩

/-- What the registry does to a service that exists, its configuration apart. -/
def Serviced (t t' : ServiceSheet) : Prop :=
  t.service.state ≠ .nonExistent ∧ t'.service.state ≠ .nonExistent ∧ SameConfiguration t t'

theorem serviced_of_step {t t' : ServiceSheet} {action : ServiceAction} (step : t.Step t' action)
    (other : ∀ entries, action ≠ .configure entries) : Serviced t t' := by
  obtain ⟨alive, kept⟩ := sameConfiguration_of_step step other
  refine ⟨alive, ?_, kept⟩
  cases step with
  | configure => exact absurd rfl (other _)
  | activate _ after | deploy _ _ after =>
    rw [after]
    simp
  | register state service =>
    rw [service]
    simp only [state]
    split <;> simp
  | slash state _ after =>
    rw [after, state]
    simp
  | terminate _ after =>
    rw [after]
    simp only
    split <;> simp
  | unbond state _ _ after =>
    rw [after]
    simp only [state]
    split <;> simp

/-- A step of the escrow configures a service or leaves its configuration alone. -/
theorem step_configuration {e e' : Escrow} (step : e.Step e') (id : Uint32) :
    (∃ kept, (e.folios id).Configures (e'.folios id) kept) ∨
      (SameTerms (e.folios id).tokens (e'.folios id).tokens ∧
        ((e'.folios id).service = (e.folios id).service ∨
          Serviced (e.folios id).service (e'.folios id).service)) := by
  have service : ∀ {i t action}, (e.folios i).service.Step t action →
      (∀ entries, action ≠ .configure entries) →
      SameTerms (e.folios id).tokens ((e.writeService i t).folios id).tokens ∧
        (((e.writeService i t).folios id).service = (e.folios id).service ∨
          Serviced (e.folios id).service ((e.writeService i t).folios id).service) := by
    intro i t action step other
    rw [folios_writeService]
    refine ⟨.refl _, ?_⟩
    by_cases same : id = i
    · subst same
      simp only [Escrow.writeService, Escrow.write, Function.update_self]
      exact Or.inr (serviced_of_step step other)
    · simp only [Escrow.writeService, Escrow.write, Function.update_of_ne same]
      exact Or.inl trivial
  have balances : ∀ {i balances},
      SameTerms (e.folios id).tokens ((e.writeBalances i balances).folios id).tokens ∧
        ((e.writeBalances i balances).folios id).service = (e.folios id).service := by
    intro i balances
    by_cases same : id = i
    · subst same
      simp only [Escrow.writeBalances, Escrow.write, Function.update_self]
      exact ⟨⟨rfl, rfl, rfl⟩, trivial⟩
    · simp only [Escrow.writeBalances, Escrow.write, Function.update_of_ne same]
      exact ⟨.refl _, trivial⟩
  cases step with
  | idle | activating | terminating | drain => exact Or.inr ⟨.refl _, Or.inl rfl⟩
  | registry untouched step =>
    refine Or.inr (service step ?_)
    rintro entries rfl
    exact untouched
  | activated _ step | terminated _ step | unbonded _ step =>
    exact Or.inr (service step (by simp))
  | registered _ _ step => exact Or.inr (service step (by simp))
  | registering | unbonding | slash => exact Or.inr (balances.imp_right Or.inl)
  | @configure i f kept free step =>
    by_cases same : id = i
    · subst same
      refine Or.inl ⟨kept, ?_⟩
      simp only [Escrow.write, Function.update_self]
      exact step
    · refine Or.inr ?_
      simp only [Escrow.write, Function.update_of_ne same]
      exact ⟨.refl _, Or.inl trivial⟩

theorem configure_ids {t t' : ServiceSheet} {kept : List (Uint32 × AgentParams)}
    (step : t.Step t' (.configure kept)) :
    t'.service.agentIds = kept.map Prod.fst ∧ (∀ e ∈ kept, t'.params e.1 = e.2) ∧
      t'.service.state = .preRegistration := by
  cases step with
  | configure _ _ _ written state ids => exact ⟨ids, written, state⟩

theorem foldl_max_filter (bonds : List (Uint32 × Nat)) (start : Nat) :
    ((bonds.filter fun b => b.2 ≠ 0).map Prod.snd).foldl max start =
      (bonds.map Prod.snd).foldl max start := by
  induction bonds generalizing start with
  | nil => rfl
  | cons b rest ih =>
    by_cases zero : b.2 = 0
    · simp only [List.filter_cons, zero, ne_eq, not_true, decide_false, Bool.false_eq_true,
        if_false, List.map_cons, List.foldl_cons, Nat.max_zero]
      exact ih start
    · simp only [List.filter_cons, zero, ne_eq, not_false_eq_true, decide_true, if_true,
        List.map_cons, List.foldl_cons]
      exact ih _

namespace Agreement
variable {f f' : Folio}

theorem configured {kept : List (Uint32 × AgentParams)} (before : Agreement f)
    (step : f.Configures f' kept) : Agreement f' := by
  obtain ⟨ids, written, state⟩ := configure_ids (configures_service step)
  have bond : ∀ P : Uint96 → Prop, (∀ e ∈ kept, P e.2.bond) →
      ∀ x ∈ f'.service.service.agentIds, P (f'.service.params x).bond := by
    intro P all x listed
    rw [ids] at listed
    obtain ⟨e, member, rfl⟩ := List.mem_map.mp listed
    rw [written e member]
    exact all e member
  have lives : f'.service.service.state ≠ .nonExistent := by
    rw [state]
    decide
  cases step with
  | created fresh bonds service tokens =>
    have none : f'.tokens.token = 0 := by
      rw [tokens]
      by_contra secured
      exact before.alive secured fresh
    refine ⟨fun _ _ => bond (· ≠ 0) bonds, ?_, ?_, ?_, ?_⟩ <;> exact fun secured => absurd none secured
  | reset bonds service tokens =>
    have none : f'.tokens.token = 0 := by rw [tokens]
    refine ⟨fun _ _ => bond (· ≠ 0) bonds, ?_, ?_, ?_, ?_⟩ <;> exact fun secured => absurd none secured
  | @secured token bonds someToken wrapped service names small priced recorded deposit =>
    refine ⟨?_, fun _ => lives, fun _ => bond (· = 1) wrapped, fun _ => ?_, fun _ => ?_⟩
    · intro _ plain
      rw [recorded] at plain
      exact absurd plain someToken
    · intro x listed
      rw [ids, ← names] at listed
      obtain ⟨b, member, rfl⟩ := List.mem_map.mp listed
      obtain ⟨passed, positive⟩ := List.mem_filter.mp member
      have nonzero : b.2 ≠ 0 := of_decide_eq_true positive
      have bounded := small b passed
      rw [priced b passed nonzero]
      omega
    · rw [deposit, highestBond, ids, ← names, List.map_map, ← foldl_max_filter]
      refine congrArg (List.foldl max 0) (List.map_congr_left fun b member => ?_)
      obtain ⟨passed, positive⟩ := List.mem_filter.mp member
      exact (priced b passed (of_decide_eq_true positive)).symm

theorem kept (before : Agreement f) (terms : SameTerms f.tokens f'.tokens)
    (service : f'.service = f.service ∨ Serviced f.service f'.service) : Agreement f' := by
  obtain ⟨token, deposit, bonds⟩ := terms
  have same : f'.service.service.agentIds = f.service.service.agentIds ∧
      f'.service.params = f.service.params ∧
      (f'.service.service.state ≠ .nonExistent ↔ f.service.service.state ≠ .nonExistent) := by
    rcases service with same | ⟨lives, lives', params, multisig, num, state, record⟩
    · rw [same]
      exact ⟨rfl, rfl, Iff.rfl⟩
    · refine ⟨?_, params, fun _ => lives, fun _ => lives'⟩
      rw [record]
  obtain ⟨ids, params, lives⟩ := same
  refine ⟨?_, ?_, ?_, ?_, ?_⟩ <;> rw [token]
  · rw [ids, params]
    exact fun state => before.plain (lives.mp state)
  · exact fun secured => lives.mpr (before.alive secured)
  · rw [ids, params]
    exact before.wrapped
  · rw [ids, bonds]
    exact before.priced
  · rw [ids, bonds, deposit]
    exact before.deposit

theorem step {e e' : Escrow} (before : ∀ id, Agreement (e.folios id)) (taken : e.Step e')
    (id : Uint32) : Agreement (e'.folios id) := by
  rcases step_configuration taken id with ⟨kept, configured⟩ | ⟨terms, service⟩
  · exact (before id).configured configured
  · exact (before id).kept terms service

end Agreement

section Runs
variable {setup : Setup} {start : SystemWorld}

/-- The registry's books, in the system. -/
theorem configBook_lift (setup : Setup) :
    Preserved (systemMachine setup) (jointDiscipline setup) (ManagerShape setup)
      fun w frames => RegistryBase w.registry (frames.flatMap registryFrame) ∧
        ∀ serviceId < 2 ^ 32, ConfigBook (sheet w.registry.store serviceId) := by
  refine registry_lift (D := ⟨Bounded, fun _ _ _ => True⟩)
    ((registryBase_preserved fun _ _ allowed => allowed).join
      (configBook_preserved fun _ _ allowed => allowed)) ?_ ?_ fun _ _ _ => trivial
  · exact fun call w passed allowed passes => passed_bounded allowed.2.2 passes
  · intro actor passed r forwarded
    cases forwarded with
    | create asked => cases asked
    | _ => trivial

theorem Fresh.configured (fresh : Fresh setup start) {c : Config SystemWorld SystemFrame}
    (run : Reachable (systemMachine setup) (jointDiscipline setup) start c) :
    ∀ serviceId < 2 ^ 32, ConfigBook (sheet c.state.registry.store serviceId) := by
  have managed := fresh.managed
  have books : ∀ serviceId < 2 ^ 32, ConfigBook (sheet start.registry.store serviceId) := by
    obtain ⟨⟨deployer, registry⟩, -, -⟩ := fresh
    intro serviceId _
    rw [registry]
    exact configBook_deployment deployer serviceId
  have kept := (jointShape_preserved setup).join (configBook_lift setup)
  exact (run.invariant kept ⟨managed.shape, managed.registry, books⟩).2.2

theorem Fresh.agreement (fresh : Fresh setup start) {c : Config SystemWorld SystemFrame}
    (run : Reachable (systemMachine setup) (jointDiscipline setup) start c) (id : Uint32) :
    Agreement ((escrow c.state c.frames).folios id) := by
  have initial : ∀ id, Agreement ((escrow start []).folios id) := by
    intro id
    obtain ⟨⟨deployer, registry⟩, ⟨self, owner, utility⟩, -⟩ := fresh
    have none : ((escrow start []).folios id).tokens.token = 0 := by
      simp only [escrow, tokenSheet, utility]
      rfl
    have gone : ((escrow start []).folios id).service.service.state = .nonExistent := by
      simp only [escrow, sheet, registry]
      rfl
    refine ⟨fun lives => absurd gone lives, ?_, ?_, ?_, ?_⟩ <;>
      exact fun secured => absurd none secured
  have kept : Preserved (systemMachine setup) (jointDiscipline setup) (Managed setup)
      fun w frames => ∀ id, Agreement ((escrow w frames).folios id) :=
    escrow_preserved (P := fun e => ∀ id, Agreement (e.folios id)) fun _ _ before taken =>
      Agreement.step before taken
  exact (run.invariant ((managed_preserved setup).join kept) ⟨fresh.managed, initial⟩).2 id

/-- `create` records the token under the Id that is minted. -/
theorem create_records {setup : Setup} {w : SystemWorld} {out : Outcome SystemWorld SystemFrame}
    {sender : Caller} {tokenAccepted : Bool} {agentTotalSupply : Nat}
    {serviceOwner token : Address} {configHash : Bytes32} {agentIds : List Uint32}
    {agentParams : List AgentParams} {threshold : Uint32}
    (ran : w.enter setup (.manager (.create sender tokenAccepted agentTotalSupply serviceOwner
      token configHash agentIds agentParams threshold)) = .ok out) :
    out.state.registry.store.totalSupply = w.registry.store.totalSupply + 1 ∧
    out.state.registry.store.erc721.owners (w.registry.store.totalSupply + 1) = serviceOwner ∧
    (token ≠ ServiceManager.ethTokenAddress →
      (out.state.utility.store.mapServiceIdTokenDeposit (w.registry.store.totalSupply + 1)).token =
        token) ∧
    ∀ other, (token = ServiceManager.ethTokenAddress ∨ other ≠ w.registry.store.totalSupply + 1) →
      out.state.utility.store.mapServiceIdTokenDeposit other =
        w.utility.store.mapServiceIdTokenDeposit other := by
  simp only [SystemWorld.enter, ServiceManager.enter, ServiceManager.create, bind_eq_ok,
    lock_eq_ok, revertIf_eq_ok, exists_const] at ran
  obtain ⟨_, ⟨-, rfl⟩, -, -, ran⟩ := ran
  split at ran
  · next eth =>
    simp only [bind_eq_ok] at ran
    obtain ⟨reply, -, ran⟩ := ran
    obtain ⟨s, serviceId, created, rfl⟩ := createInRegistry_ok ran
    obtain ⟨-, rfl, rfl⟩ := ServiceRegistry.create_ok created
    refine ⟨rfl, Function.update_self _ _ _, fun other => absurd eth other, fun _ _ => rfl⟩
  · next other =>
    simp only [bind_eq_ok, revertIf_eq_ok, exists_const, checkedAdd_eq_ok] at ran
    obtain ⟨-, serviceId, ⟨-, rfl⟩, ran⟩ := ran
    obtain ⟨u, recorded, ran⟩ := SystemWorld.afterUtility_finish ran
    obtain ⟨s, serviceId, created, rfl⟩ := createInRegistry_ok ran
    obtain ⟨-, rfl⟩ := ServiceRegistryTokenUtility.createWithToken_ok recorded
    obtain ⟨-, rfl, rfl⟩ := ServiceRegistry.create_ok created
    refine ⟨rfl, Function.update_self _ _ _, fun _ => ?_, ?_⟩
    · simp only [Outcome.state_suspended, SystemWorld.withRegistry, SystemWorld.withUtility,
        SystemWorld.withManager,
        Function.update_self]
    · rintro id (eth | different)
      · exact absurd eth other
      · exact Function.update_of_ne different _ _

/-- Bonds of 1 have 1 as their maximum. -/
theorem foldl_max_ones {α : Type} {bond : α → Nat} :
    ∀ {ids : List α}, (∀ x ∈ ids, bond x = 1) → ∀ start ≤ 1,
      (ids.map bond).foldl max start = if ids = [] then start else 1
  | [], _, _, _ => rfl
  | x :: rest, ones, start, small => by
    have one := ones x List.mem_cons_self
    rw [List.map_cons, List.foldl_cons, one, max_eq_right small,
      foldl_max_ones (fun y member => ones y (List.mem_cons_of_mem _ member)) 1 (le_refl 1),
      if_neg (List.cons_ne_nil x rest)]
    split <;> rfl

/-- In every configuration of every run every service is configured in one ledger or in
the other, and `create` writes both under one Id. -/
theorem two_ledgers_agree (setup : Setup) {start : SystemWorld} (fresh : Fresh setup start)
    {c : Config SystemWorld SystemFrame}
    (run : Reachable (systemMachine setup) (jointDiscipline setup) start c) :
    (∀ serviceId service params deposit bonds,
      c.state.registry.store.mapServices serviceId = service →
      (fun x => c.state.registry.store.mapServiceAndAgentIdAgentParams
        (serviceAgent serviceId x)) = params →
      c.state.utility.store.mapServiceIdTokenDeposit serviceId = deposit →
      (fun x => c.state.utility.store.mapServiceAndAgentIdAgentBond
        (serviceAgent serviceId x)) = bonds →
      service.state ≠ .nonExistent →
      service.agentIds ≠ [] ∧ service.agentIds.Pairwise (· < ·) ∧
      (∀ x ∈ service.agentIds, 0 < (params x).slots) ∧
      service.maxNumAgentInstances = (service.agentIds.map fun x => (params x).slots.val).sum ∧
      (deposit.token = 0 →
        (∀ x ∈ service.agentIds, 0 < (params x).bond) ∧
        service.securityDeposit =
          (service.agentIds.map fun x => (params x).bond.val).foldl max 0) ∧
      (deposit.token ≠ 0 →
        (∀ x ∈ service.agentIds, (params x).bond = 1) ∧ service.securityDeposit = 1 ∧
        (∀ x ∈ service.agentIds, 1 ≤ bonds x ∧ bonds x ≤ 2 ^ 96 - 1) ∧
        deposit.securityDeposit = (service.agentIds.map bonds).foldl max 0)) ∧
    ∀ sender tokenAccepted agentTotalSupply serviceOwner token configHash agentIds agentParams
        threshold out,
      c.state.enter setup (.manager (.create sender tokenAccepted agentTotalSupply serviceOwner
        token configHash agentIds agentParams threshold)) = .ok out →
      out.state.registry.store.totalSupply = c.state.registry.store.totalSupply + 1 ∧
      out.state.registry.store.erc721.owners (c.state.registry.store.totalSupply + 1) =
        serviceOwner ∧
      (token ≠ ServiceManager.ethTokenAddress →
        (out.state.utility.store.mapServiceIdTokenDeposit
          (c.state.registry.store.totalSupply + 1)).token = token) ∧
      ∀ other, (token = ServiceManager.ethTokenAddress ∨
          other ≠ c.state.registry.store.totalSupply + 1) →
        out.state.utility.store.mapServiceIdTokenDeposit other =
          c.state.utility.store.mapServiceIdTokenDeposit other := by
  obtain ⟨known, -⟩ := fresh.accounted run
  refine ⟨?_, fun _ _ _ _ _ _ _ _ _ _ ran => create_records ran⟩
  rintro serviceId _ _ _ _ rfl rfl rfl rfl alive
  have bound := known.small alive
  have book : ConfigBook (sheet c.state.registry.store serviceId) :=
    fresh.configured run serviceId bound
  have agreement := fresh.agreement run (serviceKey serviceId)
  rw [escrow_folio bound] at agreement
  have some : (c.state.registry.store.mapServices serviceId).agentIds ≠ [] := by
    intro none
    have positive := book.positive alive
    have capacity := book.capacity
    simp only [sheet, none, slotsOf, List.map_nil, List.sum_nil] at positive capacity
    omega
  refine ⟨some, book.sorted, ?_, book.capacity, ?_, ?_⟩
  · exact fun x listed => Fin.pos_iff_ne_zero.mpr (book.filled x listed)
  · intro plain
    exact ⟨fun x listed => Fin.pos_iff_ne_zero.mpr (agreement.plain alive plain x listed),
      book.deposit⟩
  · intro secured
    have wrapped := agreement.wrapped secured
    refine ⟨wrapped, ?_, agreement.priced secured, agreement.deposit secured⟩
    refine book.deposit.trans ?_
    have ones : ∀ x ∈ (c.state.registry.store.mapServices serviceId).agentIds,
        ((sheet c.state.registry.store serviceId).params x).bond.val = 1 :=
      fun x listed => congrArg Fin.val (wrapped x listed)
    exact (foldl_max_ones ones 0 (Nat.zero_le 1)).trans (if_neg some)

/-- A service with two Ids, moved from ETH to token 20 with bonds 5 and 7. -/
theorem two_ledgers_agree_switched :
    ∃ c, Reachable (systemMachine exampleSetup) (jointDiscipline exampleSetup)
        exampleTakeover c ∧
      (c.state.registry.store.mapServices 1).agentIds = [1, 2] ∧
      (c.state.registry.store.mapServices 1).securityDeposit = 1 ∧
      (c.state.utility.store.mapServiceIdTokenDeposit 1).securityDeposit =
        ([1, 2].map fun x => c.state.utility.store.mapServiceAndAgentIdAgentBond
          (serviceAgent 1 x)).foldl max 0 ∧
      c.state.utility.store.mapServiceAndAgentIdAgentBond (serviceAgent 1 2) = 7 := by
  obtain ⟨c, run, seen⟩ := Machine.play_observed (jointDiscipline exampleSetup)
    (systemMachine exampleSetup) exampleTakeover
    [.call (.manager (.create exampleOwner true 0 3 ServiceManager.ethTokenAddress 1 [1]
        [⟨1, 3⟩] 1)),
      .answer ⟨⟨0, [], true⟩, ⟨true, 0⟩⟩,
      .call (.manager (.update exampleOwner true 0 20 1 [1, 2] [⟨1, 5⟩, ⟨1, 7⟩] 2 1))]
    (fun c => ((c.state.registry.store.mapServices 1).agentIds,
      (c.state.registry.store.mapServices 1).state,
      (c.state.utility.store.mapServiceIdTokenDeposit 1).token,
      c.state.utility.store.mapServiceAndAgentIdAgentBond (serviceAgent 1 2)))
    ([1, 2], .preRegistration, 20, 7) (by decide +kernel)
  obtain ⟨ids, seen⟩ := Prod.mk.inj seen
  obtain ⟨state, seen⟩ := Prod.mk.inj seen
  obtain ⟨token, bond⟩ := Prod.mk.inj seen
  obtain ⟨agree, -⟩ := two_ledgers_agree exampleSetup exampleTakeover_fresh run
  obtain ⟨-, -, -, -, -, secured⟩ := agree 1 _ _ _ _ rfl rfl rfl rfl (by rw [state]; decide)
  obtain ⟨-, wrapped, -, deposit⟩ := secured (by rw [token]; decide)
  rw [ids] at deposit
  exact ⟨c, run, ids, wrapped, deposit, bond⟩

end Runs

end AutonolasRegistries.Guarantees
