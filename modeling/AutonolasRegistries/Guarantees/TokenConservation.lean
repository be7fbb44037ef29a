import AutonolasRegistries.Guarantees.EscrowRuns
import AutonolasRegistries.Guarantees.MultisigBinding

/-!
# The token utility's tokens

From a fresh deployment on, the tokens the utility pulled in and did not send out are the
deposits of the services that hold one, the operator balances and the slashed funds, and a
service that can be configured owes its operators nothing.
`ServiceRegistryTokenUtility.sol:269-644`, `ServiceManager.sol:276-423`.
-/
namespace AutonolasRegistries.Guarantees
open Library Source Model

/-- Both contracts as deployed, handed over to the manager. -/
structure Fresh (setup : Setup) (start : SystemWorld) : Prop where
  registry : ∃ deployer, start.registry =
    ⟨{ ServiceRegistry.deployment deployer with manager := setup.self }, 0, 0⟩
  utility : ∃ self deployer, start.utility =
    ⟨{ ServiceRegistryTokenUtility.deployment self deployer with manager := setup.self },
      fun _ => 0, fun _ => 0⟩
  unlocked : start.manager.locked ≤ 1

section Fresh
variable {setup : Setup} {start : SystemWorld}

theorem Fresh.managed (fresh : Fresh setup start) : Managed setup start [] := by
  obtain ⟨⟨deployer, registry⟩, ⟨self, owner, utility⟩, unlocked⟩ := fresh
  refine ⟨⟨?_, ?_, by simp⟩, ?_, ?_, ?_, by simp⟩
  · rw [registry]
  · rw [if_pos unlocked]
    rfl
  · rw [registry]
    obtain ⟨⟨registered, lock⟩, supply⟩ := registryBase_deployment deployer
    exact ⟨⟨⟨registered.guarded, registered.unlisted, registered.listed⟩, .idle rfl⟩, supply⟩
  · rw [utility]
  · rw [utility]
    exact fun _ secured => absurd rfl secured

theorem Fresh.sound (fresh : Fresh setup start) : EscrowSound (escrow start []) := by
  obtain ⟨⟨deployer, registry⟩, ⟨self, owner, utility⟩, -⟩ := fresh
  have none : ∀ id a, ((escrow start []).folios id).tokens.balances a = 0 := by
    intro id a
    simp only [escrow, tokenSheet, utility]
    rfl
  refine ⟨?_, fun id _ a => none id a, fun id a positive => absurd (none id a) positive, ?_, ?_⟩
  · intro id
    simp only [escrow, registry]
    exact operatorBook_deployment deployer id.val
  · intro item member
    cases member
  · intro token real
    have nothing : ∀ id, tokensOwed token ((escrow start []).folios id) = 0 := by
      intro id
      refine tokensOwed_nothing ?_ (none id)
      simp only [escrow, registry, sheet]
      rfl
    simp only [nothing, total_zero]
    simp only [escrow, utility]
    rfl

/-- The escrow of every configuration of a run is accounted for. -/
theorem Fresh.accounted (fresh : Fresh setup start) {c : Config SystemWorld SystemFrame}
    (run : Reachable (systemMachine setup) (jointDiscipline setup) start c) :
    Managed setup c.state c.frames ∧ EscrowSound (escrow c.state c.frames) :=
  run.invariant ((managed_preserved setup).join
    (escrow_preserved fun _ _ before step => before.step step)) ⟨fresh.managed, fresh.sound⟩

end Fresh

/-- The services created so far are all that anything is owed for. -/
theorem owed_services {setup : Setup} {w : SystemWorld} {frames : List SystemFrame}
    (known : Managed setup w frames) {token : Address} (real : token ≠ 0) :
    total (fun id => tokensOwed token ((escrow w frames).folios id)) =
      ∑ serviceId ∈ Finset.range (w.registry.store.totalSupply + 1),
        tokensOwed token ⟨sheet w.registry.store serviceId, tokenSheet w.utility.store serviceId⟩ := by
  rw [total_eq_sum]
  have below : w.registry.store.totalSupply + 1 ≤ 2 ^ 32 := known.registry.2
  refine (Fin.sum_univ_eq_sum_range (fun serviceId => tokensOwed token
    ⟨sheet w.registry.store serviceId, tokenSheet w.utility.store serviceId⟩) (2 ^ 32)).trans ?_
  refine (Finset.sum_subset (Finset.range_subset_range.mpr below) ?_).symm
  intro serviceId _ outside
  refine tokensOwed_other fun own => outside (Finset.mem_range.mpr ?_)
  exact Nat.lt_succ_of_le (known.recorded serviceId (by rwa [← own] at real)).2

/-- The token of a service changes only while nobody has a balance. -/
theorem EscrowSound.token_change {e e' : Escrow} (sound : EscrowSound e) (step : e.Step e')
    (id : Uint32) :
    (e'.folios id).tokens.token = (e.folios id).tokens.token ∨
      ∀ a, (e.folios id).tokens.balances a = 0 ∧ (e'.folios id).tokens.balances a = 0 := by
  have rebalanced : ∀ {i balances},
      ((e.writeBalances i balances).folios id).tokens.token = (e.folios id).tokens.token := by
    intro i balances
    by_cases same : id = i
    · subst same
      rw [writeBalances_tokens]
    · simp only [Escrow.writeBalances, Escrow.write, Function.update_of_ne same]
  cases step with
  | idle | activating | terminating | drain => exact Or.inl rfl
  | @registry i t =>
    exact Or.inl (congrArg TokenSheet.token (folios_writeService e i t id))
  | @activated i _ _ _ t | @terminated i _ _ _ t =>
    exact Or.inl (congrArg TokenSheet.token (folios_writeService e i t id))
  | @registered _ i _ _ _ _ _ t =>
    exact Or.inl (congrArg TokenSheet.token (folios_writeService e i t id))
  | @unbonded _ i _ t =>
    exact Or.inl (congrArg TokenSheet.token (folios_writeService e i t id))
  | registering | unbonding | slash => exact Or.inl rebalanced
  | @configure i f kept free step =>
    by_cases same : id = i
    · subst same
      simp only [Escrow.write, Function.update_self]
      refine Or.inr fun a => ?_
      have vacant : (e.folios id).tokens.balances a = 0 :=
        sound.vacant free (configures_idle step) a
      refine ⟨vacant, ?_⟩
      cases step with
      | created _ _ _ tokens | reset _ _ tokens =>
        rw [tokens]
        exact vacant
      | secured _ _ _ _ _ _ _ _ balances =>
        rw [balances]
        exact vacant
    · refine Or.inl ?_
      simp only [Escrow.write, Function.update_of_ne same]

/-- In every configuration of every run: the tokens pulled in and not sent out are the
deposits held, the operator balances and the slashed funds of the token, up to what is
under way in a suspended call of the manager; nothing is under way when the manager is not
suspended, and then nobody has a balance at a service in PreRegistration; and whenever a
piece of code changes the token of a service, nobody has a balance there. -/
theorem tokens_conserved (setup : Setup) {start : SystemWorld} (fresh : Fresh setup start)
    {c : Config SystemWorld SystemFrame}
    (run : Reachable (systemMachine setup) (jointDiscipline setup) start c) :
    (∀ token ≠ 0,
      c.state.utility.pulled token + transit token (c.frames.flatMap waitingOf) =
        c.state.utility.sent token +
        (∑ serviceId ∈ Finset.range (c.state.registry.store.totalSupply + 1),
          if (c.state.utility.store.mapServiceIdTokenDeposit serviceId).token = token ∧
              (c.state.registry.store.mapServices serviceId).state.holdsDeposit = true then
            (c.state.utility.store.mapServiceIdTokenDeposit serviceId).securityDeposit
          else 0) +
        (∑ serviceId ∈ Finset.range (c.state.registry.store.totalSupply + 1),
          if (c.state.utility.store.mapServiceIdTokenDeposit serviceId).token = token then
            ∑ operator : Address, c.state.utility.store.mapOperatorAndServiceIdOperatorBalances
              (operatorService operator serviceId)
          else 0) +
        c.state.utility.store.mapSlashedFunds token) ∧
    (c.state.manager.locked ≤ 1 →
      (∀ token, transit token (c.frames.flatMap waitingOf) = 0) ∧
      ∀ serviceId, (c.state.registry.store.mapServices serviceId).state = .preRegistration →
        ∀ operator, c.state.utility.store.mapOperatorAndServiceIdOperatorBalances
          (operatorService operator serviceId) = 0) ∧
    ∀ w' frames', Local (systemMachine setup) (jointDiscipline setup) c.state c.frames w'
        frames' → ∀ serviceId, (w'.utility.store.mapServiceIdTokenDeposit serviceId).token ≠
        (c.state.utility.store.mapServiceIdTokenDeposit serviceId).token →
      ∀ operator, c.state.utility.store.mapOperatorAndServiceIdOperatorBalances
          (operatorService operator serviceId) = 0 ∧
        w'.utility.store.mapOperatorAndServiceIdOperatorBalances
          (operatorService operator serviceId) = 0 := by
  obtain ⟨known, sound⟩ := fresh.accounted run
  refine ⟨?_, ?_, ?_⟩
  · intro token real
    have balanced := sound.balanced token real
    rw [owed_services known real] at balanced
    refine balanced.trans ?_
    rw [Nat.add_assoc (c.state.utility.sent token), ← Finset.sum_add_distrib]
    refine congrArg (fun owed => c.state.utility.sent token + owed +
      c.state.utility.store.mapSlashedFunds token) (Finset.sum_congr rfl fun serviceId _ => ?_)
    simp only [tokensOwed, tokenSheet, sheet, total_eq_sum]
    by_cases own : (c.state.utility.store.mapServiceIdTokenDeposit serviceId).token = token
    · rw [if_pos own, if_pos own]
      exact congrArg (· + _) (if_congr (by simp only [own, true_and]) rfl rfl)
    · rw [if_neg own, if_neg own, if_neg fun both => own both.1]
  · intro free
    have none : c.frames.flatMap waitingOf = [] := known.free free
    refine ⟨fun token => by rw [none]; rfl, ?_⟩
    intro serviceId idle operator
    have bound : serviceId < 2 ^ 32 := known.small (by rw [idle]; decide)
    have here : ((escrow c.state c.frames).folios (serviceKey serviceId)).service.service.state =
        .preRegistration := by
      rw [escrow_folio bound]
      exact idle
    have vacant := sound.vacant none (Or.inr here) operator
    rw [escrow_folio bound] at vacant
    exact vacant
  · intro w' frames' taken serviceId changed operator
    have after := managed_preserved setup _ _ _ _ taken trivial known
    have bound : serviceId < 2 ^ 32 := by
      by_cases secured : (c.state.utility.store.mapServiceIdTokenDeposit serviceId).token = 0
      · rw [secured] at changed
        exact after.secured changed
      · exact known.secured secured
    have moved := sound.token_change (local_escrow known taken) (serviceKey serviceId)
    rw [escrow_folio bound, escrow_folio bound] at moved
    exact (moved.resolve_left changed) operator

theorem exampleTakeover_fresh : Fresh exampleSetup exampleTakeover :=
  ⟨⟨1, rfl⟩, ⟨7, 1, rfl⟩, by decide⟩

/-- A service secured by token 20, with a deposit and a bond of 5: the deposit is in, and
the bond is credited while its transfer is under way. -/
theorem tokens_conserved_registering :
    ∃ c, Reachable (systemMachine exampleSetup) (jointDiscipline exampleSetup)
        exampleTakeover c ∧ c.state.utility.pulled 20 = 5 ∧
      transit 20 (c.frames.flatMap waitingOf) = 5 ∧
      5 + 5 = 0 +
        (∑ serviceId ∈ Finset.range (c.state.registry.store.totalSupply + 1),
          if (c.state.utility.store.mapServiceIdTokenDeposit serviceId).token = 20 ∧
              (c.state.registry.store.mapServices serviceId).state.holdsDeposit = true then
            (c.state.utility.store.mapServiceIdTokenDeposit serviceId).securityDeposit
          else 0) +
        (∑ serviceId ∈ Finset.range (c.state.registry.store.totalSupply + 1),
          if (c.state.utility.store.mapServiceIdTokenDeposit serviceId).token = 20 then
            ∑ operator : Address, c.state.utility.store.mapOperatorAndServiceIdOperatorBalances
              (operatorService operator serviceId)
          else 0) + 0 := by
  obtain ⟨c, run, seen⟩ := Machine.play_observed (jointDiscipline exampleSetup)
    (systemMachine exampleSetup) exampleTakeover
    [.call (.manager (.create exampleOwner true 0 3 20 1 [1] [⟨1, 5⟩] 1)),
      .answer ⟨⟨0, [], true⟩, ⟨true, 0⟩⟩,
      .call (.manager (.activateRegistration exampleOwner 1 ⟨5, 0⟩ 1)),
      .answer ⟨⟨0, [], true⟩, ⟨true, 5⟩⟩,
      .call (.manager (.registerAgents exampleOperator 1 true ⟨5, 5⟩ 1 [5] [1]))]
    (fun c => (c.state.utility.pulled 20, transit 20 (c.frames.flatMap waitingOf),
      c.state.utility.sent 20, c.state.utility.store.mapSlashedFunds 20)) (5, 5, 0, 0)
    (by decide +kernel)
  obtain ⟨pulled, seen⟩ := Prod.mk.inj seen
  obtain ⟨moving, seen⟩ := Prod.mk.inj seen
  obtain ⟨sent, slashed⟩ := Prod.mk.inj seen
  have conserved := (tokens_conserved exampleSetup exampleTakeover_fresh run).1 20 (by decide)
  rw [pulled, moving, sent, slashed] at conserved
  exact ⟨c, run, pulled, moving, conserved⟩

end AutonolasRegistries.Guarantees
