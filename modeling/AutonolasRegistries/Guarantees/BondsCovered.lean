import AutonolasRegistries.Guarantees.StakedCollateral

/-!
# What the operators of a token-secured service have

Operators pay the bonds of the Ids they register for before the registration is made, and
`unbond` pays them out before the registry lets them go. In between, whatever other calls
come in the transfers, an operator that was not slashed has at least the bonds its instances
stand for, and a refund that the registry does not confirm is rolled back.
`ServiceRegistryTokenUtility.sol:405-546`, `ServiceManager.sol:379-560`.
-/
namespace AutonolasRegistries.Guarantees
open Library Source Model

/-- Registrations and slashes, as the journal of a staking contract has them. -/
def bondNote (call : SystemCall) (before after : SystemWorld) : List CollateralEvent :=
  noteRegistration before.registry.store after.registry.store call.registration ++
    (tokenLosses before after call).map fun loss => .slashed loss.1 loss.2

def bondReturn (frame : SystemFrame) (before after : SystemWorld) : List CollateralEvent :=
  noteRegistration before.registry.store after.registry.store (frameRegistration frame)

/-- What is known along a run with a journal. -/
structure Bonded (setup : Setup) (w : SystemWorld × List CollateralEvent)
    (frames : List SystemFrame) : Prop where
  known : Managed setup w.1 frames
  sound : EscrowSound (escrow w.1 frames)
  cover : BondCover (marks w.2) (escrow w.1 frames)

section Runs
variable {setup : Setup} {start : SystemWorld}

theorem bonded_preserved (setup : Setup) :
    Preserved ((systemMachine setup).journaled bondNote bondReturn)
      (jointDiscipline setup).logged always (Bonded setup) := by
  rintro ⟨w, journal⟩ frames ⟨w', journal'⟩ frames' taken _ before
  obtain ⟨piece, noted⟩ := journaled_cases taken
  dsimp only at piece noted
  have known := managed_preserved setup _ _ _ _ piece trivial before.known
  have sound := before.sound.step (local_escrow before.known piece)
  refine ⟨known, sound, ?_⟩
  rcases noted with ⟨call, out, allowed, entered, rfl, rfl, rfl⟩ |
    ⟨frame, rest, answer, out, -, rfl, resumed, rfl, rfl, rfl⟩
  · exact cover_called before.known before.sound allowed entered known.registry.2 before.cover
  · exact cover_resumed before.known before.sound resumed known.registry.2 before.cover

theorem bonded_fresh (fresh : Fresh setup start) : Bonded setup (start, []) [] :=
  ⟨fresh.managed, fresh.sound, cover_fresh fresh⟩

/-- In every run of the three contracts: an operator of a token-secured service has at least
the bonds recorded for the Ids of its instances, unless it lost tokens to a slash since it
last registered there or its `unbond` is under way. -/
theorem bonds_covered (setup : Setup) (fresh : Fresh setup start)
    {c : Config (SystemWorld × List CollateralEvent) SystemFrame}
    (run : Reachable ((systemMachine setup).journaled bondNote bondReturn)
      (jointDiscipline setup).logged (start, []) c) {serviceId : Nat}
    (secured : (c.state.1.utility.store.mapServiceIdTokenDeposit serviceId).token ≠ 0)
    {operator : Address} (unslashed : slashedSince c.state.2 operator serviceId = false)
    (staying : ∀ inner, SystemFrame.unbond operator serviceId inner ∉ c.frames) :
    ((c.state.1.registry.store.mapOperatorAndServiceIdAgentInstances
      (operatorService operator serviceId)).map fun entry =>
        c.state.1.utility.store.mapServiceAndAgentIdAgentBond
          (serviceAgent serviceId entry.agentId)).sum ≤
      c.state.1.utility.store.mapOperatorAndServiceIdOperatorBalances
        (operatorService operator serviceId) := by
  have bonded := run.invariant (bonded_preserved setup) (bonded_fresh fresh)
  have small : serviceId < 2 ^ 32 := bonded.known.secured secured
  have covers := bonded.cover.covers (serviceKey serviceId)
  rw [escrow_folio small] at covers
  rcases covers secured operator with covered | ⟨marked, -⟩ | waits
  · unfold bondedIds at covered
    rw [bondsOf_append] at covered
    have own := le_trans (Nat.le_add_right _ _) covered
    unfold bondsOf at own
    rw [List.map_map] at own
    exact own
  · unfold marks at marked
    rw [serviceKey_val small, unslashed] at marked
    cases marked
  · obtain ⟨inner, waiting⟩ := unbonding_frame bonded.known small (List.mem_filter.mp waits).1
    exact absurd waiting (staying inner)

end Runs

/-- Service 1 secured by token 20, with instance 5 of the operator 4 for Id 1 at a bond of 5. -/
def bondedScript : List (Move SystemCall SystemAnswer) :=
  [.call (.manager (.create exampleOwner true 2 3 20 1 [1] [⟨1, 5⟩] 1)),
    .answer ⟨⟨0, [], true⟩, ⟨true, 0⟩⟩,
    .call (.manager (.activateRegistration exampleOwner 1 ⟨5, 0⟩ 1)),
    .answer ⟨⟨0, [], true⟩, ⟨true, 5⟩⟩,
    .call (.manager (.registerAgents exampleOperator 1 true ⟨5, 5⟩ 1 [5] [1])),
    .answer ⟨⟨0, [], true⟩, ⟨true, 10⟩⟩]

theorem bonds_covered_registered :
    ∃ c, Reachable ((systemMachine exampleSetup).journaled bondNote bondReturn)
        (jointDiscipline exampleSetup).logged (exampleTakeover, []) c ∧
      c.state.1.registry.store.mapOperatorAndServiceIdAgentInstances
        (operatorService 4 1) = [⟨5, 1⟩] ∧
      c.state.1.utility.store.mapServiceAndAgentIdAgentBond (serviceAgent 1 1) ≤
        c.state.1.utility.store.mapOperatorAndServiceIdOperatorBalances (operatorService 4 1) := by
  obtain ⟨c, run, seen⟩ := Machine.play_observed (jointDiscipline exampleSetup).logged
    ((systemMachine exampleSetup).journaled bondNote bondReturn) (exampleTakeover, []) bondedScript
    (fun c => (c.stack.length, c.state.2.any CollateralEvent.slashes,
      (c.state.1.utility.store.mapServiceIdTokenDeposit 1).token,
      c.state.1.registry.store.mapOperatorAndServiceIdAgentInstances (operatorService 4 1)))
    (0, false, 20, [⟨5, 1⟩]) (by decide +kernel)
  obtain ⟨settled, seen⟩ := Prod.mk.inj seen
  obtain ⟨clean, seen⟩ := Prod.mk.inj seen
  obtain ⟨token, instances⟩ := Prod.mk.inj seen
  have unslashed : slashedSince c.state.2 4 1 = false := slashedSince_clean clean 4 1
  have staying : ∀ inner, SystemFrame.unbond 4 1 inner ∉ c.frames := by
    intro inner
    rw [frames_settled settled]
    exact List.not_mem_nil
  have covered := bonds_covered exampleSetup exampleTakeover_fresh run (by rw [token]; decide)
    unslashed staying
  rw [instances] at covered
  exact ⟨c, run, instances, covered⟩

section Runs
variable {setup : Setup} {start : SystemWorld}

/-- The token refund of `unbond` comes before the registry looks at the state. When it is under
way for a deployed service, the `unbond` does not return whatever runs in between: it is
still waiting as long as nothing is reverted, and the service is still deployed. -/
theorem deployed_unbond_never_returns (setup : Setup) (fresh : Fresh setup start)
    {c : Config SystemWorld SystemFrame}
    (run : Reachable (systemMachine setup) (jointDiscipline setup) start c) {serviceId : Nat}
    (deployed : (c.state.registry.store.mapServices serviceId).state = .deployed)
    {operator : Address} {inner : UtilityFrame}
    (waits : SystemFrame.unbond operator serviceId inner ∈ c.frames)
    {w' : SystemWorld} {frames' : List SystemFrame}
    (later : Locals (systemMachine setup) (jointDiscipline setup) c.state c.frames w' frames') :
    (w'.registry.store.mapServices serviceId).state = .deployed ∧
      ∃ operator inner, SystemFrame.unbond operator serviceId inner ∈ frames' := by
  have known : Managed setup c.state c.frames :=
    run.invariant (managed_preserved setup) fresh.managed
  have kept := (managed_preserved setup).join (doomed_preserved setup serviceId)
  exact (later.keep kept ⟨known, deployed, operator, inner, waits⟩).2

end Runs

/-- The operator asks to unbond at the deployed service, and while the token is on its way the
owner approves somebody for the NFT. -/
theorem deployed_unbond_never_returns_approving :
    ∃ c out, Reachable (systemMachine exampleSetup) (jointDiscipline exampleSetup)
        exampleTakeover c ∧
      (systemMachine exampleSetup).enter (.registry (.approve exampleOwner 5 1)) c.state =
        .ok out ∧
      (out.state.registry.store.mapServices 1).state = .deployed ∧
      ∃ operator inner, SystemFrame.unbond operator 1 inner ∈ out.pending ++ c.frames := by
  obtain ⟨c, run, seen⟩ := Machine.play_observed (jointDiscipline exampleSetup)
    (systemMachine exampleSetup) exampleTakeover
    (bondedScript ++ [.call (.registry (.changeMultisigPermission registryOwner 8 true)),
      .call (.manager (.deploy exampleOwner 1 8)), .answer ⟨⟨9, [], true⟩, ⟨true, 0⟩⟩,
      .call (.manager (.unbond exampleOperator 1))])
    (fun c => (c.frames, (c.state.registry.store.mapServices 1).state,
      (c.state.enter exampleSetup (.registry (.approve exampleOwner 5 1))).toOption.isSome))
    ([.unbond 4 1 (.refund ⟨20, 4, 5⟩)], .deployed, true) (by decide +kernel)
  obtain ⟨frames, seen⟩ := Prod.mk.inj seen
  obtain ⟨deployed, approves⟩ := Prod.mk.inj seen
  cases entered : c.state.enter exampleSetup (.registry (.approve exampleOwner 5 1)) with
  | error reason =>
    rw [entered] at approves
    cases approves
  | ok out =>
    have allowed : (jointDiscipline exampleSetup).call (.registry (.approve exampleOwner 5 1))
        c.state := by
      refine ⟨⟨?_, trivial⟩, trivial, ?_⟩
      · decide
      · intro minted
        cases minted
    have later : Locals (systemMachine exampleSetup) (jointDiscipline exampleSetup) c.state
        c.frames out.state (out.pending ++ c.frames) := .tail .refl (.entered _ allowed entered)
    have waits : SystemFrame.unbond 4 1 (.refund ⟨20, 4, 5⟩) ∈ c.frames := by
      rw [frames]
      exact List.mem_singleton_self _
    have kept := deployed_unbond_never_returns exampleSetup exampleTakeover_fresh run deployed
      waits later
    exact ⟨c, out, run, entered, kept⟩

end AutonolasRegistries.Guarantees
