import AutonolasRegistries.Guarantees.TokenConservation

/-!
# The three contracts as one escrow

The escrow of `Model/TokenEscrow` says what the manager, the registry and the token utility
are together: a folio for every service, and at most one token transfer that the manager
waits for. Whatever calls interleave in the transfers, a run of the contracts is a run of the
escrow, and each piece of their code writes to the folio of one service only.
`ServiceManager.sol:204-687`, `ServiceRegistryTokenUtility.sol:269-644`.
-/
namespace AutonolasRegistries.Guarantees
open Library Source Model

section Abstract
variable {e e' : Escrow}

/-- All services but one are as they were. -/
def OthersKept (e e' : Escrow) : Prop :=
  ∃ id, ∀ other, other ≠ id → e'.folios other = e.folios other

theorem othersKept_write (id : Uint32) (f : Folio) : OthersKept e (e.write id f) :=
  ⟨id, fun _ different => Function.update_of_ne different _ _⟩

theorem othersKept_same (same : e'.folios = e.folios) : OthersKept e e' :=
  ⟨0, fun other _ => congrFun same other⟩

theorem othersKept_step (step : e.Step e') : OthersKept e e' := by
  cases step with
  | idle | activating | terminating | drain => exact othersKept_same rfl
  | registry | configure => exact othersKept_write _ _
  | activated | registering | registered | terminated | unbonding | unbonded | slash =>
    exact ⟨_, fun _ different => Function.update_of_ne different _ _⟩

/-- A function that waits for a transfer starts only when no other does. -/
theorem waiting_step (step : e.Step e') (before : e.waiting.length ≤ 1) :
    e'.waiting.length ≤ 1 := by
  cases step with
  | idle | registry | configure | slash | drain => exact before
  | activating | registering | terminating | unbonding => exact le_refl 1
  | activated waits | registered waits | terminated waits | unbonded waits =>
    rw [waits, List.length_cons] at before
    exact le_trans (Nat.le_succ _) before

end Abstract

section Runs
variable {setup : Setup} {start : SystemWorld}

/-- The states the escrow reaches by its own steps. -/
def EscrowReaches (start : SystemWorld) (w : SystemWorld) (frames : List SystemFrame) : Prop :=
  Relation.ReflTransGen Escrow.Step (escrow start []) (escrow w frames)

theorem escrowReaches_preserved (setup : Setup) (start : SystemWorld) :
    Preserved (systemMachine setup) (jointDiscipline setup) (Managed setup)
      (EscrowReaches start) :=
  fun _ _ _ _ taken known before => before.tail (local_escrow known taken)

/-- One folio of the escrow is one service of the contracts. -/
theorem others_services {w w' : SystemWorld} {frames frames' : List SystemFrame}
    (others : OthersKept (escrow w frames) (escrow w' frames')) :
    ∃ serviceId, ∀ other < 2 ^ 32, other ≠ serviceId →
      sheet w'.registry.store other = sheet w.registry.store other ∧
      tokenSheet w'.utility.store other = tokenSheet w.utility.store other := by
  obtain ⟨id, kept⟩ := others
  refine ⟨id.val, fun other small different => ?_⟩
  have apart : serviceKey other ≠ id := by
    intro same
    apply different
    rw [← same, serviceKey_val small]
  have same := kept _ apart
  rw [escrow_folio small, escrow_folio small] at same
  exact ⟨congrArg Folio.service same, congrArg Folio.tokens same⟩

/-- Every run of the manager, the registry and the token utility is a run of the escrow. At
most one transfer is awaited at a time, and whatever piece of code runs next changes what
both ledgers say about one service at most. -/
theorem system_refines_escrow (setup : Setup) (fresh : Fresh setup start)
    {c : Config SystemWorld SystemFrame}
    (run : Reachable (systemMachine setup) (jointDiscipline setup) start c) :
    EscrowReaches start c.state c.frames ∧ (c.frames.flatMap waitingOf).length ≤ 1 ∧
    ∀ w' frames', Local (systemMachine setup) (jointDiscipline setup) c.state c.frames w'
        frames' → (escrow c.state c.frames).Step (escrow w' frames') ∧
      ∃ serviceId, ∀ other < 2 ^ 32, other ≠ serviceId →
        sheet w'.registry.store other = sheet c.state.registry.store other ∧
        tokenSheet w'.utility.store other = tokenSheet c.state.utility.store other := by
  have known : Managed setup c.state c.frames :=
    run.invariant (managed_preserved setup) fresh.managed
  have reaches := run.invariant
    ((managed_preserved setup).join (escrowReaches_preserved setup start))
    ⟨fresh.managed, .refl⟩
  have waits : Preserved (systemMachine setup) (jointDiscipline setup) (Managed setup)
      fun w frames => (escrow w frames).waiting.length ≤ 1 :=
    escrow_preserved (P := fun e => e.waiting.length ≤ 1) fun _ _ before step =>
      waiting_step step before
  have waiting := run.invariant ((managed_preserved setup).join waits)
    ⟨fresh.managed, Nat.zero_le 1⟩
  refine ⟨reaches.2, waiting.2, fun w' frames' taken => ?_⟩
  have step := local_escrow known taken
  exact ⟨step, others_services (othersKept_step step)⟩

end Runs

/-- The run of a registration: the bond is credited and its transfer is under way. -/
theorem system_refines_escrow_registering :
    ∃ c, Reachable (systemMachine exampleSetup) (jointDiscipline exampleSetup)
        exampleTakeover c ∧ (c.frames.flatMap waitingOf).length = 1 ∧
      EscrowReaches exampleTakeover c.state c.frames := by
  obtain ⟨c, run, seen⟩ := Machine.play_observed (jointDiscipline exampleSetup)
    (systemMachine exampleSetup) exampleTakeover
    [.call (.manager (.create exampleOwner true 0 3 20 1 [1] [⟨1, 5⟩] 1)),
      .answer ⟨⟨0, [], true⟩, ⟨true, 0⟩⟩,
      .call (.manager (.activateRegistration exampleOwner 1 ⟨5, 0⟩ 1)),
      .answer ⟨⟨0, [], true⟩, ⟨true, 5⟩⟩,
      .call (.manager (.registerAgents exampleOperator 1 true ⟨5, 5⟩ 1 [5] [1]))]
    (fun c => (c.frames.flatMap waitingOf).length) 1 (by decide +kernel)
  exact ⟨c, run, seen, (system_refines_escrow exampleSetup exampleTakeover_fresh run).1⟩

end AutonolasRegistries.Guarantees
