import AutonolasRegistries.Guarantees.BondCover
import AutonolasRegistries.Guarantees.EscrowRuns
import AutonolasRegistries.Guarantees.SlotLimits

/-!
# Who loses tokens, and who registers

What the marks of `BondCover` need of the code: tokens are taken from an operator by `slash`
of its service, or by an `unbond` under way; and whoever registers does so at a service that
takes registrations. An `unbond` that started at a deployed service cannot return: the
manager's lock keeps the service deployed, and the registry refuses.
`ServiceManager.sol:557-687`, `ServiceRegistryTokenUtility.sol:471-584`.
-/
namespace AutonolasRegistries.Guarantees
open Library Source Model ServiceRegistryTokenUtility

/-- The balance of an operator in a service, in the token utility. -/
def tokenBalance (w : SystemWorld) (operator : Address) (serviceId : Nat) : Nat :=
  w.utility.store.mapOperatorAndServiceIdOperatorBalances (operatorService operator serviceId)

/-- The operators a call of `slash` takes tokens from. -/
def tokenLosses (w w' : SystemWorld) : SystemCall → List (Address × Nat)
  | .utility (.slash _ agentInstances _ serviceId) =>
    ((agentInstances.map w.registry.store.mapAgentInstanceOperators).filter fun operator =>
      tokenBalance w' operator serviceId < tokenBalance w operator serviceId).map (·, serviceId)
  | _ => []

section Losses
variable {setup : Setup} {w w' : SystemWorld} {frames pending : List SystemFrame}

theorem utility_losses (known : Managed setup w frames) {call : UtilityCall}
    {out : Outcome UtilityWorld UtilityFrame} (other : call.sender ≠ setup.self)
    (ran : w.utility.enter w.registry.store call = .ok out) {a : Address} {serviceId : Nat}
    (small : serviceId < 2 ^ 32)
    (fell : tokenBalance (w.withUtility out.state) a serviceId < tokenBalance w a serviceId) :
    (a, serviceId) ∈ tokenLosses w (w.withUtility out.state) (.utility call) := by
  have foreign : w.utility.store.manager ≠ call.sender := by
    rw [known.authority]
    exact fun same => other (Subtype.ext same.symm)
  have kind := utility_byOther foreign ran
  generalize out.state = u, out.pending = inner at kind fell ⊢
  cases kind with
  | @slash sender agentInstances amounts target s took asked =>
    subst asked
    have bound := known.small (by rw [slash_deployed took]; decide)
    obtain ⟨-, balances, taken, slashed, rfl⟩ := slash_ok (widen bound) took
    have named : ∃ agentInstance ∈ agentInstances, operatorService a serviceId =
        operatorService (w.registry.store.mapAgentInstanceOperators agentInstance) target := by
      by_contra nobody
      have same := slashed.others (operatorService a serviceId) fun agentInstance member shared =>
        nobody ⟨agentInstance, member, shared⟩
      exact absurd fell (by
        change ¬ balances (operatorService a serviceId) < _
        rw [same]
        exact lt_irrefl _)
    obtain ⟨agentInstance, member, shared⟩ := named
    obtain ⟨rfl, rfl⟩ := operatorService_injective (widen small) (widen bound) shared
    refine List.mem_map.mpr ⟨_, List.mem_filter.mpr ⟨List.mem_map_of_mem member, ?_⟩, rfl⟩
    exact decide_eq_true fell
  | drain ran =>
    obtain ⟨-, ⟨rfl, rfl⟩ | ⟨rfl, rfl⟩⟩ := drain_ok ran <;> exact absurd fell (lt_irrefl _)
  | administer => exact absurd fell (lt_irrefl _)

/-- A call takes tokens from an operator by slashing it or by letting it go. -/
theorem move_losses (known : Managed setup w frames) {call : SystemCall}
    (other : call.sender ≠ setup.self) (move : SystemMove setup w call w' pending)
    {a : Address} {serviceId : Nat} (small : serviceId < 2 ^ 32)
    (fell : tokenBalance w' a serviceId < tokenBalance w a serviceId) :
    (a, serviceId) ∈ tokenLosses w w' call ∨
      Waiting.unbonding a (serviceKey serviceId) ∈ pending.flatMap waitingOf := by
  have same : ∀ {u : UtilityState}, w'.utility.store = u →
      u.mapOperatorAndServiceIdOperatorBalances =
        w.utility.store.mapOperatorAndServiceIdOperatorBalances → False := by
    intro u after balances
    unfold tokenBalance at fell
    rw [after, balances] at fell
    exact lt_irrefl _ fell
  cases move with
  | createEth _ _ _ _ utility | deploy _ _ _ utility | administer _ _ _ utility =>
    exact (same (congrArg UtilityWorld.store utility) rfl).elim
  | createToken _ _ _ _ recorded _ _ utility | updateToken _ _ _ recorded _ _ utility =>
    obtain ⟨-, rfl⟩ := createWithToken_ok recorded
    exact (same (congrArg UtilityWorld.store utility) rfl).elim
  | updateEth _ _ _ reset _ utility =>
    obtain ⟨-, rfl⟩ := resetServiceToken_ok reset
    exact (same (congrArg UtilityWorld.store utility) rfl).elim
  | activate _ ran _ _ utility | activateToken _ ran _ utility =>
    obtain ⟨-, -, ⟨-, -, rfl⟩ | ⟨_, _, -, -, rfl⟩⟩ := activateRegistrationTokenDeposit_ok ran <;>
      exact (same (congrArg UtilityWorld.store utility) rfl).elim
  | register _ _ ran _ _ utility =>
    obtain ⟨-, -, ⟨-, -, rfl⟩ | ⟨_, -, wrong, -⟩⟩ := registerAgentsTokenDeposit_ok ran
    · exact (same (congrArg UtilityWorld.store utility) rfl).elim
    · cases wrong
  | registerToken _ _ ran _ utility =>
    obtain ⟨-, -, ⟨-, wrong, -⟩ | ⟨_, -, -, rfl⟩⟩ := registerAgentsTokenDeposit_ok ran
    · cases wrong
    · unfold tokenBalance at fell
      rw [utility] at fell
      simp only [Function.update_apply] at fell
      split at fell
      · next key =>
        rw [key] at fell
        omega
      · exact absurd fell (lt_irrefl _)
  | bindMultisig _ _ after =>
    subst after
    exact absurd fell (lt_irrefl _)
  | terminate _ ran _ _ utility =>
    obtain ⟨-, -, ⟨-, -, rfl⟩ | ⟨_, -, wrong, -⟩⟩ := terminateTokenRefund_ok ran
    · exact (same (congrArg UtilityWorld.store utility) rfl).elim
    · cases wrong
  | terminateToken _ ran _ utility =>
    obtain ⟨-, -, ⟨-, wrong, -⟩ | ⟨_, -, -, rfl⟩⟩ := terminateTokenRefund_ok ran
    · cases wrong
    · exact (same (congrArg UtilityWorld.store utility) rfl).elim
  | unbond _ ran _ _ _ utility =>
    obtain ⟨-, -, ⟨-, -, rfl⟩ | ⟨-, wrong, -⟩⟩ := unbondTokenRefund_ok ran
    · exact (same (congrArg UtilityWorld.store utility) rfl).elim
    · cases wrong
  | @unbondToken _ target operator _ _ _ ran _ utility =>
    obtain ⟨-, -, ⟨-, wrong, -⟩ | ⟨secured, -, rfl⟩⟩ := unbondTokenRefund_ok ran
    · cases wrong
    · unfold tokenBalance at fell
      rw [utility] at fell
      simp only [UtilityWorld.pushing, Outcome.state_suspended, Function.update_apply] at fell
      split at fell
      · next key =>
        have bound := known.secured secured
        obtain ⟨rfl, rfl⟩ := operatorService_injective (widen small) (widen bound) key
        exact Or.inr List.mem_cons_self
      · exact absurd fell (lt_irrefl _)
  | registry => exact absurd fell (lt_irrefl _)
  | utility direct ran =>
    subst direct
    exact Or.inl (utility_losses known other ran small fell)

/-- Nothing is taken when a suspended call goes on. -/
theorem return_losses {frame : SystemFrame} {answer : SystemAnswer}
    (move : SystemReturn setup w answer frame w' pending) (a : Address) (serviceId : Nat) :
    tokenBalance w' a serviceId = tokenBalance w a serviceId := by
  have resumed : ∀ {inner : UtilityFrame} {answer : TokenAnswer} {u : UtilityWorld},
      w.utility.resume inner answer = .ok u →
      u.store.mapOperatorAndServiceIdOperatorBalances =
        w.utility.store.mapOperatorAndServiceIdOperatorBalances := by
    intro inner answer u ran
    cases inner with
    | activate | register =>
      simp only [UtilityWorld.resume, bind_eq_ok, pure_eq_ok] at ran
      obtain ⟨s, ran, rfl⟩ := ran
      rw [pullReturn_ok ran]
      rfl
    | refund =>
      simp only [UtilityWorld.resume, bind_eq_ok, pure_eq_ok] at ran
      obtain ⟨s, ran, rfl⟩ := ran
      rw [pushReturn_ok ran]
  unfold tokenBalance
  cases move with
  | registry | bridger => rfl
  | utility ran => exact congrFun (resumed ran) _
  | create _ _ _ utility | deploy _ _ _ _ _ utility | refund _ _ utility => rw [utility]
  | activate _ returned | register _ returned | terminate _ returned | unbond _ returned =>
    exact congrFun (resumed returned) _

end Losses

section Registrations
variable {edition : Edition} {allowed : RegistryCall → Prop} {r r' : RegistryWorld}

/-- More instances of an operator are the work of a registration. -/
theorem grown_registers {t t' : ServiceSheet} {action : ServiceAction} (step : t.Step t' action)
    {a : Address} (grew : (t.operators a).length < (t'.operators a).length) :
    t'.service.state = .activeRegistration ∨ t'.service.state = .finishedRegistration := by
  cases step with
  | configure _ _ _ _ _ _ _ _ _ operators =>
    rw [operators] at grew
    omega
  | activate _ after | deploy _ _ after | slash _ _ after | terminate _ after =>
    rw [after] at grew
    exact absurd grew (lt_irrefl _)
  | register state service =>
    rw [service]
    simp only [state]
    split
    · exact Or.inr rfl
    · exact Or.inl rfl
  | @unbond operator _ _ _ after =>
    rw [after] at grew
    simp only [Function.update_apply] at grew
    split at grew
    · rw [List.length_nil] at grew
      omega
    · omega

theorem moves_registers {s s' : RegistryState} {label : Option (Nat × ServiceAction)}
    (moved : SheetsMove s s' label) {serviceId : Nat} (small : serviceId < 2 ^ 32) {a : Address}
    (grew : ((sheet s serviceId).operators a).length < ((sheet s' serviceId).operators a).length) :
    (s'.mapServices serviceId).state = .activeRegistration ∨
      (s'.mapServices serviceId).state = .finishedRegistration := by
  cases label with
  | none =>
    rw [moved serviceId small] at grew
    omega
  | some label =>
    obtain ⟨target, action⟩ := label
    obtain ⟨-, step, others⟩ := moved
    by_cases same : serviceId = target
    · subst same
      exact grown_registers step grew
    · rw [others serviceId small same] at grew
      omega

theorem part_registers {before after rest : List RegistryFrame}
    (base : RegistryBase r (before ++ rest)) (supply : r'.store.totalSupply < 2 ^ 32)
    (part : RegistryPart edition allowed r before r' after) {serviceId : Nat}
    (small : serviceId < 2 ^ 32) {a : Address}
    (grew : ((sheet r.store serviceId).operators a).length <
      ((sheet r'.store serviceId).operators a).length) :
    (r'.store.mapServices serviceId).state = .activeRegistration ∨
      (r'.store.mapServices serviceId).state = .finishedRegistration := by
  obtain ⟨shape, below⟩ := base
  cases part with
  | untouched => exact absurd grew (lt_irrefl _)
  | called permitted ran =>
    have kind := RegistryWorld.enter_transition shape.registered.guarded ran
    exact moves_registers (enter_moves shape below supply kind) small grew
  | resumed ran => exact moves_registers (resume_moves shape below ran) small grew

end Registrations

/-- The instances of a service are registered for Ids it lists. -/
structure NamedBook (t : ServiceSheet) : Prop where
  operators : OperatorBook t
  named : ∀ a, ∀ entry ∈ t.operators a, entry.agentId ∈ t.service.agentIds

theorem NamedBook.step {t t' : ServiceSheet} {action : ServiceAction} (before : NamedBook t)
    (listed : Listed action t) (step : t.Step t' action) : NamedBook t' := by
  refine ⟨before.operators.step step, ?_⟩
  intro a entry member
  cases step with
  | configure idle _ _ _ _ _ _ _ _ operators =>
    rw [operators, (before.operators.vacant idle a).1] at member
    cases member
  | activate _ after | deploy _ _ after | slash _ _ after | terminate _ after =>
    rw [after] at member ⊢
    exact before.named a entry member
  | @register operator entries _ service _ _ _ _ operators =>
    have ids : t'.service.agentIds = t.service.agentIds := by rw [service]
    rw [operators] at member
    rw [ids]
    by_cases same : a = operator
    · subst same
      rw [Function.update_self, List.mem_append] at member
      rcases member with old | new
      · exact before.named a entry old
      · obtain ⟨e, asked, rfl⟩ := List.mem_map.mp new
        exact listed e asked
    · rw [Function.update_of_ne same] at member
      exact before.named a entry member
  | @unbond operator _ _ _ after =>
    rw [after] at member ⊢
    by_cases same : a = operator
    · subst same
      simp only [Function.update_self] at member
      cases member
    · simp only [Function.update_of_ne same] at member
      exact before.named a entry member

theorem namedBook_deployment (deployer : Address) (serviceId : Nat) :
    NamedBook (sheet (RegistryWorld.deployment deployer).store serviceId) := by
  refine ⟨operatorBook_deployment deployer serviceId, ?_⟩
  intro a entry member
  cases member

/-- An `unbond` is under way at a deployed service. -/
def Doomed (w : SystemWorld) (frames : List SystemFrame) (serviceId : Nat) : Prop :=
  (w.registry.store.mapServices serviceId).state = .deployed ∧
    ∃ operator inner, SystemFrame.unbond operator serviceId inner ∈ frames

section Doom
variable {setup : Setup} {w w' : SystemWorld} {frames pending rest : List SystemFrame}
  {serviceId : Nat}

theorem sheet_state {s s' : RegistryState} (same : sheet s' serviceId = sheet s serviceId) :
    (s'.mapServices serviceId).state = (s.mapServices serviceId).state :=
  congrArg (fun t => t.service.state) same

/-- While the manager waits, nobody else makes the registry change a service's state. -/
theorem move_deployed (known : Managed setup w frames) {call : SystemCall}
    (other : call.sender ≠ setup.self) (locked : ¬ w.manager.locked ≤ 1)
    (move : SystemMove setup w call w' pending)
    (deployed : (w.registry.store.mapServices serviceId).state = .deployed) :
    (w'.registry.store.mapServices serviceId).state = .deployed := by
  cases move with
  | createEth _ manager | createToken _ manager | updateEth manager | updateToken manager
  | activate manager | activateToken manager | register manager | registerToken manager
  | deploy manager | terminate manager | terminateToken manager | unbond manager
  | unbondToken manager => exact absurd manager.free locked
  | bindMultisig _ free => exact absurd free locked
  | administer _ _ registry =>
    rw [registry]
    exact deployed
  | utility => exact deployed
  | @registry asked out direct ran =>
    subst direct
    have foreign : w.registry.store.manager ≠ asked.sender := by
      rw [known.shape.authority]
      exact fun same => other (Subtype.ext same.symm)
    have bound := known.small (by rw [deployed]; decide)
    rcases registry_byOther known.registry foreign ran with same | ⟨target, moved⟩
    · exact (sheet_state (same serviceId)).trans deployed
    · obtain ⟨-, step, others⟩ := moved
      by_cases own : serviceId = target
      · subst own
        cases step with
        | slash _ _ after => exact (congrArg (fun t => t.service.state) after).trans deployed
      · exact (sheet_state (others serviceId bound own)).trans deployed

theorem resume_deployed {frame : RegistryFrame} {answer : RegistryAnswer} {edition : Edition}
    {r r' : RegistryWorld} (ran : r.resume edition frame answer = .ok (.done r'))
    (deployed : (r.store.mapServices serviceId).state = .deployed) :
    (r'.store.mapServices serviceId).state = .deployed := by
  cases RegistryWorld.resume_return ran with
  | create | refund => exact deployed
  | deploy target =>
    by_cases same : serviceId = target
    · subst same
      simp only [ServiceRegistry.deployReturn, ServiceRegistry.unlock, Function.update_self]
    · simp only [ServiceRegistry.deployReturn, ServiceRegistry.unlock,
        Function.update_of_ne same]
      exact deployed

theorem return_deployed {frame : SystemFrame} {answer : SystemAnswer}
    (move : SystemReturn setup w answer frame w' pending) (quiet : managed frame = false)
    (deployed : (w.registry.store.mapServices serviceId).state = .deployed) :
    (w'.registry.store.mapServices serviceId).state = .deployed := by
  cases move with
  | registry ran => exact resume_deployed ran deployed
  | utility => exact deployed
  | _ => cases quiet

/-- The registry lets operators of terminated services go only. -/
theorem unbond_returns {operator : Address} {inner : UtilityFrame} {answer : SystemAnswer}
    (move : SystemReturn setup w answer (.unbond operator serviceId inner) w' pending) :
    (w.registry.store.mapServices serviceId).state = .terminatedBonded := by
  cases move with
  | unbond _ _ unbonded =>
    obtain ⟨-, -, ⟨-, -, -, state, -⟩, -⟩ := ServiceRegistry.unbond_ok unbonded
    exact state

/-- A function of the manager that waits at a deployed service to let an operator go waits
until it is undone. -/
theorem doomed_preserved (setup : Setup) (serviceId : Nat) :
    Preserved (systemMachine setup) (jointDiscipline setup) (Managed setup)
      fun w frames => Doomed w frames serviceId := by
  intro w frames w' frames' taken known before
  obtain ⟨deployed, operator, inner, member⟩ := before
  cases taken with
  | entered call allowed ran =>
    have locked : ¬ w.manager.locked ≤ 1 := by
      intro free
      cases known.shape.free free _ member
    refine ⟨move_deployed known allowed.1.1 locked (SystemWorld.enter_move ran) deployed,
      operator, inner, List.mem_append_right _ member⟩
  | @resumed frame rest out answer allowed ran =>
    have move := SystemWorld.resume_return ran
    rcases List.mem_cons.mp member with same | below
    · subst same
      rw [unbond_returns move] at deployed
      cases deployed
    · have quiet : managed frame = false := by
        by_contra own
        have alone := known.shape.alone (Bool.not_eq_false _ ▸ own)
        cases alone.2 _ below
      exact ⟨return_deployed move quiet deployed, operator, inner,
        List.mem_append_right _ below⟩

end Doom

end AutonolasRegistries.Guarantees
