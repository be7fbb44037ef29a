import AutonolasRegistries.Guarantees.Configuration
import AutonolasRegistries.Guarantees.Enrolment

/-!
# The life cycle of a service

The counters of a service, the lists of its operators and its state are written by
separate statements. Whatever Ids operators register against, the state of a service
says how its counters stand, and every call moves it along an edge of the state
machine in `docs/FSM.md:50-124`.
-/
namespace AutonolasRegistries.Guarantees
open Library Source Model

/-- How the state of a service and its counters go together. -/
structure LifeBook (t : ServiceSheet) : Prop where
  active : t.service.state = .activeRegistration →
    t.service.numAgentInstances ≠ t.service.maxNumAgentInstances
  full : t.service.state = .finishedRegistration ∨ t.service.state = .deployed →
    t.service.numAgentInstances = t.service.maxNumAgentInstances
  bonded : t.service.state = .terminatedBonded → 0 < t.service.numAgentInstances

/-- The books of one service that no condition on the Ids is needed for. -/
structure ServiceBook (t : ServiceSheet) : Prop where
  operators : OperatorBook t
  config : ConfigBook t

theorem LifeBook.step {t t' : ServiceSheet} {action : ServiceAction} (book : ServiceBook t)
    (before : LifeBook t) (step : t.Step t' action) : LifeBook t' := by
  cases step with
  | configure _ _ _ _ state =>
    refine ⟨?_, ?_, ?_⟩ <;> rw [state] <;> simp
  | activate state after =>
    subst after
    have none := book.operators.idle (Or.inr state)
    have some := book.config.positive (by rw [state]; decide)
    refine ⟨fun _ => ?_, ?_, ?_⟩
    · simp only
      omega
    · simp
    · simp
  | register state service =>
    refine ⟨?_, ?_, ?_⟩ <;> rw [service] <;> simp only [state] <;> split <;> simp_all
  | deploy multisig state after =>
    subst after
    exact ⟨by simp, fun _ => before.full (Or.inl state), by simp⟩
  | slash state below after =>
    subst after
    exact ⟨before.active, before.full, before.bonded⟩
  | terminate held after =>
    subst after
    refine ⟨?_, ?_, ?_⟩ <;> simp only <;> split <;> simp_all
  | unbond state bonded enough after =>
    subst after
    refine ⟨?_, ?_, ?_⟩ <;> simp only [state] <;> split <;> simp_all
    omega

/-- The edges of `docs/FSM.md`, each with the function that takes it. -/
inductive FsmEdge : ServiceAction → ServiceState → ServiceState → Prop where
  | create (entries : List (Uint32 × AgentParams)) :
      FsmEdge (.configure entries) .nonExistent .preRegistration
  | activateRegistration : FsmEdge .activate .preRegistration .activeRegistration
  | registerAgents (operator : Address) (entries : List (Address × Uint32)) :
      FsmEdge (.register operator entries) .activeRegistration .finishedRegistration
  | terminateActive : FsmEdge .terminate .activeRegistration .terminatedBonded
  | terminateEmpty : FsmEdge .terminate .activeRegistration .preRegistration
  | deploy : FsmEdge .deploy .finishedRegistration .deployed
  | terminateFinished : FsmEdge .terminate .finishedRegistration .terminatedBonded
  | terminateDeployed : FsmEdge .terminate .deployed .terminatedBonded
  | unbond (operator : Address) : FsmEdge (.unbond operator) .terminatedBonded .preRegistration

theorem fsmEdge_of_step {t t' : ServiceSheet} {action : ServiceAction} (book : ServiceBook t)
    (life : LifeBook t) (step : t.Step t' action) :
    t'.service.state = t.service.state ∨ FsmEdge action t.service.state t'.service.state := by
  cases step with
  | configure idle _ _ _ state =>
    rcases idle with idle | idle <;> rw [idle, state]
    · exact Or.inr (.create _)
    · exact Or.inl rfl
  | activate state after =>
    subst after
    rw [state]
    exact Or.inr .activateRegistration
  | register state service =>
    rw [service]
    simp only [state]
    split
    · exact Or.inr (.registerAgents _ _)
    · exact Or.inl rfl
  | deploy multisig state after =>
    subst after
    rw [state]
    exact Or.inr .deploy
  | slash state below after =>
    subst after
    exact Or.inl rfl
  | terminate held after =>
    subst after
    -- A full service has at least one instance, so only an active one can be empty.
    have some : t.service.state = .finishedRegistration ∨ t.service.state = .deployed →
        0 < t.service.numAgentInstances := by
      intro full
      have positive := book.config.positive (by rcases full with h | h <;> rw [h] <;> decide)
      have count := life.full full
      omega
    refine Or.inr ?_
    simp only
    cases state : t.service.state with
    | nonExistent | preRegistration | terminatedBonded =>
      rw [state] at held
      cases held
    | activeRegistration =>
      split
      · exact .terminateActive
      · exact .terminateEmpty
    | finishedRegistration =>
      rw [if_pos (some (Or.inl state))]
      exact .terminateFinished
    | deployed =>
      rw [if_pos (some (Or.inr state))]
      exact .terminateDeployed
  | unbond state bonded enough after =>
    subst after
    simp only [state]
    split
    · exact Or.inr (.unbond _)
    · exact Or.inl rfl

section Runs
variable {edition : Edition}
  {D : Discipline RegistryWorld RegistryCall RegistryFrame RegistryAnswer}

/-- The registry with the books of all its services. -/
structure RegistryBooks (w : RegistryWorld) (frames : List RegistryFrame) : Prop where
  base : RegistryBase w frames
  books : ∀ serviceId < 2 ^ 32, ServiceBook (sheet w.store serviceId)
  lives : ∀ serviceId < 2 ^ 32, LifeBook (sheet w.store serviceId)

theorem registryBooks_preserved (bounded : ∀ call w, D.call call w → Bounded call w) :
    Preserved (registryMachine edition) D always RegistryBooks := by
  have lives : Preserved (registryMachine edition) D
      (fun w frames => RegistryBase w frames ∧
        ∀ serviceId < 2 ^ 32, ServiceBook (sheet w.store serviceId))
      fun w _ => ∀ serviceId < 2 ^ 32, LifeBook (sheet w.store serviceId) :=
    sheets_preserved_given (fun _ _ => True) (fun _ _ known => known.1) (fun _ _ known => known.2)
      bounded (fun _ _ _ _ _ _ _ _ _ _ => trivial) (fun _ => trivial)
      fun _ _ _ book before _ step => before.step book step
  intro w frames w' frames' taken _ before
  refine ⟨registryBase_preserved bounded _ _ _ _ taken trivial before.base, ?_,
    lives _ _ _ _ taken ⟨before.base, before.books⟩ before.lives⟩
  intro serviceId small
  refine ⟨?_, ?_⟩
  · exact operatorBook_preserved bounded _ _ _ _ taken before.base
      (fun id small => (before.books id small).operators) serviceId small
  · exact configBook_preserved bounded _ _ _ _ taken before.base
      (fun id small => (before.books id small).config) serviceId small

theorem registryBooks_deployment (deployer : Address) :
    RegistryBooks (RegistryWorld.deployment deployer) [] := by
  refine ⟨registryBase_deployment deployer, fun serviceId _ => ?_, fun serviceId _ => ?_⟩
  · exact ⟨operatorBook_deployment deployer serviceId, configBook_deployment deployer serviceId⟩
  · refine ⟨?_, ?_, ?_⟩
    · intro state
      cases state
    · rintro (state | state) <;> cases state
    · intro state
      cases state

/-- What the states of the services do when one of their sheets takes a step. -/
theorem fsmEdge_of_moves {w w' : RegistryWorld} {frames frames' : List RegistryFrame}
    {label : Option (Nat × ServiceAction)} (before : RegistryBooks w frames)
    (after : RegistryBase w' frames') (moved : SheetsMove w.store w'.store label)
    (serviceId : Nat) :
    (w'.store.mapServices serviceId).state = (w.store.mapServices serviceId).state ∨
      ∃ action, label = some (serviceId, action) ∧
        FsmEdge action (w.store.mapServices serviceId).state
          (w'.store.mapServices serviceId).state := by
  by_cases small : serviceId < 2 ^ 32
  · have kept : sheet w'.store serviceId = sheet w.store serviceId →
        (w'.store.mapServices serviceId).state = (w.store.mapServices serviceId).state :=
      fun same => congrArg (fun t : ServiceSheet => t.service.state) same
    cases label with
    | none => exact Or.inl (kept (moved serviceId small))
    | some label =>
      obtain ⟨target, action⟩ := label
      obtain ⟨-, step, others⟩ := moved
      by_cases same : serviceId = target
      · subst same
        refine (fsmEdge_of_step (before.books serviceId small) (before.lives serviceId small)
          step).imp_right fun edge => ⟨action, rfl, edge⟩
      · exact Or.inl (kept (others serviceId small same))
  · have outside : ∀ {w : RegistryWorld} {frames}, RegistryBase w frames →
        w.store.mapServices serviceId = Service.empty := fun base =>
      (base.1.registered.unlisted serviceId (Or.inr (lt_of_lt_of_le base.2 (not_lt.mp small)))).1
    exact Or.inl (by rw [outside after, outside before.base])

end Runs

/-- The counters of a service in its state, as `docs/FSM.md` describes them. -/
structure InState (s : RegistryState) (serviceId : Nat) : Prop where
  counted : (s.mapServices serviceId).numAgentInstances = ∑ᶠ operator,
    (s.mapOperatorAndServiceIdAgentInstances (operatorService operator serviceId)).length
  preRegistration : (s.mapServices serviceId).state = .preRegistration →
    (s.mapServices serviceId).numAgentInstances = 0 ∧
      ∀ operator,
        s.mapOperatorAndServiceIdOperatorBalances (operatorService operator serviceId) = 0
  activeRegistration : (s.mapServices serviceId).state = .activeRegistration →
    (s.mapServices serviceId).numAgentInstances ≠ (s.mapServices serviceId).maxNumAgentInstances
  full : (s.mapServices serviceId).state = .finishedRegistration ∨
      (s.mapServices serviceId).state = .deployed →
    (s.mapServices serviceId).numAgentInstances =
        (s.mapServices serviceId).maxNumAgentInstances ∧
      1 ≤ (s.mapServices serviceId).maxNumAgentInstances
  terminatedBonded : (s.mapServices serviceId).state = .terminatedBonded →
    0 < (s.mapServices serviceId).numAgentInstances

/-- The instances an operator has in a service. -/
def instancesIn (s : RegistryState) (operator : Address) (serviceId : Nat) : List Address :=
  (s.mapOperatorAndServiceIdAgentInstances (operatorService operator serviceId)).map
    AgentInstance.inst

/-- The engagement map and the lists by operator say the same. -/
structure EngagedOnce (s : RegistryState) (a : Address) : Prop where
  engaged : ∀ operator, operator ≠ 0 → (s.mapAgentInstanceOperators a = operator ↔
    ∃ serviceId ≤ s.totalSupply, a ∈ instancesIn s operator serviceId)
  once : ∀ operator, ∀ serviceId ≤ s.totalSupply, a ∈ instancesIn s operator serviceId →
    (instancesIn s operator serviceId).count a = 1 ∧
      ∀ operator', ∀ serviceId' ≤ s.totalSupply, a ∈ instancesIn s operator' serviceId' →
        operator' = operator ∧ serviceId' = serviceId

theorem RegistryBooks.inState {w : RegistryWorld} {frames : List RegistryFrame}
    (books : RegistryBooks w frames) {serviceId : Nat} (small : serviceId < 2 ^ 32) :
    InState w.store serviceId := by
  obtain ⟨operators, config⟩ := books.books serviceId small
  have life := books.lives serviceId small
  refine ⟨operators.counted, ?_, life.active, ?_, life.bonded⟩
  · intro state
    exact ⟨operators.idle (Or.inr state), fun a => (operators.vacant (Or.inr state) a).2⟩
  · intro full
    refine ⟨life.full full, config.positive ?_⟩
    rcases full with state | state <;> simp [sheet, state]

/-- Nobody is registered outside the services that exist. -/
theorem RegistryBooks.listed {w : RegistryWorld} {frames : List RegistryFrame}
    (books : RegistryBooks w frames) {operator : Address} {serviceId : Nat}
    (small : serviceId < 2 ^ 32) {a : Address} (member : a ∈ instancesIn w.store operator serviceId) :
    serviceId ≤ w.store.totalSupply := by
  by_contra above
  have empty := (books.base.1.registered.unlisted serviceId (Or.inr (not_le.mp above))).1
  have idle : (sheet w.store serviceId).service.state = .nonExistent := by
    simp only [sheet, empty]
    rfl
  have none := ((books.books serviceId small).operators.vacant (Or.inl idle) operator).1
  simp only [sheet] at none
  rw [instancesIn, none] at member
  cases member

theorem engagedOnce {w : RegistryWorld} {frames : List RegistryFrame}
    (books : RegistryBooks w frames) (roster : Enrolled w.store) (a : Address) :
    EngagedOnce w.store a := by
  have small : ∀ {serviceId}, serviceId ≤ w.store.totalSupply → serviceId < 2 ^ 32 :=
    fun below => lt_of_le_of_lt below books.base.2
  refine ⟨fun operator someone => ⟨?_, ?_⟩, ?_⟩
  · rintro rfl
    obtain ⟨⟨operator, id⟩, member⟩ := roster.found a someone
    have named : w.store.mapAgentInstanceOperators a = operator := roster.names _ a member
    rw [named]
    exact ⟨id.val, books.listed id.isLt member, member⟩
  · rintro ⟨serviceId, below, member⟩
    exact roster.names (operator, ⟨serviceId, small below⟩) a member
  · intro operator serviceId below member
    refine ⟨?_, ?_⟩
    · exact List.count_eq_one_of_mem
        (roster.unique (operator, ⟨serviceId, small below⟩)) member
    · intro operator' serviceId' below' member'
      have same := roster.apart (operator', ⟨serviceId', small below'⟩)
        (operator, ⟨serviceId, small below⟩) a member' member
      obtain ⟨sameOperator, sameService⟩ := Prod.mk.inj same
      exact ⟨sameOperator, congrArg Fin.val sameService⟩

/-- In every run of a manager that passes no zero operator, the counters of every
service fit its state, every account is engaged as the lists say, and every piece of
code that runs next moves the services along the edges of the state machine. -/
theorem registry_life_cycle (edition : Edition) (deployer : Address)
    {c : Config RegistryWorld RegistryFrame}
    (run : Reachable (registryMachine edition) managedDiscipline
      (RegistryWorld.deployment deployer) c) :
    (∀ serviceId ≤ c.state.store.totalSupply, InState c.state.store serviceId) ∧
    (∀ a, EngagedOnce c.state.store a) ∧
    (∀ call out, managedDiscipline.call call c.state → c.state.enter edition call = .ok out →
      ∀ serviceId,
        (out.state.store.mapServices serviceId).state =
            (c.state.store.mapServices serviceId).state ∨
          ∃ action, callAction c.state.store call = some (serviceId, action) ∧
            FsmEdge action (c.state.store.mapServices serviceId).state
              (out.state.store.mapServices serviceId).state) ∧
    ∀ frame frames answer out, c.frames = frame :: frames →
      c.state.resume edition frame answer = .ok out → ∀ serviceId,
        (out.state.store.mapServices serviceId).state =
            (c.state.store.mapServices serviceId).state ∨
          ∃ action, frameAction frame = some (serviceId, action) ∧
            FsmEdge action (c.state.store.mapServices serviceId).state
              (out.state.store.mapServices serviceId).state := by
  have bounded : ∀ call w, managedDiscipline.call call w → Bounded call w :=
    fun _ _ allowed => allowed.1
  have kept : Preserved (registryMachine edition) managedDiscipline always RegistryBooks :=
    registryBooks_preserved bounded
  have base : Preserved (registryMachine edition) managedDiscipline always RegistryBase :=
    registryBase_preserved bounded
  have books := run.invariant kept (registryBooks_deployment deployer)
  have roster := (run.invariant (base.join (enrolled_preserved fun _ _ allowed => allowed.2))
    ⟨registryBase_deployment deployer, enrolled_deployment deployer⟩).2
  obtain ⟨shape, supply⟩ := books.base
  refine ⟨?_, fun a => engagedOnce books roster a, ?_, ?_⟩
  · exact fun serviceId below => books.inState (lt_of_le_of_lt below supply)
  · intro call out allowed ran serviceId
    have after := base _ _ _ _ (.entered call allowed ran) trivial ⟨shape, supply⟩
    have kind := RegistryWorld.enter_transition shape.registered.guarded ran
    exact fsmEdge_of_moves books after (enter_moves shape supply after.2 kind) serviceId
  · intro frame frames answer out top ran serviceId
    rw [top] at shape books
    have after := base _ _ _ _ (.resumed answer trivial ran) trivial ⟨shape, supply⟩
    exact fsmEdge_of_moves books after (resume_moves shape supply ran) serviceId

/-- A complete service and the termination it can take. -/
theorem registry_life_cycle_filled :
    ∃ c, Reachable (registryMachine .l2) managedDiscipline (RegistryWorld.deployment 1) c ∧
      (c.state.store.mapServices 1).state = .finishedRegistration ∧
      InState c.state.store 1 ∧ EngagedOnce c.state.store 5 := by
  obtain ⟨c, run, seen⟩ := Machine.play_observed managedDiscipline (registryMachine .l2)
    (RegistryWorld.deployment 1) (twoSlotsScript ++ fillScript)
    (fun c => (c.state.store.totalSupply, (c.state.store.mapServices 1).state))
    (1, .finishedRegistration) (by decide +kernel)
  obtain ⟨supply, state⟩ := Prod.mk.inj seen
  obtain ⟨books, engaged, -⟩ := registry_life_cycle .l2 1 run
  exact ⟨c, run, state, books 1 (le_of_eq supply.symm), engaged 5⟩

end AutonolasRegistries.Guarantees
