import AutonolasRegistries.Guarantees.RegistryShape
import AutonolasRegistries.Model.ServiceSheet

/-!
# A registry call acts on one sheet

Below `2 ^ 32` services the packed keys do not collide, and every piece of
registry code is at most one action on one sheet. With this the invariants of a
single service become invariants of the registry.
-/
namespace AutonolasRegistries.Guarantees
open Library Source Model

section Sheets
variable {s s' : RegistryState} {serviceId : Nat}

theorem sheet_refunding (w : RegistryWorld) (s : RegistryState) (amount serviceId : Nat) :
    sheet (w.refunding s amount).state.store serviceId = sheet s serviceId := by
  rw [RegistryWorld.refunding_store]
  split <;> rfl

theorem sheet_eq {t : ServiceSheet} (service : s.mapServices serviceId = t.service)
    (params : ∀ x, s.mapServiceAndAgentIdAgentParams (serviceAgent serviceId x) = t.params x)
    (lists : ∀ x, s.mapServiceAndAgentIdAgentInstances (serviceAgent serviceId x) = t.lists x)
    (operators : ∀ a,
      s.mapOperatorAndServiceIdAgentInstances (operatorService a serviceId) = t.operators a)
    (balances : ∀ a,
      s.mapOperatorAndServiceIdOperatorBalances (operatorService a serviceId) = t.balances a) :
    sheet s serviceId = t := by
  unfold sheet
  rw [service, funext params, funext lists, funext operators, funext balances]

theorem widen (bound : serviceId < 2 ^ 32) : serviceId < 2 ^ 96 :=
  lt_trans bound (by decide)

end Sheets

section Actions
variable {edition : Edition}

theorem create_moves {sender serviceOwner : Address} {agentTotalSupply : Nat}
    {configHash : Bytes32} {agentIds : List Uint32} {agentParams : List AgentParams}
    {threshold : Uint32} {s s' : RegistryState} {serviceId : Nat} (registered : Registered s)
    (bound : s.totalSupply + 1 < 2 ^ 32)
    (ran : ServiceRegistry.create edition agentTotalSupply sender serviceOwner configHash
      agentIds agentParams threshold s = .ok (s', serviceId)) :
    SheetsMove s s' (some (s.totalSupply + 1, .configure (agentIds.zip agentParams))) := by
  obtain ⟨⟨-, -, -, -, lengths, sorted, filled, -⟩, rfl, rfl⟩ := ServiceRegistry.create_ok ran
  have fresh : s.mapServices (s.totalSupply + 1) = Service.empty :=
    (registered.unlisted _ (Or.inr (Nat.lt_succ_self _))).1
  have ids : (agentIds.zip agentParams).map Prod.fst = agentIds :=
    List.map_fst_zip (le_of_eq lengths)
  have unique : ((agentIds.zip agentParams).map Prod.fst).Nodup := by
    rw [ids]
    exact sorted.imp fun h => ne_of_lt h
  refine ⟨bound, ?_, ?_⟩
  · refine .configure (Or.inl ?_) unique ?_ ?_ ?_ ?_ ?_ ?_ rfl rfl rfl
    · simp only [sheet, fresh, Service.empty]
    · exact fun e member => (filled e.2 (List.of_mem_zip member).2).1
    · exact fun e member => ServiceRegistry.writeParams_listed bound unique _ member
    · simp only [sheet, Function.update_self]
    · simp only [sheet, Function.update_self, ids]
    · have slots := ServiceRegistry.writeParams_slots bound unique
        s.mapServiceAndAgentIdAgentParams
      simp only [sheet, Function.update_self, slotsOf, ← slots, ids]
    · simp only [sheet, Function.update_self, fresh]
  · intro other small different
    refine sheet_eq ?_ ?_ (fun _ => rfl) (fun _ => rfl) fun _ => rfl
    · simp only [Function.update_of_ne different, sheet]
    · exact fun x => ServiceRegistry.writeParams_other bound small different _ _ x

theorem update_moves {sender serviceOwner : Address} {agentTotalSupply : Nat}
    {configHash : Bytes32} {agentIds : List Uint32} {agentParams : List AgentParams}
    {threshold : Uint32} {s s' : RegistryState} {serviceId : Nat} (bound : serviceId < 2 ^ 32)
    (ran : ServiceRegistry.update edition agentTotalSupply sender serviceOwner configHash
      agentIds agentParams threshold serviceId s = .ok s') :
    SheetsMove s s' (some (serviceId,
      .configure ((agentIds.zip agentParams).filter fun e => e.2.slots ≠ 0))) := by
  obtain ⟨kept, rfl, ⟨-, -, -, state, lengths, sorted, -⟩, hashes, rfl⟩ :=
    ServiceRegistry.update_ok ran
  have unique := ServiceRegistry.kept_nodup lengths sorted fun e => decide (e.2.slots ≠ 0)
  refine ⟨bound, ?_, ?_⟩
  · refine .configure (Or.inr state) unique ?_ ?_ ?_ ?_ ?_ ?_ rfl rfl rfl
    · intro e member
      simpa only [decide_eq_true_eq] using (List.mem_filter.mp member).2
    · exact fun e member => ServiceRegistry.writeParams_listed bound unique _ member
    · simp only [sheet, Function.update_self, state]
    · simp only [sheet, Function.update_self]
    · have slots := ServiceRegistry.writeParams_slots bound unique
        (ServiceRegistry.deleteParams serviceId (agentIds.zip agentParams)
          s.mapServiceAndAgentIdAgentParams)
      simp only [sheet, Function.update_self, slotsOf, ← slots]
    · simp only [sheet, Function.update_self]
  · intro other small different
    refine sheet_eq ?_ ?_ (fun _ => rfl) (fun _ => rfl) fun _ => rfl
    · simp only [Function.update_of_ne different, sheet]
    · intro x
      refine (ServiceRegistry.writeParams_other bound small different _ _ x).trans ?_
      exact ServiceRegistry.deleteParams_other bound small different _ _ x

/-- Calls that only rewrite the record of the service. -/
theorem sheet_other_record {s s' : RegistryState} {serviceId other : Nat} {service : Service}
    (different : other ≠ serviceId)
    (after : s' = { s with mapServices := Function.update s.mapServices serviceId service }) :
    sheet s' other = sheet s other := by
  subst after
  refine sheet_eq ?_ (fun _ => rfl) (fun _ => rfl) (fun _ => rfl) fun _ => rfl
  simp only [Function.update_of_ne different, sheet]

theorem activateRegistration_moves {sender serviceOwner : Address} {value serviceId : Nat}
    {s s' : RegistryState} (bound : serviceId < 2 ^ 32)
    (ran : ServiceRegistry.activateRegistration sender value serviceOwner serviceId s = .ok s') :
    SheetsMove s s' (some (serviceId, .activate)) := by
  obtain ⟨⟨-, -, -, state, -⟩, rfl⟩ := ServiceRegistry.activateRegistration_ok ran
  refine ⟨bound, ?_, fun other small different => sheet_other_record different rfl⟩
  refine .activate state (sheet_eq ?_ (fun _ => rfl) (fun _ => rfl) (fun _ => rfl) fun _ => rfl)
  simp only [Function.update_self, sheet]

theorem registerAgents_moves {sender operator : Address} {value serviceId : Nat}
    {agentInstances : List Address} {agentIds : List Uint32} {s s' : RegistryState}
    (bound : serviceId < 2 ^ 32)
    (ran : ServiceRegistry.registerAgents sender value operator serviceId agentInstances
      agentIds s = .ok s') :
    SheetsMove s s' (some (serviceId, .register operator (agentInstances.zip agentIds))) := by
  obtain ⟨-, ⟨-, lengths, state, -, paid, -⟩, -, -⟩ := ServiceRegistry.registerAgents_ok ran
  obtain ⟨mid, run, rfl⟩ := ServiceRegistry.registerAgents_done ran
  have bond : value = bondOf (sheet s serviceId).params
      (instancesOf (agentInstances.zip agentIds)) := by
    have seconds : (agentInstances.zip agentIds).map Prod.snd = agentIds :=
      List.map_snd_zip (le_of_eq lengths.symm)
    rw [paid, bondOf, instancesOf, List.map_map]
    conv_lhs => rw [← seconds, List.map_map]
    rfl
  refine ⟨bound, ?_, ?_⟩
  · refine .register state ?_ ?_ rfl ?_ ?_ ?_ ?_
    · exact Function.update_self _ _ _
    · intro fits
      have counted := ServiceRegistry.registerLoop_count run fits
      rw [ServiceRegistry.registerLoop_services run, Function.update_self] at counted
      exact counted
    · intro x
      have lists := ServiceRegistry.registerLoop_lists bound bound run x
      rw [if_pos rfl] at lists
      exact lists
    · exact fun x fits => ServiceRegistry.registerLoop_room bound run fits
    · funext a
      simp only [sheet, update_operatorService (widen bound) (widen bound),
        Function.update_apply, true_and, instancesOf]
    · funext a
      rw [← bond]
      simp only [sheet, update_operatorService (widen bound) (widen bound),
        Function.update_apply, true_and]
  · intro other small different
    refine sheet_eq ?_ (fun _ => rfl) ?_ ?_ ?_
    · simp only [Function.update_of_ne different, sheet]
    · intro x
      have lists := ServiceRegistry.registerLoop_lists bound small run x
      rw [if_neg different, List.append_nil] at lists
      exact lists
    · intro a
      exact (update_operatorService (widen bound) (widen small) _ _ _ _).trans
        (if_neg fun h => different h.1)
    · intro a
      exact (update_operatorService (widen bound) (widen small) _ _ _ _).trans
        (if_neg fun h => different h.1)

theorem slash_moves {sender : Address} {agentInstances : List Address} {amounts : List Uint96}
    {serviceId : Nat} {s s' : RegistryState} (bound : serviceId < 2 ^ 32)
    (ran : ServiceRegistry.slash sender agentInstances amounts serviceId s = .ok s') :
    SheetsMove s s' (some (serviceId, .slash)) := by
  obtain ⟨⟨state, -⟩, run⟩ := ServiceRegistry.slash_ok ran
  obtain ⟨slashed, balances, rfl, -, below, others⟩ := ServiceRegistry.slashLoop_frame run
  refine ⟨bound, .slash state (fun a => below (operatorService a serviceId)) rfl, ?_⟩
  intro other small different
  refine sheet_eq rfl (fun _ => rfl) (fun _ => rfl) (fun _ => rfl) ?_
  intro a
  refine others _ fun operator same => different ?_
  exact (operatorService_injective (widen small) (widen bound) same).2

theorem terminate_moves {sender serviceOwner : Address} {serviceId refund : Nat}
    {s s' : RegistryState} (registered : Registered s) (bound : serviceId < 2 ^ 32)
    (ran : ServiceRegistry.terminate edition sender serviceOwner serviceId s =
      .ok (s', refund)) :
    SheetsMove s s' (some (serviceId, .terminate)) := by
  obtain ⟨⟨-, -, minted, -, idle, bonded⟩, -, components, agents, rfl⟩ :=
    ServiceRegistry.terminate_ok ran
  obtain ⟨positive, below⟩ := registered.of_owner minted
  have alive := registered.listed _ positive below
  refine ⟨bound, .terminate ?_ (sheet_eq ?_ (fun _ => rfl) ?_ (fun _ => rfl) fun _ => rfl), ?_⟩
  · simp only [sheet]
    cases state : (s.mapServices serviceId).state <;>
      simp_all [ServiceState.holdsDeposit]
  · exact Function.update_self _ _ _
  · intro x
    have cleared := ServiceRegistry.deleteInstances_read bound bound
      (s.mapServices serviceId).agentIds s.mapServiceAndAgentIdAgentInstances x
    simp only [true_and] at cleared
    exact cleared
  · intro other small different
    refine sheet_eq ?_ (fun _ => rfl) ?_ (fun _ => rfl) fun _ => rfl
    · simp only [Function.update_of_ne different, sheet]
    · intro x
      exact (ServiceRegistry.deleteInstances_read bound small _ _ _).trans
        (if_neg fun h => different h.1)

theorem unbond_moves {sender operator : Address} {serviceId refund : Nat}
    {s s' : RegistryState} (bound : serviceId < 2 ^ 32)
    (ran : ServiceRegistry.unbond sender operator serviceId s = .ok (s', refund)) :
    SheetsMove s s' (some (serviceId, .unbond operator)) := by
  obtain ⟨instances, rfl, ⟨-, -, -, state, bonded, enough⟩, rfl, rfl⟩ :=
    ServiceRegistry.unbond_ok ran
  refine ⟨bound, .unbond state bonded enough
    (sheet_eq ?_ (fun _ => rfl) (fun _ => rfl) ?_ ?_), ?_⟩
  · exact Function.update_self _ _ _
  · intro a
    simp only [sheet, update_operatorService (widen bound) (widen bound),
      Function.update_apply, true_and]
  · intro a
    simp only [sheet, update_operatorService (widen bound) (widen bound),
      Function.update_apply, true_and]
    rfl
  · intro other small different
    refine sheet_eq ?_ (fun _ => rfl) (fun _ => rfl) ?_ ?_
    · simp only [Function.update_of_ne different, sheet]
    · intro a
      exact (update_operatorService (widen bound) (widen small) _ _ _ _).trans
        (if_neg fun h => different h.1)
    · intro a
      exact (update_operatorService (widen bound) (widen small) _ _ _ _).trans
        (if_neg fun h => different h.1)

theorem deployReturn_moves {serviceId : Nat} {multisig : Address}
    {subComponents : List Uint32} {s : RegistryState} (bound : serviceId < 2 ^ 32)
    (state : (s.mapServices serviceId).state = .finishedRegistration) :
    SheetsMove s (ServiceRegistry.deployReturn edition serviceId multisig subComponents s)
      (some (serviceId, .deploy)) := by
  refine ⟨bound, .deploy multisig state
    (sheet_eq ?_ (fun _ => rfl) (fun _ => rfl) (fun _ => rfl) fun _ => rfl), ?_⟩
  · simp only [ServiceRegistry.deployReturn, ServiceRegistry.unlock, Function.update_self, sheet]
  · intro other small different
    refine sheet_eq ?_ (fun _ => rfl) (fun _ => rfl) (fun _ => rfl) fun _ => rfl
    simp only [ServiceRegistry.deployReturn, ServiceRegistry.unlock,
      Function.update_of_ne different, sheet]

end Actions

/-- Every call and every continuation is at most one action on one sheet. -/
theorem enter_moves {edition : Edition} {w : RegistryWorld} {call : RegistryCall}
    {out : Outcome RegistryWorld RegistryFrame} {frames : List RegistryFrame}
    (shape : RegistryShape w.store frames) (supply : w.store.totalSupply < 2 ^ 32)
    (after : out.state.store.totalSupply < 2 ^ 32)
    (taken : RegistryTransition edition w call out) :
    SheetsMove w.store out.state.store (callAction w.store call) := by
  have registered := shape.registered
  have small : ∀ {serviceId}, (w.store.mapServices serviceId).state ≠ .nonExistent →
      serviceId < 2 ^ 32 :=
    fun state => lt_of_le_of_lt (registered.of_state state).2 supply
  cases taken with
  | create ran =>
    obtain ⟨-, rfl, rfl⟩ := ServiceRegistry.create_ok ran
    exact create_moves registered after ran
  | update ran =>
    obtain ⟨-, -, ⟨-, -, -, state, -⟩, -⟩ := ServiceRegistry.update_ok ran
    exact update_moves (small (by rw [state]; decide)) ran
  | activateRegistration ran =>
    obtain ⟨⟨-, -, -, state, -⟩, -⟩ := ServiceRegistry.activateRegistration_ok ran
    exact activateRegistration_moves (small (by rw [state]; decide)) ran
  | registerAgents ran =>
    obtain ⟨-, ⟨-, -, state, -⟩, -⟩ := ServiceRegistry.registerAgents_ok ran
    exact registerAgents_moves (small (by rw [state]; decide)) ran
  | deploy ran =>
    obtain ⟨-, -, rfl⟩ := ServiceRegistry.deploy_ok ran
    exact fun _ _ => rfl
  | slash ran =>
    obtain ⟨⟨state, -⟩, -⟩ := ServiceRegistry.slash_ok ran
    exact slash_moves (small (by rw [state]; decide)) ran
  | terminate ran =>
    obtain ⟨⟨-, -, minted, -⟩, -⟩ := ServiceRegistry.terminate_ok ran
    have here := registered.of_owner minted
    exact terminate_moves registered (lt_of_le_of_lt here.2 supply) ran
  | unbond ran =>
    obtain ⟨-, -, ⟨-, -, -, state, -⟩, -⟩ := ServiceRegistry.unbond_ok ran
    obtain ⟨bound, step, others⟩ := unbond_moves (small (by rw [state]; decide)) ran
    simp only [callAction, SheetsMove, sheet_refunding]
    exact ⟨bound, step, others⟩
  | drain ran =>
    obtain ⟨-, -, rfl⟩ := ServiceRegistry.drain_ok ran
    intro serviceId _
    rw [sheet_refunding]
    rfl
  | @administer call _ _ _ _ _ kind _ _ =>
    have none : callAction w.store call = none := by
      cases call <;> first | rfl | cases kind
    rw [none]
    exact fun _ _ => rfl

theorem resume_moves {edition : Edition} {w : RegistryWorld} {frame : RegistryFrame}
    {answer : RegistryAnswer} {out : Outcome RegistryWorld RegistryFrame}
    {frames : List RegistryFrame} (shape : RegistryShape w.store (frame :: frames))
    (supply : w.store.totalSupply < 2 ^ 32) (ran : w.resume edition frame answer = .ok out) :
    SheetsMove w.store out.state.store (frameAction frame) := by
  cases RegistryWorld.resume_return ran with
  | create | refund => exact fun _ _ => rfl
  | deploy serviceId =>
    cases shape.lock with
    | deploying _ state =>
      have here := shape.registered.of_state (by rw [state]; decide)
      exact deployReturn_moves (lt_of_le_of_lt here.2 supply) state

/-- At most `2 ^ 32 - 1` services are created, as the source assumes of its keys. -/
def Bounded : RegistryCall → RegistryWorld → Prop
  | .create .., w => w.store.totalSupply + 1 < 2 ^ 32
  | _, _ => True

instance (call : RegistryCall) (w : RegistryWorld) : Decidable (Bounded call w) :=
  match call with
  | .create .. => inferInstanceAs (Decidable (w.store.totalSupply + 1 < 2 ^ 32))
  | .update .. | .activateRegistration .. | .registerAgents .. | .deploy .. | .slash ..
  | .terminate .. | .unbond .. | .drain .. | .changeOwner .. | .changeManager ..
  | .changeDrainer .. | .changeMultisigPermission .. | .approve .. | .setApprovalForAll ..
  | .transferFrom .. => .isTrue trivial

/-- The registry's shape and the bound on its service Ids. -/
def RegistryBase (w : RegistryWorld) (frames : List RegistryFrame) : Prop :=
  RegistryShape w.store frames ∧ w.store.totalSupply < 2 ^ 32

theorem enter_supply {edition : Edition} {w : RegistryWorld} {call : RegistryCall}
    {out : Outcome RegistryWorld RegistryFrame} (taken : RegistryTransition edition w call out)
    (bounded : Bounded call w) (supply : w.store.totalSupply < 2 ^ 32) :
    out.state.store.totalSupply < 2 ^ 32 := by
  rw [taken.supply]
  cases call with
  | create => exact bounded
  | _ => exact supply

theorem resume_supply {edition : Edition} {w : RegistryWorld} {frame : RegistryFrame}
    {answer : RegistryAnswer} {out : Outcome RegistryWorld RegistryFrame}
    (ran : w.resume edition frame answer = .ok out) :
    out.state.store.totalSupply = w.store.totalSupply := by
  cases RegistryWorld.resume_return ran <;> rfl

section Runs
variable {edition : Edition}
  {D : Discipline RegistryWorld RegistryCall RegistryFrame RegistryAnswer}

theorem registryBase_preserved (bounded : ∀ call w, D.call call w → Bounded call w) :
    Preserved (registryMachine edition) D always RegistryBase := by
  intro w frames w' frames' taken _ before
  obtain ⟨shape, supply⟩ := before
  cases taken with
  | entered call allowed ran =>
    have kind := RegistryWorld.enter_transition shape.registered.guarded ran
    exact ⟨shape.enter kind, enter_supply kind (bounded call w allowed) supply⟩
  | resumed answer allowed ran =>
    exact ⟨shape.resume ran, resume_supply ran ▸ supply⟩

theorem registryBase_deployment (deployer : Address) :
    RegistryBase (RegistryWorld.deployment deployer) [] :=
  ⟨⟨Registered.deployment deployer, .idle rfl⟩, Nat.two_pow_pos 32⟩

/-- Rule for invariants of a single service: what every action of the discipline
preserves on a sheet, every run preserves on all sheets. The sheets may be known to
satisfy `C` already, and that a call went through may be used to show that its action
is allowed. -/
theorem sheets_preserved_given {Q : RegistryWorld → List RegistryFrame → Prop}
    {C P : ServiceSheet → Prop} (allowed : ServiceAction → ServiceSheet → Prop)
    (base : ∀ w frames, Q w frames → RegistryBase w frames)
    (context : ∀ w frames, Q w frames → ∀ serviceId < 2 ^ 32, C (sheet w.store serviceId))
    (bounded : ∀ call w, D.call call w → Bounded call w)
    (follows : ∀ call w out frames target action, Q w frames → D.call call w →
      RegistryTransition edition w call out →
      callAction w.store call = some (target, action) → allowed action (sheet w.store target))
    (deploys : ∀ t, allowed .deploy t)
    (keep : ∀ t t' action, C t → P t → allowed action t → t.Step t' action → P t') :
    Preserved (registryMachine edition) D Q
      fun w _ => ∀ serviceId < 2 ^ 32, P (sheet w.store serviceId) := by
  intro w frames w' frames' taken known before
  obtain ⟨shape, supply⟩ := base w frames known
  have move : ∀ {s' : RegistryState} {label : Option (Nat × ServiceAction)},
      SheetsMove w.store s' label →
      (∀ target action, label = some (target, action) → allowed action (sheet w.store target)) →
      ∀ serviceId < 2 ^ 32, P (sheet s' serviceId) := by
    intro s' label moved fits serviceId small
    cases label with
    | none =>
      rw [moved serviceId small]
      exact before serviceId small
    | some label =>
      obtain ⟨target, action⟩ := label
      obtain ⟨bound, step, others⟩ := moved
      by_cases same : serviceId = target
      · subst same
        exact keep _ _ _ (context w frames known serviceId small) (before serviceId small)
          (fits _ _ rfl) step
      · rw [others serviceId small same]
        exact before serviceId small
  cases taken with
  | entered call permitted ran =>
    have kind := RegistryWorld.enter_transition shape.registered.guarded ran
    have after := enter_supply kind (bounded call w permitted) supply
    exact move (enter_moves shape supply after kind) fun target action label =>
      follows call w _ frames target action known permitted kind label
  | @resumed frame _ _ answer permitted ran =>
    refine move (resume_moves shape supply ran) ?_
    intro target action label
    cases frame with
    | create => cases label
    | refund => cases label
    | deploy serviceId =>
      cases label
      exact deploys _

theorem sheets_preserved {P : ServiceSheet → Prop}
    (allowed : ServiceAction → ServiceSheet → Prop)
    (bounded : ∀ call w, D.call call w → Bounded call w)
    (follows : ∀ call w target action, D.call call w →
      callAction w.store call = some (target, action) → allowed action (sheet w.store target))
    (deploys : ∀ t, allowed .deploy t)
    (keep : ∀ t t' action, P t → allowed action t → t.Step t' action → P t') :
    Preserved (registryMachine edition) D RegistryBase
      fun w _ => ∀ serviceId < 2 ^ 32, P (sheet w.store serviceId) :=
  sheets_preserved_given (C := fun _ => True) allowed (fun _ _ known => known)
    (fun _ _ _ _ _ => trivial) bounded
    (fun call w _ _ target action _ permitted _ label =>
      follows call w target action permitted label)
    deploys fun t t' action _ => keep t t' action

end Runs

section Scripts

theorem registryOwner_nonzero : (1 : Address) ≠ 0 := by decide

theorem registryManager_nonzero : (2 : Address) ≠ 0 := by decide

/-- Accounts of the scripted runs: 1 deploys, 2 is the manager, 3 owns the
service, 4 operates, 5 and 6 are instances. -/
def registryOwner : Caller := ⟨1, registryOwner_nonzero⟩

def registryManager : Caller := ⟨2, registryManager_nonzero⟩

/-- Service 1 with two slots for agent Id 1. -/
def twoSlotsScript : List (Move RegistryCall RegistryAnswer) :=
  [.call (.changeManager registryOwner 2),
    .call (.create registryManager 3 9 1 [1] [⟨2, 1⟩] 2),
    .answer ⟨0, [], true⟩]

/-- Two instances for agent Id 1, after the deposit of 1. -/
def fillScript : List (Move RegistryCall RegistryAnswer) :=
  [.call (.activateRegistration registryManager 1 3 1),
    .call (.registerAgents registryManager 2 4 1 [5, 6] [1, 1])]

end Scripts

end AutonolasRegistries.Guarantees
