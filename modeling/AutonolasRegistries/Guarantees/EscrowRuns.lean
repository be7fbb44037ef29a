import AutonolasRegistries.Guarantees.EscrowLedger
import AutonolasRegistries.Guarantees.ManagerShape

/-!
# The manager keeps the escrow

Every piece of code of the manager, the registry and the token utility is a step of the
escrow. The manager is the manager of both contracts, so from outside they can only be
slashed, drained and administered, and its lock keeps any second function of its own out
while one of them waits for a token.
-/
namespace AutonolasRegistries.Guarantees
open Library Source Model ServiceRegistryTokenUtility

/-- The Id of a service as a key. -/
def serviceKey (serviceId : Nat) : Uint32 := Fin.ofNat (2 ^ 32) serviceId

theorem serviceKey_val {serviceId : Nat} (bound : serviceId < 2 ^ 32) :
    (serviceKey serviceId).val = serviceId := Nat.mod_eq_of_lt bound

/-- What a suspended call of the manager waits for. -/
def waitingOf : SystemFrame → List Waiting
  | .activate _ _ serviceId (.activate _ pull) =>
    [.activating (serviceKey serviceId) pull.token pull.amount]
  | .register _ _ operator serviceId _ agentIds (.register _ pull) =>
    [.registering operator (serviceKey serviceId) pull.token pull.amount agentIds]
  | .terminate _ serviceId (.refund push) =>
    [.terminating (serviceKey serviceId) push.token push.amount]
  | .unbond operator serviceId (.refund _) => [.unbonding operator (serviceKey serviceId)]
  | _ => []

/-- The suspended call of the token utility is the one the function of the manager made. -/
def Fitting : SystemFrame → Prop
  | .utility inner => ∃ push, inner = .refund push
  | .activate _ _ serviceId inner => serviceId < 2 ^ 32 ∧ ∃ pull, inner = .activate serviceId pull
  | .register _ _ _ serviceId _ _ inner =>
    serviceId < 2 ^ 32 ∧ ∃ pull, inner = .register serviceId pull
  | .terminate _ serviceId inner | .unbond _ serviceId inner =>
    serviceId < 2 ^ 32 ∧ ∃ push, inner = .refund push
  | .registry _ | .create .. | .deploy .. | .refund .. | .bridger _ => True

def escrow (w : SystemWorld) (frames : List SystemFrame) : Escrow where
  folios id := ⟨sheet w.registry.store id.val, tokenSheet w.utility.store id.val⟩
  slashed := w.utility.store.mapSlashedFunds
  pulled := w.utility.pulled
  sent := w.utility.sent
  waiting := frames.flatMap waitingOf

/-- The manager is the manager of both contracts, and a token is recorded for services that
exist. -/
structure Managed (setup : Setup) (w : SystemWorld) (frames : List SystemFrame) : Prop where
  shape : ManagerShape setup w frames
  registry : RegistryBase w.registry (frames.flatMap registryFrame)
  authority : w.utility.store.manager = setup.self
  recorded : ∀ serviceId, (w.utility.store.mapServiceIdTokenDeposit serviceId).token ≠ 0 →
    0 < serviceId ∧ serviceId ≤ w.registry.store.totalSupply
  fitting : ∀ frame ∈ frames, Fitting frame

theorem waitingOf_unmanaged {frame : SystemFrame} (other : managed frame = false) :
    waitingOf frame = [] := by
  cases frame <;> first | rfl | cases other

theorem waiting_nil {frames : List SystemFrame} (none : ∀ frame ∈ frames, managed frame = false) :
    frames.flatMap waitingOf = [] :=
  List.flatMap_eq_nil_iff.mpr fun frame member => waitingOf_unmanaged (none frame member)

section Abstraction
variable {setup : Setup} {w w' : SystemWorld} {frames frames' : List SystemFrame}

theorem Managed.free (known : Managed setup w frames) (free : w.manager.locked ≤ 1) :
    (escrow w frames).waiting = [] :=
  waiting_nil (known.shape.free free)

theorem Managed.small (known : Managed setup w frames) {serviceId : Nat}
    (alive : (w.registry.store.mapServices serviceId).state ≠ .nonExistent) :
    serviceId < 2 ^ 32 :=
  lt_of_le_of_lt (known.registry.1.registered.of_state alive).2 known.registry.2

theorem Managed.secured (known : Managed setup w frames) {serviceId : Nat}
    (secured : (w.utility.store.mapServiceIdTokenDeposit serviceId).token ≠ 0) :
    serviceId < 2 ^ 32 :=
  lt_of_le_of_lt (known.recorded serviceId secured).2 known.registry.2

/-- The folio of a service below the bound. -/
theorem escrow_folio {serviceId : Nat} (bound : serviceId < 2 ^ 32) :
    (escrow w frames).folios (serviceKey serviceId) =
      ⟨sheet w.registry.store serviceId, tokenSheet w.utility.store serviceId⟩ := by
  simp only [escrow, serviceKey_val bound]

theorem ne_of_key {id : Uint32} {serviceId : Nat} (bound : serviceId < 2 ^ 32)
    (different : id ≠ serviceKey serviceId) : id.val ≠ serviceId := by
  intro same
  refine different (Fin.ext ?_)
  rw [serviceKey_val bound, same]

/-- Code that wrote the folio of one service. -/
theorem escrow_write {serviceId : Nat} (bound : serviceId < 2 ^ 32)
    (sheets : ∀ other < 2 ^ 32, other ≠ serviceId →
      sheet w'.registry.store other = sheet w.registry.store other)
    (tokens : ∀ other < 2 ^ 32, other ≠ serviceId →
      tokenSheet w'.utility.store other = tokenSheet w.utility.store other) :
    (escrow w' frames').folios = ((escrow w frames).write (serviceKey serviceId)
      ⟨sheet w'.registry.store serviceId, tokenSheet w'.utility.store serviceId⟩).folios := by
  funext id
  by_cases here : id = serviceKey serviceId
  · subst here
    simp only [Escrow.write, Function.update_self]
    exact escrow_folio bound
  · have other := ne_of_key bound here
    simp only [Escrow.write, Function.update_of_ne here, escrow]
    rw [sheets id.val id.isLt other, tokens id.val id.isLt other]

/-- Code that acted on one sheet of the registry. -/
theorem escrow_service {serviceId : Nat} {action : ServiceAction}
    (moved : SheetsMove w.registry.store w'.registry.store (some (serviceId, action)))
    (tokens : ∀ other, tokenSheet w'.utility.store other = tokenSheet w.utility.store other) :
    ((escrow w frames).folios (serviceKey serviceId)).service.Step
        (sheet w'.registry.store serviceId) action ∧
      (escrow w' frames').folios = ((escrow w frames).writeService (serviceKey serviceId)
        (sheet w'.registry.store serviceId)).folios := by
  obtain ⟨bound, step, others⟩ := moved
  refine ⟨?_, ?_⟩
  · rw [escrow_folio bound]
    exact step
  · have written : (escrow w' frames').folios = ((escrow w frames).write (serviceKey serviceId)
        ⟨sheet w'.registry.store serviceId, tokenSheet w'.utility.store serviceId⟩).folios :=
      escrow_write bound others fun other _ _ => tokens other
    rw [written]
    simp only [Escrow.writeService, escrow_folio bound, tokens]

/-- Code that changed the token balances of one service. -/
theorem escrow_balances {serviceId : Nat} (bound : serviceId < 2 ^ 32) {balances : Address → Nat}
    (sheets : ∀ other, sheet w'.registry.store other = sheet w.registry.store other)
    (tokens : ∀ other < 2 ^ 32, other ≠ serviceId →
      tokenSheet w'.utility.store other = tokenSheet w.utility.store other)
    (here : tokenSheet w'.utility.store serviceId =
      { tokenSheet w.utility.store serviceId with balances }) :
    (escrow w' frames').folios =
      ((escrow w frames).writeBalances (serviceKey serviceId) balances).folios := by
  have written : (escrow w' frames').folios = ((escrow w frames).write (serviceKey serviceId)
      ⟨sheet w'.registry.store serviceId, tokenSheet w'.utility.store serviceId⟩).folios :=
    escrow_write bound (fun other _ _ => sheets other) tokens
  rw [written]
  simp only [Escrow.writeBalances, escrow_folio bound, here, sheets]

/-- No tokens moved. -/
structure SameFlows (u u' : UtilityWorld) : Prop where
  slashed : u'.store.mapSlashedFunds = u.store.mapSlashedFunds
  pulled : u'.pulled = u.pulled
  sent : u'.sent = u.sent

/-- The token utility wrote nothing that is booked. -/
structure SameBooks (u u' : UtilityWorld) : Prop extends SameFlows u u' where
  tokens : ∀ serviceId, tokenSheet u'.store serviceId = tokenSheet u.store serviceId

theorem SameBooks.lock {u u' : UtilityWorld} {s : UtilityState} {locked : Nat}
    (after : u' = { u with store := s }) (same : s = { u.store with locked }) :
    SameBooks u u' := by
  subst same
  subst after
  exact ⟨⟨rfl, rfl, rfl⟩, fun _ => rfl⟩

theorem escrow_idle
    (sheets : ∀ serviceId < 2 ^ 32,
      sheet w'.registry.store serviceId = sheet w.registry.store serviceId)
    (books : SameBooks w.utility w'.utility)
    (waiting : frames'.flatMap waitingOf = frames.flatMap waitingOf) :
    (escrow w frames).Step (escrow w' frames') := by
  refine Escrow.Step.idle.reaches (Escrow.ext ?_ books.slashed books.pulled books.sent waiting)
  funext id
  simp only [escrow, sheets id.val id.isLt, books.tokens]

theorem escrow_registry {serviceId : Nat} {action : ServiceAction}
    (moved : SheetsMove w.registry.store w'.registry.store (some (serviceId, action)))
    (books : SameBooks w.utility w'.utility)
    (untouched : (tokenSheet w.utility.store serviceId).Untouched action)
    (waiting : frames'.flatMap waitingOf = frames.flatMap waitingOf) :
    (escrow w frames).Step (escrow w' frames') := by
  have bound := moved.1
  obtain ⟨step, folios⟩ := escrow_service moved books.tokens
  refine (Escrow.Step.registry ?_ step).reaches
    (Escrow.ext folios books.slashed books.pulled books.sent waiting)
  rw [escrow_folio bound]
  exact untouched

theorem escrow_configure (known : Managed setup w frames) (free : w.manager.locked ≤ 1)
    {serviceId : Nat} {kept : List (Uint32 × AgentParams)}
    (moved : SheetsMove w.registry.store w'.registry.store (some (serviceId, .configure kept)))
    (step : (sheet w.registry.store serviceId).Step (sheet w'.registry.store serviceId)
        (.configure kept) →
      Folio.Configures ⟨sheet w.registry.store serviceId, tokenSheet w.utility.store serviceId⟩
        ⟨sheet w'.registry.store serviceId, tokenSheet w'.utility.store serviceId⟩ kept)
    (tokens : ∀ other < 2 ^ 32, other ≠ serviceId →
      tokenSheet w'.utility.store other = tokenSheet w.utility.store other)
    (flows : SameFlows w.utility w'.utility)
    (waiting : frames'.flatMap waitingOf = frames.flatMap waitingOf) :
    (escrow w frames).Step (escrow w' frames') := by
  obtain ⟨bound, configured, sheets⟩ := moved
  have here : ((escrow w frames).folios (serviceKey serviceId)).Configures
      ⟨sheet w'.registry.store serviceId, tokenSheet w'.utility.store serviceId⟩ kept := by
    rw [escrow_folio bound]
    exact step configured
  exact (Escrow.Step.configure (known.free free) here).reaches
    (Escrow.ext (escrow_write bound sheets tokens) flows.slashed flows.pulled flows.sent waiting)

end Abstraction

section Configuring
variable {setup : Setup} {w w' : SystemWorld} {frames frames' : List SystemFrame}

/-- The token sheets after `createWithToken`. -/
theorem createWithToken_sheets {tokenAccepted : Bool} {sender token : Address} {serviceId : Nat}
    {agentIds : List Uint32} {bonds : List Nat} {s s' : UtilityState}
    (bound : serviceId < 2 ^ 32) (unique : agentIds.Nodup)
    (ran : createWithToken tokenAccepted sender serviceId token agentIds bonds s = .ok s') :
    (∀ b ∈ agentIds.zip bonds, b.2 < 2 ^ 96) ∧
    (∀ b ∈ agentIds.zip bonds, b.2 ≠ 0 → (tokenSheet s' serviceId).bonds b.1 = b.2) ∧
    (tokenSheet s' serviceId).token = token ∧
    (tokenSheet s' serviceId).deposit = ((agentIds.zip bonds).map Prod.snd).foldl max 0 ∧
    (tokenSheet s' serviceId).balances = (tokenSheet s serviceId).balances ∧
    ∀ other < 2 ^ 32, other ≠ serviceId → tokenSheet s' other = tokenSheet s other := by
  obtain ⟨⟨-, enough, small⟩, rfl⟩ := createWithToken_ok ran
  have ids : ((agentIds.zip bonds).map Prod.fst).Nodup := by
    rw [List.map_fst_zip enough]
    exact unique
  refine ⟨small, ?_, ?_, ?_, rfl, ?_⟩
  · exact fun b member positive => writeBonds_listed bound ids _ member positive
  · simp only [tokenSheet, Function.update_self]
  · simp only [tokenSheet, Function.update_self, largestBond, List.foldl_map]
  · intro other below different
    simp only [tokenSheet, Function.update_of_ne different,
      writeBonds_other bound below different]

/-- The Ids passed with slots are the ones with a bond. -/
theorem filled_ids (agentIds : List Uint32) {agentParams : List AgentParams}
    (bonds : ∀ p ∈ agentParams, p.slots ≠ 0 → p.bond ≠ 0) :
    ((agentIds.zip (filledBonds agentParams)).filter fun b => b.2 ≠ 0).map Prod.fst =
      ((agentIds.zip (wrapFilled agentParams)).filter fun e => e.2.slots ≠ 0).map Prod.fst := by
  induction agentIds generalizing agentParams with
  | nil => rfl
  | cons x rest ih =>
    cases agentParams with
    | nil => rfl
    | cons p others =>
      have tail := ih fun q member => bonds q (List.mem_cons_of_mem _ member)
      simp only [filledBonds, wrapFilled, List.map_cons, List.zip_cons_cons] at tail ⊢
      by_cases filled : p.slots = 0
      · simp only [filled, ne_eq, not_true, if_false, List.filter_cons, decide_false,
          Bool.false_eq_true]
        exact tail
      · have bond : p.bond.val ≠ 0 := fun zero =>
          bonds p List.mem_cons_self filled (Fin.ext zero)
        simp only [filled, ne_eq, not_false_eq_true, if_true, List.filter_cons, bond,
          decide_true, ServiceManager.wrap, List.map_cons]
        exact congrArg _ tail

theorem wrapFilled_bond {agentIds : List Uint32} {agentParams : List AgentParams} :
    ∀ e ∈ (agentIds.zip (wrapFilled agentParams)).filter (fun e => e.2.slots ≠ 0),
      e.2.bond = 1 := by
  intro e member
  obtain ⟨zipped, filled⟩ := List.mem_filter.mp member
  obtain ⟨p, -, same⟩ := List.mem_map.mp (List.of_mem_zip zipped).2
  rw [← same] at filled ⊢
  by_cases slots : p.slots = 0
  · simp only [slots, ne_eq, not_true, if_false, decide_false, Bool.false_eq_true] at filled
  · simp only [slots, ne_eq, not_false_eq_true, if_true]
    rfl

theorem createEth_escrow (known : Managed setup w frames) (free : w.manager.locked ≤ 1)
    {agentTotalSupply : Nat} {serviceOwner : Address} {configHash : Bytes32}
    {agentIds : List Uint32} {agentParams : List AgentParams} {threshold : Uint32}
    {s : RegistryState} {serviceId : Nat} (bound : w.registry.store.totalSupply + 1 < 2 ^ 32)
    (ran : ServiceRegistry.create setup.edition agentTotalSupply setup.self serviceOwner
      configHash agentIds agentParams threshold w.registry.store = .ok (s, serviceId))
    (registry : w'.registry = { w.registry with store := s }) (utility : w'.utility = w.utility)
    (waiting : frames'.flatMap waitingOf = frames.flatMap waitingOf) :
    (escrow w frames).Step (escrow w' frames') := by
  have registered := known.registry.1.registered
  have store : w'.registry.store = s := by rw [registry]
  have moved := create_moves registered bound ran
  rw [← store] at moved
  obtain ⟨⟨-, -, -, -, -, -, filled, -⟩, -, -⟩ := ServiceRegistry.create_ok ran
  have fresh : w.registry.store.mapServices (w.registry.store.totalSupply + 1) = Service.empty :=
    (registered.unlisted _ (Or.inr (Nat.lt_succ_self _))).1
  refine escrow_configure known free moved (fun step => .created ?_ ?_ step ?_) ?_ ?_ waiting
  · simp only [sheet, fresh, Service.empty]
  · exact fun e member => (filled e.2 (List.of_mem_zip member).2).2
  · rw [utility]
  · rw [utility]
    exact fun _ _ _ => rfl
  · rw [utility]
    exact ⟨rfl, rfl, rfl⟩

theorem createToken_escrow (known : Managed setup w frames) (free : w.manager.locked ≤ 1)
    {tokenAccepted : Bool} {agentTotalSupply : Nat} {serviceOwner token : Address}
    {configHash : Bytes32} {agentIds : List Uint32} {agentParams : List AgentParams}
    {threshold : Uint32} {s : RegistryState} {u : UtilityState} {serviceId : Nat}
    (bound : w.registry.store.totalSupply + 1 < 2 ^ 32) (someToken : token ≠ 0)
    (bonds : ∀ p ∈ agentParams, p.bond ≠ 0)
    (recorded : createWithToken tokenAccepted setup.self (w.registry.store.totalSupply + 1)
      token agentIds (agentParams.map fun p => p.bond.val) w.utility.store = .ok u)
    (ran : ServiceRegistry.create setup.edition agentTotalSupply setup.self serviceOwner
      configHash agentIds (agentParams.map ServiceManager.wrap) threshold w.registry.store =
        .ok (s, serviceId))
    (registry : w'.registry = { w.registry with store := s })
    (utility : w'.utility = { w.utility with store := u })
    (waiting : frames'.flatMap waitingOf = frames.flatMap waitingOf) :
    (escrow w frames).Step (escrow w' frames') := by
  have store : w'.registry.store = s := by rw [registry]
  have moved := create_moves known.registry.1.registered bound ran
  rw [← store] at moved
  obtain ⟨⟨-, -, -, -, lengths, sorted, -⟩, -, -⟩ := ServiceRegistry.create_ok ran
  have written := createWithToken_sheets bound (sorted.imp fun h => ne_of_lt h) recorded
  have books : w'.utility.store = u := by rw [utility]
  rw [← books] at written
  obtain ⟨small, priced, named, deposit, balances, elsewhere⟩ := written
  rw [List.length_map] at lengths
  refine escrow_configure known free moved
    (fun step => .secured someToken ?_ step ?_ small priced named deposit balances) elsewhere ?_
    waiting
  · intro e member
    obtain ⟨p, -, same⟩ := List.mem_map.mp (List.of_mem_zip member).2
    rw [← same]
    rfl
  · rw [List.filter_eq_self.mpr, List.map_fst_zip, List.map_fst_zip]
    · rw [List.length_map]
      exact le_of_eq lengths
    · rw [List.length_map]
      exact le_of_eq lengths
    · intro b member
      obtain ⟨p, here, same⟩ := List.mem_map.mp (List.of_mem_zip member).2
      rw [← same]
      exact decide_eq_true fun zero => bonds p here (Fin.ext zero)
  · obtain ⟨-, rfl⟩ := createWithToken_ok recorded
    rw [utility]
    exact ⟨rfl, rfl, rfl⟩

theorem updateEth_escrow (known : Managed setup w frames) (free : w.manager.locked ≤ 1)
    {agentTotalSupply : Nat} {serviceOwner : Address} {configHash : Bytes32}
    {agentIds : List Uint32} {agentParams : List AgentParams} {threshold : Uint32}
    {serviceId : Nat} {s : RegistryState} {u : UtilityState}
    (bonds : ∀ p ∈ agentParams, p.slots ≠ 0 → p.bond ≠ 0)
    (ran : ServiceRegistry.update setup.edition agentTotalSupply setup.self serviceOwner
      configHash agentIds agentParams threshold serviceId w.registry.store = .ok s)
    (reset : resetServiceToken setup.self serviceId w.utility.store = .ok u)
    (registry : w'.registry = { w.registry with store := s })
    (utility : w'.utility = { w.utility with store := u })
    (waiting : frames'.flatMap waitingOf = frames.flatMap waitingOf) :
    (escrow w frames).Step (escrow w' frames') := by
  obtain ⟨-, -, ⟨-, -, -, state, -⟩, -⟩ := ServiceRegistry.update_ok ran
  have store : w'.registry.store = s := by rw [registry]
  have moved := update_moves (known.small (by rw [state]; decide)) ran
  rw [← store] at moved
  obtain ⟨-, rfl⟩ := resetServiceToken_ok reset
  refine escrow_configure known free moved (fun step => .reset ?_ step ?_) ?_ ?_ waiting
  · intro e member
    obtain ⟨zipped, filled⟩ := List.mem_filter.mp member
    exact bonds e.2 (List.of_mem_zip zipped).2 (of_decide_eq_true filled)
  · rw [utility]
    simp only [tokenSheet, Function.update_self, TokenSecurityDeposit.empty]
  · rw [utility]
    intro other _ different
    simp only [tokenSheet, Function.update_of_ne different]
  · rw [utility]
    exact ⟨rfl, rfl, rfl⟩

theorem updateToken_escrow (known : Managed setup w frames) (free : w.manager.locked ≤ 1)
    {tokenAccepted : Bool} {agentTotalSupply : Nat} {serviceOwner token : Address}
    {configHash : Bytes32} {agentIds : List Uint32} {agentParams : List AgentParams}
    {threshold : Uint32} {serviceId : Nat} {s : RegistryState} {u : UtilityState}
    (someToken : token ≠ 0) (bonds : ∀ p ∈ agentParams, p.slots ≠ 0 → p.bond ≠ 0)
    (recorded : createWithToken tokenAccepted setup.self serviceId token agentIds
      (filledBonds agentParams) w.utility.store = .ok u)
    (ran : ServiceRegistry.update setup.edition agentTotalSupply setup.self serviceOwner
      configHash agentIds (wrapFilled agentParams) threshold serviceId w.registry.store = .ok s)
    (registry : w'.registry = { w.registry with store := s })
    (utility : w'.utility = { w.utility with store := u })
    (waiting : frames'.flatMap waitingOf = frames.flatMap waitingOf) :
    (escrow w frames).Step (escrow w' frames') := by
  obtain ⟨-, -, ⟨-, -, -, state, -, sorted, -⟩, -⟩ := ServiceRegistry.update_ok ran
  have bound := known.small (by rw [state]; decide)
  have store : w'.registry.store = s := by rw [registry]
  have moved := update_moves bound ran
  rw [← store] at moved
  have written := createWithToken_sheets bound (sorted.imp fun h => ne_of_lt h) recorded
  have books : w'.utility.store = u := by rw [utility]
  rw [← books] at written
  obtain ⟨small, priced, named, deposit, balances, elsewhere⟩ := written
  refine escrow_configure known free moved
    (fun step => .secured someToken wrapFilled_bond step (filled_ids agentIds bonds) small priced
      named deposit balances) elsewhere ?_ waiting
  obtain ⟨-, rfl⟩ := createWithToken_ok recorded
  rw [utility]
  exact ⟨rfl, rfl, rfl⟩

end Configuring

section Entering
variable {setup : Setup} {w w' : SystemWorld} {frames pending : List SystemFrame}

theorem waiting_quiet (quiet : pending.flatMap waitingOf = []) :
    (pending ++ frames).flatMap waitingOf = frames.flatMap waitingOf := by
  rw [List.flatMap_append, quiet, List.nil_append]

theorem Managed.alone (known : Managed setup w frames) (free : w.manager.locked ≤ 1) :
    (pending ++ frames).flatMap waitingOf = pending.flatMap waitingOf := by
  have none : frames.flatMap waitingOf = [] := known.free free
  rw [List.flatMap_append, none, List.append_nil]

theorem activate_escrow (known : Managed setup w frames) {value serviceId : Nat}
    {views : TokenViews} {u : UtilityState} {s : RegistryState} {serviceOwner : Address}
    (unsecured : activateRegistrationTokenDeposit w.registry.store views setup.self serviceId
      w.utility.store = .ok (u, none))
    (ran : ServiceRegistry.activateRegistration setup.self value serviceOwner serviceId
      w.registry.store = .ok s)
    (store : w'.registry.store = s) (utility : w'.utility = { w.utility with store := u }) :
    (escrow w frames).Step (escrow w' frames) := by
  obtain ⟨⟨-, -, -, state, -⟩, -⟩ := ServiceRegistry.activateRegistration_ok ran
  have moved := activateRegistration_moves (known.small (by rw [state]; decide)) ran
  rw [← store] at moved
  obtain ⟨-, -, ⟨plain, -, after⟩ | ⟨_, _, -, wrong, -⟩⟩ :=
    activateRegistrationTokenDeposit_ok unsecured
  · exact escrow_registry moved (.lock utility after) plain rfl
  · cases wrong

theorem register_escrow (known : Managed setup w frames) {value serviceId : Nat}
    {operator : Address} {agentInstances : List Address} {agentIds : List Uint32}
    {views : TokenViews} {u : UtilityState} {s : RegistryState}
    (unsecured : registerAgentsTokenDeposit views setup.self operator serviceId agentIds
      w.utility.store = .ok (u, none))
    (ran : ServiceRegistry.registerAgents setup.self value operator serviceId agentInstances
      agentIds w.registry.store = .ok s)
    (store : w'.registry.store = s) (utility : w'.utility = { w.utility with store := u }) :
    (escrow w frames).Step (escrow w' frames) := by
  obtain ⟨-, ⟨-, -, state, -⟩, -⟩ := ServiceRegistry.registerAgents_ok ran
  have moved := registerAgents_moves (known.small (by rw [state]; decide)) ran
  rw [← store] at moved
  obtain ⟨-, -, ⟨plain, -, after⟩ | ⟨_, -, wrong, -⟩⟩ := registerAgentsTokenDeposit_ok unsecured
  · exact escrow_registry moved (.lock utility after) plain rfl
  · cases wrong

theorem terminate_escrow (known : Managed setup w frames) {serviceId refund : Nat}
    {serviceOwner : Address} {u : UtilityState} {s : RegistryState}
    (unsecured : terminateTokenRefund w.registry.store setup.self serviceId w.utility.store =
      .ok (u, none))
    (ran : ServiceRegistry.terminate setup.edition setup.self serviceOwner serviceId
      w.registry.store = .ok (s, refund))
    (store : w'.registry.store = s) (utility : w'.utility = { w.utility with store := u })
    (quiet : pending.flatMap waitingOf = []) :
    (escrow w frames).Step (escrow w' (pending ++ frames)) := by
  obtain ⟨⟨-, -, minted, -⟩, -⟩ := ServiceRegistry.terminate_ok ran
  have registered := known.registry.1.registered
  have here := registered.of_owner minted
  have moved := terminate_moves registered (lt_of_le_of_lt here.2 known.registry.2) ran
  rw [← store] at moved
  obtain ⟨-, -, ⟨plain, -, after⟩ | ⟨_, -, wrong, -⟩⟩ := terminateTokenRefund_ok unsecured
  · exact escrow_registry moved (.lock utility after) plain (waiting_quiet quiet)
  · cases wrong

/-- `unbond` in the registry, whatever it refunds. -/
theorem unbond_sheets (known : Managed setup w frames) {serviceId refund : Nat}
    {operator : Address} {s : RegistryState}
    (ran : ServiceRegistry.unbond setup.self operator serviceId w.registry.store =
      .ok (s, refund))
    (after : w'.registry = (w.registry.refunding s refund).state) :
    SheetsMove w.registry.store w'.registry.store (some (serviceId, .unbond operator)) := by
  obtain ⟨-, -, ⟨-, -, -, state, -⟩, -⟩ := ServiceRegistry.unbond_ok ran
  have moved := unbond_moves (known.small (by rw [state]; decide)) ran
  rw [after]
  simp only [SheetsMove, sheet_refunding] at moved ⊢
  exact moved

theorem unbond_escrow (known : Managed setup w frames) {serviceId refund : Nat}
    {operator : Address} {u : UtilityState} {s : RegistryState}
    (unsecured : unbondTokenRefund setup.self operator serviceId w.utility.store =
      .ok (u, none))
    (ran : ServiceRegistry.unbond setup.self operator serviceId w.registry.store =
      .ok (s, refund))
    (after : w'.registry = (w.registry.refunding s refund).state)
    (utility : w'.utility = { w.utility with store := u })
    (quiet : pending.flatMap waitingOf = []) :
    (escrow w frames).Step (escrow w' (pending ++ frames)) := by
  obtain ⟨-, -, ⟨nothing, -, same⟩ | ⟨-, wrong, -⟩⟩ := unbondTokenRefund_ok unsecured
  · exact escrow_registry (unbond_sheets known ran after) (.lock utility same) nothing
      (waiting_quiet quiet)
  · cases wrong

theorem activateToken_escrow (known : Managed setup w frames) (free : w.manager.locked ≤ 1)
    {value serviceId : Nat} {sender : Address} {views : TokenViews} {u : UtilityState}
    {pull : TokenPull}
    (ran : activateRegistrationTokenDeposit w.registry.store views setup.self serviceId
      w.utility.store = .ok (u, some pull))
    (registry : w'.registry = w.registry) (utility : w'.utility = { w.utility with store := u }) :
    (escrow w frames).Step (escrow w'
      ([.activate sender value serviceId (.activate serviceId pull)] ++ frames)) := by
  obtain ⟨-, -, ⟨-, wrong, -⟩ | ⟨account, balanceBefore, secured, asked, same⟩⟩ :=
    activateRegistrationTokenDeposit_ok ran
  · cases wrong
  · cases asked
    have bound := known.secured secured
    have books : SameBooks w.utility w'.utility := .lock utility same
    refine (Escrow.Step.activating (congrArg Folio.tokens (escrow_folio bound)) (known.free free)
      secured).reaches (Escrow.ext ?_ books.slashed books.pulled books.sent (known.alone free))
    funext id
    simp only [escrow, registry, books.tokens]

theorem terminateToken_escrow (known : Managed setup w frames) (free : w.manager.locked ≤ 1)
    {serviceId : Nat} {sender : Address} {u : UtilityState} {push : TokenPush}
    (ran : terminateTokenRefund w.registry.store setup.self serviceId w.utility.store =
      .ok (u, some push))
    (registry : w'.registry = w.registry)
    (utility : w'.utility = (w.utility.pushing (u, some push)).state) :
    (escrow w frames).Step (escrow w'
      ([.terminate sender serviceId (.refund push)] ++ frames)) := by
  obtain ⟨-, -, ⟨-, wrong, -⟩ | ⟨account, secured, asked, same⟩⟩ := terminateTokenRefund_ok ran
  · cases wrong
  · cases asked
    have bound := known.secured secured
    subst same
    refine (Escrow.Step.terminating (congrArg Folio.tokens (escrow_folio bound)) (known.free free)
      secured).reaches (Escrow.ext ?_ ?_ ?_ ?_ (known.alone free))
    · funext id
      simp only [escrow, registry, utility]
      rfl
    · simp only [escrow, utility]
      rfl
    · simp only [escrow, utility]
      rfl
    · simp only [escrow, utility]
      rfl

theorem registerToken_escrow (known : Managed setup w frames) (free : w.manager.locked ≤ 1)
    {signed : Bool} {value serviceId : Nat} {operator : Address} {views : TokenViews}
    {agentInstances : List Address} {agentIds : List Uint32} {u : UtilityState}
    {pull : TokenPull}
    (ran : registerAgentsTokenDeposit views setup.self operator serviceId agentIds
      w.utility.store = .ok (u, some pull))
    (registry : w'.registry = w.registry) (utility : w'.utility = { w.utility with store := u }) :
    (escrow w frames).Step (escrow w' ([.register signed value operator serviceId agentInstances
      agentIds (.register serviceId pull)] ++ frames)) := by
  obtain ⟨-, -, ⟨-, wrong, -⟩ | ⟨balanceBefore, secured, asked, same⟩⟩ :=
    registerAgentsTokenDeposit_ok ran
  · cases wrong
  · cases asked
    have bound := known.secured secured
    subst same
    refine (Escrow.Step.registering (congrArg Folio.tokens (escrow_folio bound)) (known.free free)
      secured).reaches (Escrow.ext ?_ ?_ ?_ ?_ (known.alone free))
    · refine escrow_balances bound (fun other => by rw [registry]) ?_ ?_
      · intro other small different
        simp only [utility, tokenSheet, update_operatorService (widen bound) (widen small),
          different, false_and, if_false]
      · simp only [utility, tokenSheet, update_operatorService (widen bound) (widen bound),
          true_and, credit, bondsOf]
        congr 1
        funext a
        rw [Function.update_apply]
        rfl
    · simp only [escrow, utility]
      rfl
    · simp only [escrow, utility]
      rfl
    · simp only [escrow, utility]
      rfl

theorem unbondToken_escrow (known : Managed setup w frames) (free : w.manager.locked ≤ 1)
    {serviceId : Nat} {operator : Address} {u : UtilityState} {push : TokenPush}
    (ran : unbondTokenRefund setup.self operator serviceId w.utility.store =
      .ok (u, some push))
    (registry : w'.registry = w.registry)
    (utility : w'.utility = (w.utility.pushing (u, some push)).state) :
    (escrow w frames).Step (escrow w'
      ([.unbond operator serviceId (.refund push)] ++ frames)) := by
  obtain ⟨-, -, ⟨-, wrong, -⟩ | ⟨secured, asked, same⟩⟩ := unbondTokenRefund_ok ran
  · cases wrong
  · cases asked
    have bound := known.secured secured
    subst same
    refine (Escrow.Step.unbonding (congrArg Folio.tokens (escrow_folio bound)) (known.free free)
      secured).reaches (Escrow.ext ?_ ?_ ?_ ?_ (known.alone free))
    · refine escrow_balances bound (fun other => by rw [registry]) ?_ ?_
      · intro other small different
        simp only [utility, UtilityWorld.pushing, Outcome.state_suspended, tokenSheet,
          update_operatorService (widen bound) (widen small), different, false_and, if_false]
      · simp only [utility, UtilityWorld.pushing, Outcome.state_suspended, tokenSheet,
          update_operatorService (widen bound) (widen bound), true_and]
        congr 1
        funext a
        rw [Function.update_apply]
    · simp only [escrow, utility]
      rfl
    · simp only [escrow, utility]
      rfl
    · simp only [escrow, utility]
      rfl

/-- What an account that is not the manager does to the sheets of the registry. -/
theorem registry_byOther {edition : Edition} {r : RegistryWorld} {call : RegistryCall}
    {out : Outcome RegistryWorld RegistryFrame} {inner : List RegistryFrame}
    (base : RegistryBase r inner) (other : r.store.manager ≠ call.sender)
    (entered : r.enter edition call = .ok out) :
    (∀ serviceId, sheet out.state.store serviceId = sheet r.store serviceId) ∨
      ∃ serviceId, SheetsMove r.store out.state.store (some (serviceId, .slash)) := by
  have kind := RegistryWorld.enter_transition base.1.registered.guarded entered
  cases kind with
  | create ran => exact absurd (ServiceRegistry.create_ok ran).1.2.1 other
  | update ran =>
    obtain ⟨-, -, ⟨manager, -⟩, -⟩ := ServiceRegistry.update_ok ran
    exact absurd manager other
  | activateRegistration ran =>
    exact absurd (ServiceRegistry.activateRegistration_ok ran).1.1 other
  | registerAgents ran =>
    obtain ⟨-, ⟨manager, -⟩, -⟩ := ServiceRegistry.registerAgents_ok ran
    exact absurd manager other
  | deploy ran => exact absurd (ServiceRegistry.deploy_ok ran).1.2.1 other
  | terminate ran => exact absurd (ServiceRegistry.terminate_ok ran).1.2.1 other
  | unbond ran =>
    obtain ⟨-, -, ⟨-, manager, -⟩, -⟩ := ServiceRegistry.unbond_ok ran
    exact absurd manager other
  | slash ran =>
    obtain ⟨⟨state, -⟩, -⟩ := ServiceRegistry.slash_ok ran
    have here := base.1.registered.of_state (by rw [state]; decide)
    exact Or.inr ⟨_, slash_moves (lt_of_le_of_lt here.2 base.2) ran⟩
  | drain ran =>
    obtain ⟨-, -, rfl⟩ := ServiceRegistry.drain_ok ran
    refine Or.inl fun serviceId => ?_
    rw [sheet_refunding]
    rfl
  | administer => exact Or.inl fun serviceId => rfl

theorem map_quiet {α : Type} {name : α → SystemFrame} (inner : List α)
    (quiet : ∀ a, waitingOf (name a) = []) : (inner.map name).flatMap waitingOf = [] := by
  refine List.flatMap_eq_nil_iff.mpr fun frame member => ?_
  obtain ⟨a, -, rfl⟩ := List.mem_map.mp member
  exact quiet a

theorem registryCall_escrow (known : Managed setup w frames) {call : RegistryCall}
    {out : Outcome RegistryWorld RegistryFrame} (other : call.sender ≠ setup.self)
    (ran : w.registry.enter setup.edition call = .ok out) :
    (escrow w frames).Step (escrow (w.withRegistry out.state)
      (out.pending.map .registry ++ frames)) := by
  have foreign : w.registry.store.manager ≠ call.sender := by
    rw [known.shape.authority]
    exact fun same => other (Subtype.ext same.symm)
  have quiet : (out.pending.map SystemFrame.registry).flatMap waitingOf = [] :=
    map_quiet out.pending fun _ => rfl
  have books : SameBooks w.utility w.utility := ⟨⟨rfl, rfl, rfl⟩, fun _ => rfl⟩
  rcases registry_byOther known.registry foreign ran with same | ⟨serviceId, moved⟩
  · exact escrow_idle (fun serviceId _ => same serviceId) books (waiting_quiet quiet)
  · exact escrow_registry moved books trivial (waiting_quiet quiet)

theorem utilityCall_escrow (known : Managed setup w frames) {call : UtilityCall}
    {out : Outcome UtilityWorld UtilityFrame} (other : call.sender ≠ setup.self)
    (ran : w.utility.enter w.registry.store call = .ok out) :
    (escrow w frames).Step (escrow (w.withUtility out.state)
      (out.pending.map .utility ++ frames)) := by
  have foreign : w.utility.store.manager ≠ call.sender := by
    rw [known.authority]
    exact fun same => other (Subtype.ext same.symm)
  have quiet : (out.pending.map SystemFrame.utility).flatMap waitingOf = [] :=
    map_quiet out.pending fun _ => rfl
  have kind := utility_byOther foreign ran
  generalize out.state = u, out.pending = inner at kind quiet ⊢
  cases kind with
  | slash ran =>
    have deployed := slash_deployed ran
    have bound := known.small (by rw [deployed]; decide)
    obtain ⟨⟨-, -, secured⟩, balances, taken, slashed, rfl⟩ := slash_ok (widen bound) ran
    refine (Escrow.Step.slash (congrArg Folio.tokens (escrow_folio bound)) ?_ secured
      (fun a => slashed.below _) slashed.conserved).reaches (Escrow.ext ?_ rfl rfl rfl rfl)
    · rw [escrow_folio bound]
      exact deployed
    · refine escrow_balances bound (fun _ => rfl) ?_ rfl
      intro other small different
      have same : ∀ a, balances (operatorService a other) =
          w.utility.store.mapOperatorAndServiceIdOperatorBalances (operatorService a other) := by
        intro a
        refine slashed.others _ fun agentInstance _ shared => different ?_
        exact (operatorService_injective (widen small) (widen bound) shared).2
      simp only [SystemWorld.withUtility, tokenSheet, same]
  | drain ran =>
    obtain ⟨-, ⟨rfl, rfl⟩ | ⟨rfl, rfl⟩⟩ := drain_ok ran
    · exact escrow_idle (fun _ _ => rfl) ⟨⟨rfl, rfl, rfl⟩, fun _ => rfl⟩ (waiting_quiet quiet)
    · exact (Escrow.Step.drain _).reaches (Escrow.ext rfl rfl rfl rfl (waiting_quiet quiet))
  | administer =>
    exact escrow_idle (fun _ _ => rfl) ⟨⟨rfl, rfl, rfl⟩, fun _ => rfl⟩ (waiting_quiet quiet)

/-- Every call is a step of the escrow. -/
theorem move_escrow (known : Managed setup w frames) {call : SystemCall}
    (other : call.sender ≠ setup.self)
    (bounded : call.creates = true → w.registry.store.totalSupply + 1 < 2 ^ 32)
    (move : SystemMove setup w call w' pending) :
    (escrow w frames).Step (escrow w' (pending ++ frames)) := by
  cases move with
  | createEth asked manager ran registry utility =>
    exact createEth_escrow known manager.free (bounded asked) ran registry utility rfl
  | createToken asked manager someToken bonds recorded ran registry utility =>
    exact createToken_escrow known manager.free (bounded asked) someToken bonds recorded ran
      registry utility rfl
  | updateEth manager bonds ran reset registry utility =>
    exact updateEth_escrow known manager.free bonds ran reset registry utility rfl
  | updateToken manager someToken bonds recorded ran registry utility =>
    exact updateToken_escrow known manager.free someToken bonds recorded ran registry utility rfl
  | activate manager unsecured ran registry utility =>
    exact activate_escrow known unsecured ran (by rw [registry]) utility
  | activateToken manager secured registry utility =>
    exact activateToken_escrow known manager.free secured registry utility
  | register manager someone unsecured ran registry utility =>
    exact register_escrow known unsecured ran (by rw [registry]) utility
  | registerToken manager someone secured registry utility =>
    exact registerToken_escrow known manager.free secured registry utility
  | deploy manager ran registry utility =>
    obtain ⟨-, -, rfl⟩ := ServiceRegistry.deploy_ok ran
    refine escrow_idle (fun _ _ => ?_) ?_ rfl
    · rw [registry]
      rfl
    · rw [utility]
      exact ⟨⟨rfl, rfl, rfl⟩, fun _ => rfl⟩
  | bindMultisig asked free after =>
    subst after
    exact escrow_idle (fun _ _ => rfl) ⟨⟨rfl, rfl, rfl⟩, fun _ => rfl⟩ rfl
  | terminate manager unsecured ran registry utility =>
    exact terminate_escrow known unsecured ran (by rw [registry]) utility rfl
  | terminateToken manager secured registry utility =>
    exact terminateToken_escrow known manager.free secured registry utility
  | unbond manager unsecured ran waits registry utility =>
    exact unbond_escrow known unsecured ran registry utility (map_quiet _ fun _ => rfl)
  | unbondToken manager secured registry utility =>
    exact unbondToken_escrow known manager.free secured registry utility
  | administer locked bindings registry utility =>
    refine escrow_idle (fun _ _ => ?_) ?_ rfl
    · rw [registry]
    · rw [utility]
      exact ⟨⟨rfl, rfl, rfl⟩, fun _ => rfl⟩
  | registry direct ran =>
    subst direct
    exact registryCall_escrow known other ran
  | utility direct ran =>
    subst direct
    exact utilityCall_escrow known other ran

end Entering

section Returning
variable {setup : Setup} {w w' : SystemWorld} {rest pending : List SystemFrame}

/-- The token utility after `safeTransfer` has returned. -/
theorem refund_books {u u' : UtilityWorld} {push : TokenPush} {answer : TokenAnswer}
    (ran : u.resume (.refund push) answer = .ok u') : SameBooks u u' := by
  simp only [UtilityWorld.resume, bind_eq_ok, pure_eq_ok] at ran
  obtain ⟨s, ran, rfl⟩ := ran
  exact .lock rfl (pushReturn_ok ran)

/-- The token utility after `safeTransferFrom` has returned. -/
structure Pulled (u u' : UtilityWorld) (pull : TokenPull) : Prop where
  tokens : ∀ serviceId, tokenSheet u'.store serviceId = tokenSheet u.store serviceId
  slashed : u'.store.mapSlashedFunds = u.store.mapSlashedFunds
  pulled : u'.pulled = credit u.pulled pull.token pull.amount
  sent : u'.sent = u.sent

theorem pullReturn_pulled {u : UtilityWorld} {wrongValue : Revert} {pull : TokenPull}
    {answer : TokenAnswer} {s : UtilityState}
    (ran : pullReturn wrongValue pull answer u.store = .ok s) :
    Pulled u (u.pullIn pull s) pull := by
  rw [pullReturn_ok ran]
  exact ⟨fun _ => rfl, rfl, rfl, rfl⟩

theorem activate_pulled {u u' : UtilityWorld} {serviceId : Nat} {pull : TokenPull}
    {answer : TokenAnswer} (ran : u.resume (.activate serviceId pull) answer = .ok u') :
    Pulled u u' pull := by
  simp only [UtilityWorld.resume, bind_eq_ok, pure_eq_ok] at ran
  obtain ⟨s, ran, rfl⟩ := ran
  exact pullReturn_pulled ran

theorem register_pulled {u u' : UtilityWorld} {serviceId : Nat} {pull : TokenPull}
    {answer : TokenAnswer} (ran : u.resume (.register serviceId pull) answer = .ok u') :
    Pulled u u' pull := by
  simp only [UtilityWorld.resume, bind_eq_ok, pure_eq_ok] at ran
  obtain ⟨s, ran, rfl⟩ := ran
  exact pullReturn_pulled ran

/-- A suspended call of the registry that goes on. -/
theorem resume_escrow {frame : SystemFrame} {inner : RegistryFrame}
    (known : Managed setup w (frame :: rest)) (own : registryFrame frame = [inner])
    {answer : RegistryAnswer} {out : Outcome RegistryWorld RegistryFrame}
    (ran : w.registry.resume setup.edition inner answer = .ok out)
    (registry : w'.registry.store = out.state.store) (books : SameBooks w.utility w'.utility)
    (silent : waitingOf frame = []) (quiet : pending.flatMap waitingOf = []) :
    (escrow w (frame :: rest)).Step (escrow w' (pending ++ rest)) := by
  obtain ⟨shape, supply⟩ := known.registry
  rw [List.flatMap_cons, own] at shape
  have moved := resume_moves shape supply ran
  rw [← registry] at moved
  have waiting : (pending ++ rest).flatMap waitingOf = (frame :: rest).flatMap waitingOf := by
    rw [waiting_quiet quiet, List.flatMap_cons, silent, List.nil_append]
  cases inner with
  | create => exact escrow_idle moved books waiting
  | refund => exact escrow_idle moved books waiting
  | deploy serviceId => exact escrow_registry moved books trivial waiting

theorem activated_escrow {sender : Address} {value serviceId amount : Nat} {inner : UtilityFrame}
    (known : Managed setup w (.activate sender value serviceId inner :: rest))
    {answer : TokenAnswer} {s : RegistryState}
    (returned : w.utility.resume inner answer = .ok w'.utility)
    (ran : ServiceRegistry.activateRegistration setup.self amount sender serviceId
      w.registry.store = .ok s) (registry : w'.registry.store = s) :
    (escrow w (.activate sender value serviceId inner :: rest)).Step (escrow w' rest) := by
  obtain ⟨bound, pull, rfl⟩ := known.fitting _ List.mem_cons_self
  have moved := activateRegistration_moves bound ran
  rw [← registry] at moved
  have books := activate_pulled returned
  obtain ⟨step, folios⟩ := escrow_service moved books.tokens
  exact (Escrow.Step.activated rfl step).reaches
    (Escrow.ext folios books.slashed books.pulled books.sent rfl)

theorem registered_escrow {signed : Bool} {value serviceId amount : Nat} {operator : Address}
    {agentInstances : List Address} {agentIds : List Uint32} {inner : UtilityFrame}
    (known : Managed setup w
      (.register signed value operator serviceId agentInstances agentIds inner :: rest))
    {answer : TokenAnswer} {s : RegistryState}
    (returned : w.utility.resume inner answer = .ok w'.utility)
    (ran : ServiceRegistry.registerAgents setup.self amount operator serviceId agentInstances
      agentIds w.registry.store = .ok s) (registry : w'.registry.store = s) :
    (escrow w (.register signed value operator serviceId agentInstances agentIds inner ::
      rest)).Step (escrow w' rest) := by
  obtain ⟨bound, pull, rfl⟩ := known.fitting _ List.mem_cons_self
  obtain ⟨-, ⟨-, lengths, -⟩, -⟩ := ServiceRegistry.registerAgents_ok ran
  have moved := registerAgents_moves bound ran
  rw [← registry] at moved
  have books := register_pulled returned
  obtain ⟨step, folios⟩ := escrow_service moved books.tokens
  exact (Escrow.Step.registered rfl (List.map_snd_zip (le_of_eq lengths.symm)) step).reaches
    (Escrow.ext folios books.slashed books.pulled books.sent rfl)

theorem terminated_escrow {sender : Address} {serviceId refund : Nat} {inner : UtilityFrame}
    (known : Managed setup w (.terminate sender serviceId inner :: rest))
    {answer : TokenAnswer} {s : RegistryState}
    (returned : w.utility.resume inner answer = .ok w'.utility)
    (ran : ServiceRegistry.terminate setup.edition setup.self sender serviceId
      w.registry.store = .ok (s, refund)) (registry : w'.registry.store = s)
    (quiet : pending.flatMap waitingOf = []) :
    (escrow w (.terminate sender serviceId inner :: rest)).Step
      (escrow w' (pending ++ rest)) := by
  obtain ⟨bound, push, rfl⟩ := known.fitting _ List.mem_cons_self
  have moved := terminate_moves known.registry.1.registered bound ran
  rw [← registry] at moved
  have books := refund_books returned
  obtain ⟨step, folios⟩ := escrow_service moved books.tokens
  have waits : (escrow w (.terminate sender serviceId (.refund push) :: rest)).waiting =
    .terminating (serviceKey serviceId) push.token push.amount :: rest.flatMap waitingOf := rfl
  exact (Escrow.Step.terminated waits step).reaches
    (Escrow.ext folios books.slashed books.pulled books.sent (waiting_quiet quiet))

theorem unbonded_escrow {operator : Address} {serviceId refund : Nat} {inner : UtilityFrame}
    (known : Managed setup w (.unbond operator serviceId inner :: rest))
    {answer : TokenAnswer} {s : RegistryState}
    (returned : w.utility.resume inner answer = .ok w'.utility)
    (ran : ServiceRegistry.unbond setup.self operator serviceId w.registry.store =
      .ok (s, refund))
    (after : w'.registry = (w.registry.refunding s refund).state)
    (quiet : pending.flatMap waitingOf = []) :
    (escrow w (.unbond operator serviceId inner :: rest)).Step
      (escrow w' (pending ++ rest)) := by
  obtain ⟨bound, push, rfl⟩ := known.fitting _ List.mem_cons_self
  have books := refund_books returned
  obtain ⟨step, folios⟩ := escrow_service (unbond_sheets known ran after) books.tokens
  have waits : (escrow w (.unbond operator serviceId (.refund push) :: rest)).waiting =
    .unbonding operator (serviceKey serviceId) :: rest.flatMap waitingOf := rfl
  exact (Escrow.Step.unbonded waits step).reaches
    (Escrow.ext folios books.slashed books.pulled books.sent (waiting_quiet quiet))

/-- Every continuation is a step of the escrow. -/
theorem return_escrow {frame : SystemFrame} {answer : SystemAnswer}
    (known : Managed setup w (frame :: rest))
    (move : SystemReturn setup w answer frame w' pending) :
    (escrow w (frame :: rest)).Step (escrow w' (pending ++ rest)) := by
  have same : SameBooks w.utility w.utility := ⟨⟨rfl, rfl, rfl⟩, fun _ => rfl⟩
  cases move with
  | registry ran => exact resume_escrow known rfl ran rfl same rfl rfl
  | utility ran =>
    obtain ⟨push, rfl⟩ := known.fitting _ List.mem_cons_self
    exact escrow_idle (fun _ _ => rfl) (refund_books ran) rfl
  | create ran manager waits utility =>
    refine resume_escrow known rfl ran rfl (utility ▸ same) rfl ?_
    rcases waits with ⟨-, rfl⟩ | ⟨-, rfl⟩ <;> rfl
  | deploy ran created unbound bindings waits utility =>
    refine resume_escrow known rfl ran rfl (utility ▸ same) rfl ?_
    rcases waits with ⟨-, rfl⟩ | ⟨-, rfl⟩ <;> rfl
  | refund ran manager utility =>
    exact resume_escrow known rfl ran rfl (utility ▸ same) rfl rfl
  | activate manager returned ran registry =>
    exact activated_escrow known returned ran (by rw [registry])
  | register manager returned ran registry =>
    exact registered_escrow known returned ran (by rw [registry])
  | terminate manager returned ran registry =>
    exact terminated_escrow known returned ran (by rw [registry]) rfl
  | unbond manager returned ran waits registry =>
    exact unbonded_escrow known returned ran registry (map_quiet _ fun _ => rfl)
  | bridger => exact escrow_idle (fun _ _ => rfl) same rfl

end Returning

/-- A call from outside that leaves the token utility to its manager. -/
def KeepsUtility (setup : Setup) : SystemCall → Prop
  | .utility (.changeManager _ newManager) => newManager = setup.self
  | _ => True

/-- The calls that may mint a service. -/
def SystemCall.mints : SystemCall → Bool
  | .manager (.create ..) | .registry (.create ..) => true
  | _ => false

/-- The manager is the only account that acts for the manager of either contract, and at
most `2 ^ 32 - 1` services are created. -/
def jointDiscipline (setup : Setup) :
    Discipline SystemWorld SystemCall SystemFrame SystemAnswer where
  call call w := (soleDiscipline setup).call call w ∧ KeepsUtility setup call ∧
    (SystemCall.mints call = true → w.registry.store.totalSupply + 1 < 2 ^ 32)
  answer _ _ _ := True

instance (setup : Setup) (call : SystemCall) : Decidable (KeepsUtility setup call) :=
  match call with
  | .utility (.changeManager _ newManager) =>
    inferInstanceAs (Decidable (newManager = setup.self))
  | .utility (.createWithToken ..) | .utility (.resetServiceToken ..)
  | .utility (.activateRegistrationTokenDeposit ..) | .utility (.registerAgentsTokenDeposit ..)
  | .utility (.terminateTokenRefund ..) | .utility (.unbondTokenRefund ..) | .utility (.slash ..)
  | .utility (.drain ..) | .utility (.changeOwner ..) | .utility (.changeDrainer ..)
  | .manager _ | .registry _ => .isTrue trivial

instance (setup : Setup) (call : SystemCall) (w : SystemWorld) :
    Decidable ((jointDiscipline setup).call call w) :=
  inferInstanceAs (Decidable ((soleDiscipline setup).call call w ∧ KeepsUtility setup call ∧
    (SystemCall.mints call = true → w.registry.store.totalSupply + 1 < 2 ^ 32)))

instance (setup : Setup) (frame : SystemFrame) (answer : SystemAnswer) (w : SystemWorld) :
    Decidable ((jointDiscipline setup).answer frame answer w) := .isTrue trivial

section Authority
variable {setup : Setup} {w w' : SystemWorld} {frames pending : List SystemFrame}

/-- The registry's supply never shrinks. -/
theorem registryPart_supply {edition : Edition} {allowed : RegistryCall → Prop}
    {r r' : RegistryWorld} {before after : List RegistryFrame}
    (part : RegistryPart edition allowed r before r' after) (guarded : r.store.erc721.Guarded) :
    r.store.totalSupply ≤ r'.store.totalSupply := by
  cases part with
  | untouched => exact le_refl _
  | resumed ran => exact le_of_eq (resume_supply ran).symm
  | called permitted entered => exact (RegistryWorld.enter_transition guarded entered).supply_le

/-- What the manager and the records of the token utility become. -/
structure UtilityKept (w w' : SystemWorld) : Prop where
  manager : w'.utility.store.manager = w.utility.store.manager
  recorded : ∀ serviceId, (w'.utility.store.mapServiceIdTokenDeposit serviceId).token ≠ 0 →
    (w.utility.store.mapServiceIdTokenDeposit serviceId).token ≠ 0 ∨
      (0 < serviceId ∧ serviceId ≤ w'.registry.store.totalSupply)

theorem UtilityKept.same (manager : w'.utility.store.manager = w.utility.store.manager)
    (records : w'.utility.store.mapServiceIdTokenDeposit =
      w.utility.store.mapServiceIdTokenDeposit) : UtilityKept w w' :=
  ⟨manager, fun serviceId secured => Or.inl (by rwa [records] at secured)⟩

theorem UtilityKept.record {serviceId : Nat} {record : TokenSecurityDeposit}
    (manager : w'.utility.store.manager = w.utility.store.manager)
    (records : w'.utility.store.mapServiceIdTokenDeposit =
      Function.update w.utility.store.mapServiceIdTokenDeposit serviceId record)
    (listed : 0 < serviceId ∧ serviceId ≤ w'.registry.store.totalSupply) : UtilityKept w w' := by
  refine ⟨manager, fun other secured => ?_⟩
  rw [records] at secured
  by_cases same : other = serviceId
  · subst same
    exact Or.inr listed
  · rw [Function.update_of_ne same] at secured
    exact Or.inl secured

theorem update_listed (known : Managed setup w frames) {agentTotalSupply serviceId : Nat}
    {serviceOwner : Address} {configHash : Bytes32} {agentIds : List Uint32}
    {agentParams : List AgentParams} {threshold : Uint32} {s : RegistryState}
    (ran : ServiceRegistry.update setup.edition agentTotalSupply setup.self serviceOwner
      configHash agentIds agentParams threshold serviceId w.registry.store = .ok s)
    (registry : w'.registry = { w.registry with store := s }) :
    0 < serviceId ∧ serviceId ≤ w'.registry.store.totalSupply := by
  obtain ⟨kept, -, ⟨-, -, -, state, -⟩, hashes, after⟩ := ServiceRegistry.update_ok ran
  rw [registry, after]
  exact known.registry.1.registered.of_state (by rw [state]; decide)

theorem move_utilityKept (known : Managed setup w frames) {call : SystemCall}
    (other : call.sender ≠ setup.self) (kept : KeepsUtility setup call)
    (move : SystemMove setup w call w' pending) : UtilityKept w w' := by
  cases move with
  | createEth _ _ _ _ utility | deploy _ _ _ utility | administer _ _ _ utility =>
    exact .same (by rw [utility]) (by rw [utility])
  | createToken _ _ _ _ recorded ran registry utility =>
    obtain ⟨-, rfl⟩ := createWithToken_ok recorded
    obtain ⟨-, rfl, rfl⟩ := ServiceRegistry.create_ok ran
    refine .record (by rw [utility]) (by rw [utility]) ⟨Nat.succ_pos _, ?_⟩
    rw [registry]
  | updateEth _ _ ran reset registry utility =>
    obtain ⟨-, rfl⟩ := resetServiceToken_ok reset
    exact .record (by rw [utility]) (by rw [utility]) (update_listed known ran registry)
  | updateToken _ _ _ recorded ran registry utility =>
    obtain ⟨-, rfl⟩ := createWithToken_ok recorded
    exact .record (by rw [utility]) (by rw [utility]) (update_listed known ran registry)
  | activate _ ran _ _ utility | activateToken _ ran _ utility =>
    obtain ⟨-, -, ⟨-, -, rfl⟩ | ⟨_, _, -, -, rfl⟩⟩ := activateRegistrationTokenDeposit_ok ran <;>
      exact .same (by rw [utility]) (by rw [utility])
  | register _ _ ran _ _ utility | registerToken _ _ ran _ utility =>
    obtain ⟨-, -, ⟨-, -, rfl⟩ | ⟨_, -, -, rfl⟩⟩ := registerAgentsTokenDeposit_ok ran <;>
      exact .same (by rw [utility]) (by rw [utility])
  | bindMultisig _ _ after =>
    subst after
    exact .same rfl rfl
  | terminate _ ran _ _ utility =>
    obtain ⟨-, -, ⟨-, -, rfl⟩ | ⟨_, -, wrong, -⟩⟩ := terminateTokenRefund_ok ran
    · exact .same (by rw [utility]) (by rw [utility])
    · cases wrong
  | terminateToken _ ran _ utility =>
    obtain ⟨-, -, ⟨-, wrong, -⟩ | ⟨_, -, -, rfl⟩⟩ := terminateTokenRefund_ok ran
    · cases wrong
    · exact .same (by rw [utility]; rfl) (by rw [utility]; rfl)
  | unbond _ ran _ _ _ utility =>
    obtain ⟨-, -, ⟨-, -, rfl⟩ | ⟨-, wrong, -⟩⟩ := unbondTokenRefund_ok ran
    · exact .same (by rw [utility]) (by rw [utility])
    · cases wrong
  | unbondToken _ ran _ utility =>
    obtain ⟨-, -, ⟨-, wrong, -⟩ | ⟨-, -, rfl⟩⟩ := unbondTokenRefund_ok ran
    · cases wrong
    · exact .same (by rw [utility]; rfl) (by rw [utility]; rfl)
  | registry => exact .same rfl rfl
  | @utility asked out direct ran =>
    subst direct
    have foreign : w.utility.store.manager ≠ asked.sender := by
      rw [known.authority]
      exact fun same => other (Subtype.ext same.symm)
    have kind := utility_byOther foreign ran
    generalize out.state = u, out.pending = inner at kind ⊢
    cases kind with
    | slash ran =>
      have bound := known.small (by rw [slash_deployed ran]; decide)
      obtain ⟨-, balances, taken, -, rfl⟩ := slash_ok (widen bound) ran
      exact .same rfl rfl
    | drain ran =>
      obtain ⟨-, ⟨rfl, rfl⟩ | ⟨rfl, rfl⟩⟩ := drain_ok ran <;> exact .same rfl rfl
    | administer changed =>
      refine .same ?_ rfl
      rcases changed with same | ⟨sender, rfl⟩
      · exact same
      · exact kept.trans known.authority.symm

theorem return_utilityKept {frame : SystemFrame} {answer : SystemAnswer}
    (move : SystemReturn setup w answer frame w' pending) : UtilityKept w w' := by
  have resumed : ∀ {inner : UtilityFrame} {answer : TokenAnswer} {u : UtilityWorld},
      w.utility.resume inner answer = .ok u → u.store.manager = w.utility.store.manager ∧
        u.store.mapServiceIdTokenDeposit = w.utility.store.mapServiceIdTokenDeposit := by
    intro inner answer u ran
    cases inner with
    | activate | register =>
      simp only [UtilityWorld.resume, bind_eq_ok, pure_eq_ok] at ran
      obtain ⟨s, ran, rfl⟩ := ran
      rw [pullReturn_ok ran]
      exact ⟨rfl, rfl⟩
    | refund =>
      simp only [UtilityWorld.resume, bind_eq_ok, pure_eq_ok] at ran
      obtain ⟨s, ran, rfl⟩ := ran
      rw [pushReturn_ok ran]
      exact ⟨rfl, rfl⟩
  cases move with
  | registry => exact .same rfl rfl
  | utility ran => exact .same (resumed ran).1 (resumed ran).2
  | create _ _ _ utility | deploy _ _ _ _ _ utility | refund _ _ utility =>
    exact .same (by rw [utility]) (by rw [utility])
  | activate _ returned | register _ returned | terminate _ returned | unbond _ returned =>
    exact .same (resumed returned).1 (resumed returned).2
  | bridger => exact .same rfl rfl

theorem move_fitting (known : Managed setup w frames) {call : SystemCall}
    (other : call.sender ≠ setup.self) (move : SystemMove setup w call w' pending) :
    ∀ frame ∈ pending, Fitting frame := by
  cases move with
  | createEth | createToken | deploy | terminate =>
    intro frame member
    rw [List.mem_singleton.mp member]
    trivial
  | updateEth | updateToken | activate | register | bindMultisig | administer =>
    intro frame member
    cases member
  | unbond | registry =>
    intro frame member
    obtain ⟨inner, -, rfl⟩ := List.mem_map.mp member
    trivial
  | activateToken _ ran =>
    intro frame member
    rw [List.mem_singleton.mp member]
    obtain ⟨-, -, ⟨-, wrong, -⟩ | ⟨_, _, secured, -⟩⟩ := activateRegistrationTokenDeposit_ok ran
    · cases wrong
    · exact ⟨known.secured secured, _, rfl⟩
  | registerToken _ _ ran =>
    intro frame member
    rw [List.mem_singleton.mp member]
    obtain ⟨-, -, ⟨-, wrong, -⟩ | ⟨_, secured, -⟩⟩ := registerAgentsTokenDeposit_ok ran
    · cases wrong
    · exact ⟨known.secured secured, _, rfl⟩
  | terminateToken _ ran =>
    intro frame member
    rw [List.mem_singleton.mp member]
    obtain ⟨-, -, ⟨-, wrong, -⟩ | ⟨_, secured, -⟩⟩ := terminateTokenRefund_ok ran
    · cases wrong
    · exact ⟨known.secured secured, _, rfl⟩
  | unbondToken _ ran =>
    intro frame member
    rw [List.mem_singleton.mp member]
    obtain ⟨-, -, ⟨-, wrong, -⟩ | ⟨secured, -⟩⟩ := unbondTokenRefund_ok ran
    · cases wrong
    · exact ⟨known.secured secured, _, rfl⟩
  | @utility asked out direct ran =>
    subst direct
    have foreign : w.utility.store.manager ≠ asked.sender := by
      rw [known.authority]
      exact fun same => other (Subtype.ext same.symm)
    have kind := utility_byOther foreign ran
    generalize out.state = u, out.pending = inner at kind ⊢
    intro frame member
    obtain ⟨held, pushed, rfl⟩ := List.mem_map.mp member
    cases kind with
    | slash | administer => cases pushed
    | @drain _ _ _ push ran =>
      cases push with
      | none => cases pushed
      | some push => exact ⟨push, List.mem_singleton.mp pushed⟩

theorem return_fitting {frame : SystemFrame} {answer : SystemAnswer}
    (move : SystemReturn setup w answer frame w' pending) : ∀ next ∈ pending, Fitting next := by
  intro next member
  rcases move.waits member with ⟨_, rfl⟩ | ⟨_, rfl⟩ <;> trivial

end Authority

section Runs
variable {setup : Setup}

theorem jointShape_preserved (setup : Setup) :
    Preserved (systemMachine setup) (jointDiscipline setup) always (ManagerShape setup) :=
  (managerShape_preserved setup).restrict (fun _ _ allowed => allowed.1) fun _ _ _ _ => trivial

/-- The calls of the manager stay within the bound on the Ids. -/
theorem passed_bounded {call : SystemCall} {w : SystemWorld} {passed : RegistryCall}
    (room : SystemCall.mints call = true → w.registry.store.totalSupply + 1 < 2 ^ 32)
    (passes : Passed setup call passed) : Bounded passed w.registry := by
  rcases passes with rfl | forwarded
  · cases passed with
    | create => exact room rfl
    | _ => trivial
  · cases forwarded with
    | create asked =>
      refine room ?_
      cases call with
      | manager call => cases call <;> first | rfl | cases asked
      | registry | utility => cases asked
    | _ => trivial

theorem jointRegistry_preserved (setup : Setup) :
    Preserved (systemMachine setup) (jointDiscipline setup) (ManagerShape setup)
      fun w frames => RegistryBase w.registry (frames.flatMap registryFrame) := by
  refine registry_lift (D := ⟨Bounded, fun _ _ _ => True⟩)
    (registryBase_preserved fun _ _ allowed => allowed) ?_ ?_ fun _ _ _ => trivial
  · exact fun call w passed allowed passes => passed_bounded allowed.2.2 passes
  · intro actor passed r forwarded
    cases forwarded with
    | create asked => cases asked
    | _ => trivial

theorem managed_preserved (setup : Setup) :
    Preserved (systemMachine setup) (jointDiscipline setup) always (Managed setup) := by
  intro w frames w' frames' taken _ before
  have shape := jointShape_preserved setup _ _ _ _ taken trivial before.shape
  have registry := jointRegistry_preserved setup _ _ _ _ taken before.shape before.registry
  have guarded := before.registry.1.registered.guarded
  have assemble : ∀ kept : UtilityKept w w',
      w.registry.store.totalSupply ≤ w'.registry.store.totalSupply →
      (∀ frame ∈ frames', Fitting frame) → Managed setup w' frames' := by
    intro kept grown fitting
    refine ⟨shape, registry, kept.manager.trans before.authority, ?_, fitting⟩
    intro serviceId secured
    rcases kept.recorded serviceId secured with old | new
    · exact ⟨(before.recorded serviceId old).1, le_trans (before.recorded serviceId old).2 grown⟩
    · exact new
  cases taken with
  | entered call allowed ran =>
    have move := SystemWorld.enter_move ran
    refine assemble (move_utilityKept before allowed.1.1 allowed.2.1 move)
      (registryPart_supply (move_registryPart move) guarded) ?_
    intro frame member
    rcases List.mem_append.mp member with new | old
    · exact move_fitting before allowed.1.1 move frame new
    · exact before.fitting frame old
  | @resumed frame rest out answer allowed ran =>
    have move := SystemWorld.resume_return ran
    refine assemble (return_utilityKept move) (registryPart_supply (return_registryPart
      (before.shape.real frame List.mem_cons_self) move) guarded) ?_
    intro next member
    rcases List.mem_append.mp member with new | old
    · exact return_fitting move next new
    · exact before.fitting next (List.mem_cons_of_mem _ old)

/-- Simulation: every piece of the system's code is a step of the escrow. -/
theorem local_escrow {w w' : SystemWorld} {frames frames' : List SystemFrame}
    (known : Managed setup w frames)
    (taken : Local (systemMachine setup) (jointDiscipline setup) w frames w' frames') :
    (escrow w frames).Step (escrow w' frames') := by
  cases taken with
  | entered call allowed ran =>
    refine move_escrow known allowed.1.1 (fun creates => allowed.2.2 ?_)
      (SystemWorld.enter_move ran)
    cases call with
    | manager call => cases call <;> first | rfl | cases creates
    | registry | utility => cases creates
  | resumed answer allowed ran => exact return_escrow known (SystemWorld.resume_return ran)

/-- Rule for invariants of the escrow. -/
theorem escrow_preserved {P : Escrow → Prop} (keep : ∀ e e', P e → e.Step e' → P e') :
    Preserved (systemMachine setup) (jointDiscipline setup) (Managed setup)
      fun w frames => P (escrow w frames) :=
  fun _ _ _ _ taken known before => keep _ _ before (local_escrow known taken)

end Runs
end AutonolasRegistries.Guarantees
