import Mathlib.Data.Fintype.Card
import AutonolasRegistries.Guarantees.ServiceIsolation
import AutonolasRegistries.Library.Dependencies
import AutonolasRegistries.Source.UnitEffects

/-!
# Subcomponents are closures

The closure of the dependencies is never searched for. A new component stores the merge of
the lists of its dependencies and itself, an agent the merge of the lists of its
components, a deployed service the merge of the lists of its agents. Each list is written
once, from lists that are closures already, and what is created later is not reachable
from them. `UnitRegistry.sol:49-114`, `ServiceRegistry.sol:488-542`, `:603-660`.
-/
namespace AutonolasRegistries.Guarantees
open Library Source

/-- The stored dependencies, as a graph on Ids. -/
def dependencies (s : UnitState) (unitId : Nat) : List Nat :=
  (s.mapUnits unitId).dependencies.map Fin.val

theorem mem_dependencies {s : UnitState} {unitId d : Nat} :
    d ∈ dependencies s unitId ↔ ∃ x ∈ (s.mapUnits unitId).dependencies, x.val = d :=
  List.mem_map

/-- The components a unit with these dependencies is built from. -/
def BuiltFrom (components : UnitState) (direct : List Uint32) (x : Uint32) : Prop :=
  ∃ d ∈ direct, Reaches (dependencies components) d.val x.val

structure ComponentBook (s : UnitState) : Prop where
  supply : s.totalSupply < 2 ^ 32 - 1
  unlisted : ∀ c, c = 0 ∨ s.totalSupply < c →
    (s.mapUnits c).dependencies = [] ∧ s.mapSubComponents c = []
  below : ∀ c, ∀ d ∈ (s.mapUnits c).dependencies, 0 < d.val ∧ d.val < c
  ascending : ∀ c, (s.mapSubComponents c).Pairwise (· < ·)
  members : ∀ c, 0 < c → c ≤ s.totalSupply →
    ∀ x : Uint32, x ∈ s.mapSubComponents c ↔ Reaches (dependencies s) c x.val

/-- An ascending list of positive Ids is shorter than the range of its type. -/
theorem length_ascending {ids : List Uint32} (ascending : ids.Pairwise (· < ·))
    (positive : ∀ x ∈ ids, 0 < x) : ids.length < 2 ^ 32 := by
  have unique : (0 :: ids).Nodup := by
    refine List.nodup_cons.mpr ⟨fun zero => lt_irrefl _ (positive 0 zero), ?_⟩
    exact ascending.imp fun less => ne_of_lt less
  have size := unique.length_le_card
  rw [Fintype.card_fin, List.length_cons] at size
  exact size

/-- Ascending lists of positive Ids below the largest one. -/
theorem mergeable_of {lists : Uint32 → List Uint32} {units : List Uint32}
    (few : units.length < 2 ^ 32)
    (sorted : ∀ u ∈ units, (lists u).Pairwise (· < ·))
    (bounds : ∀ u ∈ units, ∀ x ∈ lists u, 0 < x ∧ x < 4294967295) :
    UnitRegistry.Mergeable (UnitRegistry.listsOf lists units) := by
  have named : ∀ l ∈ UnitRegistry.listsOf lists units, ∃ u ∈ units, lists u = l :=
    fun l member => List.mem_map.mp member
  refine ⟨?_, fun l member => ?_, fun l member => ?_, fun l member x here => ?_,
    fun l member x here => ?_⟩
  · rwa [UnitRegistry.listsOf, List.length_map]
  · obtain ⟨u, listed, rfl⟩ := named l member
    exact length_ascending (sorted u listed) fun x here => (bounds u listed x here).1
  · obtain ⟨u, listed, rfl⟩ := named l member
    exact sorted u listed
  · obtain ⟨u, listed, rfl⟩ := named l member
    exact (bounds u listed x here).1
  · obtain ⟨u, listed, rfl⟩ := named l member
    exact (bounds u listed x here).2

namespace ComponentBook
variable {s s' : UnitState}

theorem deps_below (book : ComponentBook s) (a : Nat) : ∀ b ∈ dependencies s a, b < a := by
  intro b member
  obtain ⟨x, here, rfl⟩ := mem_dependencies.mp member
  exact (book.below a x here).2

theorem reaches_pos (book : ComponentBook s) {a x : Nat} (path : Reaches (dependencies s) a x)
    (positive : 0 < a) : 0 < x := by
  induction path with
  | refl => exact positive
  | @tail b c _ step _ =>
    obtain ⟨y, here, rfl⟩ := mem_dependencies.mp step
    exact (book.below b y here).1

/-- What units on existing components are built from are existing components. -/
theorem builtFrom_bounds (book : ComponentBook s) {direct : List Uint32}
    (known : ∀ d ∈ direct, 0 < d.val ∧ d.val ≤ s.totalSupply) {x : Uint32}
    (built : BuiltFrom s direct x) : 0 < x ∧ x < 4294967295 := by
  obtain ⟨d, member, path⟩ := built
  obtain ⟨positive, listed⟩ := known d member
  have low : 0 < x.val := book.reaches_pos path positive
  have high := path.le book.deps_below
  have supply := book.supply
  refine ⟨low, ?_⟩
  change x.val < 4294967295
  omega

theorem mergeable (book : ComponentBook s) {direct : List Uint32}
    (ascending : direct.Pairwise (· < ·))
    (known : ∀ d ∈ direct, 0 < d.val ∧ d.val ≤ s.totalSupply) :
    UnitRegistry.Mergeable
      (UnitRegistry.listsOf (fun d => s.mapSubComponents d.val) direct) := by
  refine mergeable_of (length_ascending ascending fun d listed => (known d listed).1)
    (fun d _ => book.ascending d.val) fun d listed x here => ?_
  have path := (book.members d.val (known d listed).1 (known d listed).2 x).mp here
  exact book.builtFrom_bounds known ⟨d, listed, path⟩

/-- A merge of the lists of existing components is what they are built from. -/
theorem merged (book : ComponentBook s) {direct result : List Uint32}
    (ascending : direct.Pairwise (· < ·))
    (known : ∀ d ∈ direct, 0 < d.val ∧ d.val ≤ s.totalSupply)
    (ran : UnitRegistry.calculateSubComponents (fun d => s.mapSubComponents d.val) direct =
      .ok result) :
    result.Pairwise (· < ·) ∧ ∀ x, x ∈ result ↔ BuiltFrom s direct x := by
  obtain ⟨sorted, members⟩ :=
    UnitRegistry.calculateSubComponents_ok (book.mergeable ascending known) ran
  refine ⟨sorted, fun x => (members x).trans (exists_congr fun d => and_congr_right fun listed => ?_)⟩
  exact book.members d.val (known d listed).1 (known d listed).2 x

theorem dependencies_created {unitHash : Bytes32} {direct : List Uint32} {unitId : Nat}
    (units : s'.mapUnits = Function.update s.mapUnits unitId ⟨unitHash, direct⟩) :
    dependencies s' = Function.update (dependencies s) unitId (direct.map Fin.val) := by
  funext c
  simp only [dependencies, units, Function.update_apply]
  split <;> rfl

/-- A new component is not seen by the old ones. -/
theorem reaches_old (book : ComponentBook s) {list : List Nat} {a x : Nat}
    (listed : a ≤ s.totalSupply) :
    Reaches (Function.update (dependencies s) (s.totalSupply + 1) list) a x ↔
      Reaches (dependencies s) a x := by
  have closed : ∀ b, b ≤ s.totalSupply → ∀ c ∈ dependencies s b, c ≤ s.totalSupply :=
    fun b here c member => le_of_lt (lt_of_lt_of_le (book.deps_below b c member) here)
  exact reaches_update closed (Nat.not_succ_le_self _) list listed

theorem builtFrom_old (book : ComponentBook s) {unitHash : Bytes32} {added direct : List Uint32}
    (units : s'.mapUnits = Function.update s.mapUnits (s.totalSupply + 1) ⟨unitHash, added⟩)
    (known : ∀ d ∈ direct, 0 < d.val ∧ d.val ≤ s.totalSupply) (x : Uint32) :
    BuiltFrom s' direct x ↔ BuiltFrom s direct x := by
  unfold BuiltFrom
  rw [dependencies_created units]
  exact exists_congr fun d => and_congr_right fun listed => book.reaches_old (known d listed).2

/-- What a new component reaches: itself and what its dependencies reach. -/
theorem reaches_new (book : ComponentBook s) {unitHash : Bytes32} {direct : List Uint32}
    (units : s'.mapUnits = Function.update s.mapUnits (s.totalSupply + 1) ⟨unitHash, direct⟩)
    (known : ∀ d ∈ direct, 0 < d.val ∧ d.val ≤ s.totalSupply) (x : Uint32) :
    Reaches (dependencies s') (s.totalSupply + 1) x.val ↔
      BuiltFrom s direct x ∨ x = Fin.ofNat _ (s.totalSupply + 1) := by
  have fits : (s.totalSupply + 1) % 2 ^ 32 = s.totalSupply + 1 := by
    have := book.supply
    exact Nat.mod_eq_of_lt (by omega)
  have self : s.totalSupply + 1 = x.val ↔ x = Fin.ofNat _ (s.totalSupply + 1) := by
    rw [Fin.ext_iff, Fin.val_ofNat, fits]
    exact eq_comm
  have below : (∃ b ∈ dependencies s' (s.totalSupply + 1), Reaches (dependencies s') b x.val) ↔
      BuiltFrom s direct x := by
    rw [← book.builtFrom_old units known x, dependencies_created units, Function.update_self]
    simp only [List.mem_map, exists_exists_and_eq_and]
    unfold BuiltFrom
    rw [dependencies_created units]
  rw [reaches_iff, self, below]
  exact or_comm

theorem created (book : ComponentBook s) (bound : s.totalSupply + 1 < 2 ^ 32 - 1)
    {unitHash : Bytes32} {direct result : List Uint32} (ascending : direct.Pairwise (· < ·))
    (known : ∀ d ∈ direct, 0 < d.val ∧ d.val ≤ s.totalSupply)
    (ran : UnitRegistry.calculateSubComponents (fun d => s.mapSubComponents d.val) direct =
      .ok result)
    (units : s'.mapUnits = Function.update s.mapUnits (s.totalSupply + 1) ⟨unitHash, direct⟩)
    (subComponents : s'.mapSubComponents = Function.update s.mapSubComponents
      (s.totalSupply + 1) (result ++ [Fin.ofNat _ (s.totalSupply + 1)]))
    (supply : s'.totalSupply = s.totalSupply + 1) : ComponentBook s' := by
  obtain ⟨sorted, members⟩ := book.merged ascending known ran
  refine ⟨by omega, fun c outside => ?_, fun c d listed => ?_, fun c => ?_,
    fun c positive listed x => ?_⟩
  · have different : c ≠ s.totalSupply + 1 := by omega
    rw [units, subComponents, Function.update_of_ne different, Function.update_of_ne different]
    exact book.unlisted c (by omega)
  · rw [units, Function.update_apply] at listed
    split at listed
    · next same =>
      have := known d listed
      omega
    · exact book.below c d listed
  · rw [subComponents, Function.update_apply]
    split
    · refine List.pairwise_append.mpr ⟨sorted, List.pairwise_singleton _ _, ?_⟩
      intro x member y last
      obtain ⟨d, listed, path⟩ := (members x).mp member
      have low := path.le book.deps_below
      have high := (known d listed).2
      rw [List.mem_singleton.mp last, Fin.lt_def, Fin.val_ofNat, Nat.mod_eq_of_lt (by omega)]
      omega
    · exact book.ascending c
  · rw [subComponents, Function.update_apply]
    split
    · next same =>
      rw [same, book.reaches_new units known x, List.mem_append, members x, List.mem_singleton]
    · next different =>
      rw [dependencies_created units, book.reaches_old (by omega)]
      exact book.members c positive (by omega) x

theorem change (book : ComponentBook s) {call : UnitCall}
    (bound : ∀ sender unitOwner unitHash direct,
      call = .create sender unitOwner unitHash direct → s.totalSupply + 1 < 2 ^ 32 - 1)
    (changed : UnitChange .component s s s' call) : ComponentBook s' := by
  cases changed with
  | created ascending known merged units subComponents supply =>
    have low := book.supply
    have fits : s.totalSupply % 2 ^ 32 = s.totalSupply := Nat.mod_eq_of_lt (by omega)
    rw [fits] at known
    rw [if_pos rfl] at subComponents
    exact book.created (bound _ _ _ _ rfl) ascending known merged units subComponents supply
  | kept units subComponents supply =>
    obtain ⟨low, unlisted, below, ascending, members⟩ := book
    have same : dependencies s' = dependencies s := by
      unfold dependencies
      rw [units]
    refine ⟨supply ▸ low, ?_, units ▸ below, subComponents ▸ ascending, ?_⟩
    · rw [units, subComponents, supply]
      exact unlisted
    · rw [same, subComponents, supply]
      exact members

end ComponentBook

structure AgentBook (components s : UnitState) : Prop where
  unlisted : ∀ a, s.totalSupply < a →
    (s.mapUnits a).dependencies = [] ∧ s.mapSubComponents a = []
  known : ∀ a, ∀ d ∈ (s.mapUnits a).dependencies, 0 < d.val ∧ d.val ≤ components.totalSupply
  ascending : ∀ a, (s.mapSubComponents a).Pairwise (· < ·)
  members : ∀ a, ∀ x : Uint32,
    x ∈ s.mapSubComponents a ↔ BuiltFrom components (s.mapUnits a).dependencies x

namespace AgentBook
variable {components components' s s' : UnitState} {call : UnitCall}

theorem change (book : AgentBook components s) (lower : ComponentBook components)
    (changed : UnitChange .agent components s s' call) : AgentBook components s' := by
  cases changed with
  | created ascending known merged units subComponents supply =>
    have low := lower.supply
    have fits : components.totalSupply % 2 ^ 32 = components.totalSupply :=
      Nat.mod_eq_of_lt (by omega)
    rw [fits] at known
    rw [if_neg (by decide)] at subComponents
    obtain ⟨sorted, members⟩ := lower.merged ascending known merged
    refine ⟨fun a outside => ?_, fun a => ?_, fun a => ?_, fun a => ?_⟩
    · have different : a ≠ s.totalSupply + 1 := by omega
      rw [units, subComponents, Function.update_of_ne different, Function.update_of_ne different]
      exact book.unlisted a (by omega)
    · rw [units, Function.update_apply]
      split
      · exact known
      · exact book.known a
    · rw [subComponents, Function.update_apply]
      split
      · exact sorted
      · exact book.ascending a
    · rw [units, subComponents, Function.update_apply, Function.update_apply]
      split
      · exact members
      · exact book.members a
  | kept units subComponents supply =>
    obtain ⟨unlisted, known, ascending, members⟩ := book
    refine ⟨?_, units ▸ known, subComponents ▸ ascending, ?_⟩
    · rw [units, subComponents, supply]
      exact unlisted
    · rw [units, subComponents]
      exact members

/-- New components do not change what an agent is built from. -/
theorem grow (book : AgentBook components s) (lower : ComponentBook components)
    (changed : UnitChange .component components components components' call) :
    AgentBook components' s := by
  obtain ⟨unlisted, known, ascending, members⟩ := book
  cases changed with
  | created _ _ _ units _ supply =>
    refine ⟨unlisted, fun a d listed => ?_, ascending, fun a x => ?_⟩
    · have := known a d listed
      omega
    · rw [members a x, lower.builtFrom_old units (known a) x]
  | kept units _ supply =>
    refine ⟨unlisted, supply ▸ known, ascending, fun a x => ?_⟩
    unfold BuiltFrom dependencies
    rw [units]
    exact members a x

/-- An agent that exists keeps its list. -/
theorem kept_list (changed : UnitChange .agent components s s' call) {a : Nat}
    (listed : a ≤ s.totalSupply) :
    s'.mapSubComponents a = s.mapSubComponents a ∧ a ≤ s'.totalSupply := by
  cases changed with
  | created _ _ _ _ subComponents supply =>
    rw [subComponents, Function.update_of_ne (by omega)]
    exact ⟨rfl, by omega⟩
  | kept _ subComponents supply =>
    rw [subComponents]
    exact ⟨rfl, by omega⟩

end AgentBook

/-- The set of a service with the given record. -/
structure ServiceSet (agents : UnitState) (service : Service) (set : List Uint32) : Prop where
  ids : ∀ a ∈ service.agentIds, 0 < a.val ∧ a.val ≤ agents.totalSupply
  ordered : service.agentIds.Pairwise (· < ·)
  deployed : service.state = .deployed → set.Pairwise (· < ·) ∧
    ∀ x, x ∈ set ↔ ∃ a ∈ service.agentIds, x ∈ agents.mapSubComponents a.val
  idle : service.state ≠ .deployed → set = []

def ServiceSets (agents : UnitState) (s : RegistryState) : Prop :=
  ∀ serviceId, ServiceSet agents (s.mapServices serviceId)
    (s.mapServiceIdSetComponentIds serviceId)

section Services
variable {components agents agents' : UnitState} {s s' : RegistryState} {serviceId : Nat}

/-- A service that is not deployed keeps an empty set while its state changes. -/
theorem ServiceSet.idled {service service' : Service} {set : List Uint32}
    (before : ServiceSet agents service set) (ids : service'.agentIds = service.agentIds)
    (was : service.state ≠ .deployed) (is : service'.state ≠ .deployed) :
    ServiceSet agents service' set :=
  ⟨ids ▸ before.ids, ids ▸ before.ordered, fun state => absurd state is, fun _ => before.idle was⟩

/-- Only the record of one service is written. -/
theorem ServiceSets.rewrite (before : ServiceSets agents s) {service : Service}
    (services : s'.mapServices = Function.update s.mapServices serviceId service)
    (sets : s'.mapServiceIdSetComponentIds = s.mapServiceIdSetComponentIds)
    (here : ServiceSet agents service (s.mapServiceIdSetComponentIds serviceId)) :
    ServiceSets agents s' := by
  intro other
  rw [services, sets, Function.update_apply]
  split
  · next same =>
    subst same
    exact here
  · exact before other

theorem ServiceSets.grow {call : UnitCall} (before : ServiceSets agents s)
    (changed : UnitChange .agent components agents agents' call) : ServiceSets agents' s := by
  intro serviceId
  obtain ⟨ids, ordered, deployed, idle⟩ := before serviceId
  refine ⟨fun a listed => ?_, ordered, fun state => ?_, idle⟩
  · exact ⟨(ids a listed).1, (AgentBook.kept_list changed (ids a listed).2).2⟩
  · obtain ⟨sorted, members⟩ := deployed state
    refine ⟨sorted, fun x => (members x).trans (exists_congr fun a => and_congr_right fun listed => ?_)⟩
    rw [(AgentBook.kept_list changed (ids a listed).2).1]

/-- The Ids of a configuration that went through. -/
theorem kept_ids {agentIds : List Uint32} {agentParams : List AgentParams}
    {keep : Uint32 × AgentParams → Bool} {x : Uint32}
    (member : x ∈ ((agentIds.zip agentParams).filter keep).map Prod.fst) : x ∈ agentIds := by
  obtain ⟨e, kept, rfl⟩ := List.mem_map.mp member
  exact (List.of_mem_zip (List.mem_filter.mp kept).1).1

theorem ServiceSets.enter {w : RegistryWorld} {call : RegistryCall}
    {out : Outcome RegistryWorld RegistryFrame} (registered : Registered w.store)
    (before : ServiceSets agents w.store)
    (taken : RegistryTransition .l1 w (call.withAgents agents.totalSupply) out) :
    ServiceSets agents out.state.store := by
  generalize named : call.withAgents agents.totalSupply = actual at taken
  cases taken with
  | create ran =>
    cases call <;> cases named
    have known := ServiceRegistry.create_known ran
    obtain ⟨⟨-, -, -, -, -, sorted, -⟩, rfl, rfl⟩ := ServiceRegistry.create_ok ran
    have fresh := (registered.unlisted _ (Or.inr (Nat.lt_succ_self w.store.totalSupply))).1
    refine before.rewrite rfl rfl ⟨known, sorted, (fun state => by cases state), fun _ => ?_⟩
    exact (before _).idle (by rw [fresh]; decide)
  | update ran =>
    cases call <;> cases named
    have known := ServiceRegistry.update_known ran
    obtain ⟨kept, rfl, ⟨-, -, -, state, lengths, sorted, -⟩, hashes, rfl⟩ :=
      ServiceRegistry.update_ok ran
    refine before.rewrite rfl rfl ⟨fun a listed => known a (kept_ids listed), ?_, ?_, ?_⟩
    · exact ServiceRegistry.kept_ordered lengths sorted _
    · intro deployed
      simp only [state] at deployed
      cases deployed
    · exact fun _ => (before _).idle (by rw [state]; decide)
  | activateRegistration ran =>
    obtain ⟨⟨-, -, -, state, -⟩, rfl⟩ := ServiceRegistry.activateRegistration_ok ran
    exact before.rewrite rfl rfl
      ((before _).idled rfl (by rw [state]; decide) (by simp))
  | registerAgents ran =>
    obtain ⟨-, ⟨-, -, state, -⟩, -, -⟩ := ServiceRegistry.registerAgents_ok ran
    obtain ⟨mid, -, rfl⟩ := ServiceRegistry.registerAgents_done ran
    refine before.rewrite rfl rfl ((before _).idled rfl (by rw [state]; decide) ?_)
    simp only [state]
    split <;> decide
  | deploy ran =>
    obtain ⟨-, -, rfl⟩ := ServiceRegistry.deploy_ok ran
    exact before
  | slash ran =>
    obtain ⟨slashed, balances, rfl, -⟩ :=
      ServiceRegistry.slashLoop_frame (ServiceRegistry.slash_ok ran).2
    exact before
  | @terminate _ _ serviceId s' _ ran =>
    have cleared : ∀ other, s'.mapServiceIdSetComponentIds other =
        if other = serviceId then [] else w.store.mapServiceIdSetComponentIds other := by
      intro other
      have set := congrArg (fun kept => kept.2.1) (terminate_archive ran other)
      by_cases same : other = serviceId <;> simpa [archive, clearedArchive, same] using set
    obtain ⟨-, -, components, sets, rfl⟩ := ServiceRegistry.terminate_ok ran
    intro other
    simp only [Outcome.state_suspended] at cleared ⊢
    rw [cleared other, Function.update_apply]
    split
    · obtain ⟨ids, ordered, -, -⟩ := before serviceId
      refine ⟨ids, ordered, fun state => ?_, fun _ => rfl⟩
      simp only at state
      split at state <;> cases state
    · exact before other
  | unbond ran =>
    obtain ⟨instances, -, ⟨-, -, -, state, -⟩, -, rfl⟩ := ServiceRegistry.unbond_ok ran
    rw [RegistryWorld.refunding_store]
    split <;>
    · refine before.rewrite rfl rfl ((before _).idled rfl (by rw [state]; decide) ?_)
      simp only [state]
      split <;> decide
  | drain ran =>
    obtain ⟨-, -, rfl⟩ := ServiceRegistry.drain_ok ran
    rw [RegistryWorld.refunding_store]
    split <;> exact before
  | administer => exact before

theorem ServiceSets.deployed (lower : ComponentBook components)
    (book : AgentBook components agents) (before : ServiceSets agents s) {multisig : Address}
    {subComponents : List Uint32}
    (ran : UnitRegistry.calculateSubComponents (fun a => agents.mapSubComponents a.val)
      (s.mapServices serviceId).agentIds = .ok subComponents) :
    ServiceSets agents (ServiceRegistry.deployReturn .l1 serviceId multisig subComponents s) := by
  intro other
  simp only [ServiceRegistry.deployReturn, ServiceRegistry.unlock, if_true, Function.update_apply]
  split
  · obtain ⟨ids, ordered, -, -⟩ := before serviceId
    have mergeable := mergeable_of (length_ascending ordered fun a listed => (ids a listed).1)
      (fun a _ => book.ascending a.val) fun a _ x here =>
        lower.builtFrom_bounds (book.known a.val) ((book.members a.val x).mp here)
    refine ⟨ids, ordered, fun _ => ?_, fun idle => absurd rfl idle⟩
    exact UnitRegistry.calculateSubComponents_ok mergeable ran
  · exact before other

end Services

/-- The suspended calls of the service registry. -/
def serviceFrames : UnitsFrame → List RegistryFrame
  | .service frame => [frame]
  | .component | .agent => []

structure UnitBooks (w : UnitsWorld) (frames : List UnitsFrame) : Prop where
  components : ComponentBook w.components
  agents : AgentBook w.components w.agents
  shape : RegistryShape w.services.store (frames.flatMap serviceFrames)
  services : ServiceSets w.agents w.services.store

/-- The components stay below the largest Id. -/
def unitsDiscipline : Discipline UnitsWorld UnitsCall UnitsFrame UnitsAnswer where
  call call w := match call with
    | .component (.create ..) => w.components.totalSupply + 1 < 2 ^ 32 - 1
    | _ => True
  answer _ _ _ := True

theorem unitBooks_preserved : Preserved unitsMachine unitsDiscipline always UnitBooks := by
  intro w frames w' frames' taken _ before
  obtain ⟨components, agents, shape, services⟩ := before
  cases taken with
  | entered call allowed ran =>
    cases call with
    | component call =>
      simp only [unitsMachine, UnitsWorld.enter, bind_eq_ok, pure_eq_ok] at ran
      obtain ⟨out, ran, rfl⟩ := ran
      have changed := UnitState.enter_change ran
      have bound : ∀ sender unitOwner unitHash direct,
          call = .create sender unitOwner unitHash direct →
            w.components.totalSupply + 1 < 2 ^ 32 - 1 := by
        rintro _ _ _ _ rfl
        exact allowed
      simp only [Outcome.state_embed, Outcome.pending_embed]
      refine ⟨components.change bound changed, agents.grow components changed, ?_, services⟩
      rw [frames_other fun _ => rfl]
      exact shape
    | agent call =>
      simp only [unitsMachine, UnitsWorld.enter, bind_eq_ok, pure_eq_ok] at ran
      obtain ⟨out, ran, rfl⟩ := ran
      have changed := UnitState.enter_change ran
      simp only [Outcome.state_embed, Outcome.pending_embed]
      refine ⟨components, agents.change components changed, ?_, services.grow changed⟩
      rw [frames_other fun _ => rfl]
      exact shape
    | service call =>
      simp only [unitsMachine, UnitsWorld.enter, bind_eq_ok, pure_eq_ok] at ran
      obtain ⟨out, ran, rfl⟩ := ran
      have kind := RegistryWorld.enter_transition shape.registered.guarded ran
      simp only [Outcome.state_embed, Outcome.pending_embed]
      refine ⟨components, agents, ?_, services.enter shape.registered kind⟩
      rw [frames_own fun _ => rfl]
      exact shape.enter kind
  | @resumed frame frames out answer allowed ran =>
    cases frame with
    | component =>
      cases ran
      obtain ⟨supply, unlisted, below, ascending, members⟩ := components
      obtain ⟨unlisted', known, ascending', members'⟩ := agents
      exact ⟨⟨supply, unlisted, below, ascending, members⟩,
        ⟨unlisted', known, ascending', members'⟩, shape, services⟩
    | agent =>
      cases ran
      obtain ⟨unlisted, known, ascending, members⟩ := agents
      refine ⟨components, ⟨unlisted, known, ascending, members⟩, shape, fun serviceId => ?_⟩
      obtain ⟨ids, ordered, deployed, idle⟩ := services serviceId
      exact ⟨ids, ordered, deployed, idle⟩
    | service frame =>
      simp only [unitsMachine, UnitsWorld.resume, bind_eq_ok, pure_eq_ok] at ran
      obtain ⟨subComponents, read, out, ran, rfl⟩ := ran
      simp only [Outcome.state_embed, Outcome.pending_embed]
      have after := RegistryShape.resume shape ran
      refine ⟨components, agents, ?_, ?_⟩
      · rw [frames_own fun _ => rfl]
        exact after
      · cases RegistryWorld.resume_return ran with
        | create => exact services
        | refund => exact services
        | deploy serviceId => exact services.deployed components agents read

theorem unitBooks_deployment (deployer : Address) :
    UnitBooks (UnitsWorld.deployment deployer) [] := by
  have none : ∀ x : Uint32, x ∈ ([] : List Uint32) ↔
      BuiltFrom (UnitRegistry.deployment deployer) [] x := by
    intro x
    simp [BuiltFrom]
  have supply : (0 : Nat) < 2 ^ 32 - 1 := by decide
  refine ⟨⟨supply, fun _ _ => ⟨rfl, rfl⟩, (fun _ _ member => by cases member),
    fun _ => List.Pairwise.nil, fun c positive below => ?_⟩,
    ⟨fun _ _ => ⟨rfl, rfl⟩, (fun _ _ member => by cases member), fun _ => List.Pairwise.nil,
      fun _ => none⟩,
    (registryBase_deployment deployer).1,
    fun _ => ⟨(fun _ member => by cases member), List.Pairwise.nil,
      (fun state => by cases state), fun _ => rfl⟩⟩
  change c ≤ 0 at below
  omega

/-- A stored list has exactly the given members. -/
structure ExactList (ids : List Uint32) (member : Nat → Prop) : Prop where
  ascending : ids.Pairwise (· < ·)
  exact : ∀ x, x ∈ ids.map Fin.val ↔ member x

theorem ExactList.of_members {ids : List Uint32} {member : Nat → Prop}
    (ascending : ids.Pairwise (· < ·)) (small : ∀ x, member x → x < 2 ^ 32)
    (members : ∀ x : Uint32, x ∈ ids ↔ member x.val) : ExactList ids member := by
  refine ⟨ascending, fun x => ⟨fun here => ?_, fun here => ?_⟩⟩
  · obtain ⟨y, listed, rfl⟩ := List.mem_map.mp here
    exact (members y).mp listed
  · exact List.mem_map.mpr ⟨⟨x, small x here⟩, (members _).mpr here, rfl⟩

/-- In every run of the three registries on L1, the list of a component is what it
reaches, the list of an agent is what its dependencies reach, the set of a deployed
service is the union of the lists of its agents, every other service has an empty set,
and no component depends on itself. -/
theorem subcomponents_are_closures (deployer : Address) {c : Config UnitsWorld UnitsFrame}
    (run : Reachable unitsMachine unitsDiscipline (UnitsWorld.deployment deployer) c) :
    (∀ componentId, 0 < componentId → componentId ≤ c.state.components.totalSupply →
      ExactList (c.state.components.mapSubComponents componentId) fun x =>
        Reaches (dependencies c.state.components) componentId x) ∧
    (∀ agentId, ExactList (c.state.agents.mapSubComponents agentId) fun x =>
      ∃ d ∈ dependencies c.state.agents agentId,
        Reaches (dependencies c.state.components) d x) ∧
    (∀ serviceId, (c.state.services.store.mapServices serviceId).state = .deployed →
      ExactList (c.state.services.store.mapServiceIdSetComponentIds serviceId) fun x =>
        ∃ agentId ∈ (c.state.services.store.mapServices serviceId).agentIds,
          x ∈ (c.state.agents.mapSubComponents agentId.val).map Fin.val) ∧
    (∀ serviceId, (c.state.services.store.mapServices serviceId).state ≠ .deployed →
      c.state.services.store.mapServiceIdSetComponentIds serviceId = []) ∧
    ∀ componentId, ¬ Relation.TransGen (DependsOn (dependencies c.state.components))
      componentId componentId := by
  obtain ⟨components, agents, -, services⟩ :=
    run.invariant unitBooks_preserved (unitBooks_deployment deployer)
  have supply := components.supply
  refine ⟨fun componentId positive listed => ?_, fun agentId => ?_,
    fun serviceId state => ?_, fun serviceId idle => (services serviceId).idle idle,
    acyclic_of_lt components.deps_below⟩
  · refine .of_members (components.ascending componentId) (fun x path => ?_)
      (components.members componentId positive listed)
    have := path.le components.deps_below
    omega
  · refine .of_members (agents.ascending agentId) ?_ fun x => ?_
    · rintro x ⟨d, member, path⟩
      obtain ⟨y, listed, rfl⟩ := mem_dependencies.mp member
      have := path.le components.deps_below
      have := (agents.known agentId y listed).2
      omega
    · rw [agents.members agentId x]
      simp only [BuiltFrom, dependencies, List.mem_map, exists_exists_and_eq_and]
  · obtain ⟨ascending, members⟩ := (services serviceId).deployed state
    refine .of_members ascending ?_ fun x => ?_
    · rintro x ⟨agentId, -, member⟩
      obtain ⟨y, -, rfl⟩ := List.mem_map.mp member
      exact y.isLt
    · rw [members x]
      refine exists_congr fun agentId => and_congr_right fun _ => ?_
      exact ⟨fun here => List.mem_map.mpr ⟨x, here, rfl⟩, fun here => by
        obtain ⟨y, listed, same⟩ := List.mem_map.mp here
        rwa [← Fin.ext same]⟩

section Decidable

instance (call : UnitsCall) (w : UnitsWorld) : Decidable (unitsDiscipline.call call w) :=
  match call with
  | .component (.create ..) =>
    inferInstanceAs (Decidable (w.components.totalSupply + 1 < 2 ^ 32 - 1))
  | .component (.updateHash ..) | .component (.changeOwner ..) | .component (.changeManager ..)
  | .component (.approve ..) | .component (.setApprovalForAll ..)
  | .component (.transferFrom ..) | .agent _ | .service _ => .isTrue trivial

instance (frame : UnitsFrame) (answer : UnitsAnswer) (w : UnitsWorld) :
    Decidable (unitsDiscipline.answer frame answer w) := .isTrue trivial

end Decidable

/-- Component 2 depends on 1, component 3 is apart; an agent on component 2 and a
deployed service with that agent. -/
theorem subcomponents_are_closures_deployed :
    ∃ c, Reachable unitsMachine unitsDiscipline (UnitsWorld.deployment 1) c ∧
      c.state.services.store.mapServiceIdSetComponentIds 1 = [1, 2] ∧
      (∀ x, x ∈ [1, 2] ↔
        ∃ agentId ∈ (c.state.services.store.mapServices 1).agentIds,
          x ∈ (c.state.agents.mapSubComponents agentId.val).map Fin.val) ∧
      (∀ x, x ∈ [1, 2] ↔ Reaches (dependencies c.state.components) 2 x) := by
  obtain ⟨c, run, seen⟩ := Machine.play_observed unitsDiscipline unitsMachine
    (UnitsWorld.deployment 1)
    [.call (.component (.changeManager registryOwner 2)),
      .call (.component (.create registryManager 3 1 [])), .answer ⟨0, true⟩,
      .call (.component (.create registryManager 3 1 [1])), .answer ⟨0, true⟩,
      .call (.component (.create registryManager 3 1 [])), .answer ⟨0, true⟩,
      .call (.agent (.changeManager registryOwner 2)),
      .call (.agent (.create registryManager 3 1 [2])), .answer ⟨0, true⟩,
      .call (.service (.changeManager registryOwner 2)),
      .call (.service (.create registryManager 3 0 1 [1] [⟨1, 1⟩] 1)), .answer ⟨0, true⟩,
      .call (.service (.activateRegistration registryManager 1 3 1)),
      .call (.service (.registerAgents registryManager 1 4 1 [5] [1])),
      .call (.service (.changeMultisigPermission registryOwner 8 true)),
      .call (.service (.deploy registryManager 3 1 8)), .answer ⟨9, true⟩]
    (fun c => (c.state.components.totalSupply, c.state.components.mapSubComponents 2,
      (c.state.services.store.mapServices 1).state,
      c.state.services.store.mapServiceIdSetComponentIds 1))
    (3, [1, 2], .deployed, [1, 2]) (by decide +kernel)
  obtain ⟨supply, rest⟩ := Prod.mk.inj seen
  obtain ⟨list, rest⟩ := Prod.mk.inj rest
  obtain ⟨state, set⟩ := Prod.mk.inj rest
  obtain ⟨components, -, services, -, -⟩ := subcomponents_are_closures 1 run
  have second := (components 2 (by decide) (by
    change c.state.components.totalSupply = 3 at supply
    omega)).exact
  have built := (services 1 state).exact
  rw [set] at built
  rw [list] at second
  exact ⟨c, run, set, built, second⟩

section Merge
variable {getSubComponents : Uint32 → List Uint32} {unitIds : List Uint32}

theorem length_flatten_listsOf :
    (UnitRegistry.listsOf getSubComponents unitIds).flatten.length =
      (unitIds.map fun unitId => (getSubComponents unitId).length).sum := by
  rw [UnitRegistry.listsOf, List.length_flatten, List.map_map]
  rfl

theorem merge_returns (few : unitIds.length < 2 ^ 32)
    (ascending : ∀ unitId ∈ unitIds, (getSubComponents unitId).Pairwise (· < ·))
    (range : ∀ unitId ∈ unitIds, ∀ x ∈ getSubComponents unitId, 1 ≤ x.val ∧ x.val ≤ 2 ^ 32 - 2)
    (total : (unitIds.map fun unitId => (getSubComponents unitId).length).sum < 2 ^ 32) :
    ∃ result, UnitRegistry.calculateSubComponents getSubComponents unitIds = .ok result ∧
      result.Pairwise (· < ·) ∧
      ∀ x, x ∈ result ↔ ∃ unitId ∈ unitIds, x ∈ getSubComponents unitId := by
  have bounds : ∀ unitId ∈ unitIds, ∀ x ∈ getSubComponents unitId, 0 < x ∧ x < 4294967295 := by
    intro unitId listed x here
    obtain ⟨low, high⟩ := range unitId listed x here
    refine ⟨low, ?_⟩
    change x.val < 4294967295
    omega
  have mergeable := mergeable_of few ascending bounds
  rw [← length_flatten_listsOf] at total
  rw [← Nat.zero_add (UnitRegistry.listsOf getSubComponents unitIds).flatten.length] at total
  exact UnitRegistry.calculateSubComponents_merged mergeable
    (UnitRegistry.numComponents_fits total)

end Merge

/-- The merge returns, and what it returns is the union of the lists in ascending order; the
order of the units and their repetitions do not show. -/
theorem merge_exact (getSubComponents : Uint32 → List Uint32) (unitIds : List Uint32)
    (few : unitIds.length < 2 ^ 32)
    (ascending : ∀ unitId ∈ unitIds, (getSubComponents unitId).Pairwise (· < ·))
    (range : ∀ unitId ∈ unitIds, ∀ x ∈ getSubComponents unitId, 1 ≤ x.val ∧ x.val ≤ 2 ^ 32 - 2)
    (total : (unitIds.map fun unitId => (getSubComponents unitId).length).sum < 2 ^ 32) :
    ∃ result, UnitRegistry.calculateSubComponents getSubComponents unitIds = .ok result ∧
      result.Pairwise (· < ·) ∧
      (∀ x, x ∈ result ↔ ∃ unitId ∈ unitIds, x ∈ getSubComponents unitId) ∧
      ∀ others : List Uint32, others.length < 2 ^ 32 →
        (others.map fun unitId => (getSubComponents unitId).length).sum < 2 ^ 32 →
        (∀ unitId, unitId ∈ others ↔ unitId ∈ unitIds) →
        UnitRegistry.calculateSubComponents getSubComponents others = .ok result := by
  obtain ⟨result, returned, sorted, members⟩ := merge_returns few ascending range total
  refine ⟨result, returned, sorted, members, fun others few' total' same => ?_⟩
  obtain ⟨result', returned', sorted', members'⟩ := merge_returns few'
    (fun unitId listed => ascending unitId ((same unitId).mp listed))
    (fun unitId listed => range unitId ((same unitId).mp listed)) total'
  -- Two ascending lists with the same members are equal.
  have equal : result' = result := by
    refine List.Perm.eq_of_pairwise (fun _ _ _ _ below above => absurd above (lt_asymm below))
      sorted' sorted ?_
    refine (List.perm_ext_iff_of_nodup (sorted'.imp ne_of_lt) (sorted.imp ne_of_lt)).mpr fun x => ?_
    rw [members', members]
    exact exists_congr fun unitId => and_congr_left fun _ => same unitId
  rw [returned', equal]

/-- Two overlapping lists; all other units have no components. -/
def overlappingLists (unitId : Uint32) : List Uint32 :=
  if unitId = 1 then [1, 4, 9] else if unitId = 2 then [2, 4] else []

/-- Unit 2 is named twice and unit 3 has no components. -/
theorem merge_exact_overlapping :
    ∃ result, UnitRegistry.calculateSubComponents overlappingLists [2, 1, 3, 2] = .ok result ∧
      result.Pairwise (· < ·) ∧ 4 ∈ result ∧ 3 ∉ result := by
  obtain ⟨result, returned, sorted, members, -⟩ := merge_exact overlappingLists [2, 1, 3, 2]
    (by decide) (by simp [overlappingLists]) (by simp [overlappingLists])
    (by simp [overlappingLists])
  refine ⟨result, returned, sorted, (members 4).mpr (by simp [overlappingLists]), fun listed => ?_⟩
  have found := (members 3).mp listed
  simp [overlappingLists] at found

end AutonolasRegistries.Guarantees
