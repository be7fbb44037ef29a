import AutonolasRegistries.Guarantees.ServicesLinked

/-!
# The agent Id of a multisig

The bridger keeps for every multisig the agent Id of the service that points at it. The
manager moves the entry when a service is deployed on another multisig, and linking a
service writes the entry of the multisig the service points at by then. Both rest on the
manager's bindings: no service may be deployed on a multisig another service points at.
The multisigs of services deployed before the manager had bindings have to be recorded with
`bindMultisig` for that.
-/
namespace AutonolasRegistries.Guarantees
open Library Source IdentityRegistryBridger

/-- No two services share a multisig, and the index of a multisig is the agent Id of the
service that points at it. -/
structure Indexed (pointer : Nat → Address) (agents : Nat → Nat) (index : Address → Nat) :
    Prop where
  apart : ∀ serviceId other, pointer serviceId ≠ 0 → pointer serviceId = pointer other →
    serviceId = other
  zero : index 0 = 0
  read : ∀ serviceId, pointer serviceId ≠ 0 → index (pointer serviceId) = agents serviceId
  found : ∀ multisig, index multisig ≠ 0 → ∃ serviceId, pointer serviceId = multisig

section Index
variable {pointer : Nat → Address} {agents : Nat → Nat} {index : Address → Nat}
  {serviceId agentId : Nat} {multisig : Address}

theorem Indexed.exact (indexed : Indexed pointer agents index) (created : multisig ≠ 0)
    (some : agentId ≠ 0) : index multisig = agentId ↔
      ∃ serviceId, pointer serviceId = multisig ∧ agents serviceId = agentId := by
  constructor
  · rintro rfl
    obtain ⟨serviceId, rfl⟩ := indexed.found multisig some
    exact ⟨serviceId, rfl, (indexed.read serviceId created).symm⟩
  · rintro ⟨serviceId, rfl, rfl⟩
    exact indexed.read serviceId created

/-- An agent Id for a service with no multisig. -/
theorem Indexed.given (indexed : Indexed pointer agents index) (none : pointer serviceId = 0) :
    Indexed pointer (Function.update agents serviceId agentId) index := by
  refine ⟨indexed.apart, indexed.zero, fun other some => ?_, indexed.found⟩
  rw [Function.update_of_ne, indexed.read other some]
  rintro rfl
  exact some none

/-- An agent Id for a service and its multisig. -/
theorem Indexed.linked (indexed : Indexed pointer agents index) (some : pointer serviceId ≠ 0) :
    Indexed pointer (Function.update agents serviceId agentId)
      (Function.update index (pointer serviceId) agentId) := by
  refine ⟨indexed.apart, ?_, fun other created => ?_, fun multisig found => ?_⟩
  · rw [Function.update_of_ne some.symm]
    exact indexed.zero
  · by_cases here : other = serviceId
    · rw [here, Function.update_self, Function.update_self]
    · have elsewhere : pointer other ≠ pointer serviceId := fun same =>
        here (indexed.apart other serviceId created same)
      rw [Function.update_of_ne here, Function.update_of_ne elsewhere]
      exact indexed.read other created
  · by_cases here : multisig = pointer serviceId
    · exact ⟨serviceId, here.symm⟩
    · rw [Function.update_of_ne here] at found
      exact indexed.found multisig found

section Moves
variable (indexed : Indexed pointer agents index) (created : multisig ≠ 0)
  (changed : multisig ≠ pointer serviceId)
  (free : ∀ other, other ≠ serviceId → pointer other ≠ multisig)
include indexed created changed free

omit created in
theorem Indexed.moved_apart (first second : Nat)
    (some : Function.update pointer serviceId multisig first ≠ 0)
    (same : Function.update pointer serviceId multisig first =
      Function.update pointer serviceId multisig second) : first = second := by
  by_cases here : first = serviceId
  · subst here
    rw [Function.update_self] at same
    by_contra other
    rw [Function.update_of_ne (Ne.symm other)] at same
    exact free second (Ne.symm other) same.symm
  · rw [Function.update_of_ne here] at some same
    by_cases there : second = serviceId
    · subst there
      rw [Function.update_self] at same
      exact absurd same (free first here)
    · rw [Function.update_of_ne there] at same
      exact indexed.apart first second some same

omit created in
/-- A service without an agent Id moves: there is nothing to write. -/
theorem Indexed.moved_unlinked (unlinked : agents serviceId = 0) :
    Indexed (Function.update pointer serviceId multisig) agents index := by
  refine ⟨indexed.moved_apart changed free, indexed.zero, fun other some => ?_,
    fun entry found => ?_⟩
  · by_cases here : other = serviceId
    · subst here
      rw [Function.update_self, unlinked]
      by_contra found
      obtain ⟨owner, points⟩ := indexed.found multisig found
      by_cases own : owner = other
      · rw [own] at points
        exact changed points.symm
      · exact free owner own points
    · rw [Function.update_of_ne here] at some ⊢
      exact indexed.read other some
  · obtain ⟨owner, rfl⟩ := indexed.found entry found
    refine ⟨owner, Function.update_of_ne ?_ _ _⟩
    rintro rfl
    have some : pointer owner ≠ 0 := by
      intro none
      rw [none] at found
      exact found indexed.zero
    exact found ((indexed.read owner some).trans unlinked)

/-- A service with an agent Id takes it along. -/
theorem Indexed.moved_linked :
    Indexed (Function.update pointer serviceId multisig) agents
      (movedWallet (agents serviceId) (pointer serviceId) multisig index) := by
  have kept : ∀ entry, entry ≠ multisig → entry ≠ pointer serviceId ∨ entry = 0 →
      movedWallet (agents serviceId) (pointer serviceId) multisig index entry =
        index entry := by
    intro entry other away
    rw [movedWallet, Function.update_of_ne other]
    split
    · next some =>
      refine Function.update_of_ne ?_ _ _
      rcases away with away | rfl
      · exact away
      · exact Ne.symm some
    · rfl
  refine ⟨indexed.moved_apart changed free, ?_, fun other some => ?_,
    fun entry found => ?_⟩
  · rw [kept 0 created.symm (.inr rfl)]
    exact indexed.zero
  · by_cases here : other = serviceId
    · rw [here, Function.update_self, movedWallet, Function.update_self]
    · rw [Function.update_of_ne here] at some ⊢
      rw [kept _ (free other here) (.inl fun same => here (indexed.apart other _ some same))]
      exact indexed.read other some
  · by_cases here : entry = multisig
    · exact ⟨serviceId, by rw [here, Function.update_self]⟩
    · by_cases old : entry = pointer serviceId ∧ entry ≠ 0
      · -- The entry of the last multisig is cleared.
        obtain ⟨rfl, some⟩ := old
        rw [movedWallet, Function.update_of_ne here, if_pos some, Function.update_self] at found
        exact absurd rfl found
      · have away : entry ≠ pointer serviceId ∨ entry = 0 := by
          by_cases zero : entry = 0
          · exact .inr zero
          · exact .inl fun same => old ⟨same, zero⟩
        rw [kept entry here away] at found
        obtain ⟨owner, rfl⟩ := indexed.found entry found
        refine ⟨owner, Function.update_of_ne ?_ _ _⟩
        rintro rfl
        rcases away with away | zero
        · exact away rfl
        · rw [zero] at found
          exact found indexed.zero

end Moves
end Index

/-- A service is deployed on a multisig that no other service points at, or one that is
bound. -/
def Claimed (w : SystemWorld) (serviceId : Nat) (multisig : Address) : Prop :=
  ∀ other, other ≤ w.registry.store.totalSupply → other ≠ serviceId →
    multisigOf w.registry other ≠ 0 → multisigOf w.registry other = multisig →
    w.manager.mapMultisigServiceIds multisig ≠ 0

instance (w : SystemWorld) (serviceId : Nat) (multisig : Address) :
    Decidable (Claimed w serviceId multisig) := Nat.decidableBallLE _ _

/-- Services are only deployed on multisigs that are free or bound. -/
def claimedDiscipline (setup : Setup) (bridger : Address) :
    Discipline BridgedWorld BridgedCall SystemFrame BridgedAnswer where
  call := (bridgedDiscipline setup bridger).call
  answer frame answer w :=
    match frame with
    | .deploy serviceId _ _ => Claimed w.system serviceId answer.system.registry.multisig
    | _ => True

instance (setup : Setup) (bridger : Address) (call : BridgedCall) (w : BridgedWorld) :
    Decidable ((claimedDiscipline setup bridger).call call w) :=
  inferInstanceAs (Decidable ((bridgedDiscipline setup bridger).call call w))

instance (setup : Setup) (bridger : Address) (frame : SystemFrame) (answer : BridgedAnswer)
    (w : BridgedWorld) : Decidable ((claimedDiscipline setup bridger).answer frame answer w) :=
  match frame with
  | .deploy _ _ _ => inferInstanceAs (Decidable (Claimed _ _ _))
  | .registry _ | .utility _ | .create _ _ | .refund _ _ | .activate _ _ _ _
  | .register _ _ _ _ _ _ _ | .terminate _ _ _ | .unbond _ _ _ | .bridger _ => .isTrue trivial

/-- The index of the bridger over the pointers of the registry. A service whose `create` is
running has no multisig. -/
structure IndexBook (w : BridgedWorld) (frames : List SystemFrame) : Prop where
  indexed : Indexed (multisigOf w.system.registry) w.bridger.mapServiceIdAgentIds
    w.bridger.mapMultisigAgentIds
  creating : ∀ serviceId, Creating frames serviceId → multisigOf w.system.registry serviceId = 0

section Parts
variable {setup : Setup} {bridger : Address} {w w' : BridgedWorld}
  {frames frames' : List SystemFrame}

theorem linkRange_indexed {registry : RegistryState} {ids : IdentityAnswer} {b : BridgerState}
    {start count : Nat} (unlinked : ∀ i, i < count → b.mapServiceIdAgentIds (start + i) = 0)
    (before : Indexed (fun serviceId => (registry.mapServices serviceId).multisig)
      b.mapServiceIdAgentIds b.mapMultisigAgentIds) :
    Indexed (fun serviceId => (registry.mapServices serviceId).multisig)
      (linkRange registry ids start count b).mapServiceIdAgentIds
      (linkRange registry ids start count b).mapMultisigAgentIds := by
  refine linkRange_invariant (P := fun b =>
    Indexed (fun serviceId => (registry.mapServices serviceId).multisig)
      b.mapServiceIdAgentIds b.mapMultisigAgentIds) (fun serviceId b _ before => ?_) unlinked
    before
  obtain ⟨requests, -, linked⟩ := linkService_eq registry ids serviceId b
  rw [linked]
  dsimp only
  split
  · next some => exact before.linked some
  · next none => exact before.given (not_not.mp none)

theorem IndexBook.moved {serviceId : Nat} {frame : RegistryFrame} {multisig : Address}
    (book : IndexBook w (.deploy serviceId (multisigOf w.system.registry serviceId) frame ::
      frames))
    (base : BridgedBase setup bridger w
      (.deploy serviceId (multisigOf w.system.registry serviceId) frame :: frames))
    (pointers : multisigOf w'.system.registry =
      Function.update (multisigOf w.system.registry) serviceId multisig)
    (created : multisig ≠ 0) (other : multisig ≠ multisigOf w.system.registry serviceId)
    (unbound : w.system.manager.mapMultisigServiceIds multisig = serviceId ∨
      w.system.manager.mapMultisigServiceIds multisig = 0)
    (claimed : Claimed w.system serviceId multisig)
    (ran : updateAgentWallet setup.self setup.self serviceId
      (multisigOf w.system.registry serviceId) multisig w.bridger = .ok w'.bridger) :
    IndexBook w' frames := by
  obtain ⟨-, listed, -⟩ := base.bound.deploying
  -- The service would point at a multisig that is bound to it.
  have fresh : w.system.manager.mapMultisigServiceIds multisig = 0 := by
    refine unbound.resolve_left fun own => other ?_
    have points := base.bound.pointing.pointed multisig (by rw [own]; exact listed)
    rw [own] at points
    exact points.symm
  have free : ∀ service, service ≠ serviceId →
      multisigOf w.system.registry service ≠ multisig := by
    intro service different points
    have some : multisigOf w.system.registry service ≠ 0 := by rwa [points]
    refine claimed service ?_ different some points fresh
    by_contra outside
    refine some ?_
    rw [multisigOf, (base.bound.registry.registered.unlisted service (.inr (by omega))).1]
    rfl
  obtain ⟨-, requests, multisigs, -, rfl, after⟩ := updateAgentWallet_ok ran
  refine ⟨?_, fun service creating => ?_⟩
  · rw [after, pointers]
    dsimp only
    split
    · exact book.indexed.moved_linked created other free
    · next none => exact book.indexed.moved_unlinked other free (by omega)
  · -- The manager runs one function at a time.
    obtain ⟨inner, member⟩ := creating
    have alone := (base.bound.shape.alone rfl).2 _ member
    cases alone

/-- The registry points at the multisig it was answered. -/
theorem deploy_answered {serviceId : Nat} {last : Address} {inner : RegistryFrame}
    {answer : BridgedAnswer} {out : Outcome BridgedWorld SystemFrame}
    (base : BridgedBase setup bridger w (.deploy serviceId last inner :: frames))
    (ran : w.resume setup (.deploy serviceId last inner) answer = .ok out) :
    multisigOf out.state.system.registry serviceId = answer.system.registry.multisig := by
  simp only [BridgedWorld.resume, bind_eq_ok] at ran
  obtain ⟨mid, resumed, settled⟩ := ran
  have registry : out.state.system.registry = mid.state.registry := by
    rcases settle_eq_ok settled with ⟨-, state, -⟩ | ⟨returned, b, -, -, rfl⟩
    · rw [state]
    · rfl
  obtain ⟨rfl, -, rfl⟩ := base.bound.deploying
  have move := SystemWorld.resume_return resumed
  generalize mid.state = after, mid.pending = pending at move registry
  cases move with
  | deploy ran =>
    rw [registry, deploy_pointer ran, Function.update_self]

/-- A piece of code that moves no pointer. -/
theorem IndexBook.still (book : IndexBook w frames)
    (pointers : multisigOf w'.system.registry = multisigOf w.system.registry)
    (indexed : Indexed (multisigOf w.system.registry) w'.bridger.mapServiceIdAgentIds
      w'.bridger.mapMultisigAgentIds)
    (fewer : ∀ serviceId, Creating frames' serviceId → Creating frames serviceId ∨
      multisigOf w.system.registry serviceId = 0) : IndexBook w' frames' := by
  refine ⟨?_, fun serviceId creating => ?_⟩
  · rw [pointers]
    exact indexed
  · rw [pointers]
    exact (fewer serviceId creating).elim (book.creating serviceId) id

theorem IndexBook.part (base : BridgedBase setup bridger w frames)
    (book : IndexBook w frames) (part : BridgedPart setup w frames w' frames')
    (claimed : ∀ serviceId last inner, frames = .deploy serviceId last inner :: frames' →
      Claimed w.system serviceId (multisigOf w'.system.registry serviceId)) :
    IndexBook w' frames' := by
  cases part with
  | quiet links supply pointers creating =>
    refine book.still pointers ?_ fun serviceId ⟨frame, member⟩ =>
      .inl ⟨frame, (creating serviceId frame).mp member⟩
    rw [links.services, links.multisigs]
    exact book.indexed
  | minted same supply pointers waits =>
    refine book.still pointers ?_ fun serviceId creating => ?_
    · rw [same]
      exact book.indexed
    · rw [waits] at creating
      rcases creating_cons.mp creating with old | rfl
      · exact .inl old
      · refine .inr ?_
        rw [multisigOf, (base.bound.registry.registered.unlisted _ (.inr (by omega))).1]
        rfl
  | @created serviceId frame ids waited supply pointers ran =>
    subst waited
    refine book.still pointers ?_ fun other creating => .inl (creating_cons.mpr (.inl creating))
    have none := book.creating serviceId (creating_cons.mpr (.inr rfl))
    obtain ⟨-, ⟨-, after⟩ | ⟨-, requests, -, after⟩⟩ := register_ok ran
    · rw [after]
      exact book.indexed
    · rw [after]
      exact book.indexed.given none
  | @moved serviceId frame multisig waited supply pointers created other unbound ran =>
    subst waited
    have answered : multisigOf w'.system.registry serviceId = multisig := by
      rw [pointers, Function.update_self]
    have allowed := claimed serviceId _ frame rfl
    rw [answered] at allowed
    exact book.moved base pointers created other unbound allowed ran
  | @linked ids numServices agentIds system waits ran =>
    subst waits
    obtain ⟨-, count, -, unlinked, -, after⟩ := linkServiceIdAgentIds_ok ran
    refine book.still (by rw [system]) ?_ fun serviceId creating => .inl creating
    rw [after]
    exact linkRange_indexed unlinked book.indexed

theorem indexBook_preserved (valid : bridger ≠ 0) :
    Preserved (bridgedMachine setup) (claimedDiscipline setup bridger)
      (BridgedBase setup bridger) IndexBook := by
  intro w frames w' frames' taken base book
  cases taken with
  | entered call allowed ran =>
    refine book.part base (enter_part base allowed ran) fun serviceId last inner shorter => ?_
    have lengths := congrArg List.length shorter
    simp only [List.length_cons, List.length_append] at lengths
    omega
  | @resumed frame rest out answer allowed ran =>
    refine book.part base (resume_part valid base ran) fun serviceId last inner same => ?_
    obtain ⟨rfl, -⟩ := List.cons.inj same
    rw [deploy_answered base ran]
    exact allowed

/-- The assumptions of the bridger's runs are among these. -/
theorem claimed_base (setup : Setup) (bridger : Address) :
    Preserved (bridgedMachine setup) (claimedDiscipline setup bridger) always
      (BridgedBase setup bridger) := by
  refine Preserved.restrict ?_ ?_ (bridgedBase_preserved setup bridger)
  · intro call w allowed
    exact allowed
  · intro frame answer w allowed
    trivial

end Parts

section Starts
variable {setup : Setup} {start : BridgedWorld}

theorem Bridging.index (bridging : Bridging setup start)
    (apart : ∀ serviceId other, multisigOf start.system.registry serviceId ≠ 0 →
      multisigOf start.system.registry serviceId = multisigOf start.system.registry other →
      serviceId = other) : IndexBook start [] := by
  obtain ⟨sender, after⟩ := bridging.bridger_eq
  refine ⟨?_, ?_⟩
  · rw [after]
    exact ⟨apart, rfl, fun _ _ => rfl, fun _ some => absurd rfl some⟩
  · rintro serviceId ⟨frame, member⟩
    cases member

/-- When every multisig is bound at the start, every run deploys on free or bound multisigs
only. -/
theorem Bridging.backfilled (bridging : Bridging setup start)
    (bound : Exhaustive start.system.manager.mapMultisigServiceIds
      (multisigOf start.system.registry)) {c : Config BridgedWorld SystemFrame}
    (run : Reachable (bridgedMachine setup)
      (bridgedDiscipline setup start.system.manager.identityRegistryBridger) start c) :
    Reachable (bridgedMachine setup)
      (claimedDiscipline setup start.system.manager.identityRegistryBridger) start c := by
  refine run.tighten (bridged_lift ((bound_preserved setup).join (exhaustive_preserved setup)))
    ⟨bridging.base.bound, bound⟩ ?_ ?_
  · intro call w frames _ allowed
    exact allowed
  · rintro frame answer w frames ⟨before, all⟩ -
    cases frame with
    | deploy serviceId last inner =>
      intro other _ _ some points unbound
      have recorded := all other some
      rw [points, unbound] at recorded
      subst recorded
      refine some ?_
      rw [multisigOf, (before.registry.registered.unlisted 0 (.inl rfl)).1]
      rfl
    | _ => trivial

end Starts

/-- In every run of the manager with its bridger in which services are only deployed on
multisigs that no other service points at or that are bound, from a start with no shared
multisig, at every external call as well, and in every run at all from a start where the
multisigs of all services are bound: no two services share a multisig, the index has an
agent Id for a multisig if and only if a service with that agent Id points at it, and what
a multisig asks of the identity registry is about the agent Id of the service that points
at it. -/
theorem multisig_index_exact (setup : Setup) {start : BridgedWorld}
    (bridging : Bridging setup start)
    (unshared : ∀ serviceId other,
      (start.system.registry.store.mapServices serviceId).multisig ≠ 0 →
      (start.system.registry.store.mapServices serviceId).multisig =
        (start.system.registry.store.mapServices other).multisig → serviceId = other)
    {c : Config BridgedWorld SystemFrame}
    (run : Reachable (bridgedMachine setup)
        (claimedDiscipline setup start.system.manager.identityRegistryBridger) start c ∨
      Exhaustive start.system.manager.mapMultisigServiceIds (multisigOf start.system.registry) ∧
        Reachable (bridgedMachine setup)
          (bridgedDiscipline setup start.system.manager.identityRegistryBridger) start c) :
    let services := c.state.system.registry.store.mapServices
    let b := c.state.bridger
    (∀ serviceId other, (services serviceId).multisig ≠ 0 →
      (services serviceId).multisig = (services other).multisig → serviceId = other) ∧
    (∀ multisig agentId, multisig ≠ 0 → agentId ≠ 0 →
      (b.mapMultisigAgentIds multisig = agentId ↔ ∃ serviceId,
        (services serviceId).multisig = multisig ∧
        b.mapServiceIdAgentIds serviceId = agentId)) ∧
    b.mapMultisigAgentIds 0 = 0 ∧
    (∀ (sender : Caller) (metadata : Nat → List Byte) (b' : BridgerState),
      setAgentWallet sender metadata b = .ok b' → ∃ serviceId,
        (services serviceId).multisig = sender ∧ b.mapServiceIdAgentIds serviceId ≠ 0 ∧
        b'.requests = b.requests ++
          [.setAgentWallet (b.mapServiceIdAgentIds serviceId) sender]) ∧
    (∀ (sender : Caller) (metadata : Nat → List Byte) (b' : BridgerState),
      unsetAgentWallet sender metadata b = .ok b' → ∃ serviceId,
        (services serviceId).multisig = sender ∧ b.mapServiceIdAgentIds serviceId ≠ 0 ∧
        b'.requests = b.requests ++
          [.unsetAgentWallet (b.mapServiceIdAgentIds serviceId)]) ∧
    (∀ (sender : Caller) (metadata : Nat → List Byte) (metadataKey metadataValue : List Byte)
        (b' : BridgerState),
      setMetadata sender setup.chain metadata metadataKey metadataValue b = .ok b' →
        ∃ serviceId, (services serviceId).multisig = sender ∧
        b.mapServiceIdAgentIds serviceId ≠ 0 ∧
        b'.requests = b.requests ++ [.setMetadata (b.mapServiceIdAgentIds serviceId)
          metadataKey metadataValue]) := by
  intro services b
  have run := run.elim id fun ⟨bound, run⟩ => bridging.backfilled bound run
  have indexed : Indexed (multisigOf c.state.system.registry) b.mapServiceIdAgentIds
      b.mapMultisigAgentIds :=
    (run.invariant ((claimed_base setup _).join (indexBook_preserved bridging.set))
      ⟨bridging.base, bridging.index unshared⟩).2.indexed
  have owner : ∀ sender : Caller, b.mapMultisigAgentIds sender ≠ 0 → ∃ serviceId,
      (services serviceId).multisig = sender ∧
      b.mapServiceIdAgentIds serviceId = b.mapMultisigAgentIds sender :=
    fun sender linked => (indexed.exact sender.2 linked).mp rfl
  refine ⟨indexed.apart, fun multisig agentId created some => indexed.exact created some,
    indexed.zero, ?_, ?_, ?_⟩
  · intro sender metadata b' ran
    obtain ⟨linked, rfl⟩ := setAgentWallet_ok ran
    obtain ⟨serviceId, points, same⟩ := owner sender linked
    exact ⟨serviceId, points, same.trans_ne linked, by rw [same]⟩
  · intro sender metadata b' ran
    obtain ⟨linked, rfl⟩ := unsetAgentWallet_ok ran
    obtain ⟨serviceId, points, same⟩ := owner sender linked
    exact ⟨serviceId, points, same.trans_ne linked, by rw [same]⟩
  · intro sender metadata metadataKey metadataValue b' ran
    obtain ⟨linked, rfl⟩ := setMetadata_ok ran
    obtain ⟨serviceId, points, same⟩ := owner sender linked
    exact ⟨serviceId, points, same.trans_ne linked, by rw [same]⟩

/-- A registry in which service 1 was deployed on multisig 9, terminated and unbonded before
the manager had bindings. -/
def legacyScript : List (Move RegistryCall RegistryAnswer) :=
  [.call (.changeManager registryOwner 2),
    .call (.create registryManager 3 9 1 [1] [⟨1, 1⟩] 1), .answer ⟨0, [], true⟩,
    .call (.activateRegistration registryManager 1 3 1),
    .call (.registerAgents registryManager 1 4 1 [5] [1]),
    .call (.changeMultisigPermission registryOwner 8 true),
    .call (.deploy registryManager 3 1 8), .answer ⟨9, [], true⟩,
    .call (.terminate registryManager 3 1), .answer ⟨0, [], true⟩,
    .call (.unbond registryManager 4 1), .answer ⟨0, [], true⟩]

def legacyRegistry : RegistryWorld :=
  (registryMachine .l2).after .free legacyScript (RegistryWorld.deployment 1)

theorem legacyRegistry_reachable :
    Reachable (registryMachine .l2) .free (RegistryWorld.deployment 1) ⟨legacyRegistry, []⟩ :=
  Machine.after_reachable .free (registryMachine .l2) (RegistryWorld.deployment 1) legacyScript
    (by decide +kernel)

def legacyTakeover : SystemWorld := exampleTakeover.withRegistry legacyRegistry

theorem legacyTakeover_takeover : Takeover exampleSetup legacyTakeover where
  legacy := ⟨1, legacyRegistry_reachable⟩
  manager := by decide +kernel
  unlocked := by decide
  unbound _ := rfl

def settingScript : List (Move SystemCall SystemAnswer) :=
  [.call (.manager (.initializeStorage exampleOwner)),
    .call (.manager (.setIdentityRegistryBridger exampleOwner 6))]

def legacyBridged : BridgedWorld where
  system := (systemMachine exampleSetup).after (soleDiscipline exampleSetup) settingScript
    legacyTakeover
  bridger := { IdentityRegistryBridger.blank with startLinkServiceId := 1, owner := 3 }

theorem legacyBridged_bridging : Bridging exampleSetup legacyBridged where
  manager := ⟨legacyTakeover, legacyTakeover_takeover,
    Machine.after_reachable (soleDiscipline exampleSetup) (systemMachine exampleSetup)
      legacyTakeover settingScript (by decide +kernel)⟩
  set := by decide +kernel
  bridger := ⟨exampleOwner, rfl⟩

/-- The only service there is. -/
theorem Bridging.only {setup : Setup} {start : BridgedWorld} (bridging : Bridging setup start)
    (supply : start.system.registry.store.totalSupply = 1) {serviceId : Nat}
    (some : multisigOf start.system.registry serviceId ≠ 0) : serviceId = 1 := by
  by_contra outside
  refine some ?_
  rw [multisigOf, (bridging.base.bound.registry.registered.unlisted serviceId (by omega)).1]
  rfl

theorem legacyBridged_unshared (serviceId other : Nat)
    (some : multisigOf legacyBridged.system.registry serviceId ≠ 0)
    (same : multisigOf legacyBridged.system.registry serviceId =
      multisigOf legacyBridged.system.registry other) : serviceId = other := by
  have supply : legacyBridged.system.registry.store.totalSupply = 1 := by decide +kernel
  have first := legacyBridged_bridging.only supply some
  rw [same] at some
  exact first.trans (legacyBridged_bridging.only supply some).symm

/-- The multisig of service 1 is recorded before anything else happens. -/
def bindingScript : List (Move SystemCall SystemAnswer) :=
  settingScript ++ [.call (.manager (.bindMultisig exampleOwner [1]))]

def backfilledBridged : BridgedWorld where
  system := (systemMachine exampleSetup).after (soleDiscipline exampleSetup) bindingScript
    legacyTakeover
  bridger := legacyBridged.bridger

theorem backfilledBridged_bridging : Bridging exampleSetup backfilledBridged where
  manager := ⟨legacyTakeover, legacyTakeover_takeover,
    Machine.after_reachable (soleDiscipline exampleSetup) (systemMachine exampleSetup)
      legacyTakeover bindingScript (by decide +kernel)⟩
  set := by decide +kernel
  bridger := ⟨exampleOwner, rfl⟩

theorem backfilledBridged_exhaustive :
    Exhaustive backfilledBridged.system.manager.mapMultisigServiceIds
      (multisigOf backfilledBridged.system.registry) := by
  intro serviceId some
  obtain rfl := backfilledBridged_bridging.only (by decide +kernel) some
  decide +kernel

/-- Service 1 is linked; service 2 is created, gets the instance 5 and is deployed. -/
def secondServiceScript (multisig : Address) : List (Move BridgedCall BridgedAnswer) :=
  [.call (.linkServiceIdAgentIds exampleOperator countingIds 1),
    .call (.system createExample countingIds), .answer ⟨plainAnswer, countingIds⟩,
    .call (.system (.manager (.activateRegistration exampleOwner 1 ⟨0, 0⟩ 2)) countingIds),
    .call (.system (.manager (.registerAgents exampleOperator 1 true ⟨0, 0⟩ 2 [5] [1]))
      countingIds),
    .call (.system (.manager (.deploy exampleOwner 2 8)) countingIds),
    .answer ⟨⟨⟨multisig, [], true⟩, ⟨true, 0⟩⟩, countingIds⟩]

theorem multisig_index_exact_deployed :
    (∃ c, Reachable (bridgedMachine exampleSetup)
        (claimedDiscipline exampleSetup
          legacyBridged.system.manager.identityRegistryBridger) legacyBridged c ∧
      c.state.bridger.mapMultisigAgentIds 10 = 2 ∧
      ∃ serviceId, (c.state.system.registry.store.mapServices serviceId).multisig = 10 ∧
        c.state.bridger.mapServiceIdAgentIds serviceId = 2) ∧
    ∃ c, Reachable (bridgedMachine exampleSetup)
        (bridgedDiscipline exampleSetup
          backfilledBridged.system.manager.identityRegistryBridger) backfilledBridged c ∧
      c.state.bridger.mapMultisigAgentIds 9 = 1 ∧
      ∃ serviceId, (c.state.system.registry.store.mapServices serviceId).multisig = 9 ∧
        c.state.bridger.mapServiceIdAgentIds serviceId = 1 := by
  constructor
  · obtain ⟨c, run, seen⟩ := Machine.play_observed (claimedDiscipline exampleSetup
        legacyBridged.system.manager.identityRegistryBridger) (bridgedMachine exampleSetup)
      legacyBridged (secondServiceScript 10) (fun c => c.state.bridger.mapMultisigAgentIds 10) 2
      (by decide +kernel)
    obtain ⟨-, exact, -⟩ := multisig_index_exact exampleSetup legacyBridged_bridging
      legacyBridged_unshared (.inl run)
    exact ⟨c, run, seen, (exact 10 2 (by decide) (by decide)).mp seen⟩
  · obtain ⟨c, run, seen⟩ := Machine.play_observed (bridgedDiscipline exampleSetup
        backfilledBridged.system.manager.identityRegistryBridger) (bridgedMachine exampleSetup)
      backfilledBridged (secondServiceScript 10)
      (fun c => c.state.bridger.mapMultisigAgentIds 9) 1 (by decide +kernel)
    obtain ⟨-, exact, -⟩ := multisig_index_exact exampleSetup backfilledBridged_bridging
      backfilledBridged_exhaustive.apart (.inr ⟨backfilledBridged_exhaustive, run⟩)
    exact ⟨c, run, seen, (exact 9 1 (by decide) (by decide)).mp seen⟩

/-- Nobody has recorded that multisig 9 is the one of service 1, so service 2 is deployed on
it, and its entry is no longer the agent Id of service 1. -/
theorem multisig_index_shared :
    ¬ ∀ (setup : Setup) (start : BridgedWorld), Bridging setup start →
      (∀ serviceId other, (start.system.registry.store.mapServices serviceId).multisig ≠ 0 →
        (start.system.registry.store.mapServices serviceId).multisig =
          (start.system.registry.store.mapServices other).multisig → serviceId = other) →
      ∀ c, Reachable (bridgedMachine setup)
          (bridgedDiscipline setup start.system.manager.identityRegistryBridger) start c →
        c.stack = [] → ∀ multisig agentId, multisig ≠ 0 → agentId ≠ 0 →
          (c.state.bridger.mapMultisigAgentIds multisig = agentId ↔ ∃ serviceId,
            (c.state.system.registry.store.mapServices serviceId).multisig = multisig ∧
            c.state.bridger.mapServiceIdAgentIds serviceId = agentId) := by
  intro claim
  obtain ⟨c, run, seen⟩ := Machine.play_observed (bridgedDiscipline exampleSetup
      legacyBridged.system.manager.identityRegistryBridger) (bridgedMachine exampleSetup)
    legacyBridged (secondServiceScript 9)
    (fun c => (c.stack.length, (c.state.system.registry.store.mapServices 1).multisig,
      c.state.bridger.mapServiceIdAgentIds 1, c.state.bridger.mapMultisigAgentIds 9))
    (0, 9, 1, 2) (by decide +kernel)
  simp only [Prod.mk.injEq] at seen
  obtain ⟨idle, points, linked, entry⟩ := seen
  have expected := (claim exampleSetup legacyBridged legacyBridged_bridging
    legacyBridged_unshared c run (List.eq_nil_of_length_eq_zero idle) 9 1 (by decide)
    (by decide)).mpr ⟨1, points, linked⟩
  rw [entry] at expected
  cases expected

end AutonolasRegistries.Guarantees
