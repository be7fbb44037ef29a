import AutonolasRegistries.Guarantees.BridgerShape

/-!
# Services and their agent Ids

The manager gives every new service an agent Id at the end of `create`, and
`linkServiceIdAgentIds` gives one to the services that were there before, from the first
one on. The two meet: a service may be linked by either, and the linking disables itself at
the first service that has an agent Id already. The book below says why nothing is left
behind then: a service past the cursor that has an agent Id is younger than the bridger,
and so are all the others after it.
-/
namespace AutonolasRegistries.Guarantees
open Library Source IdentityRegistryBridger

/-- Every service was registered at most once, no agent Id was given twice, and the bridger
has written down exactly that. -/
structure AgentRoll (b : BridgerState) : Prop where
  unique : (issuedIds b.requests).Nodup
  agents : ∀ serviceId agentId, (serviceId, agentId) ∈ registrations b.requests ↔
    b.mapServiceIdAgentIds serviceId = agentId ∧ agentId ≠ 0

/-- The linking cursor against the services. `legacy` services were there before the
bridger; `creating` are the services minted whose `create` is still running. -/
structure LinkBook (legacy supply cursor : Nat) (agents : Nat → Nat) (creating : Nat → Prop) :
    Prop where
  older : legacy ≤ supply
  bounded : cursor ≤ supply + 1
  services : ∀ serviceId, agents serviceId ≠ 0 → 0 < serviceId ∧ serviceId ≤ supply
  below : ∀ serviceId, 0 < serviceId → serviceId < cursor → agents serviceId ≠ 0
  young : cursor ≠ 0 → ∀ serviceId, agents serviceId ≠ 0 → serviceId < cursor ∨
    legacy < serviceId
  recent : ∀ serviceId, legacy < serviceId → serviceId ≤ supply → agents serviceId ≠ 0 ∨
    creating serviceId
  all : cursor = 0 → ∀ serviceId, 0 < serviceId → serviceId ≤ supply →
    agents serviceId ≠ 0 ∨ creating serviceId
  running : ∀ serviceId, creating serviceId → legacy < serviceId ∧ serviceId ≤ supply

section Enrolment
variable {b b' : BridgerState}

/-- Distinct services have distinct agent Ids. -/
theorem AgentRoll.apart (roll : AgentRoll b) {serviceId other : Nat}
    (same : b.mapServiceIdAgentIds serviceId = b.mapServiceIdAgentIds other)
    (linked : b.mapServiceIdAgentIds serviceId ≠ 0) : serviceId = other := by
  have unique := roll.unique
  rw [issuedIds_eq] at unique
  have first := (roll.agents serviceId _).mpr ⟨rfl, linked⟩
  have second := (roll.agents other _).mpr ⟨same.symm, linked⟩
  exact congrArg Prod.fst (List.inj_on_of_nodup_map unique first second rfl)

theorem AgentRoll.of_same (roll : AgentRoll b)
    (services : b'.mapServiceIdAgentIds = b.mapServiceIdAgentIds)
    (registered : registrations b'.requests = registrations b.requests) : AgentRoll b' := by
  refine ⟨?_, ?_⟩
  · rw [issuedIds_eq, registered, ← issuedIds_eq]
    exact roll.unique
  · rw [registered, services]
    exact roll.agents

/-- A new agent Id for a service that has none. -/
theorem AgentRoll.given (roll : AgentRoll b) (ids : IdentityAnswer) {serviceId : Nat}
    (unlinked : b.mapServiceIdAgentIds serviceId = 0)
    (services : b'.mapServiceIdAgentIds = Function.update b.mapServiceIdAgentIds serviceId
      (ids.agentId (issuedIds b.requests)))
    (registered : registrations b'.requests =
      registrations b.requests ++ [(serviceId, ids.agentId (issuedIds b.requests))]) :
    AgentRoll b' := by
  have some := ids.nonzero (issuedIds b.requests)
  have fresh := ids.fresh (issuedIds b.requests)
  generalize ids.agentId (issuedIds b.requests) = given at some fresh services registered
  refine ⟨?_, fun other agentId => ?_⟩
  · rw [issuedIds_eq, registered, List.map_append, ← issuedIds_eq]
    exact List.Nodup.append roll.unique (List.nodup_singleton _)
      (List.disjoint_singleton.mpr fresh)
  · rw [registered, services, List.mem_append, roll.agents, List.mem_singleton,
      Prod.mk.injEq]
    by_cases here : other = serviceId
    · subst here
      rw [Function.update_self, unlinked]
      constructor
      · rintro (⟨rfl, nonzero⟩ | ⟨-, rfl⟩)
        · exact absurd rfl nonzero
        · exact ⟨rfl, some⟩
      · rintro ⟨rfl, -⟩
        exact .inr ⟨rfl, rfl⟩
    · rw [Function.update_of_ne here]
      simp [here]

theorem linkService_roll {registry : RegistryState} (ids : IdentityAnswer)
    {serviceId : Nat} (unlinked : b.mapServiceIdAgentIds serviceId = 0)
    (roll : AgentRoll b) : AgentRoll (linkService registry ids serviceId b).1 := by
  obtain ⟨requests, registered, linked⟩ := linkService_eq registry ids serviceId b
  rw [linked]
  exact roll.given ids unlinked rfl registered

end Enrolment

section Book
variable {legacy supply cursor : Nat} {agents agents' : Nat → Nat}
  {creating creating' : Nat → Prop}

theorem LinkBook.minted (book : LinkBook legacy supply cursor agents creating)
    (more : ∀ serviceId, creating' serviceId ↔ creating serviceId ∨ serviceId = supply + 1) :
    LinkBook legacy (supply + 1) cursor agents creating' where
  older := Nat.le_succ_of_le book.older
  bounded := by
    have := book.bounded
    omega
  services serviceId linked := by
    obtain ⟨positive, inside⟩ := book.services serviceId linked
    exact ⟨positive, by omega⟩
  below := book.below
  young := book.young
  recent serviceId new inside := by
    by_cases last : serviceId = supply + 1
    · exact .inr ((more _).mpr (.inr last))
    · exact (book.recent serviceId new (by omega)).imp_right fun running =>
        (more _).mpr (.inl running)
  all done serviceId positive inside := by
    by_cases last : serviceId = supply + 1
    · exact .inr ((more _).mpr (.inr last))
    · exact (book.all done serviceId positive (by omega)).imp_right fun running =>
        (more _).mpr (.inl running)
  running serviceId now := by
    rcases (more _).mp now with before | rfl
    · obtain ⟨new, inside⟩ := book.running serviceId before
      exact ⟨new, by omega⟩
    · exact ⟨Nat.lt_succ_of_le book.older, le_refl _⟩

/-- The end of `create`: the service has an agent Id, its own or the one it got before. -/
theorem LinkBook.created {created : Nat} (book : LinkBook legacy supply cursor agents creating)
    (ran : creating created) (given : agents' created ≠ 0)
    (others : ∀ serviceId, serviceId ≠ created → agents' serviceId = agents serviceId)
    (fewer : ∀ serviceId, creating' serviceId → creating serviceId)
    (rest : ∀ serviceId, creating serviceId → serviceId = created ∨ creating' serviceId) :
    LinkBook legacy supply cursor agents' creating' := by
  have kept : ∀ serviceId, agents serviceId ≠ 0 → agents' serviceId ≠ 0 := by
    intro serviceId before
    by_cases here : serviceId = created
    · rw [here]
      exact given
    · rw [others serviceId here]
      exact before
  have next : ∀ serviceId, agents serviceId ≠ 0 ∨ creating serviceId →
      agents' serviceId ≠ 0 ∨ creating' serviceId := by
    rintro serviceId (before | before)
    · exact .inl (kept serviceId before)
    · rcases rest serviceId before with rfl | still
      · exact .inl given
      · exact .inr still
  obtain ⟨new, inside⟩ := book.running created ran
  refine ⟨book.older, book.bounded, fun serviceId now => ?_, fun serviceId positive before =>
    kept serviceId (book.below serviceId positive before), fun active serviceId now => ?_,
    fun serviceId old last => next serviceId (book.recent serviceId old last),
    fun done serviceId positive last => next serviceId (book.all done serviceId positive last),
    fun serviceId now => book.running serviceId (fewer serviceId now)⟩
  · by_cases here : serviceId = created
    · rw [here]
      exact ⟨by omega, inside⟩
    · rw [others serviceId here] at now
      exact book.services serviceId now
  · by_cases here : serviceId = created
    · rw [here]
      exact .inr new
    · rw [others serviceId here] at now
      exact book.young active serviceId now

/-- Linking the services from the cursor on: it moves past them, or is done at the first
one that has an agent Id. -/
theorem LinkBook.linked {count cursor' : Nat}
    (book : LinkBook legacy supply cursor agents creating) (active : cursor ≠ 0)
    (inside : cursor + count ≤ supply + 1)
    (range : ∀ serviceId, if cursor ≤ serviceId ∧ serviceId < cursor + count then
      agents' serviceId ≠ 0 else agents' serviceId = agents serviceId)
    (moved : (cursor' = 0 ∧ agents (cursor + count) ≠ 0) ∨ cursor' = cursor + count) :
    LinkBook legacy supply cursor' agents' creating := by
  have kept : ∀ serviceId, agents serviceId ≠ 0 → agents' serviceId ≠ 0 := by
    intro serviceId before
    have here := range serviceId
    split at here
    · exact here
    · rw [here]
      exact before
  have passed : ∀ serviceId, 0 < serviceId → serviceId < cursor + count →
      agents' serviceId ≠ 0 := by
    intro serviceId positive before
    by_cases done : serviceId < cursor
    · exact kept serviceId (book.below serviceId positive done)
    · have here := range serviceId
      rw [if_pos ⟨by omega, before⟩] at here
      exact here
  have split : ∀ serviceId, agents' serviceId ≠ 0 →
      (cursor ≤ serviceId ∧ serviceId < cursor + count) ∨ agents serviceId ≠ 0 := by
    intro serviceId now
    have here := range serviceId
    split at here
    · next inside => exact .inl inside
    · rw [here] at now
      exact .inr now
  refine ⟨book.older, ?_, fun serviceId now => ?_, fun serviceId positive before => ?_,
    fun still serviceId now => ?_, fun serviceId new last =>
      (book.recent serviceId new last).imp_left (kept serviceId),
    fun done serviceId positive last => ?_, book.running⟩
  · rcases moved with ⟨rfl, -⟩ | rfl <;> omega
  · rcases split serviceId now with here | before
    · omega
    · exact book.services serviceId before
  · rcases moved with ⟨rfl, -⟩ | rfl
    · omega
    · exact passed serviceId positive before
  · rcases moved with ⟨rfl, -⟩ | rfl
    · exact absurd rfl still
    · rcases split serviceId now with here | before
      · exact .inl here.2
      · rcases book.young active serviceId before with early | new
        · exact .inl (by omega)
        · exact .inr new
  · -- The linked service that stopped the loop is younger than the bridger.
    rcases moved with ⟨-, stopped⟩ | rfl
    · rcases book.young active _ stopped with early | new
      · omega
      · by_cases before : serviceId < cursor + count
        · exact .inl (passed serviceId positive before)
        · exact (book.recent serviceId (by omega) last).imp_left (kept serviceId)
    · omega

end Book

/-- What a later state of the bridger may differ in: agent Ids stay, and the cursor goes up
or is zero for good. -/
structure Later (b b' : BridgerState) : Prop where
  kept : ∀ serviceId, b.mapServiceIdAgentIds serviceId ≠ 0 →
    b'.mapServiceIdAgentIds serviceId = b.mapServiceIdAgentIds serviceId
  cursor : b'.startLinkServiceId = 0 ∨
    (b.startLinkServiceId ≠ 0 ∧ b.startLinkServiceId ≤ b'.startLinkServiceId)

theorem Later.trans {b b' b'' : BridgerState} (first : Later b b') (second : Later b' b'') :
    Later b b'' := by
  refine ⟨fun serviceId linked => ?_, ?_⟩
  · have now := first.kept serviceId linked
    rw [second.kept serviceId (by rwa [now]), now]
  · have before := first.cursor
    have after := second.cursor
    omega

theorem Later.of_same {b b' : BridgerState}
    (services : b'.mapServiceIdAgentIds = b.mapServiceIdAgentIds)
    (start : b'.startLinkServiceId = b.startLinkServiceId) : Later b b' := by
  refine ⟨fun serviceId _ => by rw [services], ?_⟩
  rw [start]
  omega

/-- The services whose `create` is running. -/
def Creating (frames : List SystemFrame) (serviceId : Nat) : Prop :=
  ∃ frame, .create serviceId frame ∈ frames

theorem creating_cons {serviceId other : Nat} {frame : RegistryFrame}
    {frames : List SystemFrame} :
    Creating (.create serviceId frame :: frames) other ↔ Creating frames other ∨
      other = serviceId := by
  constructor
  · rintro ⟨inner, member⟩
    rcases List.mem_cons.mp member with same | old
    · cases same
      exact .inr rfl
    · exact .inl ⟨inner, old⟩
  · rintro (⟨inner, old⟩ | rfl)
    · exact ⟨inner, List.mem_cons_of_mem _ old⟩
    · exact ⟨frame, List.mem_cons_self⟩

/-- The agent Ids of a world, and its cursor. -/
structure Linking (legacy : Nat) (w : BridgedWorld) (frames : List SystemFrame) : Prop where
  roll : AgentRoll w.bridger
  book : LinkBook legacy w.system.registry.store.totalSupply w.bridger.startLinkServiceId
    w.bridger.mapServiceIdAgentIds (Creating frames)

section Parts
variable {setup : Setup} {w w' : BridgedWorld} {frames frames' : List SystemFrame}
  {legacy : Nat}

theorem Linking.created {serviceId : Nat} {frame : RegistryFrame} {ids : IdentityAnswer}
    (linking : Linking legacy w (.create serviceId frame :: frames))
    (supply : w'.system.registry.store.totalSupply = w.system.registry.store.totalSupply)
    (ran : register setup.self setup.self ids serviceId w.bridger = .ok w'.bridger) :
    Linking legacy w' frames ∧ Later w.bridger w'.bridger := by
  obtain ⟨roll, book⟩ := linking
  have closed : ∀ agents' : Nat → Nat, agents' serviceId ≠ 0 →
      (∀ other, other ≠ serviceId → agents' other = w.bridger.mapServiceIdAgentIds other) →
      LinkBook legacy w.system.registry.store.totalSupply w.bridger.startLinkServiceId agents'
        (Creating frames) :=
    fun agents' given others => book.created (creating_cons.mpr (.inr rfl)) given others
      (fun _ now => creating_cons.mpr (.inl now)) fun _ before => (creating_cons.mp before).symm
  obtain ⟨-, ⟨linked, after⟩ | ⟨unlinked, requests, registered, after⟩⟩ := register_ok ran
  · refine ⟨⟨?_, ?_⟩, ?_⟩
    · exact roll.of_same (by rw [after]) (by rw [after])
    · rw [supply, after]
      exact closed _ linked fun _ _ => rfl
    · exact .of_same (by rw [after]) (by rw [after])
  · have others : ∀ other, other ≠ serviceId → w'.bridger.mapServiceIdAgentIds other =
        w.bridger.mapServiceIdAgentIds other := by
      intro other different
      rw [after]
      exact Function.update_of_ne different _ _
    refine ⟨⟨?_, ?_⟩, ?_, ?_⟩
    · exact roll.given ids unlinked (by rw [after]) (by rw [after]; exact registered)
    · have start : w'.bridger.startLinkServiceId = w.bridger.startLinkServiceId := by rw [after]
      rw [supply, start]
      refine closed _ ?_ others
      rw [after]
      dsimp only
      rw [Function.update_self]
      exact ids.nonzero _
    · intro other linked
      refine others other ?_
      rintro rfl
      exact linked unlinked
    · rw [after]
      dsimp only
      omega

theorem Linking.linked {ids : IdentityAnswer} {numServices : Nat} {agentIds : List Nat}
    (linking : Linking legacy w frames) (system : w'.system = w.system)
    (ran : linkServiceIdAgentIds w.system.registry.store ids numServices w.bridger =
      .ok (w'.bridger, agentIds)) :
    Linking legacy w' frames ∧ Later w.bridger w'.bridger := by
  obtain ⟨roll, book⟩ := linking
  obtain ⟨active, count, inside, unlinked, moved, after⟩ := linkServiceIdAgentIds_ok ran
  generalize held : { w.bridger with locked := 2 } = b at after
  have same : b.mapServiceIdAgentIds = w.bridger.mapServiceIdAgentIds := by rw [← held]
  rw [← same] at unlinked
  have range := @linkRange_services w.system.registry.store ids b _ _ unlinked
  have rolled : AgentRoll (linkRange w.system.registry.store ids w.bridger.startLinkServiceId
      count b) := by
    refine linkRange_invariant (fun serviceId b unlinked before =>
      linkService_roll ids unlinked before) unlinked ?_
    exact roll.of_same same (by rw [← held])
  generalize linkRange w.system.registry.store ids w.bridger.startLinkServiceId count b = linked
    at range rolled after
  have services : w'.bridger.mapServiceIdAgentIds = linked.mapServiceIdAgentIds := by rw [after]
  rw [same, ← services] at range
  refine ⟨⟨?_, ?_⟩, ?_, ?_⟩
  · exact rolled.of_same services (by rw [after])
  · rw [system]
    exact book.linked active inside range (moved.imp_right And.left)
  · intro serviceId before
    have here := range serviceId
    split at here
    · next within =>
      have none := unlinked (serviceId - w.bridger.startLinkServiceId) (by omega)
      rw [same, Nat.add_sub_cancel' within.1] at none
      exact absurd none before
    · exact here
  · omega

/-- One piece of code keeps the book, and leaves a later bridger. -/
theorem Linking.part (linking : Linking legacy w frames)
    (part : BridgedPart setup w frames w' frames') :
    Linking legacy w' frames' ∧ Later w.bridger w'.bridger := by
  cases part with
  | quiet links supply pointers creating =>
    refine ⟨⟨linking.roll.of_same links.services links.registered, ?_⟩,
      .of_same links.services links.start⟩
    have same : Creating frames' = Creating frames :=
      funext fun serviceId => propext (exists_congr fun frame => creating serviceId frame)
    rw [supply, links.start, links.services, same]
    exact linking.book
  | minted bridger supply pointers waits =>
    refine ⟨⟨?_, ?_⟩, .of_same (by rw [bridger]) (by rw [bridger])⟩
    · rw [bridger]
      exact linking.roll
    · rw [bridger, supply, waits]
      exact linking.book.minted fun serviceId => creating_cons
  | created waited supply pointers ran =>
    subst waited
    exact linking.created supply ran
  | @moved serviceId frame multisig waited supply pointers _ _ _ ran =>
    subst waited
    obtain ⟨-, requests, multisigs, registered, -, after⟩ := updateAgentWallet_ok ran
    refine ⟨⟨?_, ?_⟩, .of_same (by rw [after]) (by rw [after])⟩
    · exact linking.roll.of_same (by rw [after]) (by rw [after]; exact registered)
    · have book := linking.book
      have same : Creating (.deploy serviceId (multisigOf w.system.registry serviceId) frame ::
          frames') = Creating frames' := by
        funext other
        simp [Creating]
      rw [same] at book
      rw [supply, after]
      exact book
  | linked system waits ran =>
    subst waits
    exact linking.linked system ran

end Parts

section Runs
variable {setup : Setup} {start : BridgedWorld}

theorem linking_preserved {bridger : Address} (valid : bridger ≠ 0) (legacy : Nat) :
    Preserved (bridgedMachine setup) (bridgedDiscipline setup bridger)
      (BridgedBase setup bridger) (Linking legacy) :=
  fun _ _ _ _ taken base before => (before.part (bridged_part valid base taken)).1

/-- What the bridger has once, later states have. -/
theorem later_preserved {bridger : Address} (valid : bridger ≠ 0) (legacy : Nat)
    (b : BridgerState) :
    Preserved (bridgedMachine setup) (bridgedDiscipline setup bridger)
      (fun w frames => BridgedBase setup bridger w frames ∧ Linking legacy w frames)
      fun w _ => Later b w.bridger :=
  fun _ _ _ _ taken base before =>
    before.trans (base.2.part (bridged_part valid base.1 taken)).2

theorem Bridging.linking (bridging : Bridging setup start) :
    Linking start.system.registry.store.totalSupply start [] := by
  obtain ⟨sender, after⟩ := bridging.bridger_eq
  have services : start.bridger.mapServiceIdAgentIds = fun _ => 0 := by
    rw [after]
    rfl
  have cursor : start.bridger.startLinkServiceId = 1 := by rw [after]
  have requests : start.bridger.requests = [] := by
    rw [after]
    rfl
  refine ⟨⟨?_, ?_⟩, ?_⟩
  · rw [requests]
    exact List.nodup_nil
  · rw [requests, services]
    intro serviceId agentId
    constructor
    · intro member
      cases member
    · rintro ⟨rfl, some⟩
      exact absurd rfl some
  · rw [cursor, services]
    refine ⟨le_refl _, by omega, by simp, ?_, by simp, ?_, by simp, ?_⟩
    · intro serviceId positive before
      omega
    · intro serviceId new inside
      omega
    · rintro serviceId ⟨frame, member⟩
      cases member

end Runs

/-- In every run of the manager with a bridger that was set from its initialisation on, over
a registry with any services: a service is registered at most once, its agent Id is never
overwritten, and no two services have the same one; the services below the cursor are all
linked, and it never passes the last service by more than one; it goes up, or becomes zero
and stays so; and when it is zero, the only service without an agent Id is one whose
`create` is running. -/
theorem services_linked_once (setup : Setup) {start : BridgedWorld}
    (bridging : Bridging setup start) {c : Config BridgedWorld SystemFrame}
    (run : Reachable (bridgedMachine setup)
      (bridgedDiscipline setup start.system.manager.identityRegistryBridger) start c) :
    let discipline := bridgedDiscipline setup start.system.manager.identityRegistryBridger
    let b := c.state.bridger
    let supply := c.state.system.registry.store.totalSupply
    ((issuedIds b.requests).Nodup ∧ ∀ serviceId agentId,
      .register serviceId agentId ∈ b.requests ↔
        b.mapServiceIdAgentIds serviceId = agentId ∧ agentId ≠ 0) ∧
    (∀ serviceId other, b.mapServiceIdAgentIds serviceId = b.mapServiceIdAgentIds other →
      b.mapServiceIdAgentIds serviceId ≠ 0 → serviceId = other) ∧
    (0 < b.startLinkServiceId → b.startLinkServiceId ≤ supply + 1 ∧
      ∀ serviceId, 0 < serviceId → serviceId < b.startLinkServiceId →
        b.mapServiceIdAgentIds serviceId ≠ 0) ∧
    (b.startLinkServiceId = 0 → ∀ serviceId, 0 < serviceId → serviceId ≤ supply →
      b.mapServiceIdAgentIds serviceId ≠ 0 ∨ ∃ frame, .create serviceId frame ∈ c.frames) ∧
    (∀ w' frames', Local (bridgedMachine setup) discipline c.state c.frames w' frames' →
      Later b w'.bridger) ∧
    (c.stack = [] → ∀ c', Reachable (bridgedMachine setup) discipline c.state c' →
      Later b c'.state.bridger) := by
  intro discipline b supply
  have keep := (bridgedBase_preserved setup _).join
    (linking_preserved bridging.set start.system.registry.store.totalSupply)
  have whole := run.invariant keep ⟨bridging.base, bridging.linking⟩
  have ⟨roll, book⟩ := whole.2
  refine ⟨⟨roll.unique, fun serviceId agentId => ?_⟩, fun serviceId other => roll.apart,
    fun _ => ⟨book.bounded, book.below⟩, book.all, fun w' frames' taken => ?_,
    fun idle c' rest => ?_⟩
  · rw [← mem_registrations]
    exact roll.agents serviceId agentId
  · exact (whole.2.part (bridged_part bridging.set whole.1 taken)).2
  · have top : c.frames = [] := by rw [Config.frames, idle, List.map_nil]
    rw [top] at whole
    exact (rest.invariant (keep.join (later_preserved bridging.set _ b))
      ⟨whole, .of_same rfl rfl⟩).2

/-- An identity registry that counts up. -/
def countingIds : IdentityAnswer where
  agentId issued := issued.sum + 1
  nonzero _ := Nat.succ_ne_zero _
  fresh issued member := by
    have := List.single_le_sum (fun x _ => Nat.zero_le x) _ member
    omega

def plainAnswer : SystemAnswer := ⟨⟨0, [], true⟩, ⟨true, 0⟩⟩

def createExample : SystemCall :=
  .manager (.create exampleOwner true 0 3 ServiceManager.ethTokenAddress 1 [1] [⟨1, 1⟩] 1)

/-- One service is there before the bridger. -/
def bridgedScript : List (Move SystemCall SystemAnswer) :=
  [.call createExample, .answer plainAnswer,
    .call (.manager (.initializeStorage exampleOwner)),
    .call (.manager (.setIdentityRegistryBridger exampleOwner 6))]

def exampleBridged : BridgedWorld where
  system := (systemMachine exampleSetup).after (soleDiscipline exampleSetup) bridgedScript
    exampleTakeover
  bridger := { IdentityRegistryBridger.blank with startLinkServiceId := 1, owner := 3 }

theorem exampleBridged_bridging : Bridging exampleSetup exampleBridged where
  manager := ⟨exampleTakeover, exampleTakeover_takeover,
    Machine.after_reachable (soleDiscipline exampleSetup) (systemMachine exampleSetup)
      exampleTakeover bridgedScript (by decide +kernel)⟩
  set := by decide +kernel
  bridger := ⟨exampleOwner, rfl⟩

/-- The second service is linked from inside its own `create`, and the third one ends the
linking. -/
theorem services_linked_once_reentered :
    ∃ c, Reachable (bridgedMachine exampleSetup)
        (bridgedDiscipline exampleSetup
          exampleBridged.system.manager.identityRegistryBridger) exampleBridged c ∧
      c.state.system.registry.store.totalSupply = 3 ∧
      ∀ serviceId, 0 < serviceId → serviceId ≤ 3 →
        c.state.bridger.mapServiceIdAgentIds serviceId ≠ 0 := by
  obtain ⟨c, run, seen⟩ := Machine.play_observed (bridgedDiscipline exampleSetup
      exampleBridged.system.manager.identityRegistryBridger) (bridgedMachine exampleSetup)
    exampleBridged
    [.call (.system createExample countingIds),
      .call (.linkServiceIdAgentIds exampleOperator countingIds 5),
      .answer ⟨plainAnswer, countingIds⟩,
      .call (.system createExample countingIds), .answer ⟨plainAnswer, countingIds⟩,
      .call (.linkServiceIdAgentIds exampleOperator countingIds 1)]
    (fun c => (c.stack.length, c.state.bridger.startLinkServiceId,
      c.state.system.registry.store.totalSupply)) (0, 0, 3) (by decide +kernel)
  simp only [Prod.mk.injEq] at seen
  obtain ⟨idle, done, supply⟩ := seen
  obtain ⟨-, -, -, all, -, -⟩ := services_linked_once exampleSetup exampleBridged_bridging run
  refine ⟨c, run, supply, fun serviceId positive inside => ?_⟩
  rcases all done serviceId positive (inside.trans_eq supply.symm) with linked | ⟨frame, member⟩
  · exact linked
  · rw [Config.frames, List.eq_nil_of_length_eq_zero idle] at member
    cases member

end AutonolasRegistries.Guarantees
