import AutonolasRegistries.Guarantees.BondRuns
import AutonolasRegistries.Guarantees.StakedServices
import AutonolasRegistries.Source.FactoryEffects

/-!
# Staked collateral

`_stake` of the token contract looks at the bonds configured for the agent Ids of the
service, not at what its operators paid. That the two agree is a matter of the history:
whoever registered paid the bond of the Id it registered for, and has it still unless it was
slashed. `StakingToken.sol:74-98`, `ServiceRegistryTokenUtility.sol:405-469`.

Operators can register for an Id that `update` dropped, with the bond it had then, and the
service is complete and staked with less than the check asked for.
-/
namespace AutonolasRegistries.Guarantees
open Library Source Model StakingBase

/-- What is written down of a run: who registered with a service, who lost tokens to a slash,
and the registries at every stake. -/
inductive CollateralEvent where
  | registered (operator : Address) (serviceId : Nat)
  | slashed (operator : Address) (serviceId : Nat)
  | staked (serviceId : Nat) (system : SystemWorld)

/-- A registration that was made. -/
def noteRegistration (before after : RegistryState) : Option Registration → List CollateralEvent
  | none => []
  | some registration =>
    let key := operatorService registration.operator registration.serviceId
    if (before.mapOperatorAndServiceIdAgentInstances key).length <
        (after.mapOperatorAndServiceIdAgentInstances key).length then
      [.registered registration.operator registration.serviceId]
    else []

def collateralNote : StakedCall → StakedWorld → StakedWorld → List CollateralEvent
  | .system call, before, after =>
    noteRegistration before.system.registry.store after.system.registry.store
        call.registration ++
      (tokenLosses before.system after.system call).map fun loss => .slashed loss.1 loss.2
  | .staking (.stake _ _ _ serviceId _), _, after => [.staked serviceId after.system]
  | .staking _, _, _ => []

def collateralReturn : StakedFrame → StakedWorld → StakedWorld → List CollateralEvent
  | .system frame, before, after =>
    noteRegistration before.system.registry.store after.system.registry.store
      (frameRegistration frame)
  | .staking _, _, _ => []

def markStep (operator : Address) (serviceId : Nat) (marked : Bool) : CollateralEvent → Bool
  | .registered other id => if other = operator ∧ id = serviceId then false else marked
  | .slashed other id => if other = operator ∧ id = serviceId then true else marked
  | .staked .. => marked

/-- The operator lost tokens in the service after it last registered there. -/
def slashedSince (journal : List CollateralEvent) (operator : Address) (serviceId : Nat) : Bool :=
  journal.foldl (markStep operator serviceId) false

section Marks
variable {operator : Address} {serviceId : Nat} {journal events : List CollateralEvent}

theorem slashedSince_append :
    slashedSince (journal ++ events) operator serviceId =
      events.foldl (markStep operator serviceId) (slashedSince journal operator serviceId) := by
  unfold slashedSince
  rw [List.foldl_append]

/-- A mark goes only when the operator registers. -/
theorem marks_kept {marked : Bool} (before : marked = true) :
    events.foldl (markStep operator serviceId) marked = true ∨
      CollateralEvent.registered operator serviceId ∈ events := by
  induction events generalizing marked with
  | nil => exact Or.inl before
  | cons event rest ih =>
    rw [List.foldl_cons]
    by_cases still : markStep operator serviceId marked event = true
    · exact (ih still).imp_right (List.mem_cons_of_mem _)
    · apply Or.inr
      cases event with
      | registered other id =>
        simp only [markStep] at still
        split at still
        · next same =>
          obtain ⟨rfl, rfl⟩ := same
          exact List.mem_cons_self
        · exact absurd before still
      | slashed other id =>
        simp only [markStep] at still
        split at still
        · exact absurd rfl still
        · exact absurd before still
      | staked => exact absurd before still

/-- A slash leaves a mark. -/
theorem marks_set {marked : Bool} (slashed : CollateralEvent.slashed operator serviceId ∈ events)
    (only : ∀ other id, CollateralEvent.registered other id ∉ events) :
    events.foldl (markStep operator serviceId) marked = true := by
  induction events generalizing marked with
  | nil => cases slashed
  | cons event rest ih =>
    have later : ∀ other id, CollateralEvent.registered other id ∉ rest :=
      fun other id member => only other id (List.mem_cons_of_mem _ member)
    rw [List.foldl_cons]
    rcases List.mem_cons.mp slashed with rfl | member
    · have set : markStep operator serviceId marked (.slashed operator serviceId) = true :=
        if_pos ⟨rfl, rfl⟩
      rw [set]
      refine (marks_kept rfl).resolve_right ?_
      exact later operator serviceId
    · exact ih member later

theorem noted_registration {before after : RegistryState} {asked : Option Registration}
    (noted : CollateralEvent.registered operator serviceId ∈ noteRegistration before after asked) :
    ((sheet before serviceId).operators operator).length <
      ((sheet after serviceId).operators operator).length := by
  cases asked with
  | none => cases noted
  | some registration =>
    simp only [noteRegistration] at noted
    split at noted
    · next grew =>
      cases List.mem_singleton.mp noted
      exact grew
    · cases noted

end Marks

/-- The manager is the manager of both contracts, and registrations name listed Ids. -/
def collateralDiscipline (setup : Setup) :
    Discipline SystemWorld SystemCall SystemFrame SystemAnswer where
  call call w := (jointDiscipline setup).call call w ∧
    NamesListed w.registry.store call.registration
  answer frame _ w := NamesListed w.registry.store (frameRegistration frame)

instance (setup : Setup) (call : SystemCall) (w : SystemWorld) :
    Decidable ((collateralDiscipline setup).call call w) :=
  inferInstanceAs (Decidable ((jointDiscipline setup).call call w ∧
    NamesListed w.registry.store call.registration))

instance (setup : Setup) (frame : SystemFrame) (answer : SystemAnswer) (w : SystemWorld) :
    Decidable ((collateralDiscipline setup).answer frame answer w) :=
  inferInstanceAs (Decidable (NamesListed w.registry.store (frameRegistration frame)))

/-- What is known of the registries at every piece of code. -/
structure CollateralBase (setup : Setup) (w : SystemWorld) (frames : List SystemFrame) :
    Prop where
  managed : Managed setup w frames
  sound : EscrowSound (escrow w frames)
  books : ∀ serviceId < 2 ^ 32, NamedBook (sheet w.registry.store serviceId)

section Base
variable {setup : Setup} {w : SystemWorld} {frames : List SystemFrame}

theorem collateral_joint {w' : SystemWorld} {frames' : List SystemFrame}
    (taken : Local (systemMachine setup) (collateralDiscipline setup) w frames w' frames') :
    Local (systemMachine setup) (jointDiscipline setup) w frames w' frames' := by
  cases taken with
  | entered call allowed ran => exact .entered call allowed.1 ran
  | resumed answer allowed ran => exact .resumed answer trivial ran

theorem collateralBase_preserved (setup : Setup) :
    Preserved (systemMachine setup) (collateralDiscipline setup) always
      (CollateralBase setup) := by
  have books : Preserved (registryMachine setup.edition) currentIdsDiscipline always
      fun r frames => RegistryBase r frames ∧
        ∀ serviceId < 2 ^ 32, NamedBook (sheet r.store serviceId) :=
    (registryBase_preserved (D := currentIdsDiscipline) fun _ _ allowed => allowed.1).join
      (listed_preserved (fun _ _ allowed => allowed.1) (fun _ _ allowed => allowed.2)
        fun _ _ _ before listed step => NamedBook.step before listed step)
  have lifted : Preserved (systemMachine setup) (collateralDiscipline setup)
      (ManagerShape setup) fun w frames =>
        RegistryBase w.registry (frames.flatMap registryFrame) ∧
          ∀ serviceId < 2 ^ 32, NamedBook (sheet w.registry.store serviceId) := by
    refine registrations_lift books ?_ ?_ fun _ _ _ => trivial
    · intro call w passed allowed passes registers
      exact ⟨passed_bounded allowed.1.2.2 passes, namesListed_current allowed.2 registers _ rfl⟩
    · intro frame answer w passed allowed forwarded registers
      refine ⟨?_, namesListed_current allowed registers _ rfl⟩
      cases forwarded with
      | create asked => cases asked
      | _ => trivial
  intro w frames w' frames' taken _ before
  have joint := collateral_joint taken
  constructor
  · exact managed_preserved setup _ _ _ _ joint trivial before.managed
  · exact before.sound.step (local_escrow before.managed joint)
  · exact (lifted _ _ _ _ taken before.managed.shape
      ⟨before.managed.registry, before.books⟩).2

theorem collateralBase_fresh {start : SystemWorld} (fresh : Fresh setup start) :
    CollateralBase setup start [] := by
  refine ⟨fresh.managed, fresh.sound, ?_⟩
  obtain ⟨⟨deployer, registry⟩, -, -⟩ := fresh
  intro serviceId _
  rw [registry]
  exact namedBook_deployment deployer serviceId

/-- Nobody has an instance yet. -/
theorem cover_fresh {start : SystemWorld} (fresh : Fresh setup start)
    {marked : Address → Uint32 → Prop} : BondCover marked (escrow start []) := by
  obtain ⟨⟨deployer, registry⟩, -, -⟩ := fresh
  refine ⟨Nat.zero_le 1, fun id => CoversBonds.vacant fun a => ?_⟩
  simp only [escrow, registry]
  rfl

end Base

section Cover
variable {setup : Setup} {w w' : SystemWorld} {frames pending : List SystemFrame}
  {journal events : List CollateralEvent}

/-- The marks of a journal, by key. -/
def marks (journal : List CollateralEvent) (operator : Address) (id : Uint32) : Prop :=
  slashedSince journal operator id.val = true

theorem serviceKey_of_val (id : Uint32) : serviceKey id.val = id :=
  Fin.ext (serviceKey_val id.isLt)

/-- What the journal keeps of the marks at a step. -/
theorem marks_step
    (registered : ∀ operator serviceId, serviceId < 2 ^ 32 →
      CollateralEvent.registered operator serviceId ∈ events →
        (w'.registry.store.mapServices serviceId).state = .activeRegistration ∨
        (w'.registry.store.mapServices serviceId).state = .finishedRegistration)
    (operator : Address) (id : Uint32) (before : marks journal operator id) :
    marks (journal ++ events) operator id ∨
      ((escrow w' frames).folios id).service.service.state = .activeRegistration ∨
      ((escrow w' frames).folios id).service.service.state = .finishedRegistration := by
  unfold marks
  rw [slashedSince_append]
  exact (marks_kept before).imp_right fun noted => registered operator id.val id.isLt noted

/-- A slash registers nobody. -/
theorem losses_registration {call : SystemCall} {loss : Address × Nat}
    (lost : loss ∈ tokenLosses w w' call) : call.registration = none := by
  cases call with
  | manager | registry => cases lost
  | utility => rfl

theorem losses_marked {call : SystemCall} {operator : Address} {serviceId : Nat}
    (lost : (operator, serviceId) ∈ tokenLosses w w' call) :
    slashedSince (journal ++ (noteRegistration w.registry.store w'.registry.store
        call.registration ++ (tokenLosses w w' call).map fun loss => .slashed loss.1 loss.2))
      operator serviceId = true := by
  rw [losses_registration lost, slashedSince_append]
  apply marks_set
  · exact List.mem_append_right _ (List.mem_map.mpr ⟨_, lost, rfl⟩)
  · intro other id noted
    rcases List.mem_append.mp noted with registered | slashed
    · cases registered
    · obtain ⟨loss, -, wrong⟩ := List.mem_map.mp slashed
      cases wrong

theorem cover_called {call : SystemCall} {out : Outcome SystemWorld SystemFrame}
    (known : Managed setup w frames) (sound : EscrowSound (escrow w frames)) (allowed : (jointDiscipline setup).call call w)
    (ran : w.enter setup call = .ok out)
    (supply : out.state.registry.store.totalSupply < 2 ^ 32)
    (cover : BondCover (marks journal) (escrow w frames)) :
    BondCover (marks (journal ++ (noteRegistration w.registry.store out.state.registry.store
        call.registration ++
          (tokenLosses w out.state call).map fun loss => .slashed loss.1 loss.2)))
      (escrow out.state (out.pending ++ frames)) := by
  have move := SystemWorld.enter_move ran
  have taken : Local (systemMachine setup) (jointDiscipline setup) w frames out.state
      (out.pending ++ frames) := .entered call allowed ran
  apply cover.step sound (local_escrow known taken)
  · intro id operator fell
    rcases move_losses known allowed.1.1 move id.isLt fell with lost | leaving
    · exact Or.inl (losses_marked lost)
    · apply Or.inr
      rw [serviceKey_of_val] at leaving
      change _ ∈ (out.pending ++ frames).flatMap waitingOf
      rw [List.flatMap_append]
      exact List.mem_append_left _ leaving
  · apply marks_step
    intro operator serviceId small noted
    rcases List.mem_append.mp noted with registered | slashed
    · have registry : RegistryBase w.registry ([] ++ frames.flatMap registryFrame) :=
        known.registry
      exact part_registers registry supply (move_registryPart move) small
        (noted_registration registered)
    · obtain ⟨loss, -, wrong⟩ := List.mem_map.mp slashed
      cases wrong

theorem cover_resumed {frame : SystemFrame} {answer : SystemAnswer}
    {out : Outcome SystemWorld SystemFrame}
    (known : Managed setup w (frame :: frames)) (sound : EscrowSound (escrow w (frame :: frames)))
    (ran : w.resume setup frame answer = .ok out)
    (supply : out.state.registry.store.totalSupply < 2 ^ 32)
    (cover : BondCover (marks journal) (escrow w (frame :: frames))) :
    BondCover (marks (journal ++ noteRegistration w.registry.store out.state.registry.store
      (frameRegistration frame))) (escrow out.state (out.pending ++ frames)) := by
  have move := SystemWorld.resume_return ran
  have taken : Local (systemMachine setup) (jointDiscipline setup) w (frame :: frames) out.state
      (out.pending ++ frames) := .resumed answer trivial ran
  apply cover.step sound (local_escrow known taken)
  · intro id operator fell
    have same := return_losses move operator id.val
    exact absurd fell (by
      change ¬ tokenBalance out.state operator id.val < tokenBalance w operator id.val
      omega)
  · apply marks_step
    intro operator serviceId small noted
    have registry := known.registry
    rw [List.flatMap_cons] at registry
    have real := known.shape.real frame List.mem_cons_self
    exact part_registers registry supply (return_registryPart real move) small
      (noted_registration noted)

end Cover

/-- The operators of the service have paid the least deposit for each of its instances, and
its owner once. -/
structure RealCollateral (minStakingDeposit : Nat) (w : SystemWorld) (serviceId : Nat) :
    Prop where
  bonds : (w.registry.store.mapServices serviceId).numAgentInstances * minStakingDeposit ≤
    ∑ operator : Address, tokenBalance w operator serviceId
  deposit : minStakingDeposit ≤
    (w.utility.store.mapServiceIdTokenDeposit serviceId).securityDeposit

section Stake
variable {setup : Setup} {self : Address} {w : StakedWorld} {frames : List SystemFrame}
  {journal : List CollateralEvent} {stakingToken : Address} {serviceId : Nat}

/-- What `_checkTokenStakingDeposit` found. -/
theorem stake_checked {world : StakingWorld} {out : Outcome StakingWorld StakingFrame}
    {sender : Caller} {answers : Nat → ActivityAnswer} {view : StakeView} {info : Nat}
    (ran : StakingWorld.enter self (.stake sender answers view serviceId info) world = .ok out)
    (asset : world.store.asset = .token stakingToken) :
    view.service.state = .deployed ∧ view.token = stakingToken ∧
      world.store.params.minStakingDeposit ≤ view.tokenDeposit ∧
      ∀ x ∈ view.service.agentIds, world.store.params.minStakingDeposit ≤ view.agentBond x := by
  have found := (stake_found ran).1
  simp only [StakingWorld.enter, bind_eq_ok, Prod.exists, pure_eq_ok] at ran
  obtain ⟨s', nft, result, staked, rfl⟩ := ran
  obtain ⟨-, s₁, nonces, checkpointed, -, -, config, -, rfl⟩ := stake_spec staked
  have kept := Source.checkpoint_terms checkpointed
  have same : s₁.asset = .token stakingToken := (congrArg Prod.fst kept).trans asset
  have params : s₁.params = world.store.params := congrArg (fun terms => terms.2.1) kept
  simp only [checkServiceConfiguration, checkTokenStakingDeposit, bind_eq_ok, revertIf_eq_ok,
    exists_const, ne_eq, not_not, not_lt, same, params] at config
  obtain ⟨-, -, -, -, -, -, -, token, deposit, bonds⟩ := config
  refine ⟨found, token.symm, deposit, ?_⟩
  intro x listed
  exact not_lt.mp (loop_checks bonds x listed)

/-- The bonds of the listed Ids add up. -/
theorem bonds_paid {f : Folio} {least : Nat} (book : NamedBook f.service)
    (checked : ∀ x ∈ f.service.service.agentIds, least ≤ f.tokens.bonds x)
    (covered : ∀ a, bondsOf f.tokens.bonds ((f.service.operators a).map AgentInstance.agentId) ≤
      f.tokens.balances a) :
    f.service.service.numAgentInstances * least ≤ ∑ a : Address, f.tokens.balances a := by
  rw [book.operators.counted, total_eq_sum, Finset.sum_mul]
  apply Finset.sum_le_sum
  intro a _
  refine le_trans ?_ (covered a)
  have each : ∀ bond ∈ ((f.service.operators a).map AgentInstance.agentId).map f.tokens.bonds,
      least ≤ bond := by
    intro bond member
    obtain ⟨x, named, rfl⟩ := List.mem_map.mp member
    obtain ⟨entry, held, rfl⟩ := List.mem_map.mp named
    exact checked _ (book.named a entry held)
  have sum := List.card_nsmul_le_sum _ least each
  rw [List.length_map, List.length_map, smul_eq_mul] at sum
  exact sum

/-- What waits to let an operator go is an `unbond` of the manager. -/
theorem unbonding_frame {a : Address} {s : SystemWorld} (known : Managed setup s frames)
    (small : serviceId < 2 ^ 32)
    (waits : Waiting.unbonding a (serviceKey serviceId) ∈ (escrow s frames).waiting) :
    ∃ inner, SystemFrame.unbond a serviceId inner ∈ frames := by
  obtain ⟨frame, member, waiting⟩ := List.mem_flatMap.mp waits
  have fits := known.fitting frame member
  unfold waitingOf at waiting
  split at waiting <;> simp only [List.mem_singleton, List.not_mem_nil, reduceCtorEq] at waiting
  · next operator target push =>
    have bound : target < 2 ^ 32 := fits.1
    obtain ⟨same, keys⟩ := Waiting.unbonding.inj waiting
    have equal : serviceId = target := by
      rw [← serviceKey_val small, keys, serviceKey_val bound]
    subst same equal
    exact ⟨_, member⟩

theorem stake_collateral {sender : Caller} {answers : Nat → ActivityAnswer} {view : StakeView}
    {info : Nat} {inner : Outcome StakingWorld StakingFrame}
    (base : CollateralBase setup w.system frames)
    (cover : BondCover (marks journal) (escrow w.system frames))
    (asset : w.staking.asset = .token stakingToken) (real : stakingToken ≠ 0)
    (entered : StakingWorld.enter self (w.reading (.stake sender answers view serviceId info))
      w.stakingWorld = .ok inner)
    (unslashed : ∀ operator, w.system.registry.store.mapOperatorAndServiceIdAgentInstances
      (operatorService operator serviceId) ≠ [] → slashedSince journal operator serviceId = false) :
    RealCollateral w.staking.params.minStakingDeposit w.system serviceId ∨
      Doomed w.system frames serviceId := by
  obtain ⟨deployed, token, deposit, bonds⟩ := stake_checked entered asset
  have small : serviceId < 2 ^ 32 := base.managed.small (by
    intro gone
    have wrong := gone.symm.trans deployed
    cases wrong)
  by_cases leaving : ∃ a, Waiting.unbonding a (serviceKey serviceId) ∈
      (escrow w.system frames).waiting
  · obtain ⟨a, waits⟩ := leaving
    exact Or.inr ⟨deployed, a, unbonding_frame base.managed small waits⟩
  · apply Or.inl
    refine ⟨?_, deposit⟩
    have covers := cover.covers (serviceKey serviceId)
    rw [escrow_folio small] at covers
    apply bonds_paid (f := ⟨sheet w.system.registry.store serviceId,
      tokenSheet w.system.utility.store serviceId⟩) (base.books serviceId small) bonds
    intro a
    have secured : (tokenSheet w.system.utility.store serviceId).token ≠ 0 := by
      rw [← token] at real
      exact real
    rcases covers secured a with covered | ⟨marked, -⟩ | waits
    · unfold bondedIds at covered
      rw [bondsOf_append] at covered
      exact le_trans (Nat.le_add_right _ _) covered
    · have vacant : (sheet w.system.registry.store serviceId).operators a = [] := by
        by_contra some
        have clear := unslashed a some
        unfold marks at marked
        rw [serviceKey_val small, clear] at marked
        cases marked
      rw [vacant]
      exact Nat.zero_le _
    · exact absurd ⟨a, (List.mem_filter.mp waits).1⟩ leaving

end Stake

/-- None of the operators of the service has been slashed there since registering. -/
def Unslashed (journal : List CollateralEvent) (w : SystemWorld) (serviceId : Nat) : Prop :=
  ∀ operator, w.registry.store.mapOperatorAndServiceIdAgentInstances
    (operatorService operator serviceId) ≠ [] → slashedSince journal operator serviceId = false

/-- Every stake of the journal is backed, or is undone with the `unbond` it came from. -/
def CollateralBook (least : Nat) (w : SystemWorld) (frames : List SystemFrame)
    (journal : List CollateralEvent) : Prop :=
  ∀ past later serviceId s, journal = past ++ .staked serviceId s :: later →
    Unslashed past s serviceId → RealCollateral least s serviceId ∨ Doomed w frames serviceId

section Book
variable {setup : Setup} {self : Address} {least : Nat} {w w' : SystemWorld}
  {frames frames' : List SystemFrame} {journal events : List CollateralEvent}

theorem CollateralBook.extend (before : CollateralBook least w frames journal)
    (doom : ∀ serviceId, Doomed w frames serviceId → Doomed w' frames' serviceId)
    (new : ∀ past later serviceId s, events = past ++ .staked serviceId s :: later →
      Unslashed (journal ++ past) s serviceId →
        RealCollateral least s serviceId ∨ Doomed w' frames' serviceId) :
    CollateralBook least w' frames' (journal ++ events) := by
  intro past later serviceId s written unslashed
  rcases List.append_eq_append_iff.mp written with ⟨middle, rfl, rest⟩ | ⟨middle, whole, rest⟩
  · exact new middle later serviceId s rest unslashed
  · cases middle with
    | nil =>
      rw [List.append_nil] at whole
      subst whole
      exact new [] later serviceId s rest.symm (by rwa [List.append_nil])
    | cons head tail =>
      rw [List.cons_append, List.cons.injEq] at rest
      obtain ⟨rfl, -⟩ := rest
      exact (before past tail serviceId s whole unslashed).imp_right (doom serviceId)

/-- Pieces of code that stake nothing. -/
theorem CollateralBook.quiet (before : CollateralBook least w frames journal)
    (doom : ∀ serviceId, Doomed w frames serviceId → Doomed w' frames' serviceId)
    (none : ∀ serviceId s, CollateralEvent.staked serviceId s ∉ events) :
    CollateralBook least w' frames' (journal ++ events) := by
  refine before.extend doom fun past later serviceId s written _ => ?_
  refine absurd ?_ (none serviceId s)
  rw [written]
  exact List.mem_append_right _ List.mem_cons_self

theorem registration_unstaked {before after : RegistryState} {asked : Option Registration}
    (serviceId : Nat) (s : SystemWorld) :
    CollateralEvent.staked serviceId s ∉ noteRegistration before after asked := by
  intro noted
  cases asked with
  | none => cases noted
  | some registration =>
    simp only [noteRegistration] at noted
    split at noted
    · cases List.mem_singleton.mp noted
    · cases noted

/-- Calls of the staking contract as an account like any other. -/
theorem collateral_transfer (apart : self ≠ setup.self.val) (valid : self ≠ 0)
    (owner recipient : Address) (id : Nat) (w : SystemWorld) :
    (collateralDiscipline setup).call
      (.registry (.transferFrom ⟨self, valid⟩ owner recipient id)) w :=
  ⟨⟨⟨fun same => apart (congrArg Subtype.val same), trivial⟩, trivial,
    fun minted => by cases minted⟩, trivial⟩

end Book

/-- What holds along a run with a journal, for a contract with the given terms. -/
structure Backed (setup : Setup) (terms : StakingAsset × StakingParams × Nat)
    (staking : StakingState) (w : SystemWorld) (frames : List SystemFrame)
    (journal : List CollateralEvent) : Prop where
  same : staking.terms = terms
  base : CollateralBase setup w frames
  cover : BondCover (marks journal) (escrow w frames)
  book : CollateralBook terms.2.1.minStakingDeposit w frames journal

section Steps
variable {setup : Setup} {self stakingToken : Address}
  {terms : StakingAsset × StakingParams × Nat} {staking : StakingState} {w w' : SystemWorld}
  {frames frames' : List SystemFrame} {journal : List CollateralEvent}

theorem doomed_kept (base : CollateralBase setup w frames)
    (locals : Locals (systemMachine setup) (collateralDiscipline setup) w frames w' frames')
    (serviceId : Nat) (doomed : Doomed w frames serviceId) : Doomed w' frames' serviceId := by
  have kept : Preserved (systemMachine setup) (collateralDiscipline setup)
      (CollateralBase setup) fun w frames => Doomed w frames serviceId :=
    fun _ _ _ _ taken known held => doomed_preserved setup serviceId _ _ _ _
      (collateral_joint taken) known.managed held
  exact (locals.keep ((collateralBase_preserved setup).join kept) ⟨base, doomed⟩).2

theorem Backed.called {call : SystemCall} {out : Outcome SystemWorld SystemFrame}
    (before : Backed setup terms staking w frames journal)
    (allowed : (collateralDiscipline setup).call call w) (ran : w.enter setup call = .ok out) :
    Backed setup terms staking out.state (out.pending ++ frames)
      (journal ++ (noteRegistration w.registry.store out.state.registry.store
        call.registration ++
          (tokenLosses w out.state call).map fun loss => .slashed loss.1 loss.2)) := by
  have taken : Locals (systemMachine setup) (collateralDiscipline setup) w frames out.state
      (out.pending ++ frames) := .tail .refl (.entered call allowed ran)
  have base := taken.keep (collateralBase_preserved setup) before.base
  refine ⟨before.same, base, ?_, ?_⟩
  · exact cover_called before.base.managed before.base.sound allowed.1 ran base.managed.registry.2 before.cover
  · refine before.book.quiet (doomed_kept before.base taken) fun serviceId s staked => ?_
    rcases List.mem_append.mp staked with registered | slashed
    · exact registration_unstaked serviceId s registered
    · obtain ⟨loss, -, wrong⟩ := List.mem_map.mp slashed
      cases wrong

theorem Backed.resumed {frame : SystemFrame} {answer : SystemAnswer}
    {out : Outcome SystemWorld SystemFrame}
    (before : Backed setup terms staking w (frame :: frames) journal)
    (allowed : (collateralDiscipline setup).answer frame answer w)
    (ran : w.resume setup frame answer = .ok out) :
    Backed setup terms staking out.state (out.pending ++ frames)
      (journal ++ noteRegistration w.registry.store out.state.registry.store
        (frameRegistration frame)) := by
  have taken : Locals (systemMachine setup) (collateralDiscipline setup) w (frame :: frames)
      out.state (out.pending ++ frames) := .tail .refl (.resumed answer allowed ran)
  have base := taken.keep (collateralBase_preserved setup) before.base
  refine ⟨before.same, base, ?_, ?_⟩
  · exact cover_resumed before.base.managed before.base.sound ran base.managed.registry.2 before.cover
  · exact before.book.quiet (doomed_kept before.base taken) registration_unstaked

end Steps

section Staking
variable {setup : Setup} {self stakingToken : Address}
  {terms : StakingAsset × StakingParams × Nat} {w : StakedWorld} {frames : List SystemFrame}
  {journal : List CollateralEvent} {t : StakingWorld}

/-- The staking contract moves an NFT at most, which the escrow knows nothing of. -/
theorem escrow_staking : escrow (w.withStaking t).system frames = escrow w.system frames := rfl

/-- A piece of the staking contract's code that stakes nothing. -/
theorem Backed.aside (before : Backed setup terms w.staking w.system frames journal)
    (valid : self ≠ 0) (apart : self ≠ setup.self.val)
    (moved : Transfers self w.stakingWorld t) (kept : t.store.terms = w.staking.terms) :
    Backed setup terms (w.withStaking t).staking (w.withStaking t).system frames journal := by
  have taken : Locals (systemMachine setup) (collateralDiscipline setup) w.system frames
      (w.withStaking t).system frames :=
    transfers_system valid
      (fun owner recipient id => collateral_transfer apart valid owner recipient id w.system)
      moved frames
  refine ⟨kept.trans before.same, taken.keep (collateralBase_preserved setup) before.base, ?_, ?_⟩
  · rw [escrow_staking]
    exact before.cover
  · have quiet : CollateralBook terms.2.1.minStakingDeposit (w.withStaking t).system frames
        (journal ++ []) := before.book.quiet (doomed_kept before.base taken) (by simp)
    rw [List.append_nil] at quiet
    exact quiet

theorem Backed.staked {sender : Caller} {answers : Nat → ActivityAnswer} {view : StakeView}
    {serviceId info : Nat} {inner : Outcome StakingWorld StakingFrame}
    (before : Backed setup terms w.staking w.system frames journal)
    (valid : self ≠ 0) (apart : self ≠ setup.self.val)
    (asset : terms.1 = .token stakingToken) (real : stakingToken ≠ 0)
    (entered : StakingWorld.enter self (w.reading (.stake sender answers view serviceId info))
      w.stakingWorld = .ok inner) :
    Backed setup terms (w.withStaking inner.state).staking (w.withStaking inner.state).system
      frames (journal ++ [.staked serviceId (w.withStaking inner.state).system]) := by
  have moved := enter_transfers (reading_own rfl) entered
  have aside := before.aside valid apart moved (staking_enter_terms entered)
  have token : w.staking.asset = .token stakingToken :=
    (congrArg Prod.fst before.same).trans asset
  have least : w.staking.params = terms.2.1 := congrArg (fun terms => terms.2.1) before.same
  refine ⟨aside.same, aside.base, ?_, ?_⟩
  · constructor
    · exact aside.cover.alone
    · intro id
      refine (aside.cover.covers id).mono fun a marked => ?_
      unfold marks
      rw [slashedSince_append]
      exact marked
  · refine aside.book.extend (fun _ doomed => doomed) ?_
    intro past later id s written unslashed
    have first : past = [] ∧ CollateralEvent.staked id s =
        .staked serviceId (w.withStaking inner.state).system := by
      cases past with
      | nil =>
        rw [List.nil_append, List.cons.injEq] at written
        exact ⟨rfl, written.1.symm⟩
      | cons head tail => simp at written
    obtain ⟨rfl, same⟩ := first
    cases same
    rw [List.append_nil] at unslashed
    rw [← least]
    rcases stake_collateral before.base before.cover token real entered unslashed with
      ⟨bonds, deposit⟩ | doomed
    · exact Or.inl ⟨bonds, deposit⟩
    · exact Or.inr doomed

end Staking

/-- The whole system, with its journal. -/
def BackedRun (setup : Setup) (terms : StakingAsset × StakingParams × Nat)
    (w : StakedWorld × List CollateralEvent) (frames : List StakedFrame) : Prop :=
  Backed setup terms w.1.staking w.1.system (frames.flatMap systemFrames) w.2

theorem backedRun_preserved {setup : Setup} {self stakingToken : Address}
    {terms : StakingAsset × StakingParams × Nat} (valid : self ≠ 0)
    (apart : self ≠ setup.self.val) (asset : terms.1 = .token stakingToken)
    (real : stakingToken ≠ 0) :
    Preserved ((stakedMachine setup self).journaled collateralNote collateralReturn)
      (stakedDiscipline self (collateralDiscipline setup)).logged always
      (BackedRun setup terms) := by
  rintro ⟨w, journal⟩ frames ⟨w', journal'⟩ frames' taken _ before
  obtain ⟨-, noted⟩ := journaled_cases taken
  unfold BackedRun at before ⊢
  dsimp only at before noted ⊢
  rcases noted with ⟨call, out, allowed, entered, moved, stack, written⟩ |
    ⟨frame, rest, answer, out, allowed, stack, resumed, moved, stack', written⟩
  · subst moved written stack
    cases call with
    | system call =>
      obtain ⟨inner, ran, same⟩ := inSystem_eq_ok entered
      subst same
      rw [Outcome.state_embed, Outcome.pending_embed, frames_own fun _ => rfl]
      exact before.called allowed.1 ran
    | staking call =>
      obtain ⟨own, inner, ran, same⟩ := staking_entered entered
      subst same
      rw [Outcome.state_embed, Outcome.pending_embed, frames_other fun _ => rfl]
      cases call with
      | stake => exact before.staked valid apart asset real ran
      | _ =>
        simp only [collateralNote, List.append_nil]
        exact before.aside valid apart (enter_transfers (reading_own own) ran)
          (staking_enter_terms ran)
  · subst moved written stack stack'
    rw [List.flatMap_cons] at before
    cases frame with
    | system frame =>
      obtain ⟨inner, ran, same⟩ := inSystem_eq_ok resumed
      subst same
      rw [Outcome.state_embed, Outcome.pending_embed, frames_own fun _ => rfl]
      exact before.resumed allowed ran
    | staking frame =>
      obtain ⟨inner, ran, same⟩ := inStaking_eq_ok resumed
      subst same
      rw [Outcome.state_embed, Outcome.pending_embed, frames_other fun _ => rfl]
      simp only [collateralReturn, List.append_nil]
      exact before.aside valid apart (resume_transfers ran) (staking_resume_terms ran)

/-- A token contract is set up with a token. -/
theorem fresh_token {self stakingToken : Address} {w : StakingWorld} (fresh : w.Fresh self)
    (asset : w.store.asset = .token stakingToken) : stakingToken ≠ 0 := by
  obtain ⟨tokenUtility, codeLength, viaProxy, ran⟩ := fresh.setup
  rw [asset] at ran
  simp only [initializeStaking, bind_eq_ok, revertIf_eq_ok, exists_const] at ran
  obtain ⟨-, -, -, -, -, _, -, -, _, -, _, -, _, -, _, -, some, -⟩ := ran
  exact fun none => some (Or.inl none)

theorem backed_fresh {setup : Setup} {start : StakedWorld} (fresh : Fresh setup start.system) :
    Backed setup start.staking.terms start.staking start.system [] [] := by
  refine ⟨rfl, collateralBase_fresh fresh, cover_fresh fresh, ?_⟩
  intro past later serviceId s written
  simp at written

/-- In every run in which registrations name only listed Ids: when a service is staked whose
operators were not slashed there since they registered, they have at least the least deposit
for each of its instances in the token utility, and the service has a deposit of at least as
much. A stake inside an `unbond` of the same service counts when that has returned, which it
never does. -/
theorem staked_collateral_real (setup : Setup) {self stakingToken : Address}
    (apart : self ≠ setup.self.val) {start : StakedWorld} (fresh : Fresh setup start.system)
    (ready : start.stakingWorld.Fresh self) (asset : start.staking.asset = .token stakingToken)
    {c : Config (StakedWorld × List CollateralEvent) StakedFrame}
    (run : Reachable ((stakedMachine setup self).journaled collateralNote collateralReturn)
      (stakedDiscipline self (collateralDiscipline setup)).logged (start, []) c)
    {past later : List CollateralEvent} {serviceId : Nat} {s : SystemWorld}
    (noted : c.state.2 = past ++ .staked serviceId s :: later)
    (settled : ∀ operator inner,
      StakedFrame.system (.unbond operator serviceId inner) ∉ c.frames)
    (unslashed : Unslashed past s serviceId) :
    RealCollateral start.staking.params.minStakingDeposit s serviceId := by
  have real := fresh_token ready asset
  have preserved : Preserved ((stakedMachine setup self).journaled collateralNote
      collateralReturn) (stakedDiscipline self (collateralDiscipline setup)).logged always
      (BackedRun setup start.staking.terms) :=
    backedRun_preserved ready.nonzero apart asset real
  have initial : BackedRun setup start.staking.terms (start, []) [] := backed_fresh fresh
  have backed := run.invariant preserved initial
  rcases backed.book past later serviceId s noted unslashed with good | ⟨-, operator, inner, waits⟩
  · exact good
  · obtain ⟨frame, member, mine⟩ := List.mem_flatMap.mp waits
    cases frame with
    | staking => cases mine
    | system frame =>
      cases List.mem_singleton.mp mine
      exact absurd member (settled operator inner)

section Scripts

/-- The staking contract of the other scripts for services secured by token 20. -/
def exampleSecured : StakedWorld where
  system := exampleTakeover
  staking := { sampleStaking.store with
    asset := .token 20
    params := { sampleParams with minStakingDeposit := 100 } }
  timestamp := 1000
  history := []

theorem exampleSecured_fresh : exampleSecured.stakingWorld.Fresh 5 where
  nonzero := by decide
  clock := by decide
  setup := ⟨6, 1, false, rfl⟩
  guarded := ⟨fun _ => rfl, fun _ _ => rfl⟩
  keeps := ⟨fun _ => rfl, fun _ _ => rfl⟩
  unborn := rfl
  empty := rfl

/-- A transfer of the token, and the balance of the token utility after it. -/
def paid (balance : Nat) : Move StakedCall SystemAnswer := .answer ⟨⟨0, [], true⟩, ⟨true, balance⟩⟩

/-- A service with one slot, secured by token 20. -/
def secureScript (agentId : Uint32) (bond : Uint96) : List (Move StakedCall SystemAnswer) :=
  [.call (.system (.manager (.create exampleOwner true 2 3 20 1 [agentId] [⟨1, bond⟩] 1))),
    paid 0]

def resecure (agentId : Uint32) (bond : Uint96) : List (Move StakedCall SystemAnswer) :=
  [.call (.system (.manager (.update exampleOwner true 2 20 1 [agentId] [⟨1, bond⟩] 1 1)))]

/-- Service 1 takes an instance for the agent Id, at the bond given. -/
def joinScript (deposit bond : Nat) (instance_ : Address) (agentId : Uint32) :
    List (Move StakedCall SystemAnswer) :=
  [.call (.system (.manager (.activateRegistration exampleOwner 1 ⟨deposit, 0⟩ 1))),
    paid deposit,
    .call (.system (.manager (.registerAgents exampleOperator 1 true ⟨bond, deposit⟩ 1
      [instance_] [agentId]))),
    paid (deposit + bond)]

def partScript : List (Move StakedCall SystemAnswer) :=
  [.call (.system (.manager (.terminate exampleOwner 1))), paid 0, paid 0,
    .call (.system (.manager (.unbond exampleOperator 1))), paid 0, paid 0]

/-- Service 1 is deployed with the multisig 9, and there are rewards to stake for. -/
def readyScript : List (Move StakedCall SystemAnswer) :=
  [.call (.system (.registry (.changeMultisigPermission registryOwner 8 true))),
    .call (.system (.manager (.deploy exampleOwner 1 8))),
    .answer ⟨⟨9, [], true⟩, ⟨true, 0⟩⟩,
    .call (.system (.registry (.approve exampleOwner 5 1))),
    .call (.staking (.deposit sampleOwner 100000)), paid 0]

def stakeOne : List (Move StakedCall SystemAnswer) :=
  [.call (.staking (.stake exampleOwner (activeAnswer 1) deployedView 1 0))]

def CollateralEvent.slashes : CollateralEvent → Bool
  | .slashed .. => true
  | .registered .. | .staked .. => false

/-- Without a slash nobody is marked. -/
theorem slashedSince_clean {journal : List CollateralEvent}
    (clean : journal.any CollateralEvent.slashes = false) (operator : Address) (serviceId : Nat) :
    slashedSince journal operator serviceId = false := by
  unfold slashedSince
  generalize first : false = marked
  induction journal with
  | nil => rfl
  | cons event rest ih =>
    rw [List.any_cons, Bool.or_eq_false_iff] at clean
    subst first
    rw [List.foldl_cons]
    have still : markStep operator serviceId false event = false := by
      cases event with
      | registered => simp only [markStep, ite_self]
      | slashed => cases clean.1
      | staked => rfl
    rw [still]
    exact ih clean.2

theorem frames_settled {σ φ : Type} {c : Config σ φ} (settled : c.stack.length = 0) :
    c.frames = [] := by
  unfold Config.frames
  rw [List.eq_nil_of_length_eq_zero settled]
  rfl

/-- A stake is noted with the registries as it leaves them. -/
theorem play_stake {setup : Setup} {self : Address} {w : StakedWorld × List CollateralEvent}
    {D : Discipline SystemWorld SystemCall SystemFrame SystemAnswer}
    [∀ call s, Decidable (D.call call s)] [∀ frame answer s, Decidable (D.answer frame answer s)]
    {c : Config (StakedWorld × List CollateralEvent) StakedFrame} {sender : Caller}
    {answers : Nat → ActivityAnswer} {view : StakeView} {serviceId info : Nat}
    (ran : ((stakedMachine setup self).journaled collateralNote collateralReturn).play
      (stakedDiscipline self D).logged
      [.call (.staking (.stake sender answers view serviceId info))] ⟨w, []⟩ = some c) :
    c.state.2 = w.2 ++ [.staked serviceId c.state.1.system] := by
  simp only [Machine.play, Machine.move, Machine.journaled, Except.map] at ran
  split at ran
  · cases entered : (stakedMachine setup self).enter
        (.staking (.stake sender answers view serviceId info)) w.1 with
    | error reason =>
      rw [entered] at ran
      cases ran
    | ok out =>
      rw [entered] at ran
      cases ran
      rw [Outcome.state_map]
      rfl
  · cases ran

end Scripts

def listedScript : List (Move StakedCall SystemAnswer) :=
  secureScript 1 100 ++ joinScript 100 100 15 1 ++ readyScript

theorem staked_collateral_real_once :
    ∃ c s, Reachable ((stakedMachine exampleSetup 5).journaled collateralNote collateralReturn)
        (stakedDiscipline 5 (collateralDiscipline exampleSetup)).logged (exampleSecured, []) c ∧
      .staked 1 s ∈ c.state.2 ∧ RealCollateral 100 s 1 := by
  have before := Machine.after_reachable
    (stakedDiscipline 5 (collateralDiscipline exampleSetup)).logged
    ((stakedMachine exampleSetup 5).journaled collateralNote collateralReturn)
    (exampleSecured, []) listedScript (by decide +kernel)
  generalize reached : ((stakedMachine exampleSetup 5).journaled collateralNote
    collateralReturn).after (stakedDiscipline 5 (collateralDiscipline exampleSetup)).logged
      listedScript (exampleSecured, []) = w at before
  have clean : w.2.any CollateralEvent.slashes = false := by
    rw [← reached]
    decide +kernel
  have staked : (((stakedMachine exampleSetup 5).journaled collateralNote collateralReturn).play
      (stakedDiscipline 5 (collateralDiscipline exampleSetup)).logged stakeOne ⟨w, []⟩).map
        (fun c => c.stack.length) = some 0 := by
    rw [← reached]
    decide +kernel
  obtain ⟨c, ran, settled⟩ := Option.map_eq_some_iff.mp staked
  have run := Machine.play_reachable _ stakeOne before ran
  have frames := frames_settled settled
  have noted : c.state.2 = w.2 ++ .staked 1 c.state.1.system :: [] := play_stake ran
  refine ⟨c, c.state.1.system, run, ?_, ?_⟩
  · rw [noted]
    exact List.mem_append_right _ List.mem_cons_self
  · refine staked_collateral_real exampleSetup (by decide) exampleTakeover_fresh
      exampleSecured_fresh rfl run noted ?_ ?_
    · intro operator inner
      rw [frames]
      exact List.not_mem_nil
    · exact fun operator _ => slashedSince_clean clean operator 1

/-- The owners a genuine Safe accepts. -/
def ValidOwners : Except Revert (List Address) → Prop
  | .ok owners => 0 ∉ owners ∧ owners.Nodup
  | .error _ => True

instance (owners : Except Revert (List Address)) : Decidable (ValidOwners owners) :=
  match owners with
  | .ok owners => inferInstanceAs (Decidable (0 ∉ owners ∧ owners.Nodup))
  | .error _ => .isTrue trivial

/-- A multisig implementation that returns has made a Safe of the owners it was given. -/
def GenuineSafe (w : SystemWorld) : SystemFrame → Prop
  | .deploy serviceId _ _ => ValidOwners (ServiceRegistry.getAgentInstances
      (w.registry.store.mapServices serviceId) serviceId w.registry.store)
  | _ => True

instance (w : SystemWorld) (frame : SystemFrame) : Decidable (GenuineSafe w frame) :=
  match frame with
  | .deploy serviceId _ _ => inferInstanceAs (Decidable (ValidOwners
      (ServiceRegistry.getAgentInstances (w.registry.store.mapServices serviceId) serviceId
        w.registry.store)))
  | .registry _ | .utility _ | .create .. | .refund .. | .activate .. | .register ..
  | .terminate .. | .unbond .. | .bridger _ => .isTrue trivial

def genuineDiscipline (setup : Setup) :
    Discipline SystemWorld SystemCall SystemFrame SystemAnswer where
  call := (jointDiscipline setup).call
  answer frame _ w := GenuineSafe w frame

instance (setup : Setup) (call : SystemCall) (w : SystemWorld) :
    Decidable ((genuineDiscipline setup).call call w) :=
  inferInstanceAs (Decidable ((jointDiscipline setup).call call w))

instance (setup : Setup) (frame : SystemFrame) (answer : SystemAnswer) (w : SystemWorld) :
    Decidable ((genuineDiscipline setup).answer frame answer w) :=
  inferInstanceAs (Decidable (GenuineSafe w frame))

theorem genuine_accounted (setup : Setup) :
    Preserved (systemMachine setup) (genuineDiscipline setup) always fun w frames =>
      Managed setup w frames ∧ EscrowSound (escrow w frames) := by
  have joint : Preserved (systemMachine setup) (jointDiscipline setup) always fun w frames =>
      Managed setup w frames ∧ EscrowSound (escrow w frames) :=
    (managed_preserved setup).join (escrow_preserved fun _ _ before step => before.step step)
  intro w frames w' frames' taken given before
  refine joint _ _ _ _ ?_ given before
  cases taken with
  | entered call allowed ran => exact .entered call allowed ran
  | resumed answer allowed ran => exact .resumed answer trivial ran

/-- With one service and nothing under way, what came in and did not go out is its deposit and
its operators' balances. -/
theorem single_balances {setup : Setup} {w : SystemWorld} {deposit : Nat} {token : Address}
    (known : Managed setup w []) (sound : EscrowSound (escrow w [])) (real : token ≠ 0)
    (only : w.registry.store.totalSupply = 1)
    (own : w.utility.store.mapServiceIdTokenDeposit 1 = ⟨token, deposit⟩)
    (held : (w.registry.store.mapServices 1).state.holdsDeposit = true) :
    w.utility.pulled token = w.utility.sent token +
      (deposit + ∑ operator : Address, tokenBalance w operator 1) +
        w.utility.store.mapSlashedFunds token := by
  have balanced := sound.balanced token real
  rw [owed_services known real, only] at balanced
  have zero : (w.utility.store.mapServiceIdTokenDeposit 0).token = 0 := by
    by_contra some
    exact absurd (known.recorded 0 some).1 (by decide)
  have first : tokensOwed token ⟨sheet w.registry.store 0, tokenSheet w.utility.store 0⟩ = 0 :=
    tokensOwed_other fun same => real (same.symm.trans zero)
  have second : tokensOwed token ⟨sheet w.registry.store 1, tokenSheet w.utility.store 1⟩ =
      deposit + ∑ operator : Address, tokenBalance w operator 1 := by
    have tokens := congrArg TokenSecurityDeposit.token own
    rw [tokensOwed_held (f := ⟨sheet w.registry.store 1, tokenSheet w.utility.store 1⟩) tokens held,
      total_eq_sum]
    exact congrArg (· + _) (congrArg TokenSecurityDeposit.securityDeposit own)
  rw [Finset.sum_range_succ, Finset.sum_range_one, first, second, Nat.zero_add] at balanced
  exact balanced

/-- Service 1 lists Id 2 with a bond of 1, then Id 1 with a bond of 1. Instance 15 registers for
the dropped Id 2, leaves, and stays on its list. The service returns to Id 2 with a bond of 100
and is completed by instance 16 for the dropped Id 1, at the bond of 1 it had. -/
def staleScript : List (Move StakedCall SystemAnswer) :=
  secureScript 2 1 ++ resecure 1 1 ++ joinScript 1 1 15 2 ++ partScript ++ resecure 2 100 ++
    joinScript 100 1 16 1 ++ readyScript

theorem staked_bond_stale :
    ¬ ∀ c, Reachable ((stakedMachine exampleSetup 5).journaled collateralNote collateralReturn)
        (stakedDiscipline 5 (genuineDiscipline exampleSetup)).logged (exampleSecured, []) c →
      ∀ past later serviceId s, c.state.2 = past ++ .staked serviceId s :: later →
        c.frames = [] → Unslashed past s serviceId →
          RealCollateral exampleSecured.staking.params.minStakingDeposit s serviceId := by
  intro claim
  have before := Machine.after_reachable
    (stakedDiscipline 5 (genuineDiscipline exampleSetup)).logged
    ((stakedMachine exampleSetup 5).journaled collateralNote collateralReturn)
    (exampleSecured, []) staleScript (by decide +kernel)
  generalize reached : ((stakedMachine exampleSetup 5).journaled collateralNote
    collateralReturn).after (stakedDiscipline 5 (genuineDiscipline exampleSetup)).logged
      staleScript (exampleSecured, []) = w at before
  have clean : w.2.any CollateralEvent.slashes = false := by
    rw [← reached]
    decide +kernel
  have registry : (((stakedMachine exampleSetup 5).journaled collateralNote collateralReturn).play
      (stakedDiscipline 5 (genuineDiscipline exampleSetup)).logged stakeOne ⟨w, []⟩).map (fun c =>
        (c.stack.length, c.state.1.system.registry.store.totalSupply,
          (c.state.1.system.registry.store.mapServices 1).state,
          (c.state.1.system.registry.store.mapServices 1).numAgentInstances)) =
      some (0, 1, .deployed, 1) := by
    rw [← reached]
    decide +kernel
  have tokens : (((stakedMachine exampleSetup 5).journaled collateralNote collateralReturn).play
      (stakedDiscipline 5 (genuineDiscipline exampleSetup)).logged stakeOne ⟨w, []⟩).map (fun c =>
        (c.state.1.system.utility.store.mapServiceIdTokenDeposit 1,
          c.state.1.system.utility.pulled 20, c.state.1.system.utility.sent 20)) =
      some (⟨20, 100⟩, 103, 2) := by
    rw [← reached]
    decide +kernel
  obtain ⟨c, ran, seen⟩ := Option.map_eq_some_iff.mp registry
  rw [ran] at tokens
  obtain ⟨settled, seen⟩ := Prod.mk.inj seen
  obtain ⟨only, seen⟩ := Prod.mk.inj seen
  obtain ⟨deployed, instances⟩ := Prod.mk.inj seen
  obtain ⟨secured, seen⟩ := Prod.mk.inj (Option.some.inj tokens)
  obtain ⟨pulled, sent⟩ := Prod.mk.inj seen
  have run := Machine.play_reachable _ stakeOne before ran
  have frames := frames_settled settled
  have backed := claim c run w.2 [] 1 c.state.1.system (play_stake ran) frames
    fun operator _ => slashedSince_clean clean operator 1
  have kept : Preserved (stakedMachine exampleSetup 5)
      (stakedDiscipline 5 (genuineDiscipline exampleSetup)) always fun w frames =>
        Managed exampleSetup w.system (frames.flatMap systemFrames) ∧
          EscrowSound (escrow w.system (frames.flatMap systemFrames)) := by
    refine staked_lift (by decide) (fun owner recipient id w => ?_) (genuine_accounted exampleSetup)
    exact (collateral_transfer (by decide) (by decide) owner recipient id w).1
  have accounted := run.invariant kept.journaled
    ⟨exampleTakeover_fresh.managed, exampleTakeover_fresh.sound⟩
  rw [frames] at accounted
  have balanced := single_balances accounted.1 accounted.2 (by decide) only secured
    (by rw [deployed]; rfl)
  have bonds := backed.bonds
  rw [instances] at bonds
  rw [pulled, sent] at balanced
  have least : exampleSecured.staking.params.minStakingDeposit = 100 := rfl
  omega

end AutonolasRegistries.Guarantees
