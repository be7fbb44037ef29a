import AutonolasRegistries.Guarantees.ManagerShape

/-!
# Multisigs and the services they are bound to

The manager binds a multisig to a service when it deploys the service, releases the
service's last one then, and lets anyone record the multisigs of services deployed
before. The registry points from a service to its multisig. A binding always agrees with
the pointer, which is why the release in `deploy` never takes a multisig away from
another service.
-/
namespace AutonolasRegistries.Guarantees
open Library Source

/-- The registry's pointer. -/
def multisigOf (r : RegistryWorld) (serviceId : Nat) : Address :=
  (r.store.mapServices serviceId).multisig

section Registry
variable {edition : Edition} {r r' : RegistryWorld}

theorem update_multisig {services : Nat → Service} {serviceId : Nat} {service : Service}
    (kept : service.multisig = (services serviceId).multisig) (other : Nat) :
    (Function.update services serviceId service other).multisig = (services other).multisig := by
  by_cases same : other = serviceId
  · subst same
    rw [Function.update_self, kept]
  · rw [Function.update_of_ne same]

theorem enter_multisig {call : RegistryCall} {out : Outcome RegistryWorld RegistryFrame}
    (registered : Registered r.store) (taken : RegistryTransition edition r call out)
    (serviceId : Nat) : multisigOf out.state serviceId = multisigOf r serviceId := by
  cases taken with
  | create ran =>
    obtain ⟨-, rfl, rfl⟩ := ServiceRegistry.create_ok ran
    refine update_multisig ?_ serviceId
    rw [(registered.unlisted _ (Or.inr (Nat.lt_succ_self _))).1]
  | update ran =>
    obtain ⟨-, -, -, -, rfl⟩ := ServiceRegistry.update_ok ran
    refine update_multisig ?_ serviceId
    rfl
  | activateRegistration ran =>
    obtain ⟨-, rfl⟩ := ServiceRegistry.activateRegistration_ok ran
    refine update_multisig ?_ serviceId
    rfl
  | registerAgents ran =>
    obtain ⟨-, -, rfl⟩ := ServiceRegistry.registerAgents_done ran
    refine update_multisig ?_ serviceId
    rfl
  | deploy ran =>
    obtain ⟨-, -, rfl⟩ := ServiceRegistry.deploy_ok ran
    rfl
  | slash ran =>
    obtain ⟨-, -, rfl, -⟩ := ServiceRegistry.slashLoop_frame (ServiceRegistry.slash_ok ran).2
    rfl
  | terminate ran =>
    obtain ⟨-, -, -, -, rfl⟩ := ServiceRegistry.terminate_ok ran
    refine update_multisig ?_ serviceId
    rfl
  | unbond ran =>
    obtain ⟨-, -, -, -, rfl⟩ := ServiceRegistry.unbond_ok ran
    rw [multisigOf, RegistryWorld.refunding_store]
    split <;>
    · refine update_multisig ?_ serviceId
      rfl
  | drain ran =>
    obtain ⟨-, -, rfl⟩ := ServiceRegistry.drain_ok ran
    rw [multisigOf, RegistryWorld.refunding_store]
    split <;> rfl
  | administer => rfl

/-- Only the end of `deploy` moves a pointer. -/
theorem part_multisig {allowed : RegistryCall → Prop} {before after : List RegistryFrame}
    (registered : Registered r.store) (part : RegistryPart edition allowed r before r' after)
    (other : ∀ serviceId, before ≠ [.deploy serviceId]) (serviceId : Nat) :
    multisigOf r' serviceId = multisigOf r serviceId := by
  cases part with
  | untouched => rfl
  | called _ ran =>
    exact enter_multisig registered (RegistryWorld.enter_transition registered.guarded ran)
      serviceId
  | @resumed frame _ _ ran =>
    cases RegistryWorld.resume_return ran with
    | create | refund => rfl
    | deploy serviceId => exact absurd rfl (other serviceId)

end Registry

/-- Which suspended call of the registry stands behind a suspended call of the system. -/
def Matched : SystemFrame → Prop
  | .registry frame => ∀ serviceId, frame ≠ .deploy serviceId
  | .create _ frame => frame = .create
  | .deploy serviceId _ frame => frame = .deploy serviceId
  | .refund _ frame => frame = .refund
  | _ => True

section Moves
variable {setup : Setup} {w w' : SystemWorld} {frames pending : List SystemFrame}

theorem refunding_matched {s : RegistryState} {refund returned : Nat} {r : RegistryWorld} :
    ∀ frame ∈ (r.refunding s refund).pending.map (SystemFrame.refund returned),
      Matched frame := by
  intro frame member
  obtain ⟨inner, known, rfl⟩ := List.mem_map.mp member
  rw [RegistryWorld.refunding_pending] at known
  split at known
  · exact List.mem_singleton.mp known
  · cases known

/-- The manager is the only caller of `deploy`. -/
theorem enter_undeployed {edition : Edition} {r : RegistryWorld} {call : RegistryCall}
    {out : Outcome RegistryWorld RegistryFrame} (taken : RegistryTransition edition r call out)
    (other : r.store.manager ≠ call.sender) : ∀ serviceId, .deploy serviceId ∉ out.pending := by
  intro serviceId member
  cases taken with
  | deploy ran =>
    obtain ⟨⟨-, manager, -⟩, -, -⟩ := ServiceRegistry.deploy_ok ran
    exact other manager
  | create | terminate => cases List.mem_singleton.mp member
  | update | activateRegistration | registerAgents | slash | administer => cases member
  | unbond | drain =>
    rw [RegistryWorld.refunding_pending] at member
    split at member
    · cases List.mem_singleton.mp member
    · cases member

theorem move_matched {call : SystemCall} (registered : Registered w.registry.store)
    (authority : w.registry.store.manager = setup.self) (outside : call.sender ≠ setup.self)
    (move : SystemMove setup w call w' pending) : ∀ frame ∈ pending, Matched frame := by
  cases move with
  | createEth | createToken | deploy | terminate =>
    intro frame member
    rw [List.mem_singleton.mp member]
    rfl
  | activateToken | registerToken | terminateToken | unbondToken =>
    intro frame member
    rw [List.mem_singleton.mp member]
    trivial
  | updateEth | updateToken | activate | register | bindMultisig | administer =>
    intro frame member
    cases member
  | unbond => exact refunding_matched
  | utility =>
    intro frame member
    obtain ⟨inner, -, rfl⟩ := List.mem_map.mp member
    trivial
  | registry direct ran =>
    intro frame member
    obtain ⟨inner, known, rfl⟩ := List.mem_map.mp member
    subst direct
    have other : w.registry.store.manager ≠ _ := fun same =>
      outside (Subtype.ext (same.symm.trans authority))
    rintro serviceId rfl
    exact enter_undeployed (RegistryWorld.enter_transition registered.guarded ran) other
      serviceId known

theorem return_matched {frame : SystemFrame} {answer : SystemAnswer}
    (move : SystemReturn setup w answer frame w' pending) : ∀ next ∈ pending, Matched next := by
  intro next member
  rcases move.waits member with ⟨_, rfl⟩ | ⟨_, rfl⟩
  · trivial
  · rfl

/-- A call changes the bindings only as `bindMultisig`. -/
theorem move_bindings {call : SystemCall} (move : SystemMove setup w call w' pending) :
    w'.manager.mapMultisigServiceIds = w.manager.mapMultisigServiceIds ∨
      ∃ serviceIds : List Nat, w'.manager.mapMultisigServiceIds =
        serviceIds.foldl (ServiceManager.bindMultisigBody w.registry.store)
          w.manager.mapMultisigServiceIds := by
  cases move with
  | createEth _ manager | createToken _ manager | updateEth manager | updateToken manager
  | activate manager | activateToken manager | register manager | registerToken manager
  | deploy manager | terminate manager | terminateToken manager | unbond manager
  | unbondToken manager => exact Or.inl manager.bindings
  | @bindMultisig _ _ serviceIds _ _ after =>
    subst after
    exact Or.inr ⟨serviceIds, rfl⟩
  | administer _ bindings => exact Or.inl bindings
  | registry | utility => exact Or.inl rfl

end Moves

/-- The bindings agree with the registry's pointers. -/
structure Pointing (bound : Address → Nat) (pointer : Nat → Address) : Prop where
  zero : bound 0 = 0
  pointed : ∀ m, bound m ≠ 0 → pointer (bound m) = m

/-- Every pointer is bound as well. -/
def Exhaustive (bound : Address → Nat) (pointer : Nat → Address) : Prop :=
  ∀ serviceId, pointer serviceId ≠ 0 → bound (pointer serviceId) = serviceId

section Binding
variable {bound : Address → Nat} {pointer : Nat → Address}

/-- No two services share a multisig then. -/
theorem Exhaustive.apart (all : Exhaustive bound pointer) (serviceId other : Nat)
    (some : pointer serviceId ≠ 0) (same : pointer serviceId = pointer other) :
    serviceId = other := by
  have first := all serviceId some
  rw [same] at first some
  exact first.symm.trans (all other some)

theorem bindMultisigBody_pointing {registry : RegistryState} (before : Pointing bound
      fun serviceId => (registry.mapServices serviceId).multisig) (serviceId : Nat) :
    Pointing (ServiceManager.bindMultisigBody registry bound serviceId)
      fun serviceId => (registry.mapServices serviceId).multisig := by
  simp only [ServiceManager.bindMultisigBody]
  split
  · next fresh =>
    refine ⟨?_, fun m some => ?_⟩
    · rw [Function.update_of_ne fresh.1.symm]
      exact before.zero
    · by_cases here : m = (registry.mapServices serviceId).multisig
      · rw [here, Function.update_self]
      · rw [Function.update_of_ne here] at some ⊢
        exact before.pointed m some
  · exact before

theorem bindMultisig_pointing {registry : RegistryState} (serviceIds : List Nat)
    (before : Pointing bound fun serviceId => (registry.mapServices serviceId).multisig) :
    Pointing (serviceIds.foldl (ServiceManager.bindMultisigBody registry) bound)
      fun serviceId => (registry.mapServices serviceId).multisig := by
  induction serviceIds generalizing bound with
  | nil => exact before
  | cons serviceId rest ih => exact ih (bindMultisigBody_pointing before serviceId)

/-- A binding that is there is never overwritten. -/
theorem bindMultisig_keeps {registry : RegistryState} (serviceIds : List Nat) {m : Address}
    (some : bound m ≠ 0) :
    serviceIds.foldl (ServiceManager.bindMultisigBody registry) bound m = bound m := by
  induction serviceIds generalizing bound with
  | nil => rfl
  | cons serviceId rest ih =>
    have kept : ServiceManager.bindMultisigBody registry bound serviceId m = bound m := by
      unfold ServiceManager.bindMultisigBody
      split
      · next fresh =>
        refine Function.update_of_ne ?_ _ _
        rintro rfl
        exact some fresh.2
      · rfl
    rw [List.foldl_cons, ih (by rwa [kept]), kept]

/-- When every pointer is bound there is nothing left to record. -/
theorem bindMultisig_idle {registry : RegistryState} (serviceIds : List Nat)
    (unlisted : (registry.mapServices 0).multisig = 0)
    (all : Exhaustive bound fun serviceId => (registry.mapServices serviceId).multisig) :
    serviceIds.foldl (ServiceManager.bindMultisigBody registry) bound = bound := by
  induction serviceIds with
  | nil => rfl
  | cons serviceId rest ih =>
    have same : ServiceManager.bindMultisigBody registry bound serviceId = bound := by
      unfold ServiceManager.bindMultisigBody
      rw [if_neg]
      rintro ⟨some, unbound⟩
      have exact := all serviceId some
      rw [unbound] at exact
      subst exact
      exact some unlisted
    rw [List.foldl_cons, same, ih]

variable {serviceId : Nat} {last multisig : Address}

/-- What `bind` makes of one multisig. The last one of the service is released exactly if
it was bound to the service, and by the pointer it is the only such one. -/
theorem bind_read (before : Pointing bound pointer) (listed : serviceId ≠ 0)
    (current : pointer serviceId = last) (m : Address) :
    ServiceManager.bind serviceId last multisig bound m =
      if m = multisig then serviceId else if bound m = serviceId then
        (if bound multisig = serviceId then serviceId else 0) else bound m := by
  unfold ServiceManager.bind
  have own : bound m = serviceId → m = last := by
    intro here
    rw [← current, ← here]
    exact (before.pointed m (by rw [here]; exact listed)).symm
  by_cases kept : bound multisig = serviceId
  · rw [if_neg (not_not.mpr kept), if_pos kept]
    split
    · next here => rw [here, kept]
    · split
      · next here => exact here
      · rfl
  · rw [if_pos kept, if_neg kept]
    by_cases here : m = multisig
    · subst here
      rw [if_pos rfl]
      split
      · next released => rw [Function.update_of_ne released.2.1.symm, Function.update_self]
      · rw [Function.update_self]
    · rw [if_neg here]
      by_cases released : bound m = serviceId
      · obtain rfl := own released
        have some : m ≠ 0 := by
          rintro rfl
          rw [before.zero] at released
          exact listed released.symm
        rw [if_pos released, if_pos ⟨some, here, by rw [Function.update_of_ne here, released]⟩,
          Function.update_self]
      · rw [if_neg released]
        split
        · next gone =>
          have other : m ≠ last := by
            rintro rfl
            rw [Function.update_of_ne here] at gone
            exact released gone.2.2
          rw [Function.update_of_ne other, Function.update_of_ne here]
        · rw [Function.update_of_ne here]

theorem bind_pointing (before : Pointing bound pointer) (listed : serviceId ≠ 0)
    (current : pointer serviceId = last) (created : multisig ≠ 0) :
    Pointing (ServiceManager.bind serviceId last multisig bound)
      (Function.update pointer serviceId multisig) := by
  have read : ∀ m, ServiceManager.bind serviceId last multisig bound m =
      if m = multisig then serviceId else if bound m = serviceId then
        (if bound multisig = serviceId then serviceId else 0) else bound m :=
    fun m => bind_read before listed current m
  refine ⟨?_, fun m some => ?_⟩
  · rw [read, if_neg created.symm, before.zero, if_neg listed.symm]
  · rw [read] at some ⊢
    by_cases here : m = multisig
    · rw [if_pos here, Function.update_self, here]
    · rw [if_neg here] at some ⊢
      by_cases own : bound m = serviceId
      · -- Both multisigs would be bound to the service, but it points at one.
        rw [if_pos own] at some ⊢
        by_cases kept : bound multisig = serviceId
        · have first := before.pointed m (by rw [own]; exact listed)
          have second := before.pointed multisig (by rw [kept]; exact listed)
          rw [own] at first
          rw [kept] at second
          exact absurd (first.symm.trans second) here
        · rw [if_neg kept] at some
          exact absurd rfl some
      · rw [if_neg own] at some ⊢
        rw [Function.update_of_ne own]
        exact before.pointed m some

theorem bind_exhaustive (before : Pointing bound pointer) (all : Exhaustive bound pointer)
    (origin : pointer 0 = 0) (listed : serviceId ≠ 0) (current : pointer serviceId = last)
    (unbound : bound multisig = serviceId ∨ bound multisig = 0) :
    Exhaustive (ServiceManager.bind serviceId last multisig bound)
      (Function.update pointer serviceId multisig) := by
  intro other some
  rw [bind_read before listed current]
  by_cases same : other = serviceId
  · subst same
    rw [Function.update_self, if_pos rfl]
  · rw [Function.update_of_ne same] at some ⊢
    have here := all other some
    have positive : other ≠ 0 := by
      rintro rfl
      exact some origin
    have elsewhere : pointer other ≠ multisig := by
      intro shared
      rw [shared] at here
      rcases unbound with own | free
      · exact same (here.symm.trans own)
      · exact positive (here.symm.trans free)
    rw [if_neg elsewhere, here, if_neg same]

/-- The bindings of other services stay. -/
theorem bind_keeps (before : Pointing bound pointer) (listed : serviceId ≠ 0)
    (current : pointer serviceId = last)
    (unbound : bound multisig = serviceId ∨ bound multisig = 0) {m : Address}
    (some : bound m ≠ 0) (other : bound m ≠ serviceId) :
    ServiceManager.bind serviceId last multisig bound m = bound m := by
  have elsewhere : m ≠ multisig := by
    rintro rfl
    rcases unbound with own | free
    · exact other own
    · exact some free
  rw [bind_read before listed current, if_neg elsewhere, if_neg other]

theorem bind_own (before : Pointing bound pointer) (listed : serviceId ≠ 0)
    (current : pointer serviceId = last) :
    ServiceManager.bind serviceId last multisig bound multisig = serviceId := by
  rw [bind_read before listed current, if_pos rfl]

end Binding

/-- The manager's bindings over the registry's pointers. -/
structure Bound (setup : Setup) (w : SystemWorld) (frames : List SystemFrame) : Prop where
  shape : ManagerShape setup w frames
  registry : RegistryShape w.registry.store (frames.flatMap registryFrame)
  matched : ∀ frame ∈ frames, Matched frame
  waiting : ∀ serviceId last frame, .deploy serviceId last frame ∈ frames →
    multisigOf w.registry serviceId = last
  pointing : Pointing w.manager.mapMultisigServiceIds (multisigOf w.registry)

section Runs
variable {setup : Setup} {w w' : SystemWorld} {frames rest pending : List SystemFrame}

theorem registryShape_lift (setup : Setup) :
    Preserved (systemMachine setup) (soleDiscipline setup) (ManagerShape setup)
      fun w frames => RegistryShape w.registry.store (frames.flatMap registryFrame) :=
  registry_lift (registryShape_preserved setup.edition) (fun _ _ _ _ _ => trivial)
    (fun _ _ _ _ => trivial) fun _ _ _ => trivial

/-- A suspended `deploy` of the manager: the registry waits for the multisig of a service
that is not the zero Id and points at the one the manager remembers. -/
theorem Bound.deploying {serviceId : Nat} {last : Address} {frame : RegistryFrame}
    (before : Bound setup w (.deploy serviceId last frame :: rest)) :
    frame = .deploy serviceId ∧ serviceId ≠ 0 ∧ multisigOf w.registry serviceId = last := by
  have same : frame = .deploy serviceId := before.matched _ List.mem_cons_self
  subst same
  refine ⟨rfl, ?_, before.waiting _ _ _ List.mem_cons_self⟩
  have shape := before.registry
  rw [List.flatMap_cons] at shape
  have lock := shape.lock
  simp only [registryFrame, List.cons_append, List.nil_append] at lock
  generalize rest.flatMap registryFrame = others at lock
  cases lock with
  | deploying _ state =>
    exact Nat.pos_iff_ne_zero.mp (shape.registered.of_state (by rw [state]; decide)).1

/-- The end of `deploy`: the pointer and the binding move together. -/
theorem deploy_pointer {serviceId : Nat} {answer : RegistryAnswer} {r r' : RegistryWorld}
    {edition : Edition}
    (ran : r.resume edition (.deploy serviceId) answer = .ok (.done r')) :
    multisigOf r' = Function.update (multisigOf r) serviceId answer.multisig := by
  cases ran
  funext other
  by_cases same : other = serviceId
  · subst same
    simp only [multisigOf, ServiceRegistry.deployReturn, ServiceRegistry.unlock,
      Function.update_self]
  · simp only [multisigOf, ServiceRegistry.deployReturn, ServiceRegistry.unlock,
      Function.update_of_ne same]

theorem move_waiting {call : SystemCall} {serviceId : Nat} {last : Address}
    {frame : RegistryFrame} (move : SystemMove setup w call w' pending)
    (member : .deploy serviceId last frame ∈ pending) :
    multisigOf w.registry serviceId = last := by
  cases move with
  | deploy =>
    cases List.mem_singleton.mp member
    rfl
  | createEth | createToken | activateToken | registerToken | terminate | terminateToken
  | unbondToken => cases List.mem_singleton.mp member
  | updateEth | updateToken | activate | register | bindMultisig | administer => cases member
  | unbond | registry | utility =>
    obtain ⟨inner, -, wrong⟩ := List.mem_map.mp member
    cases wrong

theorem return_waiting {frame : SystemFrame} {answer : SystemAnswer} {serviceId : Nat}
    {last : Address} {inner : RegistryFrame}
    (move : SystemReturn setup w answer frame w' pending) :
    .deploy serviceId last inner ∉ pending := by
  intro member
  rcases move.waits member with ⟨_, same⟩ | ⟨_, same⟩ <;> cases same

/-- Every other suspended call leaves pointers and bindings alone. -/
theorem return_bindings {frame : SystemFrame} {answer : SystemAnswer}
    (before : Bound setup w (frame :: rest))
    (other : ∀ serviceId last inner, frame ≠ .deploy serviceId last inner)
    (move : SystemReturn setup w answer frame w' pending) :
    w'.manager.mapMultisigServiceIds = w.manager.mapMultisigServiceIds ∧
      multisigOf w'.registry = multisigOf w.registry := by
  have real := before.shape.real frame List.mem_cons_self
  have matched := before.matched frame List.mem_cons_self
  refine ⟨?_, funext (part_multisig before.registry.registered (return_registryPart real move) ?_)⟩
  · cases move with
    | create _ manager | refund _ manager | activate manager | register manager
    | unbond manager => exact manager.bindings
    | terminate manager => rw [manager]
    | registry | utility | bridger => rfl
    | deploy => exact absurd rfl (other _ _ _)
  · rintro serviceId deploying
    cases frame with
    | registry inner => exact matched serviceId (List.singleton_inj.mp deploying)
    | create _ inner | refund _ inner =>
      cases matched
      cases List.singleton_inj.mp deploying
    | deploy => exact absurd rfl (other _ _ _)
    | utility | activate | register | terminate | unbond | bridger => cases deploying

theorem Bound.entered {call : SystemCall} (before : Bound setup w frames)
    (outside : call.sender ≠ setup.self) (move : SystemMove setup w call w' pending)
    (shape : ManagerShape setup w' (pending ++ frames))
    (registry : RegistryShape w'.registry.store ((pending ++ frames).flatMap registryFrame)) :
    Bound setup w' (pending ++ frames) := by
  have pointers : multisigOf w'.registry = multisigOf w.registry :=
    funext (part_multisig before.registry.registered (move_registryPart move) (by simp))
  refine ⟨shape, registry, ?_, ?_, ?_⟩
  · intro frame member
    rcases List.mem_append.mp member with new | old
    · exact move_matched before.registry.registered before.shape.authority outside move frame new
    · exact before.matched frame old
  · intro serviceId last frame member
    rw [pointers]
    rcases List.mem_append.mp member with new | old
    · exact move_waiting move new
    · exact before.waiting serviceId last frame old
  · rw [pointers]
    rcases move_bindings move with same | ⟨serviceIds, after⟩
    · rw [same]
      exact before.pointing
    · rw [after]
      exact bindMultisig_pointing serviceIds before.pointing

theorem Bound.resumed {frame : SystemFrame} {answer : SystemAnswer}
    (before : Bound setup w (frame :: rest))
    (move : SystemReturn setup w answer frame w' pending)
    (shape : ManagerShape setup w' (pending ++ rest))
    (registry : RegistryShape w'.registry.store ((pending ++ rest).flatMap registryFrame)) :
    Bound setup w' (pending ++ rest) := by
  have matched : ∀ next ∈ pending ++ rest, Matched next := by
    intro next member
    rcases List.mem_append.mp member with new | old
    · exact return_matched move next new
    · exact before.matched next (List.mem_cons_of_mem _ old)
  have older : ∀ serviceId last inner, .deploy serviceId last inner ∈ pending ++ rest →
      .deploy serviceId last inner ∈ rest := by
    intro serviceId last inner member
    rcases List.mem_append.mp member with new | old
    · exact absurd new (return_waiting move)
    · exact old
  by_cases deploying : ∃ serviceId last inner, frame = .deploy serviceId last inner
  · obtain ⟨serviceId, last, inner, rfl⟩ := deploying
    obtain ⟨rfl, listed, current⟩ := before.deploying
    have alone := (before.shape.alone rfl).2
    cases move with
    | deploy ran created unbound bindings =>
      refine ⟨shape, registry, matched, ?_, ?_⟩
      · intro other last' inner' member
        have := alone _ (older _ _ _ member)
        cases this
      · rw [bindings, deploy_pointer ran]
        exact bind_pointing before.pointing listed current created
  · have other : ∀ serviceId last inner, frame ≠ .deploy serviceId last inner :=
      fun serviceId last inner same => deploying ⟨serviceId, last, inner, same⟩
    obtain ⟨bindings, pointers⟩ := return_bindings before other move
    refine ⟨shape, registry, matched, ?_, ?_⟩
    · intro serviceId last inner member
      rw [pointers]
      exact before.waiting _ _ _ (List.mem_cons_of_mem _ (older _ _ _ member))
    · rw [bindings, pointers]
      exact before.pointing

theorem bound_preserved (setup : Setup) :
    Preserved (systemMachine setup) (soleDiscipline setup) always (Bound setup) := by
  intro w frames w' frames' taken _ before
  have shape := managerShape_preserved setup _ _ _ _ taken trivial before.shape
  have registry := registryShape_lift setup _ _ _ _ taken before.shape before.registry
  cases taken with
  | entered call allowed ran =>
    exact before.entered allowed.1 (SystemWorld.enter_move ran) shape registry
  | resumed answer allowed ran =>
    exact before.resumed (SystemWorld.resume_return ran) shape registry

/-- With no multisigs before the manager, every pointer is bound. -/
theorem exhaustive_preserved (setup : Setup) :
    Preserved (systemMachine setup) (soleDiscipline setup) (Bound setup) fun w _ =>
      Exhaustive w.manager.mapMultisigServiceIds (multisigOf w.registry) := by
  intro w frames w' frames' taken bound before
  have origin : multisigOf w.registry 0 = 0 := by
    rw [multisigOf, (bound.registry.registered.unlisted 0 (Or.inl rfl)).1]
    rfl
  cases taken with
  | entered call allowed ran =>
    have move := SystemWorld.enter_move ran
    have pointers : multisigOf _ = multisigOf w.registry :=
      funext (part_multisig bound.registry.registered (move_registryPart move) (by simp))
    rw [pointers]
    rcases move_bindings move with same | ⟨serviceIds, after⟩
    · rw [same]
      exact before
    · rw [after, bindMultisig_idle serviceIds origin before]
      exact before
  | @resumed frame rest out answer allowed ran =>
    have move := SystemWorld.resume_return ran
    by_cases deploying : ∃ serviceId last inner, frame = .deploy serviceId last inner
    · obtain ⟨serviceId, last, inner, rfl⟩ := deploying
      obtain ⟨rfl, listed, current⟩ := bound.deploying
      generalize out.state = after at move ⊢
      cases move with
      | deploy ran created unbound bindings =>
        rw [bindings, deploy_pointer ran]
        exact bind_exhaustive bound.pointing before origin listed current unbound
    · have other : ∀ serviceId last inner, frame ≠ .deploy serviceId last inner :=
        fun serviceId last inner same => deploying ⟨serviceId, last, inner, same⟩
      obtain ⟨bindings, pointers⟩ := return_bindings bound other move
      rw [bindings, pointers]
      exact before

/-- A service deployed is bound to the multisig it points at, and the others keep theirs. -/
theorem Bound.deployed {serviceId : Nat} {last : Address} {frame : RegistryFrame}
    {answer : SystemAnswer} (before : Bound setup w (.deploy serviceId last frame :: rest))
    (move : SystemReturn setup w answer (.deploy serviceId last frame) w' pending) :
    w'.manager.mapMultisigServiceIds (multisigOf w'.registry serviceId) = serviceId ∧
      ∀ m, w.manager.mapMultisigServiceIds m ≠ 0 →
        w.manager.mapMultisigServiceIds m ≠ serviceId →
        w'.manager.mapMultisigServiceIds m = w.manager.mapMultisigServiceIds m := by
  obtain ⟨rfl, listed, current⟩ := before.deploying
  cases move with
  | deploy ran created unbound bindings =>
    rw [bindings, deploy_pointer ran, Function.update_self]
    exact ⟨bind_own before.pointing listed current, fun m some other =>
      bind_keeps before.pointing listed current unbound some other⟩

/-- No piece of code takes a binding from a service, its own `deploy` apart. -/
theorem Bound.kept (before : Bound setup w frames)
    (taken : Local (systemMachine setup) (soleDiscipline setup) w frames w' pending)
    {m : Address} (some : w.manager.mapMultisigServiceIds m ≠ 0) :
    w'.manager.mapMultisigServiceIds m = w.manager.mapMultisigServiceIds m ∨
      ∃ last frame rest,
        frames = .deploy (w.manager.mapMultisigServiceIds m) last frame :: rest := by
  cases taken with
  | entered call allowed ran =>
    rcases move_bindings (SystemWorld.enter_move ran) with same | ⟨serviceIds, after⟩
    · exact Or.inl (by rw [same])
    · rw [after]
      exact Or.inl (bindMultisig_keeps serviceIds some)
  | @resumed frame rest out answer allowed ran =>
    have move := SystemWorld.resume_return ran
    by_cases deploying : ∃ serviceId last inner, frame = .deploy serviceId last inner
    · obtain ⟨serviceId, last, inner, rfl⟩ := deploying
      by_cases own : w.manager.mapMultisigServiceIds m = serviceId
      · exact Or.inr ⟨last, inner, rest, by rw [own]⟩
      · exact Or.inl ((before.deployed move).2 m some own)
    · have other : ∀ serviceId last inner, frame ≠ .deploy serviceId last inner :=
        fun serviceId last inner same => deploying ⟨serviceId, last, inner, same⟩
      exact Or.inl (by rw [(return_bindings before other move).1])

end Runs

/-- A registry as any earlier managers left it, and a manager that starts over it with no
bindings. -/
structure Takeover (setup : Setup) (start : SystemWorld) : Prop where
  legacy : ∃ deployer, Reachable (registryMachine setup.edition) .free
    (RegistryWorld.deployment deployer) ⟨start.registry, []⟩
  manager : start.registry.store.manager = setup.self
  unlocked : start.manager.locked ≤ 1
  unbound : ∀ m, start.manager.mapMultisigServiceIds m = 0

theorem Takeover.bound {setup : Setup} {start : SystemWorld} (takeover : Takeover setup start) :
    Bound setup start [] := by
  obtain ⟨deployer, legacy⟩ := takeover.legacy
  have shape : RegistryShape start.registry.store [] :=
    legacy.invariant (registryShape_preserved setup.edition)
      (registryBase_deployment deployer).1
  refine ⟨⟨takeover.manager, ?_, by simp⟩, shape, by simp, by simp, ?_⟩
  · rw [if_pos takeover.unlocked]
    rfl
  · exact ⟨takeover.unbound 0, fun m some => absurd (takeover.unbound m) some⟩

/-- In every run of the manager over a registry it took over: a binding agrees with the
registry's pointer; the end of `deploy` binds the service to the multisig it points at and
leaves the bindings of other services, as every other piece of code does; and if no
service had a multisig at the start, every pointer is bound, no two services share a
multisig, and `bindMultisig` changes nothing but the lock. -/
theorem multisigs_bound_once (setup : Setup) {start : SystemWorld}
    (takeover : Takeover setup start) {c : Config SystemWorld SystemFrame}
    (run : Reachable (systemMachine setup) (soleDiscipline setup) start c) :
    (∀ m serviceId, c.state.manager.mapMultisigServiceIds m = serviceId → serviceId ≠ 0 →
      (c.state.registry.store.mapServices serviceId).multisig = m) ∧
    (∀ serviceId last frame rest answer out, c.frames = .deploy serviceId last frame :: rest →
      c.state.resume setup (.deploy serviceId last frame) answer = .ok out →
      out.state.manager.mapMultisigServiceIds
          (out.state.registry.store.mapServices serviceId).multisig = serviceId ∧
        ∀ m other, c.state.manager.mapMultisigServiceIds m = other → other ≠ 0 →
          other ≠ serviceId → out.state.manager.mapMultisigServiceIds m = other) ∧
    (∀ w' frames', Local (systemMachine setup) (soleDiscipline setup) c.state c.frames w'
        frames' → ∀ m other, c.state.manager.mapMultisigServiceIds m = other → other ≠ 0 →
      w'.manager.mapMultisigServiceIds m = other ∨
        ∃ last frame rest, c.frames = .deploy other last frame :: rest) ∧
    ((∀ serviceId, (start.registry.store.mapServices serviceId).multisig = 0) →
      (∀ m serviceId, (c.state.registry.store.mapServices serviceId).multisig = m → m ≠ 0 →
        c.state.manager.mapMultisigServiceIds m = serviceId) ∧
      (∀ serviceId other, (c.state.registry.store.mapServices serviceId).multisig ≠ 0 →
        (c.state.registry.store.mapServices serviceId).multisig =
          (c.state.registry.store.mapServices other).multisig → serviceId = other) ∧
      ∀ sender serviceIds out,
        c.state.enter setup (.manager (.bindMultisig sender serviceIds)) = .ok out →
        out = .done { c.state with
          returned := 0, manager := { c.state.manager with locked := 1 } }) := by
  have bound : Bound setup c.state c.frames :=
    run.invariant (bound_preserved setup) takeover.bound
  refine ⟨?_, ?_, ?_, ?_⟩
  · rintro m serviceId rfl some
    exact bound.pointing.pointed m some
  · intro serviceId last frame rest answer out top ran
    rw [top] at bound
    obtain ⟨own, kept⟩ := bound.deployed (SystemWorld.resume_return ran)
    refine ⟨own, ?_⟩
    rintro m other rfl some different
    exact kept m some different
  · rintro w' frames' taken m other rfl some
    exact bound.kept taken some
  · intro none
    have all : Exhaustive c.state.manager.mapMultisigServiceIds (multisigOf c.state.registry) :=
      (run.invariant ((bound_preserved setup).join (exhaustive_preserved setup))
        ⟨takeover.bound, fun serviceId some => absurd (none serviceId) some⟩).2
    refine ⟨?_, ?_, ?_⟩
    · rintro m serviceId rfl some
      exact all serviceId some
    · exact all.apart
    · intro sender serviceIds out ran
      have origin : multisigOf c.state.registry 0 = 0 := by
        rw [multisigOf, (bound.registry.registered.unlisted 0 (Or.inl rfl)).1]
        rfl
      simp only [SystemWorld.enter, ServiceManager.enter, ServiceManager.bindMultisig,
        bind_eq_ok, lock_eq_ok, pure_eq_ok] at ran
      obtain ⟨_, ⟨-, rfl⟩, rfl⟩ := ran
      simp only [ServiceManager.finish, SystemWorld.withManager]
      rw [bindMultisig_idle serviceIds origin all]

/-- The accounts of the worked runs: the manager at its own address, an owner and an
operator. -/
def exampleSetup : Setup := ⟨.l2, registryManager, ⟨1, fun _ => 0, fun _ _ _ _ => 0⟩⟩
def exampleOwner : Caller := ⟨3, by decide⟩
def exampleOperator : Caller := ⟨4, by decide⟩

/-- The storage of a manager behind its proxy before anything is written. -/
def blankManager : ManagerState :=
  ⟨0, false, 0, 0, 0, fun _ => 0, fun _ => 0, fun _ => 0, fun _ _ => false⟩

def exampleTakeover : SystemWorld where
  manager := blankManager
  registry := ⟨{ ServiceRegistry.deployment 1 with manager := 2 }, 0, 0⟩
  utility := ⟨{ ServiceRegistryTokenUtility.deployment 7 1 with manager := 2 }, fun _ => 0,
    fun _ => 0⟩
  ether := 0
  returned := 0

theorem exampleTakeover_takeover : Takeover exampleSetup exampleTakeover := by
  refine ⟨⟨1, ?_⟩, rfl, by decide, fun _ => rfl⟩
  exact .step .start
    (Machine.move_step (m := .call (.changeManager registryOwner 2)) trivial rfl)

theorem multisigs_bound_once_deployed :
    ∃ c, Reachable (systemMachine exampleSetup) (soleDiscipline exampleSetup) exampleTakeover c ∧
      (c.state.registry.store.mapServices 1).multisig = 9 ∧
      c.state.manager.mapMultisigServiceIds 9 = 1 := by
  obtain ⟨c, run, seen⟩ := Machine.play_observed (soleDiscipline exampleSetup)
    (systemMachine exampleSetup) exampleTakeover
    [.call (.manager (.create exampleOwner true 0 3 ServiceManager.ethTokenAddress 1 [1]
        [⟨1, 1⟩] 1)),
      .answer ⟨⟨0, [], true⟩, ⟨true, 0⟩⟩,
      .call (.manager (.activateRegistration exampleOwner 1 ⟨0, 0⟩ 1)),
      .call (.manager (.registerAgents exampleOperator 1 true ⟨0, 0⟩ 1 [5] [1])),
      .call (.registry (.changeMultisigPermission registryOwner 8 true)),
      .call (.manager (.deploy exampleOwner 1 8)),
      .answer ⟨⟨9, [], true⟩, ⟨true, 0⟩⟩]
    (fun c => (c.state.registry.store.mapServices 1).multisig) 9 (by decide +kernel)
  obtain ⟨-, -, -, exact⟩ := multisigs_bound_once exampleSetup exampleTakeover_takeover run
  obtain ⟨bound, -, -⟩ := exact fun _ => rfl
  exact ⟨c, run, seen, bound 9 1 seen (by decide)⟩

end AutonolasRegistries.Guarantees
