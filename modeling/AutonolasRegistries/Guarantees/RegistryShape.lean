import AutonolasRegistries.Source.RegistryRecords
import AutonolasRegistries.Source.RegistryTransitions

/-!
# Which records exist, and who holds the lock

Nothing is assumed of the calls here. A service record exists exactly for the Ids
handed out so far, and the registry has at most one suspended call, which holds
the lock; a suspended `deploy` finds its service unchanged when it resumes.
-/
namespace AutonolasRegistries.Guarantees
open Library Source

structure Registered (s : RegistryState) : Prop where
  guarded : s.erc721.Guarded
  unlisted : ∀ serviceId, serviceId = 0 ∨ s.totalSupply < serviceId →
    s.mapServices serviceId = Service.empty ∧ s.erc721.owners serviceId = 0
  listed : ∀ serviceId, 0 < serviceId → serviceId ≤ s.totalSupply →
    (s.mapServices serviceId).state ≠ .nonExistent

/-- The suspended call holds the lock. -/
inductive LockHeld (s : RegistryState) : List RegistryFrame → Prop where
  | idle (free : s.locked = 1) : LockHeld s []
  | creating (held : s.locked = 2) : LockHeld s [.create]
  | refunding (held : s.locked = 2) : LockHeld s [.refund]
  | deploying (held : s.locked = 2) {serviceId : Nat}
      (state : (s.mapServices serviceId).state = .finishedRegistration) :
      LockHeld s [.deploy serviceId]

structure RegistryShape (s : RegistryState) (frames : List RegistryFrame) : Prop where
  registered : Registered s
  lock : LockHeld s frames

theorem Registered.of_state {s : RegistryState} (h : Registered s) {serviceId : Nat}
    (state : (s.mapServices serviceId).state ≠ .nonExistent) :
    0 < serviceId ∧ serviceId ≤ s.totalSupply := by
  by_contra outside
  have := (h.unlisted serviceId (by omega)).1
  rw [this] at state
  exact state rfl

theorem Registered.of_owner {s : RegistryState} (h : Registered s) {serviceId : Nat}
    (minted : s.erc721.owners serviceId ≠ 0) : 0 < serviceId ∧ serviceId ≤ s.totalSupply := by
  by_contra outside
  exact minted (h.unlisted serviceId (by omega)).2

theorem Registered.deployment (deployer : Address) :
    Registered (ServiceRegistry.deployment deployer) := by
  refine ⟨⟨fun _ => rfl, fun _ _ => rfl⟩, fun _ _ => ⟨rfl, rfl⟩, ?_⟩
  intro serviceId positive below
  change serviceId ≤ 0 at below
  omega

/-- Rewriting the record of a listed service. -/
theorem Registered.rewrite {s s' : RegistryState} (before : Registered s) {serviceId : Nat}
    {service : Service} (state : (s.mapServices serviceId).state ≠ .nonExistent)
    (alive : service.state ≠ .nonExistent)
    (services : s'.mapServices = Function.update s.mapServices serviceId service)
    (supply : s'.totalSupply = s.totalSupply) (erc721 : s'.erc721 = s.erc721) :
    Registered s' := by
  have here := before.of_state state
  refine ⟨erc721 ▸ before.guarded, ?_, ?_⟩
  · intro other outside
    rw [supply] at outside
    have different : other ≠ serviceId := by omega
    rw [services, erc721, Function.update_of_ne different]
    exact before.unlisted other outside
  · intro other positive below
    rw [services]
    by_cases same : other = serviceId
    · subst same
      rwa [Function.update_self]
    · rw [Function.update_of_ne same]
      exact before.listed other positive (supply ▸ below)

/-- Nothing the predicate reads has changed. -/
theorem Registered.same {s s' : RegistryState} (before : Registered s)
    (services : s'.mapServices = s.mapServices) (supply : s'.totalSupply = s.totalSupply)
    (guarded : s'.erc721.Guarded)
    (minted : ∀ id, s'.erc721.owners id = 0 ↔ s.erc721.owners id = 0) : Registered s' := by
  refine ⟨guarded, ?_, ?_⟩
  · intro serviceId outside
    rw [services, minted]
    exact before.unlisted serviceId (supply ▸ outside)
  · intro serviceId positive below
    rw [services]
    exact before.listed serviceId positive (supply ▸ below)

theorem Registered.refunding {s : RegistryState} (before : Registered s) {w : RegistryWorld}
    {amount : Nat} : Registered (w.refunding s amount).state.store := by
  rw [RegistryWorld.refunding_store]
  split
  · exact before
  · exact before.same rfl rfl before.guarded fun _ => Iff.rfl

theorem Registered.create {s s' : RegistryState} (before : Registered s)
    {service : Service} {serviceOwner : Address} (owner : serviceOwner ≠ 0)
    (alive : service.state ≠ .nonExistent)
    (services : s'.mapServices = Function.update s.mapServices (s.totalSupply + 1) service)
    (supply : s'.totalSupply = s.totalSupply + 1)
    (erc721 : s'.erc721 = { s.erc721 with
      owners := Function.update s.erc721.owners (s.totalSupply + 1) serviceOwner }) :
    Registered s' := by
  have fresh : s.erc721.owners (s.totalSupply + 1) = 0 :=
    (before.unlisted _ (Or.inr (Nat.lt_succ_self _))).2
  have minted : s.erc721.mint serviceOwner (s.totalSupply + 1) = .ok s'.erc721 :=
    ERC721.mint_eq_ok.mpr ⟨owner, fresh, erc721.symm⟩
  refine ⟨ERC721.mint_guarded before.guarded minted, ?_, ?_⟩
  · intro serviceId outside
    have different : serviceId ≠ s.totalSupply + 1 := by omega
    rw [services, erc721]
    simp only [Function.update_of_ne different]
    exact before.unlisted serviceId (by omega)
  · intro serviceId positive below
    rw [services]
    by_cases same : serviceId = s.totalSupply + 1
    · subst same
      rwa [Function.update_self]
    · rw [Function.update_of_ne same]
      exact before.listed serviceId positive (by omega)

/-- A call that does not take the lock leaves the suspended call as it was. -/
theorem LockHeld.keep {s s' : RegistryState} {frames : List RegistryFrame}
    (before : LockHeld s frames) (locked : s'.locked = s.locked)
    (finished : ∀ serviceId, (s.mapServices serviceId).state = .finishedRegistration →
      (s'.mapServices serviceId).state = .finishedRegistration) : LockHeld s' frames := by
  cases before with
  | idle free => exact .idle (locked.trans free)
  | creating held => exact .creating (locked.trans held)
  | refunding held => exact .refunding (locked.trans held)
  | deploying held state => exact .deploying (locked.trans held) (finished _ state)

/-- A call that passed the lock check found nothing suspended. -/
theorem LockHeld.unlocked {s : RegistryState} {frames : List RegistryFrame}
    (h : LockHeld s frames) (free : s.locked ≤ 1) : frames = [] := by
  cases h with
  | idle => rfl
  | creating held => omega
  | refunding held => omega
  | deploying held => omega

theorem lockHeld_refunding {w : RegistryWorld} {s : RegistryState} {amount : Nat}
    (held : s.locked = 2) :
    LockHeld (w.refunding s amount).state.store ((w.refunding s amount).pending ++ []) := by
  rw [RegistryWorld.refunding_store, RegistryWorld.refunding_pending]
  split
  · exact .refunding held
  · exact .idle rfl

theorem finished_update {s : RegistryState} {serviceId : Nat} {service : Service}
    (before : (s.mapServices serviceId).state ≠ .finishedRegistration ∨
      service.state = (s.mapServices serviceId).state) (other : Nat)
    (state : (s.mapServices other).state = .finishedRegistration) :
    (Function.update s.mapServices serviceId service other).state = .finishedRegistration := by
  by_cases same : other = serviceId
  · subst same
    rw [Function.update_self]
    rcases before with not | kept
    · exact absurd state not
    · rw [kept, state]
  · rwa [Function.update_of_ne same]

theorem RegistryShape.enter {edition : Edition} {call : RegistryCall} {w : RegistryWorld}
    {out : Outcome RegistryWorld RegistryFrame} {frames : List RegistryFrame}
    (before : RegistryShape w.store frames)
    (taken : RegistryTransition edition w call out) :
    RegistryShape out.state.store (out.pending ++ frames) := by
  obtain ⟨registered, lock⟩ := before
  cases taken with
  | create ran =>
    obtain ⟨⟨unlocked, -, owner, -⟩, rfl, rfl⟩ := ServiceRegistry.create_ok ran
    obtain rfl := lock.unlocked unlocked
    refine ⟨registered.create owner ?_ rfl rfl rfl, .creating rfl⟩
    simp only [ne_eq, reduceCtorEq, not_false_eq_true]
  | update ran =>
    obtain ⟨kept, -, ⟨-, -, -, state, -⟩, hashes, rfl⟩ := ServiceRegistry.update_ok ran
    refine ⟨registered.rewrite (by rw [state]; decide) ?_ rfl rfl rfl,
      lock.keep rfl (finished_update (Or.inr rfl))⟩
    simp only [state, ne_eq, reduceCtorEq, not_false_eq_true]
  | activateRegistration ran =>
    obtain ⟨⟨-, -, -, state, -⟩, rfl⟩ := ServiceRegistry.activateRegistration_ok ran
    refine ⟨registered.rewrite (by rw [state]; decide) ?_ rfl rfl rfl,
      lock.keep rfl (finished_update (Or.inl (by rw [state]; decide)))⟩
    simp only [ne_eq, reduceCtorEq, not_false_eq_true]
  | registerAgents ran =>
    obtain ⟨-, ⟨-, -, state, -⟩, -, -⟩ := ServiceRegistry.registerAgents_ok ran
    obtain ⟨mid, -, rfl⟩ := ServiceRegistry.registerAgents_done ran
    refine ⟨registered.rewrite (by rw [state]; decide) ?_ rfl rfl rfl,
      lock.keep rfl (finished_update (Or.inl (by rw [state]; decide)))⟩
    simp only [state]
    split <;> decide
  | deploy ran =>
    obtain ⟨⟨unlocked, -, -, -, -, state⟩, -, rfl⟩ := ServiceRegistry.deploy_ok ran
    obtain rfl := lock.unlocked unlocked
    exact ⟨registered.same rfl rfl registered.guarded fun _ => Iff.rfl, .deploying rfl state⟩
  | slash ran =>
    obtain ⟨slashed, balances, rfl, -⟩ :=
      ServiceRegistry.slashLoop_frame (ServiceRegistry.slash_ok ran).2
    exact ⟨registered.same rfl rfl registered.guarded fun _ => Iff.rfl,
      lock.keep rfl fun _ state => state⟩
  | terminate ran =>
    obtain ⟨⟨unlocked, -, minted, -⟩, -, components, agents, rfl⟩ :=
      ServiceRegistry.terminate_ok ran
    obtain rfl := lock.unlocked unlocked
    obtain ⟨positive, below⟩ := registered.of_owner minted
    refine ⟨registered.rewrite (registered.listed _ positive below) ?_ rfl rfl rfl,
      .refunding rfl⟩
    simp only
    split <;> decide
  | unbond ran =>
    obtain ⟨instances, -, ⟨unlocked, -, -, state, -⟩, -, rfl⟩ := ServiceRegistry.unbond_ok ran
    obtain rfl := lock.unlocked unlocked
    refine ⟨?_, lockHeld_refunding rfl⟩
    apply Registered.refunding
    refine registered.rewrite (by rw [state]; decide) ?_ rfl rfl rfl
    simp only [state]
    split <;> decide
  | drain ran =>
    obtain ⟨⟨unlocked, -⟩, -, rfl⟩ := ServiceRegistry.drain_ok ran
    obtain rfl := lock.unlocked unlocked
    refine ⟨?_, lockHeld_refunding rfl⟩
    apply Registered.refunding
    exact registered.same rfl rfl registered.guarded fun _ => Iff.rfl
  | administer _ guarded minted =>
    exact ⟨registered.same rfl rfl guarded minted, lock.keep rfl fun _ state => state⟩

theorem RegistryShape.resume {edition : Edition} {frame : RegistryFrame}
    {answer : RegistryAnswer} {w : RegistryWorld} {out : Outcome RegistryWorld RegistryFrame}
    {frames : List RegistryFrame} (before : RegistryShape w.store (frame :: frames))
    (ran : w.resume edition frame answer = .ok out) :
    RegistryShape out.state.store (out.pending ++ frames) := by
  obtain ⟨registered, lock⟩ := before
  cases lock with
  | creating held =>
    cases RegistryWorld.resume_return ran
    exact ⟨registered.same rfl rfl registered.guarded fun _ => Iff.rfl, .idle rfl⟩
  | refunding held =>
    cases RegistryWorld.resume_return ran
    exact ⟨registered.same rfl rfl registered.guarded fun _ => Iff.rfl, .idle rfl⟩
  | deploying held state =>
    cases RegistryWorld.resume_return ran
    refine ⟨registered.rewrite (by rw [state]; decide) ?_ rfl rfl rfl, .idle rfl⟩
    simp only [ne_eq, reduceCtorEq, not_false_eq_true]

theorem registryShape_preserved (edition : Edition) :
    Preserved (registryMachine edition) .free always
      fun w frames => RegistryShape w.store frames := by
  intro w frames w' frames' taken _ before
  cases taken with
  | entered call allowed ran =>
    exact before.enter (RegistryWorld.enter_transition before.registered.guarded ran)
  | resumed answer allowed ran => exact before.resume ran

/-- Every service that exists has an owner. -/
def Minted (s : RegistryState) : Prop :=
  ∀ serviceId, 0 < serviceId → serviceId ≤ s.totalSupply → s.erc721.owners serviceId ≠ 0

theorem Minted.enter {edition : Edition} {call : RegistryCall} {w : RegistryWorld}
    {out : Outcome RegistryWorld RegistryFrame} (before : Minted w.store)
    (taken : RegistryTransition edition w call out) : Minted out.state.store := by
  cases taken with
  | create ran =>
    obtain ⟨⟨-, -, owner, -⟩, rfl, rfl⟩ := ServiceRegistry.create_ok ran
    intro serviceId positive below
    simp only [Outcome.state_suspended, Function.update_apply] at below ⊢
    split
    · exact owner
    · exact before serviceId positive (by omega)
  | update ran =>
    obtain ⟨-, -, -, -, rfl⟩ := ServiceRegistry.update_ok ran
    exact before
  | activateRegistration ran =>
    obtain ⟨-, rfl⟩ := ServiceRegistry.activateRegistration_ok ran
    exact before
  | registerAgents ran =>
    obtain ⟨-, -, rfl⟩ := ServiceRegistry.registerAgents_done ran
    exact before
  | deploy ran =>
    obtain ⟨-, -, rfl⟩ := ServiceRegistry.deploy_ok ran
    exact before
  | slash ran =>
    obtain ⟨-, -, rfl, -⟩ := ServiceRegistry.slashLoop_frame (ServiceRegistry.slash_ok ran).2
    exact before
  | terminate ran =>
    obtain ⟨-, -, -, -, rfl⟩ := ServiceRegistry.terminate_ok ran
    exact before
  | unbond ran =>
    obtain ⟨-, -, -, -, rfl⟩ := ServiceRegistry.unbond_ok ran
    rw [RegistryWorld.refunding_store]
    split <;> exact before
  | drain ran =>
    obtain ⟨-, -, rfl⟩ := ServiceRegistry.drain_ok ran
    rw [RegistryWorld.refunding_store]
    split <;> exact before
  | administer _ _ minted =>
    exact fun serviceId positive below none =>
      before serviceId positive below ((minted serviceId).mp none)

theorem minted_preserved (edition : Edition)
    {D : Discipline RegistryWorld RegistryCall RegistryFrame RegistryAnswer} :
    Preserved (registryMachine edition) D (fun w frames => RegistryShape w.store frames)
      fun w _ => Minted w.store := by
  intro w frames w' frames' taken shape before
  cases taken with
  | entered call allowed ran =>
    exact before.enter (RegistryWorld.enter_transition shape.registered.guarded ran)
  | resumed answer allowed ran => cases RegistryWorld.resume_return ran <;> exact before

theorem minted_deployment (deployer : Address) : Minted (ServiceRegistry.deployment deployer) := by
  intro serviceId positive below
  change serviceId ≤ 0 at below
  omega

end AutonolasRegistries.Guarantees
