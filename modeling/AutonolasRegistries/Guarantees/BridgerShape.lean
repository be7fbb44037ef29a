import AutonolasRegistries.Guarantees.ManagerFields
import AutonolasRegistries.Guarantees.MultisigBinding
import AutonolasRegistries.Source.BridgerEffects

/-!
# The manager with its bridger

What a piece of code of the manager, the registries and the bridger did, as the two
contracts see it: the bridger is called with the service that was just created or
deployed, or from outside. An invariant of the system without the bridger is one of the
system with it.
-/
namespace AutonolasRegistries.Guarantees
open Library Source

section Field
variable {setup : Setup} {bridger : Address}

/-- Where the code goes through, the manager still has the bridger. -/
def Calls (bridger : Address) (run : SystemRun) : Prop :=
  ∀ out, run = .ok out → out.state.manager.identityRegistryBridger = bridger

theorem bridger_steady : Steady ManagerState.identityRegistryBridger :=
  ⟨fun _ _ => rfl, fun _ _ => rfl⟩

variable {w : SystemWorld} (same : w.manager.identityRegistryBridger = bridger)
include same

/-- The bridger a call sets, `bridger` if it sets none. -/
def bridgerAfter (bridger : Address) : SystemCall → Address
  | .manager (.setIdentityRegistryBridger _ newBridger) => newBridger
  | _ => bridger

/-- A call that leaves the manager's bridger as it is. -/
def KeepsBridger (bridger : Address) (call : SystemCall) : Prop :=
  bridgerAfter bridger call = bridger

omit same in
theorem bridgerAfter_written (call : SystemCall) (m : ManagerState) :
    (written call m).identityRegistryBridger =
      bridgerAfter m.identityRegistryBridger call := by
  cases call with
  | manager call => cases call <;> rfl
  | registry call => rfl
  | utility call => rfl

theorem calls_enter {call : SystemCall} (kept : KeepsBridger bridger call) :
    Calls bridger (w.enter setup call) := by
  intro out ran
  have shown := shows_enter bridger_steady w call out ran
  rw [bridgerAfter_written, same] at shown
  exact shown.trans kept

theorem calls_resume (frame : SystemFrame) (answer : SystemAnswer) :
    Calls bridger (w.resume setup frame answer) :=
  shows_resume bridger_steady same frame answer

end Field

section Supply
variable {setup : Setup} {w w' : SystemWorld} {pending : List SystemFrame}

/-- Only the manager creates services. -/
theorem enter_keeps_supply {edition : Edition} {r : RegistryWorld} {call : RegistryCall}
    {out : Outcome RegistryWorld RegistryFrame} (taken : RegistryTransition edition r call out)
    (other : r.store.manager ≠ call.sender) :
    out.state.store.totalSupply = r.store.totalSupply := by
  cases taken with
  | create ran =>
    obtain ⟨⟨-, manager, -⟩, -, -⟩ := ServiceRegistry.create_ok ran
    exact absurd manager other
  | update ran =>
    obtain ⟨-, -, -, -, rfl⟩ := ServiceRegistry.update_ok ran
    rfl
  | activateRegistration ran =>
    obtain ⟨-, rfl⟩ := ServiceRegistry.activateRegistration_ok ran
    rfl
  | registerAgents ran =>
    obtain ⟨-, -, rfl⟩ := ServiceRegistry.registerAgents_done ran
    rfl
  | deploy ran =>
    obtain ⟨-, -, rfl⟩ := ServiceRegistry.deploy_ok ran
    rfl
  | slash ran =>
    obtain ⟨-, -, rfl, -⟩ := ServiceRegistry.slashLoop_frame (ServiceRegistry.slash_ok ran).2
    rfl
  | terminate ran =>
    obtain ⟨-, -, -, -, rfl⟩ := ServiceRegistry.terminate_ok ran
    rfl
  | unbond ran =>
    obtain ⟨-, -, -, -, rfl⟩ := ServiceRegistry.unbond_ok ran
    rw [RegistryWorld.refunding_store]
    split <;> rfl
  | drain ran =>
    obtain ⟨-, -, rfl⟩ := ServiceRegistry.drain_ok ran
    rw [RegistryWorld.refunding_store]
    split <;> rfl
  | administer => rfl

/-- Neither a `create` nor a call of the bridger is left waiting. -/
def Settled (pending : List SystemFrame) : Prop :=
  (∀ serviceId frame, .create serviceId frame ∉ pending) ∧ ∀ returned, .bridger returned ∉ pending

theorem settled_nil : Settled [] := ⟨by simp, by simp⟩

theorem settled_map {name : RegistryFrame → SystemFrame} (pending : List RegistryFrame)
    (other : ∀ frame, Settled [name frame]) : Settled (pending.map name) := by
  constructor
  · intro serviceId frame member
    obtain ⟨inner, -, same⟩ := List.mem_map.mp member
    exact (other inner).1 serviceId frame (List.mem_singleton.mpr same.symm)
  · intro returned member
    obtain ⟨inner, -, same⟩ := List.mem_map.mp member
    exact (other inner).2 returned (List.mem_singleton.mpr same.symm)

/-- A call creates a service, or leaves the supply as it is. -/
theorem move_supply {call : SystemCall} (registered : Registered w.registry.store)
    (authority : w.registry.store.manager = setup.self) (outside : call.sender ≠ setup.self)
    (move : SystemMove setup w call w' pending) :
    (w'.registry.store.totalSupply = w.registry.store.totalSupply + 1 ∧
      pending = [.create (w.registry.store.totalSupply + 1) .create]) ∨
    (w'.registry.store.totalSupply = w.registry.store.totalSupply ∧ Settled pending) := by
  cases move with
  | createEth _ _ ran registry =>
    obtain ⟨-, rfl, rfl⟩ := ServiceRegistry.create_ok ran
    rw [registry]
    exact .inl ⟨rfl, rfl⟩
  | createToken _ _ _ _ _ ran registry =>
    obtain ⟨-, rfl, rfl⟩ := ServiceRegistry.create_ok ran
    rw [registry]
    exact .inl ⟨rfl, rfl⟩
  | updateEth _ _ ran _ registry | updateToken _ _ _ _ ran registry =>
    obtain ⟨_, _, _, _, rfl⟩ := ServiceRegistry.update_ok ran
    rw [registry]
    exact .inr ⟨rfl, settled_nil⟩
  | activate _ _ ran registry =>
    obtain ⟨-, rfl⟩ := ServiceRegistry.activateRegistration_ok ran
    rw [registry]
    exact .inr ⟨rfl, settled_nil⟩
  | register _ _ _ ran registry =>
    obtain ⟨_, _, rfl⟩ := ServiceRegistry.registerAgents_done ran
    rw [registry]
    exact .inr ⟨rfl, settled_nil⟩
  | deploy _ ran registry =>
    obtain ⟨-, -, rfl⟩ := ServiceRegistry.deploy_ok ran
    rw [registry]
    exact .inr ⟨rfl, by simp, by simp⟩
  | terminate _ _ ran registry =>
    obtain ⟨_, _, _, _, rfl⟩ := ServiceRegistry.terminate_ok ran
    rw [registry]
    exact .inr ⟨rfl, by simp, by simp⟩
  | unbond _ _ ran _ registry =>
    obtain ⟨_, _, _, _, rfl⟩ := ServiceRegistry.unbond_ok ran
    refine .inr ⟨?_, settled_map _ fun _ => ⟨by simp, by simp⟩⟩
    rw [registry, RegistryWorld.refunding_store]
    split <;> rfl
  | activateToken _ _ registry | registerToken _ _ _ registry | terminateToken _ _ registry
  | unbondToken _ _ registry =>
    rw [registry]
    exact .inr ⟨rfl, by simp, by simp⟩
  | administer _ _ registry =>
    rw [registry]
    exact .inr ⟨rfl, settled_nil⟩
  | bindMultisig _ _ after =>
    subst after
    exact .inr ⟨rfl, settled_nil⟩
  | registry direct ran =>
    subst direct
    have other : w.registry.store.manager ≠ _ := fun same =>
      outside (Subtype.ext (same.symm.trans authority))
    exact .inr ⟨enter_keeps_supply (RegistryWorld.enter_transition registered.guarded ran) other,
      settled_map _ fun _ => ⟨by simp, by simp⟩⟩
  | @utility _ out =>
    refine .inr ⟨by cases out <;> rfl, ?_, ?_⟩ <;> simp

theorem refunding_supply {s s' : RegistryState} {r : RegistryWorld} {refund : Nat}
    (same : s'.totalSupply = s.totalSupply) :
    (r.refunding s' refund).state.store.totalSupply = s.totalSupply := by
  rw [RegistryWorld.refunding_store]
  split <;> exact same

/-- A suspended call that goes on does not change the supply. -/
theorem return_supply {frame : SystemFrame} {answer : SystemAnswer}
    (move : SystemReturn setup w answer frame w' pending) :
    w'.registry.store.totalSupply = w.registry.store.totalSupply := by
  cases move with
  | registry ran | create ran | deploy ran | refund ran => exact resume_supply ran
  | utility | bridger => rfl
  | activate _ _ ran registry =>
    obtain ⟨-, rfl⟩ := ServiceRegistry.activateRegistration_ok ran
    rw [registry]
  | register _ _ ran registry =>
    obtain ⟨_, _, rfl⟩ := ServiceRegistry.registerAgents_done ran
    rw [registry]
  | terminate _ _ ran registry =>
    obtain ⟨_, _, _, _, rfl⟩ := ServiceRegistry.terminate_ok ran
    rw [registry]
  | unbond _ _ ran _ registry =>
    obtain ⟨_, _, _, _, rfl⟩ := ServiceRegistry.unbond_ok ran
    rw [registry]
    exact refunding_supply rfl

end Supply

instance (bridger : Address) (call : SystemCall) : Decidable (KeepsBridger bridger call) :=
  inferInstanceAs (Decidable (_ = _))

/-- The manager is the registry's only manager, keeps its bridger, and makes no calls
besides those of its own code. -/
def bridgedDiscipline (setup : Setup) (bridger : Address) :
    Discipline BridgedWorld BridgedCall SystemFrame BridgedAnswer where
  call call w :=
    match call with
    | .system call _ => (soleDiscipline setup).call call w.system ∧ KeepsBridger bridger call
    | .register sender .. | .updateAgentWallet sender .. => sender ≠ setup.self
    | _ => True
  answer _ _ _ := True

instance (setup : Setup) (bridger : Address) (call : BridgedCall) (w : BridgedWorld) :
    Decidable ((bridgedDiscipline setup bridger).call call w) :=
  match call with
  | .system _ _ => inferInstanceAs (Decidable (_ ∧ _))
  | .register _ _ _ | .updateAgentWallet _ _ _ _ => inferInstanceAs (Decidable (_ ≠ _))
  | .setAgentWallet _ _ | .unsetAgentWallet _ _ | .setMetadata _ _ _ _
  | .linkServiceIdAgentIds _ _ _ | .initializeStorage _ | .changeOwner _ _ => .isTrue trivial

instance (setup : Setup) (bridger : Address) (frame : SystemFrame) (answer : BridgedAnswer)
    (w : BridgedWorld) : Decidable ((bridgedDiscipline setup bridger).answer frame answer w) :=
  .isTrue trivial

/-- What holds of the manager and its bridger at every external call. -/
structure BridgedBase (setup : Setup) (bridger : Address) (w : BridgedWorld)
    (frames : List SystemFrame) : Prop where
  bound : Bound setup w.system frames
  address : w.system.manager.identityRegistryBridger = bridger
  owned : w.bridger.owner ≠ 0

section Parts
variable {setup : Setup} {bridger : Address}

theorem settle_eq_ok {w : BridgedWorld} {call : BridgerState → Except Revert BridgerState}
    {out : Outcome SystemWorld SystemFrame} {out' : Outcome BridgedWorld SystemFrame}
    (ran : w.settle call out = .ok out') :
    ((∀ returned, .bridger returned ∉ out.pending) ∧
      out'.state = { w with system := out.state } ∧ out'.pending = out.pending) ∨
    ∃ returned b, out.pending = [.bridger returned] ∧ call w.bridger = .ok b ∧
      out' = .done ⟨(ServiceManager.finish returned out.state).state, b⟩ := by
  cases out with
  | done s =>
    cases ran
    exact .inl ⟨by simp, rfl, rfl⟩
  | suspended s frame =>
    cases frame with
    | bridger returned =>
      simp only [BridgedWorld.settle, bind_eq_ok, pure_eq_ok] at ran
      obtain ⟨b, called, rfl⟩ := ran
      exact .inr ⟨returned, b, rfl, called, rfl⟩
    | _ =>
      cases ran
      exact .inl ⟨by simp, rfl, rfl⟩

/-- An invariant of the manager and the registries is one with the bridger as well. -/
theorem bridged_lift {P : SystemWorld → List SystemFrame → Prop}
    (keep : Preserved (systemMachine setup) (soleDiscipline setup) always P) :
    Preserved (bridgedMachine setup) (bridgedDiscipline setup bridger) always
      fun w frames => P w.system frames := by
  -- A call of the bridger is the end of the manager's function.
  have closed : ∀ (s : SystemWorld) (returned : Nat) (frames : List SystemFrame),
      P s (.bridger returned :: frames) → P (ServiceManager.finish returned s).state frames := by
    intro s returned frames before
    have last : Local (systemMachine setup) (soleDiscipline setup) s (.bridger returned :: frames)
        (ServiceManager.finish returned s).state
        ((ServiceManager.finish returned s).pending ++ frames) :=
      .resumed ⟨⟨0, [], true⟩, ⟨true, 0⟩⟩ trivial rfl
    exact keep _ _ _ _ last trivial before
  intro w frames w' frames' taken _ before
  cases taken with
  | entered call allowed ran =>
    cases call with
    | system call ids =>
      simp only [bridgedMachine, BridgedWorld.enter, bind_eq_ok] at ran
      obtain ⟨out, entered, settled⟩ := ran
      have after := keep _ _ _ _ (.entered call allowed.1 entered) trivial before
      rcases settle_eq_ok settled with ⟨-, state, pending⟩ | ⟨returned, b, pending, -, rfl⟩
      · rw [state, pending]
        exact after
      · rw [pending] at after
        exact closed _ _ _ after
    | linkServiceIdAgentIds sender ids numServices =>
      simp only [bridgedMachine, BridgedWorld.enter, bind_eq_ok, Prod.exists, pure_eq_ok] at ran
      obtain ⟨b, agentIds, -, rfl⟩ := ran
      exact before
    | _ =>
      simp only [bridgedMachine, BridgedWorld.enter, BridgedWorld.done, bind_eq_ok,
        pure_eq_ok] at ran
      obtain ⟨b, -, rfl⟩ := ran
      exact before
  | resumed answer allowed ran =>
    simp only [bridgedMachine, BridgedWorld.resume, bind_eq_ok] at ran
    obtain ⟨out, resumed, settled⟩ := ran
    have after := keep _ _ _ _ (.resumed answer.system trivial resumed) trivial before
    rcases settle_eq_ok settled with ⟨-, state, pending⟩ | ⟨returned, b, pending, -, rfl⟩
    · rw [state, pending]
      exact after
    · rw [pending] at after
      exact closed _ _ _ after

open IdentityRegistryBridger in
/-- The fields of the bridger that `linkServiceIdAgentIds` and the manager write. -/
structure SameLinks (b b' : BridgerState) : Prop where
  start : b'.startLinkServiceId = b.startLinkServiceId
  services : b'.mapServiceIdAgentIds = b.mapServiceIdAgentIds
  multisigs : b'.mapMultisigAgentIds = b.mapMultisigAgentIds
  registered : registrations b'.requests = registrations b.requests

open IdentityRegistryBridger in
/-- What a piece of code was for the bridger and for what it reads of the registry. -/
inductive BridgedPart (setup : Setup) (w : BridgedWorld) (frames : List SystemFrame)
    (w' : BridgedWorld) (frames' : List SystemFrame) : Prop where
  | quiet (links : SameLinks w.bridger w'.bridger)
      (supply : w'.system.registry.store.totalSupply = w.system.registry.store.totalSupply)
      (pointers : multisigOf w'.system.registry = multisigOf w.system.registry)
      (creating : ∀ serviceId frame,
        .create serviceId frame ∈ frames' ↔ .create serviceId frame ∈ frames)
  | minted (bridger : w'.bridger = w.bridger)
      (supply : w'.system.registry.store.totalSupply = w.system.registry.store.totalSupply + 1)
      (pointers : multisigOf w'.system.registry = multisigOf w.system.registry)
      (waits : frames' = .create (w.system.registry.store.totalSupply + 1) .create :: frames)
  | created {serviceId : Nat} {frame : RegistryFrame} {ids : IdentityAnswer}
      (waited : frames = .create serviceId frame :: frames')
      (supply : w'.system.registry.store.totalSupply = w.system.registry.store.totalSupply)
      (pointers : multisigOf w'.system.registry = multisigOf w.system.registry)
      (ran : register setup.self setup.self ids serviceId w.bridger = .ok w'.bridger)
  | moved {serviceId : Nat} {frame : RegistryFrame} {multisig : Address}
      (waited : frames =
        .deploy serviceId (multisigOf w.system.registry serviceId) frame :: frames')
      (supply : w'.system.registry.store.totalSupply = w.system.registry.store.totalSupply)
      (pointers : multisigOf w'.system.registry =
        Function.update (multisigOf w.system.registry) serviceId multisig)
      (created : multisig ≠ 0) (other : multisig ≠ multisigOf w.system.registry serviceId)
      (unbound : w.system.manager.mapMultisigServiceIds multisig = serviceId ∨
        w.system.manager.mapMultisigServiceIds multisig = 0)
      (ran : updateAgentWallet setup.self setup.self serviceId
        (multisigOf w.system.registry serviceId) multisig w.bridger = .ok w'.bridger)
  | linked {ids : IdentityAnswer} {numServices : Nat} {agentIds : List Nat}
      (system : w'.system = w.system) (waits : frames' = frames)
      (ran : linkServiceIdAgentIds w.system.registry.store ids numServices w.bridger =
        .ok (w'.bridger, agentIds))

theorem move_quiet {w w' : SystemWorld} {frames pending : List SystemFrame} {call : SystemCall}
    {b : BridgerState} (bound : Bound setup w frames) (outside : call.sender ≠ setup.self)
    (move : SystemMove setup w call w' pending) :
    BridgedPart setup ⟨w, b⟩ frames ⟨w', b⟩ (pending ++ frames) := by
  have pointers : multisigOf w'.registry = multisigOf w.registry :=
    funext (part_multisig bound.registry.registered (move_registryPart move) (by simp))
  rcases move_supply bound.registry.registered bound.shape.authority outside move with
    ⟨supply, rfl⟩ | ⟨supply, settled⟩
  · exact .minted rfl supply pointers rfl
  · refine .quiet ⟨rfl, rfl, rfl, rfl⟩ supply pointers fun serviceId frame => ?_
    simp [settled.1 serviceId frame]

theorem return_quiet {w w' : SystemWorld} {frame : SystemFrame} {rest pending : List SystemFrame}
    {answer : SystemAnswer} {b : BridgerState} (bound : Bound setup w (frame :: rest))
    (move : SystemReturn setup w answer frame w' pending)
    (creating : ∀ serviceId inner, frame ≠ .create serviceId inner)
    (pointers : multisigOf w'.registry = multisigOf w.registry) :
    BridgedPart setup ⟨w, b⟩ (frame :: rest) ⟨w', b⟩ (pending ++ rest) := by
  refine .quiet ⟨rfl, rfl, rfl, rfl⟩ (return_supply move) pointers fun serviceId inner => ?_
  have none : .create serviceId inner ∉ pending := by
    cases move with
    | create => exact absurd rfl (creating _ _)
    | deploy _ _ _ _ waits => rcases waits with ⟨-, rfl⟩ | ⟨-, rfl⟩ <;> simp
    | _ => simp
  simp [none, (creating serviceId inner).symm]

variable {w : BridgedWorld} {frames rest : List SystemFrame}

theorem create_part {serviceId : Nat} {inner : RegistryFrame} {answer : BridgedAnswer}
    {out : Outcome BridgedWorld SystemFrame} (valid : bridger ≠ 0)
    (base : BridgedBase setup bridger w (.create serviceId inner :: rest))
    (ran : w.resume setup (.create serviceId inner) answer = .ok out) :
    BridgedPart setup w (.create serviceId inner :: rest) out.state (out.pending ++ rest) := by
  simp only [BridgedWorld.resume, bind_eq_ok] at ran
  obtain ⟨mid, resumed, settled⟩ := ran
  have move := SystemWorld.resume_return resumed
  have supply := return_supply move
  obtain ⟨-, pointers⟩ := return_bindings base.bound (by simp) move
  obtain ⟨r, -, returned⟩ := SystemWorld.afterRegistry_resume resumed
  have called : (w.system.withRegistry r).manager.identityRegistryBridger ≠ 0 :=
    base.address.trans_ne valid
  rw [ServiceManager.createReturn, if_pos called, ok_eq_ok] at returned
  subst returned
  simp only [BridgedWorld.settle, bind_eq_ok, pure_eq_ok] at settled
  obtain ⟨b, registered, rfl⟩ := settled
  exact .created rfl supply pointers registered

theorem deploy_part {serviceId : Nat} {last : Address} {inner : RegistryFrame}
    {answer : BridgedAnswer} {out : Outcome BridgedWorld SystemFrame} (valid : bridger ≠ 0)
    (base : BridgedBase setup bridger w (.deploy serviceId last inner :: rest))
    (ran : w.resume setup (.deploy serviceId last inner) answer = .ok out) :
    BridgedPart setup w (.deploy serviceId last inner :: rest) out.state
      (out.pending ++ rest) := by
  simp only [BridgedWorld.resume, bind_eq_ok] at ran
  obtain ⟨mid, resumed, settled⟩ := ran
  obtain ⟨rfl, -, rfl⟩ := base.bound.deploying
  have move := SystemWorld.resume_return resumed
  have supply := return_supply move
  obtain ⟨r, deployed, returned⟩ := SystemWorld.afterRegistry_resume resumed
  have pointers := deploy_pointer deployed
  simp only [ServiceManager.deployReturn, bind_eq_ok, revertIf_eq_ok, exists_const, not_and,
    not_not] at returned
  obtain ⟨created, owned, returned⟩ := returned
  split at returned
  · next called =>
    cases returned
    simp only [BridgedWorld.settle, bind_eq_ok, pure_eq_ok] at settled
    obtain ⟨b, updated, rfl⟩ := settled
    refine .moved rfl supply pointers created called.2 ?_ updated
    by_cases own : w.system.manager.mapMultisigServiceIds answer.system.registry.multisig =
        serviceId
    · exact .inl own
    · exact .inr (owned own)
  · next uncalled =>
    have kept : answer.system.registry.multisig = multisigOf w.system.registry serviceId := by
      by_contra other
      exact uncalled ⟨base.address.trans_ne valid, other⟩
    cases returned
    cases settled
    rw [kept, Function.update_eq_self] at pointers
    exact return_quiet base.bound move (by simp) pointers

theorem resume_part {frame : SystemFrame} {answer : BridgedAnswer}
    {out : Outcome BridgedWorld SystemFrame} (valid : bridger ≠ 0)
    (base : BridgedBase setup bridger w (frame :: rest))
    (ran : w.resume setup frame answer = .ok out) :
    BridgedPart setup w (frame :: rest) out.state (out.pending ++ rest) := by
  by_cases creating : ∃ serviceId inner, frame = .create serviceId inner
  · obtain ⟨serviceId, inner, rfl⟩ := creating
    exact create_part valid base ran
  by_cases deploying : ∃ serviceId last inner, frame = .deploy serviceId last inner
  · obtain ⟨serviceId, last, inner, rfl⟩ := deploying
    exact deploy_part valid base ran
  have other : ∀ serviceId last inner, frame ≠ .deploy serviceId last inner :=
    fun serviceId last inner same => deploying ⟨serviceId, last, inner, same⟩
  simp only [BridgedWorld.resume, bind_eq_ok] at ran
  obtain ⟨mid, resumed, settled⟩ := ran
  have move := SystemWorld.resume_return resumed
  obtain ⟨-, pointers⟩ := return_bindings base.bound other move
  have none : ∀ returned, .bridger returned ∉ mid.pending := by
    generalize mid.pending = pending, mid.state = after at move
    cases move with
    | create => exact absurd ⟨_, _, rfl⟩ creating
    | deploy => exact absurd ⟨_, _, _, rfl⟩ deploying
    | _ => simp
  rcases settle_eq_ok settled with ⟨-, state, pending⟩ | ⟨returned, b, pending, -⟩
  · rw [state, pending]
    exact return_quiet base.bound move (fun serviceId inner same =>
      creating ⟨serviceId, inner, same⟩) pointers
  · exact absurd (by rw [pending]; exact List.mem_singleton_self _) (none returned)

open IdentityRegistryBridger

/-- The requests of a multisig are no registrations. -/
theorem asked_links {b : BridgerState} {asked : IdentityRequest}
    (other : registrations [asked] = []) :
    SameLinks b { b with requests := b.requests ++ [asked], locked := 1 } := by
  refine ⟨rfl, rfl, rfl, ?_⟩
  rw [registrations_append, other, List.append_nil]

theorem quiet_done {b' : BridgerState} (links : SameLinks w.bridger b') :
    BridgedPart setup w frames (w.withBridger b') frames :=
  .quiet links rfl rfl fun _ _ => Iff.rfl

theorem enter_part {call : BridgedCall} {out : Outcome BridgedWorld SystemFrame}
    (base : BridgedBase setup bridger w frames)
    (allowed : (bridgedDiscipline setup bridger).call call w)
    (ran : w.enter setup call = .ok out) :
    BridgedPart setup w frames out.state (out.pending ++ frames) := by
  cases call with
  | system call ids =>
    simp only [BridgedWorld.enter, bind_eq_ok] at ran
    obtain ⟨mid, entered, settled⟩ := ran
    have move := SystemWorld.enter_move entered
    rcases settle_eq_ok settled with ⟨-, state, pending⟩ | ⟨returned, b, pending, -⟩
    · rw [state, pending]
      exact move_quiet base.bound allowed.1.1 move
    · rcases move_supply base.bound.registry.registered base.bound.shape.authority allowed.1.1
        move with ⟨-, creates⟩ | ⟨-, -, none⟩
      · rw [pending] at creates
        cases creates
      · exact absurd (by rw [pending]; exact List.mem_singleton_self _) (none returned)
  | linkServiceIdAgentIds sender ids numServices =>
    simp only [BridgedWorld.enter, bind_eq_ok, Prod.exists, pure_eq_ok] at ran
    obtain ⟨b, agentIds, ran, rfl⟩ := ran
    exact .linked rfl rfl ran
  | register sender ids serviceId =>
    simp only [BridgedWorld.enter, BridgedWorld.done, bind_eq_ok, pure_eq_ok] at ran
    obtain ⟨b, ran, rfl⟩ := ran
    exact absurd (Subtype.ext (register_ok ran).1) allowed
  | updateAgentWallet sender serviceId oldMultisig newMultisig =>
    simp only [BridgedWorld.enter, BridgedWorld.done, bind_eq_ok, pure_eq_ok] at ran
    obtain ⟨b, ran, rfl⟩ := ran
    exact absurd (Subtype.ext (updateAgentWallet_ok ran).1) allowed
  | setAgentWallet sender metadata =>
    simp only [BridgedWorld.enter, BridgedWorld.done, bind_eq_ok, pure_eq_ok] at ran
    obtain ⟨b, ran, rfl⟩ := ran
    obtain ⟨-, rfl⟩ := setAgentWallet_ok ran
    exact quiet_done (asked_links rfl)
  | unsetAgentWallet sender metadata =>
    simp only [BridgedWorld.enter, BridgedWorld.done, bind_eq_ok, pure_eq_ok] at ran
    obtain ⟨b, ran, rfl⟩ := ran
    obtain ⟨-, rfl⟩ := unsetAgentWallet_ok ran
    exact quiet_done (asked_links rfl)
  | setMetadata sender metadata metadataKey metadataValue =>
    simp only [BridgedWorld.enter, BridgedWorld.done, bind_eq_ok, pure_eq_ok] at ran
    obtain ⟨b, ran, rfl⟩ := ran
    obtain ⟨-, rfl⟩ := setMetadata_ok ran
    exact quiet_done (asked_links rfl)
  | initializeStorage sender =>
    simp only [BridgedWorld.enter, BridgedWorld.done, initializeStorage, bind_eq_ok,
      revertIf_eq_ok, exists_const, not_not, ne_eq, pure_eq_ok] at ran
    obtain ⟨b, ⟨blank, -⟩, -⟩ := ran
    exact absurd blank base.owned
  | changeOwner sender newOwner =>
    simp only [BridgedWorld.enter, BridgedWorld.done, changeOwner, bind_eq_ok, revertIf_eq_ok,
      exists_const, pure_eq_ok] at ran
    obtain ⟨b, ⟨-, -, rfl⟩, rfl⟩ := ran
    exact quiet_done ⟨rfl, rfl, rfl, rfl⟩

end Parts

section Runs
variable {setup : Setup} {bridger : Address} {w w' : BridgedWorld}
  {frames frames' : List SystemFrame}

theorem settle_bridger {call : BridgerState → Except Revert BridgerState}
    {out : Outcome SystemWorld SystemFrame} {out' : Outcome BridgedWorld SystemFrame}
    (ran : w.settle call out = .ok out') :
    out'.state.system.manager.identityRegistryBridger =
      out.state.manager.identityRegistryBridger := by
  rcases settle_eq_ok ran with ⟨-, state, -⟩ | ⟨returned, b, -, -, rfl⟩
  · rw [state]
  · rfl

theorem bridger_kept (taken : Local (bridgedMachine setup) (bridgedDiscipline setup bridger) w
      frames w' frames') (same : w.system.manager.identityRegistryBridger = bridger) :
    w'.system.manager.identityRegistryBridger = bridger := by
  cases taken with
  | entered call allowed ran =>
    cases call with
    | system call ids =>
      simp only [bridgedMachine, BridgedWorld.enter, bind_eq_ok] at ran
      obtain ⟨mid, entered, settled⟩ := ran
      rw [settle_bridger settled]
      exact calls_enter same allowed.2 mid entered
    | linkServiceIdAgentIds sender ids numServices =>
      simp only [bridgedMachine, BridgedWorld.enter, bind_eq_ok, Prod.exists, pure_eq_ok] at ran
      obtain ⟨b, agentIds, -, rfl⟩ := ran
      exact same
    | _ =>
      simp only [bridgedMachine, BridgedWorld.enter, BridgedWorld.done, bind_eq_ok,
        pure_eq_ok] at ran
      obtain ⟨b, -, rfl⟩ := ran
      exact same
  | @resumed frame _ _ answer allowed ran =>
    simp only [bridgedMachine, BridgedWorld.resume, bind_eq_ok] at ran
    obtain ⟨mid, resumed, settled⟩ := ran
    rw [settle_bridger settled]
    exact calls_resume same frame answer.system mid resumed

open IdentityRegistryBridger

theorem register_owner {serviceManager sender : Address} {ids : IdentityAnswer}
    {serviceId : Nat} {b b' : BridgerState}
    (ran : register serviceManager sender ids serviceId b = .ok b') : b'.owner = b.owner := by
  obtain ⟨-, ⟨-, rfl⟩ | ⟨-, requests, -, rfl⟩⟩ := register_ok ran <;> rfl

theorem updateAgentWallet_owner {serviceManager sender : Address} {serviceId : Nat}
    {oldMultisig newMultisig : Address} {b b' : BridgerState}
    (ran : updateAgentWallet serviceManager sender serviceId oldMultisig newMultisig b =
      .ok b') : b'.owner = b.owner := by
  obtain ⟨-, requests, multisigs, -, -, rfl⟩ := updateAgentWallet_ok ran
  rfl

theorem linkServiceIdAgentIds_owner {registry : RegistryState} {ids : IdentityAnswer}
    {numServices : Nat} {agentIds : List Nat} {b b' : BridgerState}
    (ran : linkServiceIdAgentIds registry ids numServices b = .ok (b', agentIds)) :
    b'.owner = b.owner := by
  obtain ⟨-, count, -, unlinked, -, after⟩ := linkServiceIdAgentIds_ok ran
  have kept : (linkRange registry ids b.startLinkServiceId count { b with locked := 2 }).owner =
      b.owner := by
    refine linkRange_invariant (P := fun linked => linked.owner = b.owner)
      (fun serviceId before _ same => ?_) unlinked rfl
    obtain ⟨requests, -, linked⟩ := linkService_eq registry ids serviceId before
    rw [linked]
    exact same
  rw [after]
  exact kept

theorem settle_owner {call : BridgerState → Except Revert BridgerState}
    (keep : ∀ b b', call b = .ok b' → b'.owner = b.owner)
    {out : Outcome SystemWorld SystemFrame} {out' : Outcome BridgedWorld SystemFrame}
    (ran : w.settle call out = .ok out') : out'.state.bridger.owner = w.bridger.owner := by
  rcases settle_eq_ok ran with ⟨-, state, -⟩ | ⟨returned, b, -, called, rfl⟩
  · rw [state]
  · exact keep _ _ called

/-- The bridger is never left without an owner. -/
theorem owner_kept (taken : Local (bridgedMachine setup) (bridgedDiscipline setup bridger) w
      frames w' frames') (owned : w.bridger.owner ≠ 0) : w'.bridger.owner ≠ 0 := by
  cases taken with
  | entered call allowed ran =>
    cases call with
    | system call ids =>
      simp only [bridgedMachine, BridgedWorld.enter, bind_eq_ok] at ran
      obtain ⟨mid, -, settled⟩ := ran
      rw [settle_owner (fun b b' ran => register_owner ran) settled]
      exact owned
    | linkServiceIdAgentIds sender ids numServices =>
      simp only [bridgedMachine, BridgedWorld.enter, bind_eq_ok, Prod.exists, pure_eq_ok] at ran
      obtain ⟨b, agentIds, ran, rfl⟩ := ran
      exact (linkServiceIdAgentIds_owner ran).trans_ne owned
    | register sender ids serviceId =>
      simp only [bridgedMachine, BridgedWorld.enter, BridgedWorld.done, bind_eq_ok,
        pure_eq_ok] at ran
      obtain ⟨b, ran, rfl⟩ := ran
      exact (register_owner ran).trans_ne owned
    | updateAgentWallet sender serviceId oldMultisig newMultisig =>
      simp only [bridgedMachine, BridgedWorld.enter, BridgedWorld.done, bind_eq_ok,
        pure_eq_ok] at ran
      obtain ⟨b, ran, rfl⟩ := ran
      exact (updateAgentWallet_owner ran).trans_ne owned
    | setAgentWallet sender metadata | unsetAgentWallet sender metadata
    | setMetadata sender metadata metadataKey metadataValue =>
      simp only [bridgedMachine, BridgedWorld.enter, BridgedWorld.done, bind_eq_ok,
        pure_eq_ok] at ran
      obtain ⟨b, ran, rfl⟩ := ran
      obtain ⟨-, asked, -, rfl⟩ := actForMultisig_ok ran
      exact owned
    | initializeStorage sender =>
      simp only [bridgedMachine, BridgedWorld.enter, BridgedWorld.done, initializeStorage,
        bind_eq_ok, revertIf_eq_ok, exists_const, pure_eq_ok] at ran
      obtain ⟨b, ⟨-, rfl⟩, rfl⟩ := ran
      exact sender.2
    | changeOwner sender newOwner =>
      simp only [bridgedMachine, BridgedWorld.enter, BridgedWorld.done, changeOwner, bind_eq_ok,
        revertIf_eq_ok, exists_const, pure_eq_ok] at ran
      obtain ⟨b, ⟨-, some, rfl⟩, rfl⟩ := ran
      exact some
  | @resumed frame _ _ answer allowed ran =>
    simp only [bridgedMachine, BridgedWorld.resume, bind_eq_ok] at ran
    obtain ⟨mid, -, settled⟩ := ran
    refine (settle_owner (fun b b' called => ?_) settled).trans_ne owned
    cases frame with
    | create => exact register_owner called
    | deploy => exact updateAgentWallet_owner called
    | _ =>
      cases called
      rfl

theorem bridgedBase_preserved (setup : Setup) (bridger : Address) :
    Preserved (bridgedMachine setup) (bridgedDiscipline setup bridger) always
      (BridgedBase setup bridger) := by
  intro w frames w' frames' taken _ before
  exact ⟨bridged_lift (bound_preserved setup) _ _ _ _ taken trivial before.bound,
    bridger_kept taken before.address, owner_kept taken before.owned⟩

/-- What a piece of code of a run was. -/
theorem bridged_part (valid : bridger ≠ 0) (base : BridgedBase setup bridger w frames)
    (taken : Local (bridgedMachine setup) (bridgedDiscipline setup bridger) w frames w'
      frames') : BridgedPart setup w frames w' frames' := by
  cases taken with
  | entered call allowed ran => exact enter_part base allowed ran
  | resumed answer allowed ran => exact resume_part valid base ran

end Runs

/-- A bridger that was just set up behind its proxy, in a manager that has it and ran over
its registry before. -/
structure Bridging (setup : Setup) (start : BridgedWorld) : Prop where
  manager : ∃ takeover, Takeover setup takeover ∧
    Reachable (systemMachine setup) (soleDiscipline setup) takeover ⟨start.system, []⟩
  set : start.system.manager.identityRegistryBridger ≠ 0
  bridger : ∃ sender : Caller,
    IdentityRegistryBridger.initializeStorage sender IdentityRegistryBridger.blank = .ok start.bridger

theorem Bridging.bridger_eq {setup : Setup} {start : BridgedWorld}
    (bridging : Bridging setup start) : ∃ sender : Caller, start.bridger =
      { IdentityRegistryBridger.blank with startLinkServiceId := 1, owner := sender } := by
  obtain ⟨sender, ran⟩ := bridging.bridger
  simp only [IdentityRegistryBridger.initializeStorage, bind_eq_ok, revertIf_eq_ok, exists_const,
    pure_eq_ok] at ran
  exact ⟨sender, ran.2.symm⟩

theorem Bridging.base {setup : Setup} {start : BridgedWorld} (bridging : Bridging setup start) :
    BridgedBase setup start.system.manager.identityRegistryBridger start [] := by
  obtain ⟨takeover, began, run⟩ := bridging.manager
  obtain ⟨sender, after⟩ := bridging.bridger_eq
  refine ⟨run.invariant (bound_preserved setup) began.bound, rfl, ?_⟩
  rw [after]
  exact sender.2

end AutonolasRegistries.Guarantees
