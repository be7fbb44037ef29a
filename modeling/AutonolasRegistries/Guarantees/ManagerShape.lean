import AutonolasRegistries.Guarantees.ServiceLifecycle
import AutonolasRegistries.Source.ManagerMoves

/-!
# The manager over the registry

What a piece of the system's code is for the registry: nothing, a call from outside, a
call the manager passes on, or the rest of a suspended call. An invariant of the registry
is therefore one of the system, and the manager has at most one call suspended, which
holds its lock.
-/
namespace AutonolasRegistries.Guarantees
open Library Source

/-- The suspended call of the registry behind a suspended call of the system. -/
def registryFrame : SystemFrame → List RegistryFrame
  | .registry frame | .create _ frame | .deploy _ _ frame | .refund _ frame => [frame]
  | .utility _ | .activate .. | .register .. | .terminate .. | .unbond .. | .bridger _ => []

/-- A suspended call of the manager. -/
def managed : SystemFrame → Bool
  | .registry _ | .utility _ => false
  | _ => true

/-- A registry call the manager makes for `actor`. -/
inductive Forwarded (setup : Setup) (actor : Address) (creates : Bool) : RegistryCall → Prop where
  | create {serviceOwner agentTotalSupply configHash agentIds agentParams threshold}
      (asked : creates = true) :
      Forwarded setup actor creates (.create setup.self serviceOwner agentTotalSupply configHash
        agentIds agentParams threshold)
  | update {agentTotalSupply configHash agentIds agentParams threshold serviceId} :
      Forwarded setup actor creates (.update setup.self actor agentTotalSupply configHash
        agentIds agentParams threshold serviceId)
  | activateRegistration {value serviceId} :
      Forwarded setup actor creates (.activateRegistration setup.self value actor serviceId)
  | registerAgents {value operator serviceId agentInstances agentIds} (someone : operator ≠ 0) :
      Forwarded setup actor creates
        (.registerAgents setup.self value operator serviceId agentInstances agentIds)
  | deploy {serviceId multisigImplementation} :
      Forwarded setup actor creates (.deploy setup.self actor serviceId multisigImplementation)
  | terminate {serviceId} : Forwarded setup actor creates (.terminate setup.self actor serviceId)
  | unbond {operator serviceId} :
      Forwarded setup actor creates (.unbond setup.self operator serviceId)

/-- The account a suspended call of the manager acts for. -/
def frameActor : SystemFrame → Address
  | .activate sender .. | .terminate sender .. => sender
  | _ => 0

/-- Operators are accounts. -/
def RealFrame : SystemFrame → Prop
  | .register _ _ operator .. => operator ≠ 0
  | _ => True

/-- The registration a suspended call of the manager is about to make. -/
def frameRegistration : SystemFrame → Option Registration
  | .register _ _ operator serviceId agentInstances agentIds _ =>
    some ⟨operator, serviceId, agentInstances, agentIds⟩
  | _ => none

/-- Whatever the registry registers was asked for. -/
def Registers (asked : Option Registration) (passed : RegistryCall) : Prop :=
  ∀ registration, passed.registration = some registration → asked = some registration

/-- What a piece of code was for the registry: `before` are the suspended calls it takes
up, `after` those it leaves. -/
inductive RegistryPart (edition : Edition) (allowed : RegistryCall → Prop) (r : RegistryWorld) :
    List RegistryFrame → RegistryWorld → List RegistryFrame → Prop where
  | untouched : RegistryPart edition allowed r [] r []
  | called {call : RegistryCall} {out : Outcome RegistryWorld RegistryFrame}
      (permitted : allowed call) (ran : r.enter edition call = .ok out) :
      RegistryPart edition allowed r [] out.state out.pending
  | resumed {frame : RegistryFrame} {answer : RegistryAnswer}
      {out : Outcome RegistryWorld RegistryFrame}
      (ran : r.resume edition frame answer = .ok out) :
      RegistryPart edition allowed r [frame] out.state out.pending

namespace RegistryPart
variable {edition : Edition} {allowed : RegistryCall → Prop} {r r' : RegistryWorld}

theorem mono {permitted : RegistryCall → Prop} {before after : List RegistryFrame}
    (weaker : ∀ call, allowed call → permitted call)
    (part : RegistryPart edition allowed r before r' after) :
    RegistryPart edition permitted r before r' after := by
  cases part with
  | untouched => exact .untouched
  | called fits ran => exact .called (weaker _ fits) ran
  | resumed ran => exact .resumed ran

/-- The calls, given by what the function did. -/
theorem create {sender : Caller} {serviceOwner : Address} {agentTotalSupply : Nat}
    {configHash : Bytes32} {agentIds : List Uint32} {agentParams : List AgentParams}
    {threshold : Uint32} {s : RegistryState} {serviceId : Nat}
    (permitted : allowed (.create sender serviceOwner agentTotalSupply configHash agentIds
      agentParams threshold))
    (ran : ServiceRegistry.create edition agentTotalSupply sender serviceOwner configHash
      agentIds agentParams threshold r.store = .ok (s, serviceId))
    (after : r' = { r with store := s }) :
    RegistryPart edition allowed r [] r' [.create] := by
  subst after
  have entered : r.enter edition (.create sender serviceOwner agentTotalSupply configHash
      agentIds agentParams threshold) = .ok (.suspended { r with store := s } .create) := by
    simp only [RegistryWorld.enter, ran, ok_bind]
    rfl
  exact .called permitted entered

theorem update {sender : Caller} {serviceOwner : Address} {agentTotalSupply : Nat}
    {configHash : Bytes32} {agentIds : List Uint32} {agentParams : List AgentParams}
    {threshold : Uint32} {s : RegistryState} {serviceId : Nat}
    (permitted : allowed (.update sender serviceOwner agentTotalSupply configHash agentIds
      agentParams threshold serviceId))
    (ran : ServiceRegistry.update edition agentTotalSupply sender serviceOwner configHash
      agentIds agentParams threshold serviceId r.store = .ok s)
    (after : r' = { r with store := s }) : RegistryPart edition allowed r [] r' [] := by
  subst after
  have entered : r.enter edition (.update sender serviceOwner agentTotalSupply configHash
      agentIds agentParams threshold serviceId) = .ok (.done { r with store := s }) :=
    RegistryWorld.finish_eq_ok.mpr ⟨s, ran, rfl⟩
  exact .called permitted entered

theorem activateRegistration {sender : Caller} {serviceOwner : Address}
    {value serviceId : Nat} {s : RegistryState}
    (permitted : allowed (.activateRegistration sender value serviceOwner serviceId))
    (ran : ServiceRegistry.activateRegistration sender value serviceOwner serviceId r.store =
      .ok s)
    (after : r' = { r with store := s, received := r.received + value }) :
    RegistryPart edition allowed r [] r' [] := by
  subst after
  have entered : r.enter edition (.activateRegistration sender value serviceOwner serviceId) =
      .ok (.done { r with store := s, received := r.received + value }) :=
    RegistryWorld.finish_eq_ok.mpr ⟨s, ran, rfl⟩
  exact .called permitted entered

theorem registerAgents {sender : Caller} {operator : Address} {value serviceId : Nat}
    {agentInstances : List Address} {agentIds : List Uint32} {s : RegistryState}
    (permitted : allowed (.registerAgents sender value operator serviceId agentInstances
      agentIds))
    (ran : ServiceRegistry.registerAgents sender value operator serviceId agentInstances agentIds
      r.store = .ok s)
    (after : r' = { r with store := s, received := r.received + value }) :
    RegistryPart edition allowed r [] r' [] := by
  subst after
  have entered : r.enter edition (.registerAgents sender value operator serviceId agentInstances
      agentIds) = .ok (.done { r with store := s, received := r.received + value }) :=
    RegistryWorld.finish_eq_ok.mpr ⟨s, ran, rfl⟩
  exact .called permitted entered

theorem deploy {sender : Caller} {serviceOwner multisigImplementation : Address}
    {serviceId : Nat} {s : RegistryState} {owners : List Address}
    (permitted : allowed (.deploy sender serviceOwner serviceId multisigImplementation))
    (ran : ServiceRegistry.deploy sender serviceOwner serviceId multisigImplementation r.store =
      .ok (s, owners))
    (after : r' = { r with store := s }) :
    RegistryPart edition allowed r [] r' [.deploy serviceId] := by
  subst after
  have entered : r.enter edition (.deploy sender serviceOwner serviceId multisigImplementation) =
      .ok (.suspended { r with store := s } (.deploy serviceId)) := by
    simp only [RegistryWorld.enter, ran, ok_bind]
    rfl
  exact .called permitted entered

theorem terminate {sender : Caller} {serviceOwner : Address} {serviceId refund : Nat}
    {s : RegistryState} (permitted : allowed (.terminate sender serviceOwner serviceId))
    (ran : ServiceRegistry.terminate edition sender serviceOwner serviceId r.store =
      .ok (s, refund))
    (after : r' = { r with store := s, paid := r.paid + refund }) :
    RegistryPart edition allowed r [] r' [.refund] := by
  subst after
  have entered : r.enter edition (.terminate sender serviceOwner serviceId) =
      .ok (.suspended { r with store := s, paid := r.paid + refund } .refund) := by
    simp only [RegistryWorld.enter, ran, ok_bind]
    rfl
  exact .called permitted entered

theorem unbond {sender : Caller} {operator : Address} {serviceId refund : Nat}
    {s : RegistryState} (permitted : allowed (.unbond sender operator serviceId))
    (ran : ServiceRegistry.unbond sender operator serviceId r.store = .ok (s, refund))
    (after : r' = (r.refunding s refund).state) :
    RegistryPart edition allowed r [] r' (r.refunding s refund).pending := by
  subst after
  have entered : r.enter edition (.unbond sender operator serviceId) =
      .ok (r.refunding s refund) := by
    simp only [RegistryWorld.enter, ran, ok_bind]
    rfl
  exact .called permitted entered

end RegistryPart

/-- The registry calls behind a call of the system. -/
def Passed (setup : Setup) (call : SystemCall) (passed : RegistryCall) : Prop :=
  call = .registry passed ∨ Forwarded setup call.sender call.creates passed

section Parts
variable {setup : Setup} {w w' : SystemWorld} {frames : List SystemFrame}

theorem map_registryFrame {name : RegistryFrame → SystemFrame}
    (own : ∀ frame, registryFrame (name frame) = [frame]) (pending : List RegistryFrame) :
    (pending.map name).flatMap registryFrame = pending := by
  have whole := frames_own own pending []
  simpa only [List.append_nil, List.flatMap_nil] using whole

/-- A call that registers nothing. -/
theorem registers_none {asked : Option Registration} {passed : RegistryCall}
    (none : passed.registration = none) : Registers asked passed := by
  intro registration registers
  rw [none] at registers
  cases registers

theorem move_registrations {call : SystemCall} (move : SystemMove setup w call w' frames) :
    RegistryPart setup.edition
      (fun passed => Passed setup call passed ∧ Registers call.registration passed) w.registry []
      w'.registry (frames.flatMap registryFrame) := by
  cases move with
  | createEth asked _ ran registry _ =>
    exact .create ⟨Or.inr (.create asked), registers_none rfl⟩ ran registry
  | createToken asked _ _ _ _ ran registry _ =>
    exact .create ⟨Or.inr (.create asked), registers_none rfl⟩ ran registry
  | updateEth _ _ ran _ registry _ =>
    exact .update ⟨Or.inr .update, registers_none rfl⟩ ran registry
  | updateToken _ _ _ _ ran registry _ =>
    exact .update ⟨Or.inr .update, registers_none rfl⟩ ran registry
  | activate _ _ ran registry _ =>
    exact .activateRegistration ⟨Or.inr .activateRegistration, registers_none rfl⟩ ran registry
  | register _ someone _ ran registry _ asked =>
    refine .registerAgents ⟨Or.inr (.registerAgents someone), ?_⟩ ran registry
    intro registration registers
    cases registers
    exact asked
  | deploy _ ran registry _ => exact .deploy ⟨Or.inr .deploy, registers_none rfl⟩ ran registry
  | terminate _ _ ran registry _ =>
    exact .terminate ⟨Or.inr .terminate, registers_none rfl⟩ ran registry
  | unbond _ _ ran _ registry _ =>
    rw [map_registryFrame fun _ => rfl]
    exact .unbond ⟨Or.inr .unbond, registers_none rfl⟩ ran registry
  | activateToken _ _ registry | registerToken _ _ _ registry | terminateToken _ _ registry
  | unbondToken _ _ registry | administer _ _ registry =>
    rw [registry]
    exact .untouched
  | bindMultisig _ _ after =>
    subst after
    exact .untouched
  | registry direct ran =>
    rw [map_registryFrame fun _ => rfl]
    refine .called ⟨Or.inl direct, ?_⟩ ran
    intro registration registers
    rw [direct]
    exact registers
  | @utility _ out => cases out <;> exact .untouched

theorem move_registryPart {call : SystemCall} (move : SystemMove setup w call w' frames) :
    RegistryPart setup.edition (Passed setup call) w.registry [] w'.registry
      (frames.flatMap registryFrame) :=
  (move_registrations move).mono fun _ fits => fits.1

theorem return_registrations {frame : SystemFrame} {answer : SystemAnswer}
    (real : RealFrame frame) (move : SystemReturn setup w answer frame w' frames) :
    RegistryPart setup.edition
      (fun passed => Forwarded setup (frameActor frame) false passed ∧
        Registers (frameRegistration frame) passed) w.registry
      (registryFrame frame) w'.registry (frames.flatMap registryFrame) := by
  cases move with
  | registry ran => exact .resumed ran
  | utility => exact .untouched
  | create ran _ waits =>
    rcases waits with ⟨-, rfl⟩ | ⟨-, rfl⟩ <;> exact .resumed ran
  | deploy ran _ _ _ waits =>
    rcases waits with ⟨-, rfl⟩ | ⟨-, rfl⟩ <;> exact .resumed ran
  | refund ran => exact .resumed ran
  | activate _ _ ran registry =>
    exact .activateRegistration ⟨.activateRegistration, registers_none rfl⟩ ran registry
  | register _ _ ran registry =>
    exact .registerAgents ⟨.registerAgents real, fun _ registers => registers⟩ ran registry
  | terminate _ _ ran registry =>
    exact .terminate ⟨.terminate, registers_none rfl⟩ ran registry
  | unbond _ _ ran _ registry =>
    rw [map_registryFrame fun _ => rfl]
    exact .unbond ⟨.unbond, registers_none rfl⟩ ran registry
  | bridger => exact .untouched

theorem return_registryPart {frame : SystemFrame} {answer : SystemAnswer} (real : RealFrame frame)
    (move : SystemReturn setup w answer frame w' frames) :
    RegistryPart setup.edition (Forwarded setup (frameActor frame) false) w.registry
      (registryFrame frame) w'.registry (frames.flatMap registryFrame) :=
  (return_registrations real move).mono fun _ fits => fits.1

end Parts

section Outside
variable {edition : Edition} {r : RegistryWorld} {u : UtilityWorld}

/-- The registry's manager is changed by `changeManager` only. -/
theorem enter_manager {call : RegistryCall} {out : Outcome RegistryWorld RegistryFrame}
    (ran : r.enter edition call = .ok out) :
    out.state.store.manager = r.store.manager ∨
      ∃ sender, call = .changeManager sender out.state.store.manager := by
  cases call with
  | create =>
    obtain ⟨s, serviceId, done, rfl⟩ := registry_create ran
    obtain ⟨-, -, rfl⟩ := ServiceRegistry.create_ok done
    exact Or.inl rfl
  | update =>
    obtain ⟨s, done, rfl⟩ := RegistryWorld.finish_eq_ok.mp ran
    obtain ⟨-, -, -, -, rfl⟩ := ServiceRegistry.update_ok done
    exact Or.inl rfl
  | activateRegistration =>
    obtain ⟨s, done, rfl⟩ := RegistryWorld.finish_eq_ok.mp ran
    obtain ⟨-, rfl⟩ := ServiceRegistry.activateRegistration_ok done
    exact Or.inl rfl
  | registerAgents =>
    obtain ⟨s, done, rfl⟩ := RegistryWorld.finish_eq_ok.mp ran
    obtain ⟨-, -, rfl⟩ := ServiceRegistry.registerAgents_done done
    exact Or.inl rfl
  | deploy =>
    obtain ⟨s, owners, done, rfl⟩ := registry_deploy ran
    obtain ⟨-, -, rfl⟩ := ServiceRegistry.deploy_ok done
    exact Or.inl rfl
  | slash =>
    obtain ⟨s, done, rfl⟩ := RegistryWorld.finish_eq_ok.mp ran
    obtain ⟨-, -, rfl, -⟩ := ServiceRegistry.slashLoop_frame (ServiceRegistry.slash_ok done).2
    exact Or.inl rfl
  | terminate =>
    obtain ⟨s, refund, done, rfl⟩ := registry_terminate ran
    obtain ⟨-, -, -, -, rfl⟩ := ServiceRegistry.terminate_ok done
    exact Or.inl rfl
  | unbond =>
    obtain ⟨s, refund, done, rfl⟩ := registry_unbond ran
    obtain ⟨-, -, -, -, rfl⟩ := ServiceRegistry.unbond_ok done
    rw [RegistryWorld.refunding_store]
    split <;> exact Or.inl rfl
  | drain =>
    simp only [RegistryWorld.enter, bind_eq_ok, pure_eq_ok, Prod.exists] at ran
    obtain ⟨s, amount, ran, rfl⟩ := ran
    obtain ⟨-, -, rfl⟩ := ServiceRegistry.drain_ok ran
    rw [RegistryWorld.refunding_store]
    split <;> exact Or.inl rfl
  | changeManager sender newManager =>
    obtain ⟨s, done, rfl⟩ := RegistryWorld.finish_eq_ok.mp ran
    simp only [ServiceRegistry.changeManager, revertIf_bind_eq_ok, pure_eq_ok] at done
    obtain ⟨-, -, rfl⟩ := done
    exact Or.inr ⟨sender, rfl⟩
  | changeOwner =>
    obtain ⟨s, done, rfl⟩ := RegistryWorld.finish_eq_ok.mp ran
    simp only [ServiceRegistry.changeOwner, revertIf_bind_eq_ok, pure_eq_ok] at done
    obtain ⟨-, -, rfl⟩ := done
    exact Or.inl rfl
  | changeDrainer =>
    obtain ⟨s, done, rfl⟩ := RegistryWorld.finish_eq_ok.mp ran
    simp only [ServiceRegistry.changeDrainer, revertIf_bind_eq_ok, pure_eq_ok] at done
    obtain ⟨-, -, rfl⟩ := done
    exact Or.inl rfl
  | changeMultisigPermission =>
    obtain ⟨s, done, rfl⟩ := RegistryWorld.finish_eq_ok.mp ran
    simp only [ServiceRegistry.changeMultisigPermission, revertIf_bind_eq_ok, pure_eq_ok] at done
    obtain ⟨-, -, rfl⟩ := done
    exact Or.inl rfl
  | setApprovalForAll =>
    cases ran
    exact Or.inl rfl
  | approve | transferFrom =>
    obtain ⟨s, done, rfl⟩ := RegistryWorld.finish_eq_ok.mp ran
    simp only [bind_eq_ok, pure_eq_ok] at done
    obtain ⟨t, -, rfl⟩ := done
    exact Or.inl rfl

theorem resume_manager {frame : RegistryFrame} {answer : RegistryAnswer}
    {out : Outcome RegistryWorld RegistryFrame} (ran : r.resume edition frame answer = .ok out) :
    out.state.store.manager = r.store.manager := by
  cases RegistryWorld.resume_return ran <;> rfl

open ServiceRegistryTokenUtility

/-- What an account that is not the manager can do in the token utility. -/
inductive UtilityByOther (registry : RegistryState) (u : UtilityWorld) (call : UtilityCall) :
    UtilityWorld → List UtilityFrame → Prop where
  | slash {sender : Caller} {agentInstances : List Address} {amounts : List Word}
      {serviceId : Nat} {s : UtilityState}
      (ran : slash registry sender agentInstances amounts serviceId u.store = .ok s)
      (asked : call = .slash sender agentInstances amounts serviceId) :
      UtilityByOther registry u call { u with store := s } []
  | drain {sender token : Address} {s : UtilityState} {push : Option TokenPush}
      (ran : drain sender token u.store = .ok (s, push)) :
      UtilityByOther registry u call (u.pushing (s, push)).state (u.pushing (s, push)).pending
  | administer {owner manager drainer : Address}
      (kept : manager = u.store.manager ∨ ∃ sender, call = .changeManager sender manager) :
      UtilityByOther registry u call
        { u with store := { u.store with owner, manager, drainer } } []

theorem utility_byOther {registry : RegistryState} {call : UtilityCall}
    {out : Outcome UtilityWorld UtilityFrame} (other : u.store.manager ≠ call.sender)
    (ran : u.enter registry call = .ok out) :
    UtilityByOther registry u call out.state out.pending := by
  cases call with
  | createWithToken =>
    obtain ⟨s, done, rfl⟩ := UtilityWorld.finish_eq_ok.mp ran
    exact absurd (createWithToken_ok done).1.1 other
  | resetServiceToken =>
    obtain ⟨s, done, rfl⟩ := UtilityWorld.finish_eq_ok.mp ran
    exact absurd (resetServiceToken_ok done).1 other
  | activateRegistrationTokenDeposit =>
    simp only [UtilityWorld.enter, bind_eq_ok, Prod.exists] at ran
    obtain ⟨s, pull, ran, -⟩ := ran
    exact absurd (activateRegistrationTokenDeposit_ok ran).2.1 other
  | registerAgentsTokenDeposit =>
    simp only [UtilityWorld.enter, bind_eq_ok, Prod.exists] at ran
    obtain ⟨s, pull, ran, -⟩ := ran
    exact absurd (registerAgentsTokenDeposit_ok ran).2.1 other
  | terminateTokenRefund =>
    simp only [UtilityWorld.enter, bind_eq_ok, Prod.exists] at ran
    obtain ⟨s, push, ran, -⟩ := ran
    exact absurd (terminateTokenRefund_ok ran).2.1 other
  | unbondTokenRefund =>
    simp only [UtilityWorld.enter, bind_eq_ok, Prod.exists] at ran
    obtain ⟨s, push, ran, -⟩ := ran
    exact absurd (unbondTokenRefund_ok ran).2.1 other
  | slash =>
    obtain ⟨s, done, rfl⟩ := UtilityWorld.finish_eq_ok.mp ran
    exact .slash done rfl
  | drain =>
    simp only [UtilityWorld.enter, bind_eq_ok, pure_eq_ok, Prod.exists] at ran
    obtain ⟨s, push, ran, rfl⟩ := ran
    exact .drain ran
  | changeOwner =>
    obtain ⟨s, done, rfl⟩ := UtilityWorld.finish_eq_ok.mp ran
    simp only [changeOwner, revertIf_bind_eq_ok, pure_eq_ok] at done
    obtain ⟨-, -, rfl⟩ := done
    exact .administer (Or.inl rfl)
  | changeManager sender newManager =>
    obtain ⟨s, done, rfl⟩ := UtilityWorld.finish_eq_ok.mp ran
    simp only [changeManager, revertIf_bind_eq_ok, pure_eq_ok] at done
    obtain ⟨-, -, rfl⟩ := done
    exact .administer (Or.inr ⟨sender, rfl⟩)
  | changeDrainer =>
    obtain ⟨s, done, rfl⟩ := UtilityWorld.finish_eq_ok.mp ran
    simp only [changeDrainer, revertIf_bind_eq_ok, pure_eq_ok] at done
    obtain ⟨-, -, rfl⟩ := done
    exact .administer (Or.inl rfl)

end Outside
section Lock
variable {setup : Setup} {w w' : SystemWorld} {frames pending : List SystemFrame}

/-- The number of suspended calls of the manager. -/
def managedCount (frames : List SystemFrame) : Nat := (frames.filter managed).length

theorem managedCount_append (first second : List SystemFrame) :
    managedCount (first ++ second) = managedCount first + managedCount second := by
  simp only [managedCount, List.filter_append, List.length_append]

theorem managedCount_cons (frame : SystemFrame) (rest : List SystemFrame) :
    managedCount (frame :: rest) = (if managed frame = true then 1 else 0) + managedCount rest := by
  cases known : managed frame <;> simp [managedCount, known, Nat.add_comm]

/-- A call of the manager takes the lock if it waits; other calls leave the lock alone. -/
theorem move_lock {call : SystemCall} (move : SystemMove setup w call w' pending) :
    (managedCount pending = 0 ∧ w'.manager.locked = w.manager.locked) ∨
      (w.manager.locked ≤ 1 ∧
        ((w'.manager.locked = 2 ∧ managedCount pending = 1) ∨
          (w'.manager.locked = 1 ∧ managedCount pending = 0))) := by
  cases move with
  | createEth _ manager | createToken _ manager | activateToken manager | registerToken manager
  | deploy manager | terminate manager | terminateToken manager | unbondToken manager =>
    exact Or.inr ⟨manager.free, Or.inl ⟨manager.locked, rfl⟩⟩
  | updateEth manager | updateToken manager | activate manager | register manager =>
    exact Or.inr ⟨manager.free, Or.inr ⟨manager.locked, rfl⟩⟩
  | bindMultisig _ free after =>
    subst after
    exact Or.inr ⟨free, Or.inr ⟨rfl, rfl⟩⟩
  | unbond manager _ _ waits =>
    rw [RegistryWorld.refunding_pending]
    refine Or.inr ⟨manager.free, ?_⟩
    rw [manager.locked, waits]
    split
    · exact Or.inl ⟨rfl, rfl⟩
    · exact Or.inr ⟨rfl, rfl⟩
  | administer locked => exact Or.inl ⟨rfl, locked⟩
  | @registry _ out => cases out <;> exact Or.inl ⟨rfl, rfl⟩
  | @utility _ out => cases out <;> exact Or.inl ⟨rfl, rfl⟩

/-- A call of the manager that goes on keeps the lock until it returns. -/
theorem return_lock {frame : SystemFrame} {answer : SystemAnswer}
    (move : SystemReturn setup w answer frame w' pending) :
    (managed frame = false ∧ managedCount pending = 0 ∧ w'.manager.locked = w.manager.locked) ∨
      (managed frame = true ∧
        ((w'.manager.locked = 1 ∧ managedCount pending = 0) ∨
          (w'.manager.locked = w.manager.locked ∧ managedCount pending = 1))) := by
  cases move with
  | registry => exact Or.inl ⟨rfl, rfl, rfl⟩
  | utility => exact Or.inl ⟨rfl, rfl, rfl⟩
  | create _ manager waits =>
    rw [manager.locked]
    rcases waits with ⟨rfl, rfl⟩ | ⟨rfl, rfl⟩
    · exact Or.inr ⟨rfl, Or.inl ⟨rfl, rfl⟩⟩
    · exact Or.inr ⟨rfl, Or.inr ⟨rfl, rfl⟩⟩
  | deploy _ _ _ _ waits =>
    rcases waits with ⟨locked, rfl⟩ | ⟨locked, rfl⟩
    · exact Or.inr ⟨rfl, Or.inl ⟨locked, rfl⟩⟩
    · exact Or.inr ⟨rfl, Or.inr ⟨locked, rfl⟩⟩
  | refund _ manager | activate manager | register manager =>
    exact Or.inr ⟨rfl, Or.inl ⟨manager.locked, rfl⟩⟩
  | terminate manager => exact Or.inr ⟨rfl, Or.inr ⟨by rw [manager], rfl⟩⟩
  | unbond manager _ _ waits =>
    rw [RegistryWorld.refunding_pending, manager.locked, waits]
    split
    · exact Or.inr ⟨rfl, Or.inr ⟨rfl, rfl⟩⟩
    · exact Or.inr ⟨rfl, Or.inl ⟨rfl, rfl⟩⟩
  | bridger => exact Or.inr ⟨rfl, Or.inl ⟨rfl, rfl⟩⟩

theorem move_real {call : SystemCall} (move : SystemMove setup w call w' pending) :
    ∀ frame ∈ pending, RealFrame frame := by
  cases move with
  | registerToken _ someone =>
    intro frame member
    rw [List.mem_singleton.mp member]
    exact someone
  | createEth | createToken | activateToken | deploy | terminate | terminateToken
  | unbondToken =>
    intro frame member
    rw [List.mem_singleton.mp member]
    trivial
  | updateEth | updateToken | activate | register | bindMultisig | administer =>
    intro frame member
    cases member
  | unbond | registry | utility =>
    intro frame member
    obtain ⟨inner, -, rfl⟩ := List.mem_map.mp member
    trivial

theorem return_real {frame : SystemFrame} {answer : SystemAnswer}
    (move : SystemReturn setup w answer frame w' pending) : ∀ next ∈ pending, RealFrame next := by
  intro next member
  rcases move.waits member with ⟨_, rfl⟩ | ⟨_, rfl⟩ <;> trivial

/-- The manager is the registry's manager and has at most one call suspended, which holds
the lock. -/
structure ManagerShape (setup : Setup) (w : SystemWorld) (frames : List SystemFrame) :
    Prop where
  authority : w.registry.store.manager = setup.self
  lock : managedCount frames = if w.manager.locked ≤ 1 then 0 else 1
  real : ∀ frame ∈ frames, RealFrame frame

/-- A call from outside that leaves the registry to its manager. -/
def KeepsRegistry (setup : Setup) : SystemCall → Prop
  | .registry (.changeManager _ newManager) => newManager = setup.self
  | _ => True

/-- The manager is the only account that acts for the registry's manager. -/
def soleDiscipline (setup : Setup) :
    Discipline SystemWorld SystemCall SystemFrame SystemAnswer where
  call call _ := call.sender ≠ setup.self ∧ KeepsRegistry setup call
  answer _ _ _ := True

instance (setup : Setup) (call : SystemCall) : Decidable (KeepsRegistry setup call) :=
  match call with
  | .registry (.changeManager _ newManager) =>
    inferInstanceAs (Decidable (newManager = setup.self))
  | .registry (.create ..) | .registry (.update ..) | .registry (.activateRegistration ..)
  | .registry (.registerAgents ..) | .registry (.deploy ..) | .registry (.slash ..)
  | .registry (.terminate ..) | .registry (.unbond ..) | .registry (.drain ..)
  | .registry (.changeOwner ..) | .registry (.changeDrainer ..)
  | .registry (.changeMultisigPermission ..) | .registry (.approve ..)
  | .registry (.setApprovalForAll ..) | .registry (.transferFrom ..) | .manager _
  | .utility _ => .isTrue trivial

instance (setup : Setup) (call : SystemCall) (w : SystemWorld) :
    Decidable ((soleDiscipline setup).call call w) :=
  inferInstanceAs (Decidable (_ ∧ _))

instance (setup : Setup) (frame : SystemFrame) (answer : SystemAnswer) (w : SystemWorld) :
    Decidable ((soleDiscipline setup).answer frame answer w) := .isTrue trivial

theorem registryPart_manager {edition : Edition} {allowed : RegistryCall → Prop}
    {r r' : RegistryWorld} {before after : List RegistryFrame}
    (part : RegistryPart edition allowed r before r' after)
    (kept : ∀ sender newManager, allowed (.changeManager sender newManager) →
      newManager = r.store.manager) : r'.store.manager = r.store.manager := by
  cases part with
  | untouched => rfl
  | called permitted ran =>
    rcases enter_manager ran with same | ⟨sender, rfl⟩
    · exact same
    · exact kept _ _ permitted
  | resumed ran => exact resume_manager ran

theorem managerShape_preserved (setup : Setup) :
    Preserved (systemMachine setup) (soleDiscipline setup) always (ManagerShape setup) := by
  intro w frames w' frames' taken _ before
  obtain ⟨authority, lock, real⟩ := before
  cases taken with
  | entered call allowed ran =>
    have move := SystemWorld.enter_move ran
    refine ⟨?_, ?_, ?_⟩
    · refine (registryPart_manager (move_registryPart move) ?_).trans authority
      rintro sender newManager (rfl | forwarded)
      · rw [authority]
        exact allowed.2
      · cases forwarded
    · rw [managedCount_append]
      have := move_lock move
      split at lock <;> split <;> omega
    · intro frame member
      rcases List.mem_append.mp member with new | old
      · exact move_real move frame new
      · exact real frame old
  | @resumed frame rest out answer allowed ran =>
    have move := SystemWorld.resume_return ran
    have here := real frame List.mem_cons_self
    refine ⟨?_, ?_, ?_⟩
    · refine (registryPart_manager (return_registryPart here move) ?_).trans authority
      intro sender newManager forwarded
      cases forwarded
    · rw [managedCount_append]
      rw [managedCount_cons] at lock
      rcases return_lock move with ⟨other, none, same⟩ | ⟨own, moved⟩
      · rw [if_neg (Bool.eq_false_iff.mp other)] at lock
        rw [same]
        omega
      · rw [if_pos own] at lock
        split at lock <;> split <;> omega
    · intro next member
      rcases List.mem_append.mp member with new | old
      · exact return_real move next new
      · exact real next (List.mem_cons_of_mem _ old)

/-- A call of the manager that started found no other one suspended. -/
theorem ManagerShape.free (shape : ManagerShape setup w frames) (free : w.manager.locked ≤ 1) :
    ∀ frame ∈ frames, managed frame = false := by
  have none := shape.lock
  rw [if_pos free, managedCount, List.length_eq_zero_iff, List.filter_eq_nil_iff] at none
  intro frame member
  exact Bool.eq_false_iff.mpr (none frame member)

/-- A suspended call of the manager that goes on is the only one. -/
theorem ManagerShape.alone {frame : SystemFrame}
    (shape : ManagerShape setup w (frame :: frames)) (own : managed frame = true) :
    1 < w.manager.locked ∧ ∀ other ∈ frames, managed other = false := by
  have one := shape.lock
  rw [managedCount_cons, if_pos own] at one
  split at one
  · omega
  · next held =>
    have none : managedCount frames = 0 := by omega
    rw [managedCount, List.length_eq_zero_iff, List.filter_eq_nil_iff] at none
    exact ⟨by omega, fun other member => Bool.eq_false_iff.mpr (none other member)⟩

end Lock

section Lift
variable {setup : Setup} {D : Discipline RegistryWorld RegistryCall RegistryFrame RegistryAnswer}
  {E : Discipline SystemWorld SystemCall SystemFrame SystemAnswer}
  {P : RegistryWorld → List RegistryFrame → Prop}

theorem RegistryPart.keeps {edition : Edition} {allowed : RegistryCall → Prop}
    {r r' : RegistryWorld} {before after rest : List RegistryFrame}
    (keep : Preserved (registryMachine edition) D always P)
    (calls : ∀ call, allowed call → D.call call r)
    (answers : ∀ frame answer, D.answer frame answer r)
    (part : RegistryPart edition allowed r before r' after) (holds : P r (before ++ rest)) :
    P r' (after ++ rest) := by
  cases part with
  | untouched => exact holds
  | called permitted ran =>
    exact keep _ _ _ _ (.entered _ (calls _ permitted) ran) trivial holds
  | resumed ran => exact keep _ _ _ _ (.resumed _ (answers _ _) ran) trivial holds

/-- Composition rule: an invariant of the registry is one of the system. What the registry
registers may be known to be what was asked for. -/
theorem registrations_lift (keep : Preserved (registryMachine setup.edition) D always P)
    (calls : ∀ call w passed, E.call call w → Passed setup call passed →
      Registers call.registration passed → D.call passed w.registry)
    (returns : ∀ frame answer w passed, E.answer frame answer w →
      Forwarded setup (frameActor frame) false passed →
      Registers (frameRegistration frame) passed → D.call passed w.registry)
    (answers : ∀ frame answer r, D.answer frame answer r) :
    Preserved (systemMachine setup) E (ManagerShape setup)
      fun w frames => P w.registry (frames.flatMap registryFrame) := by
  intro w frames w' frames' taken shape before
  cases taken with
  | entered call allowed ran =>
    rw [List.flatMap_append]
    exact (move_registrations (SystemWorld.enter_move ran)).keeps keep
      (fun passed fits => calls call w passed allowed fits.1 fits.2)
      (fun frame answer => answers frame answer _) before
  | @resumed frame rest out answer allowed ran =>
    rw [List.flatMap_append]
    rw [List.flatMap_cons] at before
    exact (return_registrations (shape.real frame List.mem_cons_self)
      (SystemWorld.resume_return ran)).keeps keep
      (fun passed fits => returns frame answer w passed allowed fits.1 fits.2)
      (fun frame answer => answers frame answer _) before

theorem registry_lift (keep : Preserved (registryMachine setup.edition) D always P)
    (calls : ∀ call w passed, E.call call w → Passed setup call passed → D.call passed w.registry)
    (returns : ∀ actor passed r, Forwarded setup actor false passed → D.call passed r)
    (answers : ∀ frame answer r, D.answer frame answer r) :
    Preserved (systemMachine setup) E (ManagerShape setup)
      fun w frames => P w.registry (frames.flatMap registryFrame) :=
  registrations_lift keep (fun call w passed allowed passes _ => calls call w passed allowed passes)
    (fun _ _ _ passed _ forwarded _ => returns _ passed _ forwarded) answers

end Lift
end AutonolasRegistries.Guarantees
