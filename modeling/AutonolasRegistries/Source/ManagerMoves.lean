import AutonolasRegistries.Source.RegistryTransitions
import AutonolasRegistries.Source.ServiceManager
import AutonolasRegistries.Source.UtilityEffects

/-!
# What a piece of the system's code did

Every piece of code of the manager, the registry and the token utility that goes through
is one of the kinds below. Each names the function of the registry and of the token
utility that ran, and what happened to the manager's lock and bindings; later proofs take
the kinds apart and do not look at the manager's code.
-/
namespace AutonolasRegistries.Source
open Library

def RegistryCall.sender : RegistryCall → Caller
  | .create sender .. | .update sender .. | .activateRegistration sender ..
  | .registerAgents sender .. | .deploy sender .. | .slash sender .. | .terminate sender ..
  | .unbond sender .. | .drain sender | .changeOwner sender .. | .changeManager sender ..
  | .changeDrainer sender .. | .changeMultisigPermission sender .. | .approve sender ..
  | .setApprovalForAll sender .. | .transferFrom sender .. => sender

def UtilityCall.sender : UtilityCall → Caller
  | .createWithToken sender .. | .resetServiceToken sender ..
  | .activateRegistrationTokenDeposit sender .. | .registerAgentsTokenDeposit sender ..
  | .terminateTokenRefund sender .. | .unbondTokenRefund sender .. | .slash sender ..
  | .drain sender .. | .changeOwner sender .. | .changeManager sender ..
  | .changeDrainer sender .. => sender

def ManagerCall.sender : ManagerCall → Caller
  | .create sender .. | .update sender .. | .activateRegistration sender ..
  | .registerAgents sender .. | .deploy sender .. | .bindMultisig sender ..
  | .terminate sender .. | .unbond sender .. | .unbondWithSignature sender ..
  | .registerAgentsWithSignature sender .. | .operatorApproveHash sender ..
  | .initializeStorage sender | .setOperatorWhitelist sender ..
  | .setIdentityRegistryBridger sender .. | .changeOwner sender .. | .pause sender
  | .unpause sender | .forcedEther sender .. => sender

def SystemCall.sender : SystemCall → Caller
  | .manager call => call.sender
  | .registry call => call.sender
  | .utility call => call.sender

/-- The calls that create a service. -/
def SystemCall.creates : SystemCall → Bool
  | .manager (.create ..) => true
  | _ => false

/-- What a registration names. -/
structure Registration where
  operator : Address
  serviceId : Nat
  agentInstances : List Address
  agentIds : List Uint32

def RegistryCall.registration : RegistryCall → Option Registration
  | .registerAgents _ _ operator serviceId agentInstances agentIds =>
    some ⟨operator, serviceId, agentInstances, agentIds⟩
  | _ => none

/-- The registration a call asks for, with or without a signature. -/
def SystemCall.registration : SystemCall → Option Registration
  | .manager (.registerAgents sender _ _ _ serviceId agentInstances agentIds) =>
    some ⟨sender, serviceId, agentInstances, agentIds⟩
  | .manager (.registerAgentsWithSignature _ _ _ _ operator serviceId agentInstances agentIds _) =>
    some ⟨operator, serviceId, agentInstances.val, agentIds.val⟩
  | .registry call => call.registration
  | _ => none

/-- The manager changed its lock, and nothing about the bindings. -/
structure LockMoves (m m' : ManagerState) (locked : Nat) : Prop where
  locked : m'.locked = locked
  bindings : m'.mapMultisigServiceIds = m.mapMultisigServiceIds

/-- A function of the manager started: the lock was free. -/
structure Starts (m m' : ManagerState) (locked : Nat) : Prop extends LockMoves m m' locked where
  free : m.locked ≤ 1

/-- The parameters and bonds the token paths pass on. -/
def wrapFilled (agentParams : List AgentParams) : List AgentParams :=
  agentParams.map fun p => if p.slots ≠ 0 then ServiceManager.wrap p else p

def filledBonds (agentParams : List AgentParams) : List Nat :=
  agentParams.map fun p => if p.slots ≠ 0 then p.bond.val else 0

open ServiceRegistryTokenUtility in
/-- A call that went through up to its return or its first external call. -/
inductive SystemMove (setup : Setup) (w : SystemWorld) (call : SystemCall) :
    SystemWorld → List SystemFrame → Prop where
  | createEth {w' : SystemWorld} {agentTotalSupply : Nat} {serviceOwner : Address}
      {configHash : Bytes32} {agentIds : List Uint32} {agentParams : List AgentParams}
      {threshold : Uint32} {s : RegistryState} {serviceId : Nat}
      (asked : call.creates = true) (manager : Starts w.manager w'.manager 2)
      (ran : ServiceRegistry.create setup.edition agentTotalSupply setup.self serviceOwner
        configHash agentIds agentParams threshold w.registry.store = .ok (s, serviceId))
      (registry : w'.registry = { w.registry with store := s })
      (utility : w'.utility = w.utility) : SystemMove setup w call w' [.create serviceId .create]
  | createToken {w' : SystemWorld} {tokenAccepted : Bool} {agentTotalSupply : Nat}
      {serviceOwner token : Address} {configHash : Bytes32} {agentIds : List Uint32}
      {agentParams : List AgentParams} {threshold : Uint32} {s : RegistryState}
      {u : UtilityState} {serviceId : Nat} (asked : call.creates = true)
      (manager : Starts w.manager w'.manager 2) (someToken : token ≠ 0)
      (bonds : ∀ p ∈ agentParams, p.bond ≠ 0)
      (recorded : createWithToken tokenAccepted setup.self (w.registry.store.totalSupply + 1)
        token agentIds (agentParams.map fun p => p.bond.val) w.utility.store = .ok u)
      (ran : ServiceRegistry.create setup.edition agentTotalSupply setup.self serviceOwner
        configHash agentIds (agentParams.map ServiceManager.wrap) threshold w.registry.store =
          .ok (s, serviceId))
      (registry : w'.registry = { w.registry with store := s })
      (utility : w'.utility = { w.utility with store := u }) :
      SystemMove setup w call w' [.create (w.registry.store.totalSupply + 1) .create]
  | updateEth {w' : SystemWorld} {agentTotalSupply : Nat}
      {configHash : Bytes32} {agentIds : List Uint32} {agentParams : List AgentParams}
      {threshold : Uint32} {serviceId : Nat} {s : RegistryState} {u : UtilityState}
      (manager : Starts w.manager w'.manager 1)
      (bonds : ∀ p ∈ agentParams, p.slots ≠ 0 → p.bond ≠ 0)
      (ran : ServiceRegistry.update setup.edition agentTotalSupply setup.self call.sender
        configHash agentIds agentParams threshold serviceId w.registry.store = .ok s)
      (reset : resetServiceToken setup.self serviceId w.utility.store = .ok u)
      (registry : w'.registry = { w.registry with store := s })
      (utility : w'.utility = { w.utility with store := u }) : SystemMove setup w call w' []
  | updateToken {w' : SystemWorld} {tokenAccepted : Bool} {agentTotalSupply : Nat}
      {token : Address} {configHash : Bytes32} {agentIds : List Uint32}
      {agentParams : List AgentParams} {threshold : Uint32} {serviceId : Nat}
      {s : RegistryState} {u : UtilityState}
      (manager : Starts w.manager w'.manager 1) (someToken : token ≠ 0)
      (bonds : ∀ p ∈ agentParams, p.slots ≠ 0 → p.bond ≠ 0)
      (recorded : createWithToken tokenAccepted setup.self serviceId token agentIds
        (filledBonds agentParams) w.utility.store = .ok u)
      (ran : ServiceRegistry.update setup.edition agentTotalSupply setup.self call.sender
        configHash agentIds (wrapFilled agentParams) threshold serviceId w.registry.store = .ok s)
      (registry : w'.registry = { w.registry with store := s })
      (utility : w'.utility = { w.utility with store := u }) : SystemMove setup w call w' []
  | activate {w' : SystemWorld} {value serviceId : Nat} {s : RegistryState} {views : TokenViews}
      {u : UtilityState} (manager : Starts w.manager w'.manager 1)
      (unsecured : activateRegistrationTokenDeposit w.registry.store views setup.self serviceId
        w.utility.store = .ok (u, none))
      (ran : ServiceRegistry.activateRegistration setup.self value call.sender serviceId
        w.registry.store = .ok s)
      (registry : w'.registry = { w.registry with store := s, received := w.registry.received + value })
      (utility : w'.utility = { w.utility with store := u }) : SystemMove setup w call w' []
  | activateToken {w' : SystemWorld} {value serviceId : Nat} {views : TokenViews}
      {u : UtilityState} {pull : TokenPull} (manager : Starts w.manager w'.manager 2)
      (secured : activateRegistrationTokenDeposit w.registry.store views setup.self serviceId
        w.utility.store = .ok (u, some pull))
      (registry : w'.registry = w.registry)
      (utility : w'.utility = { w.utility with store := u }) :
      SystemMove setup w call w' [.activate call.sender value serviceId (.activate serviceId pull)]
  | register {w' : SystemWorld} {value : Nat} {operator : Address} {serviceId : Nat}
      {agentInstances : List Address} {agentIds : List Uint32} {s : RegistryState}
      {views : TokenViews} {u : UtilityState} (manager : Starts w.manager w'.manager 1)
      (someone : operator ≠ 0)
      (unsecured : registerAgentsTokenDeposit views setup.self operator serviceId agentIds
        w.utility.store = .ok (u, none))
      (ran : ServiceRegistry.registerAgents setup.self value operator serviceId agentInstances
        agentIds w.registry.store = .ok s)
      (registry : w'.registry = { w.registry with store := s, received := w.registry.received + value })
      (utility : w'.utility = { w.utility with store := u })
      (asked : call.registration = some ⟨operator, serviceId, agentInstances, agentIds⟩) :
      SystemMove setup w call w' []
  | registerToken {w' : SystemWorld} {signed : Bool} {value : Nat} {operator : Address}
      {serviceId : Nat} {agentInstances : List Address} {agentIds : List Uint32}
      {views : TokenViews} {u : UtilityState} {pull : TokenPull}
      (manager : Starts w.manager w'.manager 2) (someone : operator ≠ 0)
      (secured : registerAgentsTokenDeposit views setup.self operator serviceId agentIds
        w.utility.store = .ok (u, some pull))
      (registry : w'.registry = w.registry)
      (utility : w'.utility = { w.utility with store := u })
      (asked : call.registration = some ⟨operator, serviceId, agentInstances, agentIds⟩) :
      SystemMove setup w call w' [.register signed value operator serviceId agentInstances agentIds
        (.register serviceId pull)]
  | deploy {w' : SystemWorld} {serviceId : Nat} {multisigImplementation : Address}
      {s : RegistryState} {owners : List Address} (manager : Starts w.manager w'.manager 2)
      (ran : ServiceRegistry.deploy setup.self call.sender serviceId multisigImplementation
        w.registry.store = .ok (s, owners))
      (registry : w'.registry = { w.registry with store := s })
      (utility : w'.utility = w.utility) :
      SystemMove setup w call w' [.deploy serviceId
        (w.registry.store.mapServices serviceId).multisig (.deploy serviceId)]
  | bindMultisig {w' : SystemWorld} {sender : Caller} {serviceIds : List Nat}
      (asked : call = .manager (.bindMultisig sender serviceIds)) (free : w.manager.locked ≤ 1)
      (after : w' = { w with
        returned := 0
        manager := { w.manager with
          locked := 1
          mapMultisigServiceIds :=
            serviceIds.foldl (ServiceManager.bindMultisigBody w.registry.store)
              w.manager.mapMultisigServiceIds } }) : SystemMove setup w call w' []
  | terminate {w' : SystemWorld} {returned serviceId : Nat} {s : RegistryState} {refund : Nat}
      {u : UtilityState} (manager : Starts w.manager w'.manager 2)
      (unsecured : terminateTokenRefund w.registry.store setup.self serviceId w.utility.store =
        .ok (u, none))
      (ran : ServiceRegistry.terminate setup.edition setup.self call.sender serviceId
        w.registry.store = .ok (s, refund))
      (registry : w'.registry = { w.registry with store := s, paid := w.registry.paid + refund })
      (utility : w'.utility = { w.utility with store := u }) :
      SystemMove setup w call w' [.refund returned .refund]
  | terminateToken {w' : SystemWorld} {serviceId : Nat} {u : UtilityState} {push : TokenPush}
      (manager : Starts w.manager w'.manager 2)
      (secured : terminateTokenRefund w.registry.store setup.self serviceId w.utility.store =
        .ok (u, some push))
      (registry : w'.registry = w.registry)
      (utility : w'.utility = (w.utility.pushing (u, some push)).state) :
      SystemMove setup w call w' [.terminate call.sender serviceId (.refund push)]
  | unbond {w' : SystemWorld} {returned serviceId : Nat} {operator : Address} {locked : Nat}
      {s : RegistryState} {refund : Nat} {u : UtilityState}
      (manager : Starts w.manager w'.manager locked)
      (unsecured : unbondTokenRefund setup.self operator serviceId w.utility.store = .ok (u, none))
      (ran : ServiceRegistry.unbond setup.self operator serviceId w.registry.store =
        .ok (s, refund))
      (waits : locked = if 0 < refund then 2 else 1)
      (registry : w'.registry = (w.registry.refunding s refund).state)
      (utility : w'.utility = { w.utility with store := u }) :
      SystemMove setup w call w' ((w.registry.refunding s refund).pending.map (.refund returned))
  | unbondToken {w' : SystemWorld} {serviceId : Nat} {operator : Address} {u : UtilityState}
      {push : TokenPush} (manager : Starts w.manager w'.manager 2)
      (secured : unbondTokenRefund setup.self operator serviceId w.utility.store =
        .ok (u, some push))
      (registry : w'.registry = w.registry)
      (utility : w'.utility = (w.utility.pushing (u, some push)).state) :
      SystemMove setup w call w' [.unbond operator serviceId (.refund push)]
  | administer {w' : SystemWorld} (locked : w'.manager.locked = w.manager.locked)
      (bindings : w'.manager.mapMultisigServiceIds = w.manager.mapMultisigServiceIds)
      (registry : w'.registry = w.registry) (utility : w'.utility = w.utility) :
      SystemMove setup w call w' []
  | registry {asked : RegistryCall} {out : Outcome RegistryWorld RegistryFrame}
      (direct : call = .registry asked)
      (ran : w.registry.enter setup.edition asked = .ok out) :
      SystemMove setup w call (w.withRegistry out.state) (out.pending.map .registry)
  | utility {asked : UtilityCall} {out : Outcome UtilityWorld UtilityFrame}
      (direct : call = .utility asked)
      (ran : w.utility.enter w.registry.store asked = .ok out) :
      SystemMove setup w call (w.withUtility out.state) (out.pending.map .utility)

open ServiceRegistryTokenUtility in
/-- A suspended call that went on up to its return or its next external call. -/
inductive SystemReturn (setup : Setup) (w : SystemWorld) (answer : SystemAnswer) :
    SystemFrame → SystemWorld → List SystemFrame → Prop where
  | registry {frame : RegistryFrame} {r : RegistryWorld}
      (ran : w.registry.resume setup.edition frame answer.registry = .ok (.done r)) :
      SystemReturn setup w answer (.registry frame) (w.withRegistry r) []
  | utility {frame : UtilityFrame} {u : UtilityWorld}
      (ran : w.utility.resume frame answer.token = .ok u) :
      SystemReturn setup w answer (.utility frame) (w.withUtility u) []
  | create {w' : SystemWorld} {serviceId locked : Nat} {frame : RegistryFrame}
      {frames : List SystemFrame}
      (ran : w.registry.resume setup.edition frame answer.registry = .ok (.done w'.registry))
      (manager : LockMoves w.manager w'.manager locked)
      (waits : (locked = 1 ∧ frames = []) ∨
        (locked = w.manager.locked ∧ frames = [.bridger serviceId]))
      (utility : w'.utility = w.utility) :
      SystemReturn setup w answer (.create serviceId frame) w' frames
  | deploy {w' : SystemWorld} {serviceId : Nat} {lastMultisig : Address} {frame : RegistryFrame}
      {frames : List SystemFrame}
      (ran : w.registry.resume setup.edition frame answer.registry = .ok (.done w'.registry))
      (created : answer.registry.multisig ≠ 0)
      (unbound : w.manager.mapMultisigServiceIds answer.registry.multisig = serviceId ∨
        w.manager.mapMultisigServiceIds answer.registry.multisig = 0)
      (bindings : w'.manager.mapMultisigServiceIds = ServiceManager.bind serviceId lastMultisig
        answer.registry.multisig w.manager.mapMultisigServiceIds)
      (waits : (w'.manager.locked = 1 ∧ frames = []) ∨
        (w'.manager.locked = w.manager.locked ∧
          frames = [.bridger answer.registry.multisig.val]))
      (utility : w'.utility = w.utility) :
      SystemReturn setup w answer (.deploy serviceId lastMultisig frame) w' frames
  | refund {w' : SystemWorld} {returned : Nat} {frame : RegistryFrame}
      (ran : w.registry.resume setup.edition frame answer.registry = .ok (.done w'.registry))
      (manager : LockMoves w.manager w'.manager 1) (utility : w'.utility = w.utility) :
      SystemReturn setup w answer (.refund returned frame) w' []
  | activate {w' : SystemWorld} {sender : Address} {value serviceId amount : Nat}
      {frame : UtilityFrame} {s : RegistryState}
      (manager : LockMoves w.manager w'.manager 1)
      (returned : w.utility.resume frame answer.token = .ok w'.utility)
      (ran : ServiceRegistry.activateRegistration setup.self amount sender serviceId
        w.registry.store = .ok s)
      (registry : w'.registry =
        { w.registry with store := s, received := w.registry.received + amount }) :
      SystemReturn setup w answer (.activate sender value serviceId frame) w' []
  | register {w' : SystemWorld} {signed : Bool} {value : Nat} {operator : Address}
      {serviceId amount : Nat} {agentInstances : List Address} {agentIds : List Uint32}
      {frame : UtilityFrame} {s : RegistryState}
      (manager : LockMoves w.manager w'.manager 1)
      (returned : w.utility.resume frame answer.token = .ok w'.utility)
      (ran : ServiceRegistry.registerAgents setup.self amount operator serviceId agentInstances
        agentIds w.registry.store = .ok s)
      (registry : w'.registry =
        { w.registry with store := s, received := w.registry.received + amount }) :
      SystemReturn setup w answer
        (.register signed value operator serviceId agentInstances agentIds frame) w' []
  | terminate {w' : SystemWorld} {sender : Address} {serviceId returned refund : Nat}
      {frame : UtilityFrame} {s : RegistryState} (manager : w'.manager = w.manager)
      (returned' : w.utility.resume frame answer.token = .ok w'.utility)
      (ran : ServiceRegistry.terminate setup.edition setup.self sender serviceId
        w.registry.store = .ok (s, refund))
      (registry : w'.registry =
        { w.registry with store := s, paid := w.registry.paid + refund }) :
      SystemReturn setup w answer (.terminate sender serviceId frame) w'
        [.refund returned .refund]
  | unbond {w' : SystemWorld} {operator : Address} {serviceId returned refund locked : Nat}
      {frame : UtilityFrame} {s : RegistryState}
      (manager : LockMoves w.manager w'.manager locked)
      (returned' : w.utility.resume frame answer.token = .ok w'.utility)
      (ran : ServiceRegistry.unbond setup.self operator serviceId w.registry.store =
        .ok (s, refund))
      (waits : locked = if 0 < refund then w.manager.locked else 1)
      (registry : w'.registry = (w.registry.refunding s refund).state) :
      SystemReturn setup w answer (.unbond operator serviceId frame) w'
        ((w.registry.refunding s refund).pending.map (.refund returned))
  | bridger {returned : Nat} :
      SystemReturn setup w answer (.bridger returned) (ServiceManager.finish returned w).state []

/-- A call that goes on waits again at most for the bridger or for a refund of the registry. -/
theorem SystemReturn.waits {setup : Setup} {w w' : SystemWorld} {answer : SystemAnswer}
    {frame : SystemFrame} {pending : List SystemFrame}
    (move : SystemReturn setup w answer frame w' pending) {next : SystemFrame}
    (member : next ∈ pending) :
    (∃ returned, next = .bridger returned) ∨ ∃ returned, next = .refund returned .refund := by
  cases move with
  | registry | utility | refund | activate | register | bridger => cases member
  | create _ _ waits =>
    rcases waits with ⟨-, rfl⟩ | ⟨-, rfl⟩
    · cases member
    · exact .inl ⟨_, List.mem_singleton.mp member⟩
  | deploy _ _ _ _ waits =>
    rcases waits with ⟨-, rfl⟩ | ⟨-, rfl⟩
    · cases member
    · exact .inl ⟨_, List.mem_singleton.mp member⟩
  | terminate => exact .inr ⟨_, List.mem_singleton.mp member⟩
  | unbond =>
    obtain ⟨inner, listed, rfl⟩ := List.mem_map.mp member
    rw [RegistryWorld.refunding_pending] at listed
    split at listed
    · rw [List.mem_singleton.mp listed]
      exact .inr ⟨_, rfl⟩
    · cases listed

section Inversion
variable {w : SystemWorld} {out : Outcome SystemWorld SystemFrame}

theorem SystemWorld.afterRegistry_eq_ok
    {run : Except Revert (Outcome RegistryWorld RegistryFrame)}
    {wait : RegistryFrame → SystemFrame} {next : SystemWorld → SystemRun} :
    w.afterRegistry run wait next = .ok out ↔
      (∃ r, run = .ok (.done r) ∧ next (w.withRegistry r) = .ok out) ∨
      ∃ r frame, run = .ok (.suspended r frame) ∧
        out = .suspended (w.withRegistry r) (wait frame) := by
  unfold afterRegistry
  rw [bind_eq_ok]
  constructor
  · rintro ⟨mid, ran, rest⟩
    cases mid with
    | done r => exact Or.inl ⟨r, ran, rest⟩
    | suspended r frame =>
      cases rest
      exact Or.inr ⟨r, frame, ran, rfl⟩
  · rintro (⟨r, ran, rest⟩ | ⟨r, frame, ran, rfl⟩)
    · exact ⟨_, ran, rest⟩
    · exact ⟨_, ran, rfl⟩

theorem SystemWorld.afterUtility_eq_ok
    {run : Except Revert (Outcome UtilityWorld UtilityFrame)}
    {wait : UtilityFrame → SystemFrame} {next : SystemWorld → SystemRun} :
    w.afterUtility run wait next = .ok out ↔
      (∃ u, run = .ok (.done u) ∧ next (w.withUtility u) = .ok out) ∨
      ∃ u frame, run = .ok (.suspended u frame) ∧
        out = .suspended (w.withUtility u) (wait frame) := by
  unfold afterUtility
  rw [bind_eq_ok]
  constructor
  · rintro ⟨mid, ran, rest⟩
    cases mid with
    | done u => exact Or.inl ⟨u, ran, rest⟩
    | suspended u frame =>
      cases rest
      exact Or.inr ⟨u, frame, ran, rfl⟩
  · rintro (⟨u, ran, rest⟩ | ⟨u, frame, ran, rfl⟩)
    · exact ⟨_, ran, rest⟩
    · exact ⟨_, ran, rfl⟩

theorem lock_eq_ok {w' : SystemWorld} : ServiceManager.lock w = .ok w' ↔
    w.manager.locked ≤ 1 ∧ w.withManager { w.manager with locked := 2 } = w' := by
  simp only [ServiceManager.lock, bind_eq_ok, revertIf_eq_ok, exists_const, pure_eq_ok, not_lt]

theorem pay_eq_ok {amount : Nat} {w' : SystemWorld} : ServiceManager.pay amount w = .ok w' ↔
    amount ≤ w.ether ∧ { w with ether := w.ether - amount } = w' := by
  simp only [ServiceManager.pay, bind_eq_ok, revertIf_eq_ok, exists_const, pure_eq_ok, not_lt]

theorem UtilityWorld.finish_eq_ok {u : UtilityWorld} {run : Except Revert UtilityState}
    {out : Outcome UtilityWorld UtilityFrame} :
    u.finish run = .ok out ↔ ∃ s, run = .ok s ∧ .done { u with store := s } = out := by
  simp only [UtilityWorld.finish, bind_eq_ok, pure_eq_ok]

theorem RegistryWorld.resume_done {edition : Edition} {frame : RegistryFrame}
    {answer : RegistryAnswer} {r : RegistryWorld} {out : Outcome RegistryWorld RegistryFrame}
    (ran : r.resume edition frame answer = .ok out) : out = .done out.state := by
  cases RegistryWorld.resume_return ran <;> rfl

/-- A registry function that makes no external call. -/
theorem SystemWorld.afterRegistry_finish {value : Nat} {run : Except Revert RegistryState}
    {wait : RegistryFrame → SystemFrame} {next : SystemWorld → SystemRun}
    (ran : w.afterRegistry (w.registry.finish value run) wait next = .ok out) :
    ∃ s, run = .ok s ∧ next (w.withRegistry
      { w.registry with store := s, received := w.registry.received + value }) = .ok out := by
  rcases afterRegistry_eq_ok.mp ran with ⟨r, called, rest⟩ | ⟨r, frame, called, -⟩
  · obtain ⟨s, returned, same⟩ := RegistryWorld.finish_eq_ok.mp called
    cases same
    exact ⟨s, returned, rest⟩
  · obtain ⟨s, -, wrong⟩ := RegistryWorld.finish_eq_ok.mp called
    cases wrong

/-- A function of the token utility that makes no external call. -/
theorem SystemWorld.afterUtility_finish {run : Except Revert UtilityState}
    {wait : UtilityFrame → SystemFrame} {next : SystemWorld → SystemRun}
    (ran : w.afterUtility (w.utility.finish run) wait next = .ok out) :
    ∃ u, run = .ok u ∧ next (w.withUtility { w.utility with store := u }) = .ok out := by
  rcases afterUtility_eq_ok.mp ran with ⟨u, called, rest⟩ | ⟨u, frame, called, -⟩
  · obtain ⟨s, returned, same⟩ := UtilityWorld.finish_eq_ok.mp called
    cases same
    exact ⟨s, returned, rest⟩
  · obtain ⟨s, -, wrong⟩ := UtilityWorld.finish_eq_ok.mp called
    cases wrong

/-- The function of the registry behind a call, and how the registry leaves it. -/
theorem registry_create {r : RegistryWorld} {edition : Edition} {sender : Caller}
    {serviceOwner : Address} {agentTotalSupply : Nat} {configHash : Bytes32}
    {agentIds : List Uint32} {agentParams : List AgentParams} {threshold : Uint32}
    {out : Outcome RegistryWorld RegistryFrame}
    (ran : r.enter edition (.create sender serviceOwner agentTotalSupply configHash agentIds
      agentParams threshold) = .ok out) :
    ∃ s serviceId, ServiceRegistry.create edition agentTotalSupply sender serviceOwner configHash
      agentIds agentParams threshold r.store = .ok (s, serviceId) ∧
      out = .suspended { r with store := s } .create := by
  simp only [RegistryWorld.enter, bind_eq_ok, pure_eq_ok, Prod.exists] at ran
  obtain ⟨s, serviceId, ran, rfl⟩ := ran
  exact ⟨s, serviceId, ran, rfl⟩

theorem registry_deploy {r : RegistryWorld} {edition : Edition} {sender : Caller}
    {serviceOwner multisigImplementation : Address} {serviceId : Nat}
    {out : Outcome RegistryWorld RegistryFrame}
    (ran : r.enter edition (.deploy sender serviceOwner serviceId multisigImplementation) =
      .ok out) :
    ∃ s owners, ServiceRegistry.deploy sender serviceOwner serviceId multisigImplementation
      r.store = .ok (s, owners) ∧ out = .suspended { r with store := s } (.deploy serviceId) := by
  simp only [RegistryWorld.enter, bind_eq_ok, pure_eq_ok, Prod.exists] at ran
  obtain ⟨s, owners, ran, rfl⟩ := ran
  exact ⟨s, owners, ran, rfl⟩

theorem registry_terminate {r : RegistryWorld} {edition : Edition} {sender : Caller}
    {serviceOwner : Address} {serviceId : Nat} {out : Outcome RegistryWorld RegistryFrame}
    (ran : r.enter edition (.terminate sender serviceOwner serviceId) = .ok out) :
    ∃ s refund, ServiceRegistry.terminate edition sender serviceOwner serviceId r.store =
      .ok (s, refund) ∧
      out = .suspended { r with store := s, paid := r.paid + refund } .refund := by
  simp only [RegistryWorld.enter, bind_eq_ok, pure_eq_ok, Prod.exists] at ran
  obtain ⟨s, refund, ran, rfl⟩ := ran
  exact ⟨s, refund, ran, rfl⟩

theorem registry_unbond {r : RegistryWorld} {edition : Edition} {sender : Caller}
    {operator : Address} {serviceId : Nat} {out : Outcome RegistryWorld RegistryFrame}
    (ran : r.enter edition (.unbond sender operator serviceId) = .ok out) :
    ∃ s refund, ServiceRegistry.unbond sender operator serviceId r.store = .ok (s, refund) ∧
      out = r.refunding s refund := by
  simp only [RegistryWorld.enter, bind_eq_ok, pure_eq_ok, Prod.exists] at ran
  obtain ⟨s, refund, ran, rfl⟩ := ran
  exact ⟨s, refund, ran, rfl⟩

end Inversion

section Functions
variable {setup : Setup} {w : SystemWorld} {out : Outcome SystemWorld SystemFrame}
open ServiceRegistryTokenUtility ServiceManager

theorem createInRegistry_ok {serviceOwner : Address} {agentTotalSupply : Nat}
    {configHash : Bytes32} {agentIds : List Uint32} {agentParams : List AgentParams}
    {threshold : Uint32} {returned : Nat}
    (ran : createInRegistry setup (.create setup.self serviceOwner agentTotalSupply configHash
      agentIds agentParams threshold) returned w = .ok out) :
    ∃ s serviceId, ServiceRegistry.create setup.edition agentTotalSupply setup.self serviceOwner
      configHash agentIds agentParams threshold w.registry.store = .ok (s, serviceId) ∧
      out = .suspended (w.withRegistry { w.registry with store := s })
        (.create returned .create) := by
  rcases SystemWorld.afterRegistry_eq_ok.mp ran with ⟨r, called, -⟩ | ⟨r, frame, called, rfl⟩
  · obtain ⟨s, serviceId, -, wrong⟩ := registry_create called
    cases wrong
  · obtain ⟨s, serviceId, created, same⟩ := registry_create called
    cases same
    exact ⟨s, serviceId, created, rfl⟩

theorem create_move {call : SystemCall} {tokenAccepted : Bool} {agentTotalSupply : Nat}
    {serviceOwner token : Address} {configHash : Bytes32} {agentIds : List Uint32}
    {agentParams : List AgentParams} {threshold : Uint32} (asked : call.creates = true)
    (ran : create setup tokenAccepted agentTotalSupply serviceOwner token configHash agentIds
      agentParams threshold w = .ok out) :
    SystemMove setup w call out.state out.pending := by
  simp only [create, bind_eq_ok, lock_eq_ok, revertIf_eq_ok, exists_const] at ran
  obtain ⟨_, ⟨free, rfl⟩, -, someToken, ran⟩ := ran
  split at ran
  · simp only [bind_eq_ok] at ran
    obtain ⟨reply, replied, ran⟩ := ran
    obtain ⟨s, serviceId, created, rfl⟩ := createInRegistry_ok ran
    simp only [RegistryWorld.reply, bind_eq_ok, pure_eq_ok, Prod.exists] at replied
    obtain ⟨s', serviceId', created', rfl⟩ := replied
    obtain ⟨rfl, rfl⟩ := Prod.mk.inj (Except.ok.inj (created'.symm.trans created))
    exact .createEth asked ⟨⟨rfl, rfl⟩, free⟩ created rfl rfl
  · simp only [bind_eq_ok, revertIf_eq_ok, exists_const, checkedAdd_eq_ok] at ran
    obtain ⟨bonds, serviceId, ⟨-, rfl⟩, ran⟩ := ran
    obtain ⟨u, recorded, ran⟩ := SystemWorld.afterUtility_finish ran
    obtain ⟨s, serviceId, created, rfl⟩ := createInRegistry_ok ran
    refine .createToken asked ⟨⟨rfl, rfl⟩, free⟩ someToken (fun p member zero => ?_) recorded
      created rfl rfl
    exact bonds ⟨p, member, zero⟩

theorem update_move {call : SystemCall} {tokenAccepted : Bool}
    {agentTotalSupply : Nat} {token : Address} {configHash : Bytes32} {agentIds : List Uint32}
    {agentParams : List AgentParams} {threshold : Uint32} {serviceId : Nat}
    (ran : update setup call.sender tokenAccepted agentTotalSupply token configHash agentIds
      agentParams threshold serviceId w = .ok out) :
    SystemMove setup w call out.state out.pending := by
  simp only [update, bind_eq_ok, lock_eq_ok, revertIf_eq_ok, exists_const] at ran
  obtain ⟨_, ⟨free, rfl⟩, someToken, bonds, ran⟩ := ran
  have filled : ∀ p ∈ agentParams, p.slots ≠ 0 → p.bond ≠ 0 :=
    fun p member slots zero => bonds ⟨p, member, slots, zero⟩
  split at ran
  · obtain ⟨s, updated, ran⟩ := SystemWorld.afterRegistry_finish ran
    obtain ⟨u, reset, ran⟩ := SystemWorld.afterUtility_finish ran
    cases ran
    exact .updateEth ⟨⟨rfl, rfl⟩, free⟩ filled updated reset rfl rfl
  · obtain ⟨u, recorded, ran⟩ := SystemWorld.afterUtility_finish ran
    obtain ⟨s, updated, ran⟩ := SystemWorld.afterRegistry_finish ran
    cases ran
    exact .updateToken ⟨⟨rfl, rfl⟩, free⟩ someToken filled recorded updated rfl rfl

/-- A deposit function of the token utility, called by the manager. -/
theorem SystemWorld.afterUtility_pulling {run : Except Revert (UtilityState × Option TokenPull)}
    {name : TokenPull → UtilityFrame} {wait : UtilityFrame → SystemFrame}
    {next : SystemWorld → SystemRun}
    (ran : w.afterUtility (run >>= fun run => pure (w.utility.pulling name run)) wait next =
      .ok out) :
    (∃ u, run = .ok (u, none) ∧ next (w.withUtility { w.utility with store := u }) = .ok out) ∨
      ∃ u pull, run = .ok (u, some pull) ∧
        out = .suspended (w.withUtility { w.utility with store := u }) (wait (name pull)) := by
  rcases afterUtility_eq_ok.mp ran with ⟨u, called, rest⟩ | ⟨u, frame, called, rfl⟩ <;>
    simp only [bind_eq_ok, pure_eq_ok, Prod.exists] at called <;>
    obtain ⟨s, pull, called, same⟩ := called <;>
    cases pull <;> cases same
  · exact Or.inl ⟨s, called, rest⟩
  · exact Or.inr ⟨s, _, called, rfl⟩

/-- A refund function of the token utility, called by the manager. -/
theorem SystemWorld.afterUtility_pushing {run : Except Revert (UtilityState × Option TokenPush)}
    {wait : UtilityFrame → SystemFrame} {next : SystemWorld → SystemRun}
    (ran : w.afterUtility (run >>= fun run => pure (w.utility.pushing run)) wait next = .ok out) :
    (∃ u, run = .ok (u, none) ∧ next (w.withUtility { w.utility with store := u }) = .ok out) ∨
      ∃ u push, run = .ok (u, some push) ∧
        out = .suspended (w.withUtility (w.utility.pushing (u, some push)).state)
          (wait (.refund push)) := by
  rcases afterUtility_eq_ok.mp ran with ⟨u, called, rest⟩ | ⟨u, frame, called, rfl⟩ <;>
    simp only [bind_eq_ok, pure_eq_ok, Prod.exists] at called <;>
    obtain ⟨s, push, called, same⟩ := called <;>
    cases push <;> cases same
  · exact Or.inl ⟨s, called, rest⟩
  · exact Or.inr ⟨s, _, called, rfl⟩

/-- What is left of a function after its last call, as far as the contracts go. -/
structure Finished (w : SystemWorld) (r : RegistryWorld) (out : Outcome SystemWorld SystemFrame) :
    Prop where
  pending : out.pending = []
  manager : LockMoves w.manager out.state.manager 1
  registry : out.state.registry = r
  utility : out.state.utility = w.utility

theorem activateInRegistry_ok {sender : Address} {value serviceId : Nat} {isTokenSecured : Bool}
    (ran : activateInRegistry setup sender value serviceId isTokenSecured w = .ok out) :
    ∃ amount s, ServiceRegistry.activateRegistration setup.self amount sender serviceId
      w.registry.store = .ok s ∧ Finished w
        { w.registry with store := s, received := w.registry.received + amount } out := by
  simp only [activateInRegistry, bind_eq_ok, revertIf_eq_ok, exists_const, pay_eq_ok] at ran
  obtain ⟨-, _, ⟨-, rfl⟩, ran⟩ := ran
  obtain ⟨s, activated, ran⟩ := SystemWorld.afterRegistry_finish ran
  cases ran
  exact ⟨_, s, activated, rfl, ⟨rfl, rfl⟩, rfl, rfl⟩

theorem registerInRegistry_ok {signed : Bool} {value : Nat} {operator : Address}
    {serviceId : Nat} {agentInstances : List Address} {agentIds : List Uint32}
    {isTokenSecured : Bool}
    (ran : registerInRegistry setup signed value operator serviceId agentInstances agentIds
      isTokenSecured w = .ok out) :
    ∃ amount s, ServiceRegistry.registerAgents setup.self amount operator serviceId
      agentInstances agentIds w.registry.store = .ok s ∧ Finished w
        { w.registry with store := s, received := w.registry.received + amount } out := by
  simp only [registerInRegistry, bind_eq_ok, revertIf_eq_ok, exists_const, pay_eq_ok] at ran
  obtain ⟨-, _, ⟨-, rfl⟩, ran⟩ := ran
  obtain ⟨s, registered, ran⟩ := SystemWorld.afterRegistry_finish ran
  cases ran
  exact ⟨_, s, registered, rfl, ⟨rfl, rfl⟩, rfl, rfl⟩

theorem terminateInRegistry_ok {sender : Address} {serviceId tokenRefund : Nat}
    (ran : terminateInRegistry setup sender serviceId tokenRefund w = .ok out) :
    ∃ s refund returned, ServiceRegistry.terminate setup.edition setup.self sender serviceId
      w.registry.store = .ok (s, refund) ∧
      out = .suspended
        (w.withRegistry { w.registry with store := s, paid := w.registry.paid + refund })
        (.refund returned .refund) := by
  simp only [terminateInRegistry, refundInRegistry, bind_eq_ok] at ran
  obtain ⟨reply, -, ran⟩ := ran
  rcases SystemWorld.afterRegistry_eq_ok.mp ran with ⟨r, called, -⟩ | ⟨r, frame, called, rfl⟩
  · obtain ⟨s, refund, -, wrong⟩ := registry_terminate called
    cases wrong
  · obtain ⟨s, refund, terminated, same⟩ := registry_terminate called
    cases same
    exact ⟨s, refund, _, terminated, rfl⟩

theorem unbondInRegistry_ok {operator : Address} {serviceId tokenRefund : Nat}
    (ran : unbondInRegistry setup operator serviceId tokenRefund w = .ok out) :
    ∃ s refund returned, ServiceRegistry.unbond setup.self operator serviceId
      w.registry.store = .ok (s, refund) ∧
      LockMoves w.manager out.state.manager (if 0 < refund then w.manager.locked else 1) ∧
      out.state.registry = (w.registry.refunding s refund).state ∧
      out.state.utility = w.utility ∧
      out.pending = (w.registry.refunding s refund).pending.map (.refund returned) := by
  simp only [unbondInRegistry, refundInRegistry, bind_eq_ok] at ran
  obtain ⟨reply, -, ran⟩ := ran
  rcases SystemWorld.afterRegistry_eq_ok.mp ran with ⟨r, called, rest⟩ | ⟨r, frame, called, rfl⟩
  · obtain ⟨s, refund, unbonded, same⟩ := registry_unbond called
    cases rest
    by_cases owed : 0 < refund
    · rw [RegistryWorld.refunding, if_pos owed] at same
      cases same
    · refine ⟨s, refund, 0, unbonded, ?_, ?_, rfl, ?_⟩
      · rw [if_neg owed]
        exact ⟨rfl, rfl⟩
      · exact congrArg Outcome.state same
      · rw [← same]
        rfl
  · obtain ⟨s, refund, unbonded, same⟩ := registry_unbond called
    by_cases owed : 0 < refund
    · refine ⟨s, refund, if 0 < tokenRefund then tokenRefund else reply.returned, unbonded, ?_,
        congrArg Outcome.state same, rfl, ?_⟩
      · rw [if_pos owed]
        exact ⟨rfl, rfl⟩
      · rw [← same]
        rfl
    · rw [RegistryWorld.refunding, if_neg owed] at same
      cases same

theorem activateRegistration_move {call : SystemCall} {value serviceId : Nat}
    {views : TokenViews}
    (ran : activateRegistration setup call.sender value views serviceId w = .ok out) :
    SystemMove setup w call out.state out.pending := by
  simp only [activateRegistration, bind_eq_ok, lock_eq_ok] at ran
  obtain ⟨_, ⟨free, rfl⟩, ran⟩ := ran
  rcases SystemWorld.afterUtility_pulling ran with ⟨u, unsecured, ran⟩ | ⟨u, pull, secured, rfl⟩
  · obtain ⟨amount, s, activated, done⟩ := activateInRegistry_ok ran
    rw [done.pending]
    exact .activate ⟨⟨done.manager.locked, done.manager.bindings⟩, free⟩ unsecured activated
      done.registry done.utility
  · exact .activateToken ⟨⟨rfl, rfl⟩, free⟩ secured rfl rfl

/-- The two registration functions, from where they are the same. -/
theorem registerWithTokens_move {call : SystemCall} {signed : Bool} {value : Nat}
    {views : TokenViews} {operator : Address} {serviceId : Nat} {agentInstances : List Address}
    {agentIds : List Uint32} {w₀ : SystemWorld}
    (ran : registerWithTokens setup signed value views operator serviceId agentInstances agentIds
      w = .ok out)
    (manager : Starts w₀.manager w.manager 2) (registry : w.registry = w₀.registry)
    (utility : w.utility = w₀.utility) (someone : operator ≠ 0)
    (asked : call.registration = some ⟨operator, serviceId, agentInstances, agentIds⟩) :
    SystemMove setup w₀ call out.state out.pending := by
  rcases SystemWorld.afterUtility_pulling ran with ⟨u, unsecured, ran⟩ | ⟨u, pull, secured, rfl⟩
  · obtain ⟨amount, s, registered, done⟩ := registerInRegistry_ok ran
    rw [done.pending]
    have bindings := done.manager.bindings.trans manager.bindings
    rw [utility] at unsecured
    refine .register ⟨⟨done.manager.locked, bindings⟩, manager.free⟩ someone unsecured
      (registry ▸ registered) (done.registry.trans ?_) (done.utility.trans ?_) asked
    · rw [← registry]
      rfl
    · rw [← utility]
      rfl
  · rw [utility] at secured
    refine .registerToken manager someone secured registry ?_ asked
    rw [← utility]
    rfl

theorem registerAgents_move {call : SystemCall} {value : Nat} {whitelisted : Bool}
    {views : TokenViews} {serviceId : Nat} {agentInstances : List Address}
    {agentIds : List Uint32}
    (ran : registerAgents setup call.sender value whitelisted views serviceId agentInstances
      agentIds w = .ok out)
    (asked : call.registration = some ⟨call.sender, serviceId, agentInstances, agentIds⟩) :
    SystemMove setup w call out.state out.pending := by
  simp only [registerAgents, bind_eq_ok, lock_eq_ok, revertIf_eq_ok, exists_const] at ran
  obtain ⟨_, ⟨free, rfl⟩, -, ran⟩ := ran
  exact registerWithTokens_move ran ⟨⟨rfl, rfl⟩, free⟩ rfl rfl call.sender.property asked

theorem deploy_move {call : SystemCall} {serviceId : Nat} {multisigImplementation : Address}
    (ran : deploy setup call.sender serviceId multisigImplementation w = .ok out) :
    SystemMove setup w call out.state out.pending := by
  simp only [deploy, bind_eq_ok, lock_eq_ok] at ran
  obtain ⟨_, ⟨free, rfl⟩, ran⟩ := ran
  rcases SystemWorld.afterRegistry_eq_ok.mp ran with ⟨r, called, -⟩ | ⟨r, frame, called, rfl⟩
  · obtain ⟨s, owners, -, wrong⟩ := registry_deploy called
    cases wrong
  · obtain ⟨s, owners, deployed, same⟩ := registry_deploy called
    cases same
    exact .deploy ⟨⟨rfl, rfl⟩, free⟩ deployed rfl rfl

theorem terminate_move {call : SystemCall} {serviceId : Nat}
    (ran : terminate setup call.sender serviceId w = .ok out) :
    SystemMove setup w call out.state out.pending := by
  simp only [terminate, bind_eq_ok, lock_eq_ok] at ran
  obtain ⟨_, ⟨free, rfl⟩, ran⟩ := ran
  rcases SystemWorld.afterUtility_pushing ran with ⟨u, unsecured, ran⟩ | ⟨u, push, secured, rfl⟩
  · obtain ⟨s, refund, returned, terminated, rfl⟩ := terminateInRegistry_ok ran
    exact .terminate ⟨⟨rfl, rfl⟩, free⟩ unsecured terminated rfl rfl
  · exact .terminateToken ⟨⟨rfl, rfl⟩, free⟩ secured rfl rfl

/-- The two unbond functions, from where they are the same. -/
theorem unbondWithTokens_move {call : SystemCall} {operator : Address} {serviceId : Nat}
    {w₀ : SystemWorld} (ran : unbondWithTokens setup operator serviceId w = .ok out)
    (manager : Starts w₀.manager w.manager 2) (registry : w.registry = w₀.registry)
    (utility : w.utility = w₀.utility) :
    SystemMove setup w₀ call out.state out.pending := by
  rcases SystemWorld.afterUtility_pushing ran with ⟨u, unsecured, ran⟩ | ⟨u, push, secured, rfl⟩
  · obtain ⟨s, refund, returned, unbonded, moved, after, same, pending⟩ := unbondInRegistry_ok ran
    have world : (w.withUtility { w.utility with store := u }).registry = w₀.registry := registry
    rw [world] at unbonded after pending
    rw [pending]
    rw [utility] at unsecured
    have bindings := moved.bindings.trans manager.bindings
    have lock : (w.withUtility { w.utility with store := u }).manager.locked = 2 := manager.locked
    refine .unbond ⟨⟨moved.locked, bindings⟩, manager.free⟩ unsecured unbonded ?_ after
      (same.trans ?_)
    · rw [lock]
    · rw [← utility]
      rfl
  · rw [utility] at secured
    refine .unbondToken manager secured registry ?_
    rw [← utility]
    rfl

theorem unbond_move {call : SystemCall} {serviceId : Nat}
    (ran : unbond setup call.sender serviceId w = .ok out) :
    SystemMove setup w call out.state out.pending := by
  simp only [unbond, bind_eq_ok, lock_eq_ok] at ran
  obtain ⟨_, ⟨free, rfl⟩, ran⟩ := ran
  exact unbondWithTokens_move ran ⟨⟨rfl, rfl⟩, free⟩ rfl rfl

theorem unbondWithSignature_move {call : SystemCall} {signing : SignatureViews}
    {operator : Address} {serviceId : Nat} {signature : List Byte}
    (ran : unbondWithSignature setup call.sender signing operator serviceId signature w =
      .ok out) :
    SystemMove setup w call out.state out.pending := by
  simp only [unbondWithSignature, bind_eq_ok, lock_eq_ok, revertIf_eq_ok, exists_const,
    checkedAdd_eq_ok] at ran
  obtain ⟨_, ⟨free, rfl⟩, _, -, -, _, -, _, -, ran⟩ := ran
  exact unbondWithTokens_move ran ⟨⟨rfl, rfl⟩, free⟩ rfl rfl

/-- Nobody signs for the zero address. -/
theorem verifySignedHash_operator {chain : Chain} {views : SignatureViews}
    {approved : Address → Bytes32 → Bool} {operator : Address} {msgHash : Bytes32}
    {signature : List Byte} {u : Unit}
    (ran : OperatorSignedHashes.verifySignedHash chain views approved operator msgHash signature =
      .ok u) : operator ≠ 0 := by
  simp only [OperatorSignedHashes.verifySignedHash, bind_eq_ok, revertIf_eq_ok, exists_const]
    at ran
  exact ran.1

theorem registerAgentsWithSignature_move {call : SystemCall} {value : Nat}
    {signing : SignatureViews} {views : TokenViews} {operator : Address} {serviceId : Nat}
    {agentInstances : List Address} {agentIds : List Uint32} {signature : List Byte}
    (ran : registerAgentsWithSignature setup call.sender value signing views operator serviceId
      agentInstances agentIds signature w = .ok out)
    (asked : call.registration = some ⟨operator, serviceId, agentInstances, agentIds⟩) :
    SystemMove setup w call out.state out.pending := by
  simp only [registerAgentsWithSignature, bind_eq_ok, lock_eq_ok, revertIf_eq_ok, exists_const,
    checkedAdd_eq_ok] at ran
  obtain ⟨_, ⟨free, rfl⟩, _, -, -, _, verified, _, -, ran⟩ := ran
  exact registerWithTokens_move ran ⟨⟨rfl, rfl⟩, free⟩ rfl rfl
    (verifySignedHash_operator verified) asked

theorem administer_move {call : SystemCall} {sender : Address} {m : ManagerState}
    (ran : administer sender m w = .ok out) (locked : m.locked = w.manager.locked)
    (bindings : m.mapMultisigServiceIds = w.manager.mapMultisigServiceIds) :
    SystemMove setup w call out.state out.pending := by
  simp only [administer, bind_eq_ok, revertIf_eq_ok, exists_const, pure_eq_ok] at ran
  obtain ⟨-, rfl⟩ := ran
  exact .administer locked bindings rfl rfl

theorem SystemWorld.enter_move {call : SystemCall} (ran : w.enter setup call = .ok out) :
    SystemMove setup w call out.state out.pending := by
  cases call with
  | registry call =>
    simp only [SystemWorld.enter, bind_eq_ok, pure_eq_ok] at ran
    obtain ⟨out, ran, rfl⟩ := ran
    rw [Outcome.state_embed, Outcome.pending_embed]
    exact .registry rfl ran
  | utility call =>
    simp only [SystemWorld.enter, bind_eq_ok, pure_eq_ok] at ran
    obtain ⟨out, ran, rfl⟩ := ran
    rw [Outcome.state_embed, Outcome.pending_embed]
    exact .utility rfl ran
  | manager call =>
    cases call with
    | create => exact create_move rfl ran
    | update => exact update_move ran
    | activateRegistration => exact activateRegistration_move ran
    | registerAgents => exact registerAgents_move ran rfl
    | deploy => exact deploy_move ran
    | bindMultisig =>
      simp only [SystemWorld.enter, ServiceManager.enter, ServiceManager.bindMultisig,
        bind_eq_ok, lock_eq_ok, pure_eq_ok] at ran
      obtain ⟨_, ⟨free, rfl⟩, rfl⟩ := ran
      exact .bindMultisig rfl free rfl
    | terminate => exact terminate_move ran
    | unbond => exact unbond_move ran
    | unbondWithSignature => exact unbondWithSignature_move ran
    | registerAgentsWithSignature => exact registerAgentsWithSignature_move ran rfl
    | operatorApproveHash =>
      cases ran
      exact .administer rfl rfl rfl rfl
    | initializeStorage =>
      simp only [SystemWorld.enter, ServiceManager.enter, bind_eq_ok, revertIf_eq_ok,
        exists_const, pure_eq_ok] at ran
      obtain ⟨-, rfl⟩ := ran
      exact .administer rfl rfl rfl rfl
    | setOperatorWhitelist | setIdentityRegistryBridger | pause | unpause =>
      exact administer_move ran rfl rfl
    | changeOwner =>
      simp only [SystemWorld.enter, ServiceManager.enter, bind_eq_ok, revertIf_eq_ok,
        exists_const, pure_eq_ok] at ran
      obtain ⟨-, -, rfl⟩ := ran
      exact .administer rfl rfl rfl rfl
    | forcedEther =>
      cases ran
      exact .administer rfl rfl rfl rfl

/-- The registry has returned to the manager, which goes on with `next`. -/
theorem SystemWorld.afterRegistry_resume {frame : RegistryFrame} {answer : RegistryAnswer}
    {wait : RegistryFrame → SystemFrame} {next : SystemWorld → SystemRun}
    (ran : w.afterRegistry (w.registry.resume setup.edition frame answer) wait next = .ok out) :
    ∃ r, w.registry.resume setup.edition frame answer = .ok (.done r) ∧
      next (w.withRegistry r) = .ok out := by
  rcases afterRegistry_eq_ok.mp ran with ⟨r, called, rest⟩ | ⟨r, frame, called, -⟩
  · exact ⟨r, called, rest⟩
  · cases RegistryWorld.resume_done called

theorem deployReturn_return {answer : SystemAnswer} {serviceId : Nat} {lastMultisig : Address}
    {frame : RegistryFrame} {r : RegistryWorld}
    (resumed : w.registry.resume setup.edition frame answer.registry = .ok (.done r))
    (ran : deployReturn serviceId lastMultisig answer.registry.multisig (w.withRegistry r) =
      .ok out) :
    SystemReturn setup w answer (.deploy serviceId lastMultisig frame) out.state out.pending := by
  simp only [deployReturn, bind_eq_ok, revertIf_eq_ok, exists_const, not_and, not_not] at ran
  obtain ⟨created, bound, ran⟩ := ran
  have unbound : w.manager.mapMultisigServiceIds answer.registry.multisig = serviceId ∨
      w.manager.mapMultisigServiceIds answer.registry.multisig = 0 := by
    by_cases own : w.manager.mapMultisigServiceIds answer.registry.multisig = serviceId
    · exact Or.inl own
    · exact Or.inr (bound own)
  split at ran <;> cases ran
  · exact .deploy resumed created unbound rfl (Or.inr ⟨rfl, rfl⟩) rfl
  · exact .deploy resumed created unbound rfl (Or.inl ⟨rfl, rfl⟩) rfl

theorem SystemWorld.resume_return {frame : SystemFrame} {answer : SystemAnswer}
    (ran : w.resume setup frame answer = .ok out) :
    SystemReturn setup w answer frame out.state out.pending := by
  cases frame with
  | registry frame =>
    simp only [SystemWorld.resume, bind_eq_ok, pure_eq_ok] at ran
    obtain ⟨out, ran, rfl⟩ := ran
    obtain ⟨r, rfl⟩ : ∃ r, out = .done r := ⟨_, RegistryWorld.resume_done ran⟩
    exact .registry ran
  | utility frame =>
    simp only [SystemWorld.resume, bind_eq_ok, pure_eq_ok] at ran
    obtain ⟨u, ran, rfl⟩ := ran
    exact .utility ran
  | create serviceId frame =>
    obtain ⟨r, resumed, rest⟩ := afterRegistry_resume ran
    simp only [createReturn] at rest
    split at rest <;> cases rest
    · exact .create resumed ⟨rfl, rfl⟩ (Or.inr ⟨rfl, rfl⟩) rfl
    · exact .create resumed ⟨rfl, rfl⟩ (Or.inl ⟨rfl, rfl⟩) rfl
  | deploy serviceId lastMultisig frame =>
    obtain ⟨r, resumed, rest⟩ := afterRegistry_resume ran
    exact deployReturn_return resumed rest
  | refund returned frame =>
    simp only [SystemWorld.resume] at ran
    obtain ⟨r, resumed, rest⟩ := afterRegistry_resume ran
    cases rest
    exact .refund resumed ⟨rfl, rfl⟩ rfl
  | activate sender value serviceId frame =>
    simp only [SystemWorld.resume, bind_eq_ok] at ran
    obtain ⟨u, returned, ran⟩ := ran
    obtain ⟨amount, s, activated, done⟩ := activateInRegistry_ok ran
    rw [done.pending]
    refine .activate ⟨done.manager.locked, done.manager.bindings⟩ ?_ activated done.registry
    rw [done.utility]
    exact returned
  | register signed value operator serviceId agentInstances agentIds frame =>
    simp only [SystemWorld.resume, bind_eq_ok] at ran
    obtain ⟨u, returned, ran⟩ := ran
    obtain ⟨amount, s, registered, done⟩ := registerInRegistry_ok ran
    rw [done.pending]
    refine .register ⟨done.manager.locked, done.manager.bindings⟩ ?_ registered done.registry
    rw [done.utility]
    exact returned
  | terminate sender serviceId frame =>
    simp only [SystemWorld.resume, bind_eq_ok] at ran
    obtain ⟨u, returned, ran⟩ := ran
    obtain ⟨s, refund, paid, terminated, rfl⟩ := terminateInRegistry_ok ran
    exact .terminate rfl returned terminated rfl
  | unbond operator serviceId frame =>
    simp only [SystemWorld.resume, bind_eq_ok] at ran
    obtain ⟨u, returned, ran⟩ := ran
    obtain ⟨s, refund, paid, unbonded, moved, after, same, pending⟩ := unbondInRegistry_ok ran
    rw [pending]
    refine .unbond ⟨moved.locked, moved.bindings⟩ ?_ unbonded rfl after
    rw [same]
    exact returned
  | bridger returned =>
    cases ran
    exact .bridger

end Functions

end AutonolasRegistries.Source
