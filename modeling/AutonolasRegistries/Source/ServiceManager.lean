import AutonolasRegistries.Source.OperatorSignedHashes
import AutonolasRegistries.Source.RegistryMachine
import AutonolasRegistries.Source.TokenUtility

/-!
# ServiceManager with the registry and the token utility

The manager keeps little of its own: it is the account that may call the manager
functions of the two registries, and each of its functions is a sequence of such calls
under its lock. `ServiceManager.sol:86-688`, `GenericManager.sol:8-52`.

The three contracts are one machine. A call from outside goes to any of them; a function
of the manager stops wherever a registry it has called hands over control, or at a call
of the identity bridger, and its frame says where to go on. View functions outside these
contracts are call data. `changeImplementation` replaces the code and is left out.
-/
namespace AutonolasRegistries.Source
open Library

structure ManagerState where
  owner : Address
  paused : Bool
  operatorWhitelist : Address
  identityRegistryBridger : Address
  locked : Nat
  mapMultisigServiceIds : Address → Nat
  mapOperatorUnbondNonces : Word → Nat
  mapOperatorRegisterAgentsNonces : Word → Nat
  mapOperatorApprovedHashes : Address → Bytes32 → Bool

/-- The manager's address, the edition of the registry, and the chain. -/
structure Setup where
  edition : Edition
  self : Caller
  chain : Chain

/-- The three contracts, the ETH the manager holds, and the value its last completed
function returned. -/
structure SystemWorld where
  manager : ManagerState
  registry : RegistryWorld
  utility : UtilityWorld
  ether : Nat
  returned : Nat

/-- An array in call data; the decoder rejects longer ones. -/
abbrev CallArray (α : Type) := { items : List α // items.length < 2 ^ 64 }

inductive ManagerCall where
  | create (sender : Caller) (tokenAccepted : Bool) (agentTotalSupply : Nat)
      (serviceOwner token : Address) (configHash : Bytes32) (agentIds : List Uint32)
      (agentParams : List AgentParams) (threshold : Uint32)
  | update (sender : Caller) (tokenAccepted : Bool) (agentTotalSupply : Nat)
      (token : Address) (configHash : Bytes32) (agentIds : List Uint32)
      (agentParams : List AgentParams) (threshold : Uint32) (serviceId : Nat)
  | activateRegistration (sender : Caller) (value : Nat) (views : TokenViews) (serviceId : Nat)
  | registerAgents (sender : Caller) (value : Nat) (whitelisted : Bool) (views : TokenViews)
      (serviceId : Nat) (agentInstances : List Address) (agentIds : List Uint32)
  | deploy (sender : Caller) (serviceId : Nat) (multisigImplementation : Address)
  | bindMultisig (sender : Caller) (serviceIds : List Nat)
  | terminate (sender : Caller) (serviceId : Nat)
  | unbond (sender : Caller) (serviceId : Nat)
  | unbondWithSignature (sender : Caller) (signing : SignatureViews) (operator : Address)
      (serviceId : Nat) (signature : List Byte)
  | registerAgentsWithSignature (sender : Caller) (value : Nat) (signing : SignatureViews)
      (views : TokenViews) (operator : Address) (serviceId : Nat)
      (agentInstances : CallArray Address) (agentIds : CallArray Uint32)
      (signature : List Byte)
  | operatorApproveHash (sender : Caller) (hash : Bytes32)
  | initializeStorage (sender : Caller)
  | setOperatorWhitelist (sender : Caller) (newOperatorWhitelist : Address)
  | setIdentityRegistryBridger (sender : Caller) (newIdentityRegistryBridger : Address)
  | changeOwner (sender : Caller) (newOwner : Address)
  | pause (sender : Caller)
  | unpause (sender : Caller)
  | forcedEther (sender : Caller) (value : Nat)

inductive SystemCall where
  | manager (call : ManagerCall)
  | registry (call : RegistryCall)
  | utility (call : UtilityCall)

/-- What a suspended call waits for: a call of a registry from outside, a registry called
by the manager, a transfer of the token utility called by the manager, or the bridger. -/
inductive SystemFrame where
  | registry (frame : RegistryFrame)
  | utility (frame : UtilityFrame)
  | create (serviceId : Nat) (frame : RegistryFrame)
  | deploy (serviceId : Nat) (lastMultisig : Address) (frame : RegistryFrame)
  | refund (returned : Nat) (frame : RegistryFrame)
  | activate (sender : Address) (value serviceId : Nat) (frame : UtilityFrame)
  | register (signed : Bool) (value : Nat) (operator : Address) (serviceId : Nat)
      (agentInstances : List Address) (agentIds : List Uint32) (frame : UtilityFrame)
  | terminate (sender : Address) (serviceId : Nat) (frame : UtilityFrame)
  | unbond (operator : Address) (serviceId : Nat) (frame : UtilityFrame)
  | bridger (returned : Nat)
  deriving DecidableEq, Repr

/-- Answer of the external call: what the multisig implementation and the agent registry
return, or what the token does. -/
structure SystemAnswer where
  registry : RegistryAnswer
  token : TokenAnswer

/-- A piece of the system's code. -/
abbrev SystemRun := Except Revert (Outcome SystemWorld SystemFrame)

namespace SystemWorld

def withManager (w : SystemWorld) (m : ManagerState) : SystemWorld := { w with manager := m }
def withRegistry (w : SystemWorld) (r : RegistryWorld) : SystemWorld := { w with registry := r }
def withUtility (w : SystemWorld) (u : UtilityWorld) : SystemWorld := { w with utility := u }

/-- Goes on with `next` if the registry returns, and waits otherwise. -/
def afterRegistry (w : SystemWorld) (run : Except Revert (Outcome RegistryWorld RegistryFrame))
    (wait : RegistryFrame → SystemFrame) (next : SystemWorld → SystemRun) : SystemRun := do
  match ← run with
  | .done r => next (w.withRegistry r)
  | .suspended r frame => .ok (.suspended (w.withRegistry r) (wait frame))

/-- Goes on with `next` if the token utility returns, and waits otherwise. -/
def afterUtility (w : SystemWorld) (run : Except Revert (Outcome UtilityWorld UtilityFrame))
    (wait : UtilityFrame → SystemFrame) (next : SystemWorld → SystemRun) : SystemRun := do
  match ← run with
  | .done u => next (w.withUtility u)
  | .suspended u frame => .ok (.suspended (w.withUtility u) (wait frame))

end SystemWorld

namespace ServiceManager

/-- `ETH_TOKEN_ADDRESS` -/
def ethTokenAddress : Address := 0xEeeeeEeeeEeEeeEeEeEeeEEEeeeeEeeeeeeeEEeE

/-- `BOND_WRAPPER` -/
def bondWrapper : Uint96 := 1

def wrap (p : AgentParams) : AgentParams := { p with bond := bondWrapper }

/-- The reentrancy guard at the start of a function. -/
def lock (w : SystemWorld) : Except Revert SystemWorld := do
  revertIf (1 < w.manager.locked) .reentrancyGuard
  return w.withManager { w.manager with locked := 2 }

/-- The last statement of a locked function, which returns `returned`. -/
def finish (returned : Nat) (w : SystemWorld) : Outcome SystemWorld SystemFrame :=
  .done { w with manager := { w.manager with locked := 1 }, returned }

variable (setup : Setup)

/-- Sends `amount` of the manager's ETH along with a call. -/
def pay (amount : Nat) (w : SystemWorld) : Except Revert SystemWorld := do
  revertIf (w.ether < amount) .insufficientBalance
  return { w with ether := w.ether - amount }

/-- The identity workflow at the end of `create`. -/
def createReturn (serviceId : Nat) (w : SystemWorld) : SystemRun :=
  if w.manager.identityRegistryBridger ≠ 0 then .ok (.suspended w (.bridger serviceId))
  else .ok (finish serviceId w)

/-- Calls `create` of the registry; `serviceId` is what the manager goes on with. -/
def createInRegistry (call : RegistryCall) (serviceId : Nat) (w : SystemWorld) : SystemRun :=
  w.afterRegistry (w.registry.enter setup.edition call) (.create serviceId)
    (createReturn serviceId)

def create (tokenAccepted : Bool) (agentTotalSupply : Nat) (serviceOwner token : Address)
    (configHash : Bytes32) (agentIds : List Uint32) (agentParams : List AgentParams)
    (threshold : Uint32) (w : SystemWorld) : SystemRun := do
  let w ← lock w
  revertIf (w.manager.paused = true) .paused
  revertIf (token = 0) .zeroAddress
  if token = ethTokenAddress then
    let call : RegistryCall := .create setup.self serviceOwner agentTotalSupply configHash
      agentIds agentParams threshold
    let reply ← w.registry.reply setup.edition call
    createInRegistry setup call reply.returned w
  else
    revertIf (∃ p ∈ agentParams, p.bond = 0) .zeroValue
    let bonds := agentParams.map fun p => p.bond.val
    let serviceId ← checkedAdd 256 (.panic .arithmetic) w.registry.store.totalSupply 1
    let utility := w.utility.enter w.registry.store
      (.createWithToken setup.self tokenAccepted serviceId token agentIds bonds)
    w.afterUtility utility .utility fun w =>
      createInRegistry setup
        (.create setup.self serviceOwner agentTotalSupply configHash agentIds
          (agentParams.map wrap) threshold)
        serviceId w

def update (sender : Address) (tokenAccepted : Bool) (agentTotalSupply : Nat) (token : Address)
    (configHash : Bytes32) (agentIds : List Uint32) (agentParams : List AgentParams)
    (threshold : Uint32) (serviceId : Nat) (w : SystemWorld) : SystemRun := do
  let w ← lock w
  revertIf (token = 0) .zeroAddress
  revertIf (∃ p ∈ agentParams, p.slots ≠ 0 ∧ p.bond = 0) .zeroValue
  if token = ethTokenAddress then
    let registry := w.registry.enter setup.edition
      (.update setup.self sender agentTotalSupply configHash agentIds agentParams threshold
        serviceId)
    w.afterRegistry registry .registry fun w =>
      w.afterUtility (w.utility.enter w.registry.store (.resetServiceToken setup.self serviceId))
        .utility fun w => .ok (finish 1 w)
  else
    -- The bonds of Ids without slots are passed as zero, and their parameters as they are.
    let bonds := agentParams.map fun p => if p.slots ≠ 0 then p.bond.val else 0
    let wrapped := agentParams.map fun p => if p.slots ≠ 0 then wrap p else p
    let utility := w.utility.enter w.registry.store
      (.createWithToken setup.self tokenAccepted serviceId token agentIds bonds)
    w.afterUtility utility .utility fun w =>
      w.afterRegistry
        (w.registry.enter setup.edition
          (.update setup.self sender agentTotalSupply configHash agentIds wrapped threshold
            serviceId))
        .registry fun w => .ok (finish 1 w)

/-- After the token utility: activation in the registry. -/
def activateInRegistry (sender : Address) (value serviceId : Nat) (isTokenSecured : Bool)
    (w : SystemWorld) : SystemRun := do
  revertIf (isTokenSecured = true ∧ value ≠ bondWrapper.val)
    (.incorrectRegistrationDepositValue value bondWrapper.val serviceId)
  let amount := if isTokenSecured = true then bondWrapper.val else value
  let w ← pay amount w
  w.afterRegistry
    (w.registry.enter setup.edition (.activateRegistration setup.self amount sender serviceId))
    .registry fun w => .ok (finish 1 w)

def activateRegistration (sender : Address) (value : Nat) (views : TokenViews)
    (serviceId : Nat) (w : SystemWorld) : SystemRun := do
  let w ← lock { w with ether := w.ether + value }
  w.afterUtility
    (w.utility.enter w.registry.store
      (.activateRegistrationTokenDeposit setup.self views serviceId))
    (.activate sender value serviceId) (activateInRegistry setup sender value serviceId false)

/-- After the token utility: registration in the registry. Only the unsigned function
checks the value that was sent. -/
def registerInRegistry (signed : Bool) (value : Nat) (operator : Address) (serviceId : Nat)
    (agentInstances : List Address) (agentIds : List Uint32) (isTokenSecured : Bool)
    (w : SystemWorld) : SystemRun := do
  let totalBond := agentInstances.length * bondWrapper.val
  revertIf (isTokenSecured = true ∧ signed = false ∧ value ≠ totalBond)
    (.incorrectAgentBondingValue value totalBond serviceId)
  let amount := if isTokenSecured = true then totalBond else value
  let w ← pay amount w
  w.afterRegistry
    (w.registry.enter setup.edition
      (.registerAgents setup.self amount operator serviceId agentInstances agentIds))
    .registry fun w => .ok (finish 1 w)

/-- The common part of the two registration functions. -/
def registerWithTokens (signed : Bool) (value : Nat) (views : TokenViews) (operator : Address)
    (serviceId : Nat) (agentInstances : List Address) (agentIds : List Uint32)
    (w : SystemWorld) : SystemRun :=
  w.afterUtility
    (w.utility.enter w.registry.store
      (.registerAgentsTokenDeposit setup.self views operator serviceId agentIds))
    (.register signed value operator serviceId agentInstances agentIds)
    (registerInRegistry setup signed value operator serviceId agentInstances agentIds false)

def registerAgents (sender : Address) (value : Nat) (whitelisted : Bool) (views : TokenViews)
    (serviceId : Nat) (agentInstances : List Address) (agentIds : List Uint32)
    (w : SystemWorld) : SystemRun := do
  let w ← lock { w with ether := w.ether + value }
  revertIf (w.manager.operatorWhitelist ≠ 0 ∧ whitelisted = false) (.wrongOperator serviceId)
  registerWithTokens setup false value views sender serviceId agentInstances agentIds w

/-- The bindings after `serviceId` got `multisig`, given that no other service has it. -/
def bind (serviceId : Nat) (lastMultisig multisig : Address) (m : Address → Nat) :
    Address → Nat :=
  if m multisig ≠ serviceId then
    let claimed := Function.update m multisig serviceId
    if lastMultisig ≠ 0 ∧ lastMultisig ≠ multisig ∧ claimed lastMultisig = serviceId then
      Function.update claimed lastMultisig 0
    else claimed
  else m

/-- After the registry has deployed the service with `multisig`. -/
def deployReturn (serviceId : Nat) (lastMultisig multisig : Address) (w : SystemWorld) :
    SystemRun := do
  revertIf (multisig = 0) .zeroAddress
  let boundServiceId := w.manager.mapMultisigServiceIds multisig
  revertIf (boundServiceId ≠ serviceId ∧ boundServiceId ≠ 0)
    (.multisigAlreadyBound multisig boundServiceId serviceId)
  let w := w.withManager { w.manager with
    mapMultisigServiceIds := bind serviceId lastMultisig multisig w.manager.mapMultisigServiceIds }
  if w.manager.identityRegistryBridger ≠ 0 ∧ multisig ≠ lastMultisig then
    .ok (.suspended w (.bridger multisig.val))
  else .ok (finish multisig.val w)

def deploy (sender : Address) (serviceId : Nat) (multisigImplementation : Address)
    (w : SystemWorld) : SystemRun := do
  let w ← lock w
  let lastMultisig := (w.registry.store.mapServices serviceId).multisig
  w.afterRegistry
    (w.registry.enter setup.edition (.deploy setup.self sender serviceId multisigImplementation))
    (.deploy serviceId lastMultisig) fun w => .ok (finish 0 w)

/-- One iteration of the loop in `bindMultisig`. -/
def bindMultisigBody (registry : RegistryState) (m : Address → Nat) (serviceId : Nat) :
    Address → Nat :=
  let multisig := (registry.mapServices serviceId).multisig
  if multisig ≠ 0 ∧ m multisig = 0 then Function.update m multisig serviceId else m

def bindMultisig (serviceIds : List Nat) (w : SystemWorld) : SystemRun := do
  let w ← lock w
  return finish 0 (w.withManager { w.manager with
    mapMultisigServiceIds := serviceIds.foldl (bindMultisigBody w.registry.store)
      w.manager.mapMultisigServiceIds })

/-- A registry function that refunds; the token refund is returned if there was one. -/
def refundInRegistry (call : RegistryCall) (tokenRefund : Nat) (w : SystemWorld) :
    SystemRun := do
  let reply ← w.registry.reply setup.edition call
  let refund := if 0 < tokenRefund then tokenRefund else reply.returned
  w.afterRegistry (w.registry.enter setup.edition call) (.refund refund)
    fun w => .ok (finish refund w)

def terminateInRegistry (sender : Address) (serviceId : Nat) : Nat → SystemWorld → SystemRun :=
  refundInRegistry setup (.terminate setup.self sender serviceId)

def terminate (sender : Address) (serviceId : Nat) (w : SystemWorld) : SystemRun := do
  let w ← lock w
  w.afterUtility
    (w.utility.enter w.registry.store (.terminateTokenRefund setup.self serviceId))
    (.terminate sender serviceId) (terminateInRegistry setup sender serviceId 0)

def unbondInRegistry (operator : Address) (serviceId : Nat) : Nat → SystemWorld → SystemRun :=
  refundInRegistry setup (.unbond setup.self operator serviceId)

/-- The common part of the two unbond functions. -/
def unbondWithTokens (operator : Address) (serviceId : Nat) (w : SystemWorld) : SystemRun :=
  w.afterUtility
    (w.utility.enter w.registry.store (.unbondTokenRefund setup.self operator serviceId))
    (.unbond operator serviceId) (unbondInRegistry setup operator serviceId 0)

def unbond (sender : Address) (serviceId : Nat) (w : SystemWorld) : SystemRun := do
  let w ← lock w
  unbondWithTokens setup sender serviceId w

def unbondWithSignature (sender : Address) (signing : SignatureViews) (operator : Address)
    (serviceId : Nat) (signature : List Byte) (w : SystemWorld) : SystemRun := do
  let w ← lock w
  let serviceOwner ← w.registry.store.erc721.ownerOf serviceId
  revertIf (sender ≠ serviceOwner) (.ownerOnly sender serviceOwner)
  let key := operatorService operator serviceId
  let nonce := w.manager.mapOperatorUnbondNonces key
  let msgHash := OperatorSignedHashes.getUnbondHash setup.chain setup.self operator serviceOwner
    serviceId nonce
  OperatorSignedHashes.verifySignedHash setup.chain signing w.manager.mapOperatorApprovedHashes
    operator msgHash signature
  let next ← checkedAdd 256 (.panic .arithmetic) nonce 1
  unbondWithTokens setup operator serviceId (w.withManager { w.manager with
    mapOperatorUnbondNonces := Function.update w.manager.mapOperatorUnbondNonces key next })

def registerAgentsWithSignature (sender : Address) (value : Nat) (signing : SignatureViews)
    (views : TokenViews) (operator : Address) (serviceId : Nat) (agentInstances : List Address)
    (agentIds : List Uint32) (signature : List Byte) (w : SystemWorld) : SystemRun := do
  let w ← lock { w with ether := w.ether + value }
  let serviceOwner ← w.registry.store.erc721.ownerOf serviceId
  revertIf (sender ≠ serviceOwner) (.ownerOnly sender serviceOwner)
  let key := operatorService operator serviceId
  let nonce := w.manager.mapOperatorRegisterAgentsNonces key
  let msgHash := OperatorSignedHashes.getRegisterAgentsHash setup.chain setup.self operator
    serviceOwner serviceId agentInstances agentIds nonce
  OperatorSignedHashes.verifySignedHash setup.chain signing w.manager.mapOperatorApprovedHashes
    operator msgHash signature
  let next ← checkedAdd 256 (.panic .arithmetic) nonce 1
  registerWithTokens setup true value views operator serviceId agentInstances agentIds
    (w.withManager { w.manager with
      mapOperatorRegisterAgentsNonces :=
        Function.update w.manager.mapOperatorRegisterAgentsNonces key next })

/-- A function that only the owner may call, and that does not look at the lock. -/
def administer (sender : Address) (m : ManagerState) (w : SystemWorld) : SystemRun := do
  revertIf (sender ≠ w.manager.owner) (.ownerOnly sender w.manager.owner)
  return .done (w.withManager m)

def enter (call : ManagerCall) (w : SystemWorld) : SystemRun :=
  match call with
  | .create _ tokenAccepted agentTotalSupply serviceOwner token configHash agentIds agentParams
      threshold =>
    create setup tokenAccepted agentTotalSupply serviceOwner token configHash agentIds
      agentParams threshold w
  | .update sender tokenAccepted agentTotalSupply token configHash agentIds agentParams
      threshold serviceId =>
    update setup sender tokenAccepted agentTotalSupply token configHash agentIds agentParams
      threshold serviceId w
  | .activateRegistration sender value views serviceId =>
    activateRegistration setup sender value views serviceId w
  | .registerAgents sender value whitelisted views serviceId agentInstances agentIds =>
    registerAgents setup sender value whitelisted views serviceId agentInstances agentIds w
  | .deploy sender serviceId multisigImplementation =>
    deploy setup sender serviceId multisigImplementation w
  | .bindMultisig _ serviceIds => bindMultisig serviceIds w
  | .terminate sender serviceId => terminate setup sender serviceId w
  | .unbond sender serviceId => unbond setup sender serviceId w
  | .unbondWithSignature sender signing operator serviceId signature =>
    unbondWithSignature setup sender signing operator serviceId signature w
  | .registerAgentsWithSignature sender value signing views operator serviceId agentInstances
      agentIds signature =>
    registerAgentsWithSignature setup sender value signing views operator serviceId
      agentInstances.val agentIds.val signature w
  | .operatorApproveHash sender hash =>
    let approved := Function.update (w.manager.mapOperatorApprovedHashes sender) hash true
    .ok (.done (w.withManager { w.manager with
      mapOperatorApprovedHashes :=
        Function.update w.manager.mapOperatorApprovedHashes sender approved }))
  | .initializeStorage sender => do
    revertIf (w.manager.owner ≠ 0) .alreadyInitialized
    return .done (w.withManager { w.manager with owner := sender })
  | .setOperatorWhitelist sender newOperatorWhitelist =>
    administer sender { w.manager with operatorWhitelist := newOperatorWhitelist } w
  | .setIdentityRegistryBridger sender newIdentityRegistryBridger =>
    administer sender { w.manager with identityRegistryBridger := newIdentityRegistryBridger } w
  | .changeOwner sender newOwner => do
    revertIf (sender.val ≠ w.manager.owner) (.ownerOnly sender w.manager.owner)
    revertIf (newOwner = 0) .zeroAddress
    return .done (w.withManager { w.manager with owner := newOwner })
  | .pause sender => administer sender { w.manager with paused := true } w
  | .unpause sender => administer sender { w.manager with paused := false } w
  | .forcedEther _ value => .ok (.done { w with ether := w.ether + value })

end ServiceManager

namespace SystemWorld

def enter (setup : Setup) (call : SystemCall) (w : SystemWorld) : SystemRun :=
  match call with
  | .manager call => ServiceManager.enter setup call w
  | .registry call => do
    let out ← w.registry.enter setup.edition call
    return out.embed w.withRegistry .registry
  | .utility call => do
    let out ← w.utility.enter w.registry.store call
    return out.embed w.withUtility .utility

open ServiceManager in
def resume (setup : Setup) (frame : SystemFrame) (answer : SystemAnswer) (w : SystemWorld) :
    SystemRun :=
  match frame with
  | .registry frame => do
    let out ← w.registry.resume setup.edition frame answer.registry
    return out.embed w.withRegistry .registry
  | .utility frame => do
    let u ← w.utility.resume frame answer.token
    return .done (w.withUtility u)
  | .create serviceId frame =>
    w.afterRegistry (w.registry.resume setup.edition frame answer.registry) (.create serviceId)
      (createReturn serviceId)
  | .deploy serviceId lastMultisig frame =>
    w.afterRegistry (w.registry.resume setup.edition frame answer.registry)
      (.deploy serviceId lastMultisig)
      (deployReturn serviceId lastMultisig answer.registry.multisig)
  | .refund returned frame =>
    w.afterRegistry (w.registry.resume setup.edition frame answer.registry) (.refund returned)
      fun w => .ok (finish returned w)
  | .activate sender value serviceId frame => do
    let u ← w.utility.resume frame answer.token
    activateInRegistry setup sender value serviceId true (w.withUtility u)
  | .register signed value operator serviceId agentInstances agentIds frame => do
    let u ← w.utility.resume frame answer.token
    registerInRegistry setup signed value operator serviceId agentInstances agentIds true
      (w.withUtility u)
  | .terminate sender serviceId frame => do
    let u ← w.utility.resume frame answer.token
    terminateInRegistry setup sender serviceId frame.refunds (w.withUtility u)
  | .unbond operator serviceId frame => do
    let u ← w.utility.resume frame answer.token
    unbondInRegistry setup operator serviceId frame.refunds (w.withUtility u)
  | .bridger returned => .ok (finish returned w)

end SystemWorld

def systemMachine (setup : Setup) :
    Machine SystemWorld SystemCall SystemFrame SystemAnswer Revert where
  enter := SystemWorld.enter setup
  resume := SystemWorld.resume setup

end AutonolasRegistries.Source
