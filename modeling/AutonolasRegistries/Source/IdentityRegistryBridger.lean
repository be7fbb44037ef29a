import AutonolasRegistries.Source.ServiceManager

/-!
# IdentityRegistryBridger with the manager and the registries

`IdentityRegistryBridger.sol:90-505`. The bridger keeps an agent Id of the identity
registry for every service, and one for every multisig. The identity registry itself is
not part of the sources: a call of its `register` returns what the caller of the modelled
function brings along, and the requests made to it are written down.

The manager calls the bridger at the end of `create` and of `deploy`. The identity
registry does not hand over control, so such a call runs in one piece with the code
around it. Everything else about the manager and the registries is
`Source.ServiceManager`. URIs, events and `changeImplementation` are left out.
-/
namespace AutonolasRegistries.Source
open Library

/-- What the bridger asks of the identity registry. `register` is written with its
answer. -/
inductive IdentityRequest where
  | register (serviceId agentId : Nat)
  | unsetAgentWallet (agentId : Nat)
  | setAgentWallet (agentId : Nat) (newWallet : Address)
  | setMetadata (agentId : Nat) (metadataKey metadataValue : List Byte)
  deriving DecidableEq, Repr

/-- The agent Id a request is about. -/
def IdentityRequest.agentId : IdentityRequest → Nat
  | .register _ agentId | .unsetAgentWallet agentId | .setAgentWallet agentId _
  | .setMetadata agentId _ _ => agentId

/-- The agent Ids the identity registry has returned. -/
def issuedIds (requests : List IdentityRequest) : List Nat :=
  requests.filterMap fun
    | .register _ agentId => some agentId
    | _ => none

/-- What `register` of the identity registry returns, given the Ids it has returned: a new
one that is not zero. -/
structure IdentityAnswer where
  agentId : List Nat → Nat
  nonzero : ∀ issued, agentId issued ≠ 0
  fresh : ∀ issued, agentId issued ∉ issued

structure BridgerState where
  owner : Address
  startLinkServiceId : Nat
  locked : Nat
  mapServiceIdAgentIds : Nat → Nat
  mapMultisigAgentIds : Address → Nat
  requests : List IdentityRequest

namespace IdentityRegistryBridger

/-- The storage of the bridger behind its proxy before anything is written. -/
def blank : BridgerState := ⟨0, 0, 0, fun _ => 0, fun _ => 0, []⟩

def ecosystemMetadataKey : List Byte := textBytes "ecosystem"
def serviceRegistryMetadataKey : List Byte := textBytes "serviceRegistry"
def serviceIdMetadataKey : List Byte := textBytes "serviceId"

/-- The reentrancy guard at the start of a function. -/
def lock (b : BridgerState) : Except Revert BridgerState := do
  revertIf (1 < b.locked) .reentrancyGuard
  return { b with locked := 2 }

def unlock (b : BridgerState) : BridgerState := { b with locked := 1 }

/-- `_register` -/
def internalRegister (ids : IdentityAnswer) (serviceId : Nat) (b : BridgerState) :
    BridgerState × Nat :=
  let agentId := ids.agentId (issuedIds b.requests)
  ({ b with
    requests := b.requests ++ [.register serviceId agentId, .unsetAgentWallet agentId]
    mapServiceIdAgentIds := Function.update b.mapServiceIdAgentIds serviceId agentId }, agentId)

/-- `_updateAgentWallet` -/
def internalUpdateAgentWallet (agentId : Nat) (oldMultisig newMultisig : Address)
    (b : BridgerState) : BridgerState :=
  let b := if oldMultisig ≠ 0 then
      { b with
        mapMultisigAgentIds := Function.update b.mapMultisigAgentIds oldMultisig 0
        requests := b.requests ++ [.unsetAgentWallet agentId] }
    else b
  { b with mapMultisigAgentIds := Function.update b.mapMultisigAgentIds newMultisig agentId }

section Functions
variable (serviceManager sender : Address)

def register (ids : IdentityAnswer) (serviceId : Nat) (b : BridgerState) :
    Except Revert BridgerState := do
  let b ← lock b
  revertIf (sender ≠ serviceManager) (.managerOnly sender serviceManager)
  if b.mapServiceIdAgentIds serviceId = 0 then
    return unlock (internalRegister ids serviceId b).1
  else return unlock b

def updateAgentWallet (serviceId : Nat) (oldMultisig newMultisig : Address) (b : BridgerState) :
    Except Revert BridgerState := do
  let b ← lock b
  revertIf (sender ≠ serviceManager) (.managerOnly sender serviceManager)
  let agentId := b.mapServiceIdAgentIds serviceId
  if 0 < agentId then
    return unlock (internalUpdateAgentWallet agentId oldMultisig newMultisig b)
  else return unlock b

/-- `_getAgentServiceIds`; `metadata` is what the identity registry has for the agent Id. -/
def getAgentServiceIds (metadata : Nat → List Byte) (multisig : Address) (b : BridgerState) :
    Except Revert (Nat × Nat) := do
  let agentId := b.mapMultisigAgentIds multisig
  revertIf (agentId = 0) .zeroValue
  revertIf ((metadata agentId).length = 0) .zeroValue
  revertIf ((metadata agentId).length < 32) .externalFailure
  return (agentId, ofBytes ((metadata agentId).take 32))

/-- The three functions a multisig calls for its agent Id. -/
def actForMultisig (metadata : Nat → List Byte) (request : Nat → Except Revert IdentityRequest)
    (b : BridgerState) : Except Revert BridgerState := do
  let b ← lock b
  let (agentId, _) ← getAgentServiceIds metadata sender b
  let asked ← request agentId
  return unlock { b with requests := b.requests ++ [asked] }

def setAgentWallet (metadata : Nat → List Byte) : BridgerState → Except Revert BridgerState :=
  actForMultisig sender metadata fun agentId => .ok (.setAgentWallet agentId sender)

def unsetAgentWallet (metadata : Nat → List Byte) : BridgerState → Except Revert BridgerState :=
  actForMultisig sender metadata fun agentId => .ok (.unsetAgentWallet agentId)

def setMetadata (chain : Chain) (metadata : Nat → List Byte)
    (metadataKey metadataValue : List Byte) : BridgerState → Except Revert BridgerState :=
  actForMultisig sender metadata fun agentId => do
    let hash := chain.keccak256 metadataKey
    revertIf (hash = chain.keccak256 ecosystemMetadataKey ∨
      hash = chain.keccak256 serviceRegistryMetadataKey ∨
      hash = chain.keccak256 serviceIdMetadataKey) (.wrongMetadataKey metadataKey)
    return .setMetadata agentId metadataKey metadataValue

def initializeStorage (b : BridgerState) : Except Revert BridgerState := do
  revertIf (b.owner ≠ 0) .alreadyInitialized
  return { b with startLinkServiceId := 1, owner := sender }

def changeOwner (newOwner : Address) (b : BridgerState) : Except Revert BridgerState := do
  revertIf (sender ≠ b.owner) (.ownerOnly sender b.owner)
  revertIf (newOwner = 0) .zeroAddress
  return { b with owner := newOwner }

end Functions

/-- One service of the linking loop that has no agent Id yet. -/
def linkService (registry : RegistryState) (ids : IdentityAnswer) (serviceId : Nat)
    (b : BridgerState) : BridgerState × Nat :=
  let (b, agentId) := internalRegister ids serviceId b
  let multisig := (registry.mapServices serviceId).multisig
  if multisig ≠ 0 then (internalUpdateAgentWallet agentId 0 multisig b, agentId)
  else (b, agentId)

/-- What the linking loop leaves: where it stopped, whether that was at a linked service,
and the agent Ids it returns. -/
structure Linked where
  bridger : BridgerState
  lastServiceId : Nat
  linkedAll : Bool
  agentIds : List Nat

/-- The loop of `linkServiceIdAgentIds` over the next services; it breaks at the first one
that is linked. -/
def linkLoop (registry : RegistryState) (ids : IdentityAnswer) :
    Nat → Nat → List Nat → BridgerState → Linked
  | 0, serviceId, agentIds, b => ⟨b, serviceId, false, agentIds⟩
  | remaining + 1, serviceId, agentIds, b =>
    if b.mapServiceIdAgentIds serviceId = 0 then
      let (b, agentId) := linkService registry ids serviceId b
      linkLoop registry ids remaining (serviceId + 1) (agentIds ++ [agentId]) b
    else
      ⟨b, serviceId, true,
        agentIds ++ b.mapServiceIdAgentIds serviceId :: List.replicate remaining 0⟩

/-- How many services are linked: the last one is `totalSupply`. -/
def clampServices (maxServiceId startServiceId numServices : Nat) : Except Revert Nat := do
  let lastServiceId ← checkedAdd 256 (.panic .arithmetic) startServiceId numServices
  if maxServiceId < lastServiceId then
    let lastServiceId ← checkedAdd 256 (.panic .arithmetic) maxServiceId 1
    checkedSub (.panic .arithmetic) lastServiceId startServiceId
  else return numServices

def linkServiceIdAgentIds (registry : RegistryState) (ids : IdentityAnswer) (numServices : Nat)
    (b : BridgerState) : Except Revert (BridgerState × List Nat) := do
  let b ← lock b
  revertIf (numServices = 0) .zeroValue
  let startServiceId := b.startLinkServiceId
  revertIf (startServiceId = 0) .zeroValue
  let numServices ← clampServices registry.totalSupply startServiceId numServices
  revertIf (numServices = 0) .zeroValue
  let linked := linkLoop registry ids numServices startServiceId [] b
  let startLinkServiceId := if linked.linkedAll then 0 else linked.lastServiceId
  return (unlock { linked.bridger with startLinkServiceId }, linked.agentIds)

end IdentityRegistryBridger

/-- The manager with its registries, and the bridger it is set to call. -/
structure BridgedWorld where
  system : SystemWorld
  bridger : BridgerState

inductive BridgedCall where
  | system (call : SystemCall) (ids : IdentityAnswer)
  | register (sender : Caller) (ids : IdentityAnswer) (serviceId : Nat)
  | updateAgentWallet (sender : Caller) (serviceId : Nat) (oldMultisig newMultisig : Address)
  | setAgentWallet (sender : Caller) (metadata : Nat → List Byte)
  | unsetAgentWallet (sender : Caller) (metadata : Nat → List Byte)
  | setMetadata (sender : Caller) (metadata : Nat → List Byte)
      (metadataKey metadataValue : List Byte)
  | linkServiceIdAgentIds (sender : Caller) (ids : IdentityAnswer) (numServices : Nat)
  | initializeStorage (sender : Caller)
  | changeOwner (sender : Caller) (newOwner : Address)

/-- The answer of the system's external call, and of the identity registry. -/
structure BridgedAnswer where
  system : SystemAnswer
  ids : IdentityAnswer

abbrev BridgedRun := Except Revert (Outcome BridgedWorld SystemFrame)

namespace BridgedWorld
open IdentityRegistryBridger

def withBridger (w : BridgedWorld) (b : BridgerState) : BridgedWorld := { w with bridger := b }

/-- A function of the bridger called from outside. -/
def done (w : BridgedWorld) (run : Except Revert BridgerState) : BridgedRun := do
  let b ← run
  return .done (w.withBridger b)

/-- Where the manager calls the bridger, the call is made and the manager finishes. -/
def settle (w : BridgedWorld) (call : BridgerState → Except Revert BridgerState)
    (out : Outcome SystemWorld SystemFrame) : BridgedRun :=
  match out with
  | .done s => .ok (.done { w with system := s })
  | .suspended s (.bridger returned) => do
    let b ← call w.bridger
    return .done ⟨(ServiceManager.finish returned s).state, b⟩
  | .suspended s frame => .ok (.suspended { w with system := s } frame)

/-- The bridger function behind the end of a suspended call of the manager. -/
def bridgerCall (setup : Setup) (frame : SystemFrame) (answer : BridgedAnswer) :
    BridgerState → Except Revert BridgerState :=
  match frame with
  | .create serviceId _ => register setup.self setup.self answer.ids serviceId
  | .deploy serviceId lastMultisig _ =>
    updateAgentWallet setup.self setup.self serviceId lastMultisig answer.system.registry.multisig
  | _ => .ok

def enter (setup : Setup) (call : BridgedCall) (w : BridgedWorld) : BridgedRun :=
  match call with
  | .system call ids => do
    let out ← w.system.enter setup call
    -- A `create` that returned at once would have been for the last service.
    w.settle (register setup.self setup.self ids out.state.registry.store.totalSupply) out
  | .register sender ids serviceId =>
    w.done (register setup.self sender ids serviceId w.bridger)
  | .updateAgentWallet sender serviceId oldMultisig newMultisig =>
    w.done (updateAgentWallet setup.self sender serviceId oldMultisig newMultisig w.bridger)
  | .setAgentWallet sender metadata => w.done (setAgentWallet sender metadata w.bridger)
  | .unsetAgentWallet sender metadata => w.done (unsetAgentWallet sender metadata w.bridger)
  | .setMetadata sender metadata metadataKey metadataValue =>
    w.done (setMetadata sender setup.chain metadata metadataKey metadataValue w.bridger)
  | .linkServiceIdAgentIds _ ids numServices => do
    let (b, _) ← linkServiceIdAgentIds w.system.registry.store ids numServices w.bridger
    return .done (w.withBridger b)
  | .initializeStorage sender => w.done (initializeStorage sender w.bridger)
  | .changeOwner sender newOwner => w.done (changeOwner sender newOwner w.bridger)

def resume (setup : Setup) (frame : SystemFrame) (answer : BridgedAnswer) (w : BridgedWorld) :
    BridgedRun := do
  let out ← w.system.resume setup frame answer.system
  w.settle (bridgerCall setup frame answer) out

end BridgedWorld

def bridgedMachine (setup : Setup) :
    Machine BridgedWorld BridgedCall SystemFrame BridgedAnswer Revert where
  enter := BridgedWorld.enter setup
  resume := BridgedWorld.resume setup

end AutonolasRegistries.Source
