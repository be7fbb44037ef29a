import AutonolasRegistries.Library.CallStack
import AutonolasRegistries.Source.ServiceRegistry

/-!
# Runs of the registry

The registry as a machine: every state-changing external function is a call, and
`create`, `deploy`, `terminate`, `unbond` and `drain` stop at their external call.
The ETH the payable functions received and the ETH sent out are counted beside
the storage. A refund counts as sent when the call that carries it is made.
-/
namespace AutonolasRegistries.Source
open Library

structure RegistryWorld where
  store : RegistryState
  received : Nat
  paid : Nat

inductive RegistryCall where
  | create (sender : Caller) (serviceOwner : Address) (agentTotalSupply : Nat) (configHash : Bytes32)
      (agentIds : List Uint32) (agentParams : List AgentParams) (threshold : Uint32)
  | update (sender : Caller) (serviceOwner : Address) (agentTotalSupply : Nat) (configHash : Bytes32)
      (agentIds : List Uint32) (agentParams : List AgentParams) (threshold : Uint32)
      (serviceId : Nat)
  | activateRegistration (sender : Caller) (value : Nat) (serviceOwner : Address)
      (serviceId : Nat)
  | registerAgents (sender : Caller) (value : Nat) (operator : Address) (serviceId : Nat)
      (agentInstances : List Address) (agentIds : List Uint32)
  | deploy (sender : Caller) (serviceOwner : Address) (serviceId : Nat) (multisigImplementation : Address)
  | slash (sender : Caller) (agentInstances : List Address) (amounts : List Uint96)
      (serviceId : Nat)
  | terminate (sender : Caller) (serviceOwner : Address) (serviceId : Nat)
  | unbond (sender : Caller) (operator : Address) (serviceId : Nat)
  | drain (sender : Caller)
  | changeOwner (sender : Caller) (newOwner : Address)
  | changeManager (sender : Caller) (newManager : Address)
  | changeDrainer (sender : Caller) (newDrainer : Address)
  | changeMultisigPermission (sender : Caller) (multisig : Address) (permission : Bool)
  | approve (sender : Caller) (spender : Address) (id : Nat)
  | setApprovalForAll (sender : Caller) (operator : Address) (approved : Bool)
  | transferFrom (sender : Caller) (owner recipient : Address) (id : Nat)

/-- What is left to do after the external call of a suspended function. -/
inductive RegistryFrame where
  | create
  | deploy (serviceId : Nat)
  | refund
  deriving DecidableEq, Repr

/-- Answer of the external call: what `deploy` is given, and whether the recipient of a
refund took it. -/
structure RegistryAnswer where
  multisig : Address
  subComponents : List Uint32
  result : Bool

namespace RegistryWorld

def deployment (deployer : Address) : RegistryWorld :=
  ⟨ServiceRegistry.deployment deployer, 0, 0⟩

/-- A call without an external call of its own. -/
def finish (w : RegistryWorld) (value : Nat) (run : Except Revert RegistryState) :
    Except Revert (Outcome RegistryWorld RegistryFrame) := do
  let s ← run
  return .done { w with store := s, received := w.received + value }

/-- A call that sends `amount` to its recipient and waits for it. -/
def refunding (w : RegistryWorld) (s : RegistryState) (amount : Nat) :
    Outcome RegistryWorld RegistryFrame :=
  if 0 < amount then .suspended { w with store := s, paid := w.paid + amount } .refund
  else .done { w with store := ServiceRegistry.unlock s }

def enter (edition : Edition) (call : RegistryCall) (w : RegistryWorld) :
    Except Revert (Outcome RegistryWorld RegistryFrame) :=
  match call with
  | .create sender serviceOwner agentTotalSupply configHash agentIds agentParams threshold => do
    let (s, _) ← ServiceRegistry.create edition agentTotalSupply sender serviceOwner configHash
      agentIds agentParams threshold w.store
    return .suspended { w with store := s } .create
  | .update sender serviceOwner agentTotalSupply configHash agentIds agentParams threshold
      serviceId =>
    w.finish 0 (ServiceRegistry.update edition agentTotalSupply sender serviceOwner configHash
      agentIds agentParams threshold serviceId w.store)
  | .activateRegistration sender value serviceOwner serviceId =>
    w.finish value
      (ServiceRegistry.activateRegistration sender value serviceOwner serviceId w.store)
  | .registerAgents sender value operator serviceId agentInstances agentIds =>
    w.finish value (ServiceRegistry.registerAgents sender value operator serviceId
      agentInstances agentIds w.store)
  | .deploy sender serviceOwner serviceId multisigImplementation => do
    let (s, _) ← ServiceRegistry.deploy sender serviceOwner serviceId multisigImplementation
      w.store
    return .suspended { w with store := s } (.deploy serviceId)
  | .slash sender agentInstances amounts serviceId =>
    w.finish 0 (ServiceRegistry.slash sender agentInstances amounts serviceId w.store)
  | .terminate sender serviceOwner serviceId => do
    let (s, refund) ← ServiceRegistry.terminate edition sender serviceOwner serviceId w.store
    return .suspended { w with store := s, paid := w.paid + refund } .refund
  | .unbond sender operator serviceId => do
    let (s, refund) ← ServiceRegistry.unbond sender operator serviceId w.store
    return w.refunding s refund
  | .drain sender => do
    let (s, amount) ← ServiceRegistry.drain sender w.store
    return w.refunding s amount
  | .changeOwner sender newOwner =>
    w.finish 0 (ServiceRegistry.changeOwner sender newOwner w.store)
  | .changeManager sender newManager =>
    w.finish 0 (ServiceRegistry.changeManager sender newManager w.store)
  | .changeDrainer sender newDrainer =>
    w.finish 0 (ServiceRegistry.changeDrainer sender newDrainer w.store)
  | .changeMultisigPermission sender multisig permission =>
    w.finish 0 (ServiceRegistry.changeMultisigPermission sender multisig permission w.store)
  | .approve sender spender id => w.finish 0 do
    let erc721 ← w.store.erc721.approve sender spender id
    return { w.store with erc721 }
  | .setApprovalForAll sender operator approved =>
    .ok (.done { w with store := { w.store with
      erc721 := w.store.erc721.setApprovalForAll sender operator approved } })
  | .transferFrom sender owner recipient id => w.finish 0 do
    let erc721 ← w.store.erc721.transferFrom sender owner recipient id
    return { w.store with erc721 }

/-- A refund that is not taken reverts with `TransferFailed`, whose arguments are left out. -/
def resume (edition : Edition) (frame : RegistryFrame) (answer : RegistryAnswer)
    (w : RegistryWorld) : Except Revert (Outcome RegistryWorld RegistryFrame) :=
  match frame with
  | .create => .ok (.done { w with store := ServiceRegistry.unlock w.store })
  | .refund => do
    revertIf (answer.result = false) .externalFailure
    return .done { w with store := ServiceRegistry.unlock w.store }
  | .deploy serviceId => .ok (.done { w with
      store := ServiceRegistry.deployReturn edition serviceId answer.multisig
        answer.subComponents w.store })

end RegistryWorld

/-- What a call replies: the value it returns (`true` counts as one), the payment it
makes, and the owners it asks the multisig implementation for. `deploy` returns what
the implementation answers. -/
structure RegistryReply where
  returned : Nat
  payment : Option (Address × Nat)
  owners : List Address
  deriving DecidableEq, Repr

/-- A transfer that is only made when there is something to send. -/
def paymentOf (recipient : Address) (amount : Nat) : Option (Address × Nat) :=
  if 0 < amount then some (recipient, amount) else none

def RegistryWorld.reply (edition : Edition) (call : RegistryCall) (w : RegistryWorld) :
    Except Revert RegistryReply :=
  match call with
  | .create sender serviceOwner agentTotalSupply configHash agentIds agentParams threshold => do
    let (_, serviceId) ← ServiceRegistry.create edition agentTotalSupply sender serviceOwner
      configHash agentIds agentParams threshold w.store
    return ⟨serviceId, none, []⟩
  | .deploy sender serviceOwner serviceId multisigImplementation => do
    let (_, owners) ← ServiceRegistry.deploy sender serviceOwner serviceId
      multisigImplementation w.store
    return ⟨0, none, owners⟩
  | .terminate sender serviceOwner serviceId => do
    let (_, refund) ← ServiceRegistry.terminate edition sender serviceOwner serviceId w.store
    return ⟨refund, some (serviceOwner, refund), []⟩
  | .unbond sender operator serviceId => do
    let (_, refund) ← ServiceRegistry.unbond sender operator serviceId w.store
    return ⟨refund, paymentOf operator refund, []⟩
  | .drain sender => do
    let (_, amount) ← ServiceRegistry.drain sender w.store
    return ⟨amount, paymentOf w.store.drainer amount, []⟩
  | .update .. | .activateRegistration .. | .registerAgents .. | .slash ..
  | .changeMultisigPermission .. => .ok ⟨1, none, []⟩
  | .changeOwner .. | .changeManager .. | .changeDrainer .. | .approve ..
  | .setApprovalForAll .. | .transferFrom .. => .ok ⟨0, none, []⟩

def registryMachine (edition : Edition) :
    Machine RegistryWorld RegistryCall RegistryFrame RegistryAnswer Revert where
  enter := RegistryWorld.enter edition
  resume := RegistryWorld.resume edition

end AutonolasRegistries.Source
