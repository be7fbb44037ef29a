import AutonolasRegistries.Library.CallStack
import AutonolasRegistries.Source.RegistryMachine
import AutonolasRegistries.Source.SubComponents

/-!
# Components, agents and services on L1

The three registries as one system: an agent is created from what the component
registry stores, and the service registry asks the agent registry for its total supply
in `create` and `update` and for the subcomponents of a service at the end of `deploy`.
-/
namespace AutonolasRegistries.Source
open Library

structure UnitsWorld where
  components : UnitState
  agents : UnitState
  services : RegistryWorld

inductive UnitCall where
  | create (sender : Caller) (unitOwner : Address) (unitHash : Bytes32)
      (dependencies : List Uint32)
  | updateHash (sender : Caller) (unitOwner : Address) (unitId : Nat) (unitHash : Bytes32)
  | changeOwner (sender : Caller) (newOwner : Address)
  | changeManager (sender : Caller) (newManager : Address)
  | approve (sender : Caller) (spender : Address) (id : Nat)
  | setApprovalForAll (sender : Caller) (operator : Address) (approved : Bool)
  | transferFrom (sender : Caller) (owner recipient : Address) (id : Nat)

/-- The service registry reads the number of agents itself, so the one in its calls
does not matter. -/
inductive UnitsCall where
  | component (call : UnitCall)
  | agent (call : UnitCall)
  | service (call : RegistryCall)

inductive UnitsFrame where
  | component
  | agent
  | service (frame : RegistryFrame)
  deriving DecidableEq, Repr

/-- Answer of the external call; the subcomponents of a service are not part of it, they are
read from the agent registry. -/
structure UnitsAnswer where
  multisig : Address
  result : Bool

namespace UnitState

/-- A call of a unit registry; a suspended one is a `create`. -/
def enter (unitType : UnitType) (components : UnitState) (call : UnitCall) (s : UnitState) :
    Except Revert (Outcome UnitState Unit) :=
  match call with
  | .create sender unitOwner unitHash dependencies => do
    let (s, _) ← UnitRegistry.create unitType components.totalSupply
      (fun componentId => components.mapSubComponents componentId.val) sender unitOwner unitHash
      dependencies s
    return .suspended s ()
  | .updateHash sender unitOwner unitId unitHash => do
    let s ← UnitRegistry.updateHash unitType sender unitOwner unitId unitHash s
    return .done s
  | .changeOwner sender newOwner => do
    let s ← UnitRegistry.changeOwner sender newOwner s
    return .done s
  | .changeManager sender newManager => do
    let s ← UnitRegistry.changeManager sender newManager s
    return .done s
  | .approve sender spender id => do
    let erc721 ← s.erc721.approve sender spender id
    return .done { s with erc721 }
  | .setApprovalForAll sender operator approved =>
    .ok (.done { s with erc721 := s.erc721.setApprovalForAll sender operator approved })
  | .transferFrom sender owner recipient id => do
    let erc721 ← s.erc721.transferFrom sender owner recipient id
    return .done { s with erc721 }

end UnitState

/-- `agentTotalSupply` as the service registry reads it. -/
def RegistryCall.withAgents (agentTotalSupply : Nat) : RegistryCall → RegistryCall
  | .create sender serviceOwner _ configHash agentIds agentParams threshold =>
    .create sender serviceOwner agentTotalSupply configHash agentIds agentParams threshold
  | .update sender serviceOwner _ configHash agentIds agentParams threshold serviceId =>
    .update sender serviceOwner agentTotalSupply configHash agentIds agentParams threshold
      serviceId
  | call => call

namespace UnitsWorld

def deployment (deployer : Address) : UnitsWorld :=
  ⟨UnitRegistry.deployment deployer, UnitRegistry.deployment deployer,
    RegistryWorld.deployment deployer⟩

/-- `calculateSubComponents` of the agent registry. -/
def calculateSubComponents (unitIds : List Uint32) (w : UnitsWorld) :
    Except Revert (List Uint32) :=
  UnitRegistry.calculateSubComponents (fun agentId => w.agents.mapSubComponents agentId.val)
    unitIds

def enter (call : UnitsCall) (w : UnitsWorld) :
    Except Revert (Outcome UnitsWorld UnitsFrame) :=
  match call with
  | .component call => do
    let out ← UnitState.enter .component w.components call w.components
    return out.embed (fun s => { w with components := s }) fun _ => .component
  | .agent call => do
    let out ← UnitState.enter .agent w.components call w.agents
    return out.embed (fun s => { w with agents := s }) fun _ => .agent
  | .service call => do
    let out ← w.services.enter .l1 (call.withAgents w.agents.totalSupply)
    return out.embed (fun s => { w with services := s }) .service

/-- What the service registry still reads when its external call has returned. -/
def subComponents (frame : RegistryFrame) (w : UnitsWorld) : Except Revert (List Uint32) :=
  match frame with
  | .deploy serviceId =>
    w.calculateSubComponents (w.services.store.mapServices serviceId).agentIds
  | .create | .refund => .ok []

def resume (frame : UnitsFrame) (answer : UnitsAnswer) (w : UnitsWorld) :
    Except Revert (Outcome UnitsWorld UnitsFrame) :=
  match frame with
  | .component => .ok (.done { w with components := UnitRegistry.unlock w.components })
  | .agent => .ok (.done { w with agents := UnitRegistry.unlock w.agents })
  | .service frame => do
    let subComponents ← w.subComponents frame
    let out ← w.services.resume .l1 frame
      ⟨answer.multisig, subComponents, answer.result⟩
    return out.embed (fun s => { w with services := s }) .service

end UnitsWorld

def unitsMachine : Machine UnitsWorld UnitsCall UnitsFrame UnitsAnswer Revert where
  enter := UnitsWorld.enter
  resume := UnitsWorld.resume

end AutonolasRegistries.Source
