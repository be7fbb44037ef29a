import AutonolasRegistries.Library.BigEndian
import AutonolasRegistries.Source.Safe
import AutonolasRegistries.Source.ServiceRegistry

/-!
# RecoveryModule

The module that hands a Safe back to the owner of a service, and the multisig
implementation that redeploys a service on its Safe. `RecoveryModule.sol:226-415`.

`create` is cut in two where the source finishes its checks of the call and starts with
the Safe: `checkService` is the first part, and says which Safe is meant. Accounts that
are no Safe have no entry in the map of Safes; the code of the Safes is a parameter. `enableModule`, which a Safe runs on
itself while it is set up, and the events are left out.
-/
namespace AutonolasRegistries.Source
open Library

inductive RecoveryRevert where
  | ownerOnly (sender owner : Address)
  | registryOnly (sender registry : Address)
  | zeroAddress
  | wrongServiceState (state serviceId : Nat)
  | incorrectDataLength (expected provided : Nat)
  | wrongThreshold (expected provided : Nat)
  | wrongNumOwners (expected provided : Nat)
  | wrongOwner (provided : Address)
  | reentrancyGuard
  | registry (reason : Revert)
  | safe
  | panic (kind : Panic)
  deriving DecidableEq, Repr

/-- The module with its immutables, and the Safes it acts on. -/
structure RecoveryState where
  self : Address
  serviceRegistry : Address
  locked : Nat
  safes : Address → Option Safe

namespace RecoveryModule
variable (code : SafeCode)

def recoverThreshold : Nat := 1

def defaultDataLength : Nat := 32

/-- `abi.encode` of one number. -/
def encodeServiceId (serviceId : Nat) : List Byte := toBytes defaultDataLength serviceId

/-- A view of the registry. -/
def view {α : Type} (run : Except Revert α) : Except RecoveryRevert α :=
  run.mapError .registry

def safeAt (m : RecoveryState) (multisig : Address) : Except RecoveryRevert Safe :=
  match m.safes multisig with
  | some safe => .ok safe
  | none => .error .safe

/-- The batch through the Safe; what it returns is not looked at. -/
def execute (multisig : Address) (batch : List SafeCall) (m : RecoveryState) :
    Except RecoveryRevert RecoveryState := do
  let safe ← safeAt m multisig
  match code.execTransactionFromModule multisig m.self batch safe with
  | some (after, _) => return { m with safes := Function.update m.safes multisig (some after) }
  | none => .error .safe

/-- The batch of `recoverAccess`: all owners but the last are removed, and that one is
swapped for the service owner. -/
def recoverBatch (multisigOwners : List Address) (sender lastOwner : Address) :
    List SafeCall :=
  (multisigOwners.dropLast.map fun owner => .removeOwner Safe.sentinel owner recoverThreshold) ++
    [.swapOwner Safe.sentinel lastOwner sender]

def recoverAccess (sender : Address) (serviceId : Nat) (s : RegistryState) (m : RecoveryState) :
    Except RecoveryRevert RecoveryState := do
  revertIf (1 < m.locked) .reentrancyGuard
  let m := { m with locked := 2 }
  let serviceOwner ← view (s.erc721.ownerOf serviceId)
  revertIf (sender ≠ serviceOwner) (.ownerOnly sender serviceOwner)
  let service := s.mapServices serviceId
  revertIf (service.state ≠ .preRegistration)
    (.wrongServiceState service.state.toNat serviceId)
  revertIf (service.multisig = 0) .zeroAddress
  let safe ← safeAt m service.multisig
  match safe.owners.getLast? with
  | none => .error (.panic .arithmetic)
  | some lastOwner =>
    let m ← execute code service.multisig (recoverBatch safe.owners sender lastOwner) m
    return { m with locked := 1 }

/-- The comparison of the owners with the instances of the service. -/
def checkOwners : List Address → List Address → Except RecoveryRevert Unit
  | owner :: owners, agentInstance :: agentInstances => do
    revertIf (owner ≠ agentInstance) (.wrongOwner owner)
    checkOwners owners agentInstances
  | _, _ => .ok ()

/-- Up to the comparison of owners and agent instances; returns the service owner and
the multisig of the service in `data`. -/
def checkService (sender : Address) (multisigOwners : List Address) (threshold : Nat)
    (data : List Byte) (s : RegistryState) (m : RecoveryState) :
    Except RecoveryRevert (Address × Address) := do
  revertIf (1 < m.locked) .reentrancyGuard
  revertIf (sender ≠ m.serviceRegistry) (.registryOnly sender m.serviceRegistry)
  revertIf (data.length ≠ defaultDataLength) (.incorrectDataLength defaultDataLength data.length)
  let serviceId := ofBytes data
  let serviceOwner ← view (s.erc721.ownerOf serviceId)
  let service := s.mapServices serviceId
  revertIf (service.multisig = 0) .zeroAddress
  revertIf (service.threshold.val ≠ threshold) (.wrongThreshold service.threshold.val threshold)
  let agentInstances ← view (ServiceRegistry.getAgentInstances service serviceId s)
  revertIf (multisigOwners.length ≠ agentInstances.length)
    (.wrongNumOwners agentInstances.length multisigOwners.length)
  checkOwners multisigOwners agentInstances
  return (serviceOwner, service.multisig)

/-- The batch that replaces the service owner by the agent instances. -/
def redeployBatch (multisigOwners : List Address) (firstOwner serviceOwner : Address)
    (threshold : Nat) : List SafeCall :=
  (multisigOwners.map fun owner => .addOwnerWithThreshold owner recoverThreshold) ++
    [.removeOwner firstOwner serviceOwner threshold]

/-- Hands the Safe over when the service owner is its only owner. -/
def handOver (multisigOwners : List Address) (threshold : Nat) (serviceOwner multisig : Address)
    (m : RecoveryState) : Except RecoveryRevert RecoveryState := do
  let safe ← safeAt m multisig
  if safe.owners = [serviceOwner] then
    match multisigOwners with
    | [] => .error (.panic .arrayIndex)
    | firstOwner :: _ =>
      execute code multisig (redeployBatch multisigOwners firstOwner serviceOwner threshold) m
  else return m

def create (sender : Address) (multisigOwners : List Address) (threshold : Nat)
    (data : List Byte) (s : RegistryState) (m : RecoveryState) :
    Except RecoveryRevert (RecoveryState × Address) := do
  let (serviceOwner, multisig) ← checkService sender multisigOwners threshold data s m
  let m ← handOver code multisigOwners threshold serviceOwner multisig { m with locked := 2 }
  let safe ← safeAt m multisig
  revertIf (threshold ≠ safe.threshold) (.wrongThreshold safe.threshold threshold)
  revertIf (multisigOwners.length ≠ safe.owners.length)
    (.wrongNumOwners safe.owners.length multisigOwners.length)
  -- The Safe lists its owners in the reverse order of their addition.
  checkOwners multisigOwners safe.owners.reverse
  return ({ m with locked := 1 }, multisig)

/-- `deploy` of the registry at `m.serviceRegistry` with the module as the multisig
implementation. -/
def deploy (edition : Edition) (sender serviceOwner : Address) (serviceId : Nat)
    (data : List Byte) (subComponents : List Uint32) (s : RegistryState) (m : RecoveryState) :
    Except RecoveryRevert (RegistryState × RecoveryState) := do
  let (s, agentInstances) ← view (ServiceRegistry.deploy sender serviceOwner serviceId m.self s)
  let threshold := (s.mapServices serviceId).threshold
  let (m, multisig) ← create code m.serviceRegistry agentInstances threshold.val data s m
  return (ServiceRegistry.deployReturn edition serviceId multisig subComponents s, m)

end RecoveryModule
end AutonolasRegistries.Source
