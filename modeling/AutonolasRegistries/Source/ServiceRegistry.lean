import Mathlib.Logic.Function.Basic
import AutonolasRegistries.Source.ERC721

/-!
# ServiceRegistry and ServiceRegistryL2

The two registries share their code; `Edition` selects the three places where the
L1 contract does more: the bound on agent Ids in `_initialChecks`, and the
component and agent sets written by `deploy` and cleared by `terminate`.
`ServiceRegistryL2.sol:127-871`, `ServiceRegistry.sol:135-901`.

A function that makes an external call is cut there: the definition ends with the
storage at the moment of the call, and the statements after the call are a second
definition. Events, the base URI and the view functions that nothing here calls
are left out.
-/
namespace AutonolasRegistries.Source
open Library

inductive Edition where
  | l1 | l2
  deriving DecidableEq, Repr

structure RegistryState where
  erc721 : ERC721
  owner : Address
  manager : Address
  drainer : Address
  totalSupply : Nat
  locked : Nat
  slashedFunds : Nat
  mapConfigHashes : Nat → List Bytes32
  mapOperatorAndServiceIdAgentInstances : Word → List AgentInstance
  mapServiceAndAgentIdAgentParams : Word → AgentParams
  mapServiceAndAgentIdAgentInstances : Word → List Address
  mapOperatorAndServiceIdOperatorBalances : Word → Nat
  mapAgentInstanceOperators : Address → Address
  mapMultisigs : Address → Bool
  mapServices : Nat → Service
  mapServiceIdSetComponentIds : Nat → List Uint32
  mapServiceIdSetAgentIds : Nat → List Uint32

namespace ServiceRegistry

/-- Storage after the constructor. -/
def deployment (deployer : Address) : RegistryState where
  erc721 := ⟨fun _ => 0, fun _ => 0, fun _ _ => false⟩
  owner := deployer
  manager := 0
  drainer := 0
  totalSupply := 0
  locked := 1
  slashedFunds := 0
  mapConfigHashes := fun _ => []
  mapOperatorAndServiceIdAgentInstances := fun _ => []
  mapServiceAndAgentIdAgentParams := fun _ => default
  mapServiceAndAgentIdAgentInstances := fun _ => []
  mapOperatorAndServiceIdOperatorBalances := fun _ => 0
  mapAgentInstanceOperators := fun _ => 0
  mapMultisigs := fun _ => false
  mapServices := fun _ => Service.empty
  mapServiceIdSetComponentIds := fun _ => []
  mapServiceIdSetAgentIds := fun _ => []

/-- The duplicate check of `_initialChecks`: each Id exceeds the one before it. -/
def checkAgentIds (edition : Edition) (agentTotalSupply : Nat) :
    Nat → List Uint32 → Except Revert Unit
  | _, [] => .ok ()
  | lastId, agentId :: rest => do
    revertIf (agentId.val < lastId + 1 ∨ (edition = .l1 ∧ agentTotalSupply < agentId.val))
      (.wrongAgentId agentId.val)
    checkAgentIds edition agentTotalSupply agentId.val rest

def initialChecks (edition : Edition) (agentTotalSupply : Nat) (configHash : Bytes32)
    (agentIds : List Uint32) (agentParams : List AgentParams) : Except Revert Unit := do
  revertIf (configHash = 0) .zeroValue
  revertIf (agentIds.length = 0 ∨ agentIds.length ≠ agentParams.length)
    (.wrongArrayLength agentIds.length agentParams.length)
  checkAgentIds edition agentTotalSupply 0 agentIds

/-- The running values of the loop in `_setServiceData`. -/
structure ServiceData where
  mapParams : Word → AgentParams
  maxNumAgentInstances : Nat
  securityDeposit : Nat

def setServiceDataBody (serviceId : Nat) (entry : Uint32 × AgentParams) (d : ServiceData) :
    Except Revert ServiceData := do
  let maxNumAgentInstances ←
    checkedAdd 32 (.panic .arithmetic) d.maxNumAgentInstances entry.2.slots.val
  return {
    mapParams := Function.update d.mapParams (serviceAgent serviceId entry.1) entry.2
    maxNumAgentInstances
    securityDeposit := max d.securityDeposit entry.2.bond.val }

/-- `ceil((2 n + 1) / 3)` as the source computes it. -/
def checkThreshold (maxNumAgentInstances : Nat) : Nat :=
  if (maxNumAgentInstances * 2 + 1) % 3 = 0 then (maxNumAgentInstances * 2 + 1) / 3
  else (maxNumAgentInstances * 2 + 1) / 3 + 1

/-- `_setServiceData` on a service whose instance counters start at zero. -/
def setServiceData (service : Service) (entries : List (Uint32 × AgentParams)) (serviceId : Nat)
    (s : RegistryState) : Except Revert (RegistryState × Service) := do
  let d ← loop (setServiceDataBody serviceId) entries
    ⟨s.mapServiceAndAgentIdAgentParams, 0, 0⟩
  let doubled ← checkedMul 32 (.panic .arithmetic) d.maxNumAgentInstances 2
  let _ ← checkedAdd 32 (.panic .arithmetic) doubled 1
  let least := checkThreshold d.maxNumAgentInstances
  revertIf (service.threshold.val < least ∨ d.maxNumAgentInstances < service.threshold.val)
    (.wrongThreshold service.threshold.val least d.maxNumAgentInstances)
  return ({ s with mapServiceAndAgentIdAgentParams := d.mapParams },
    { service with
      agentIds := entries.map Prod.fst
      maxNumAgentInstances := d.maxNumAgentInstances
      securityDeposit := d.securityDeposit })

/-- Up to the `onERC721Received` call of `_safeMint`. -/
def create (edition : Edition) (agentTotalSupply : Nat) (sender serviceOwner : Address)
    (configHash : Bytes32) (agentIds : List Uint32) (agentParams : List AgentParams)
    (threshold : Uint32) (s : RegistryState) : Except Revert (RegistryState × Nat) := do
  revertIf (1 < s.locked) .reentrancyGuard
  let s := { s with locked := 2 }
  revertIf (s.manager ≠ sender) (.managerOnly sender s.manager)
  revertIf (serviceOwner = 0) .zeroAddress
  initialChecks edition agentTotalSupply configHash agentIds agentParams
  revertIf (∃ p ∈ agentParams, p.slots = 0 ∨ p.bond = 0) .zeroValue
  let serviceId ← checkedAdd 256 (.panic .arithmetic) s.totalSupply 1
  let service := { Service.empty with threshold, configHash, state := .preRegistration }
  let (s, service) ← setServiceData service (agentIds.zip agentParams) serviceId s
  let s := { s with
    mapServices := Function.update s.mapServices serviceId service
    totalSupply := serviceId }
  let erc721 ← s.erc721.mint serviceOwner serviceId
  return ({ s with erc721 }, serviceId)

/-- The last statement of every locked function. -/
def unlock (s : RegistryState) : RegistryState := { s with locked := 1 }

/-- Deletes the parameters of the Ids that are passed with no slots. -/
def deleteParams (serviceId : Nat) (entries : List (Uint32 × AgentParams))
    (mapParams : Word → AgentParams) : Word → AgentParams :=
  entries.foldl (fun m entry =>
    if entry.2.slots = 0 then Function.update m (serviceAgent serviceId entry.1) default else m)
    mapParams

def update (edition : Edition) (agentTotalSupply : Nat) (sender serviceOwner : Address)
    (configHash : Bytes32) (agentIds : List Uint32) (agentParams : List AgentParams)
    (threshold : Uint32) (serviceId : Nat) (s : RegistryState) :
    Except Revert RegistryState := do
  revertIf (s.manager ≠ sender) (.managerOnly sender s.manager)
  let actualOwner ← s.erc721.ownerOf serviceId
  revertIf (actualOwner ≠ serviceOwner) (.ownerOnly serviceOwner actualOwner)
  let service := s.mapServices serviceId
  revertIf (service.state ≠ .preRegistration)
    (.wrongServiceState service.state.toNat serviceId)
  initialChecks edition agentTotalSupply configHash agentIds agentParams
  let service := { service with threshold }
  let entries := agentIds.zip agentParams
  let s := { s with
    mapServiceAndAgentIdAgentParams :=
      deleteParams serviceId entries s.mapServiceAndAgentIdAgentParams }
  let lastConfigHash := service.configHash
  let s := { s with
    mapConfigHashes :=
      if lastConfigHash ≠ configHash then
        Function.update s.mapConfigHashes serviceId
          (s.mapConfigHashes serviceId ++ [lastConfigHash])
      else s.mapConfigHashes }
  let service := { service with configHash }
  let (s, service) ←
    setServiceData service (entries.filter fun e => e.2.slots ≠ 0) serviceId s
  return { s with mapServices := Function.update s.mapServices serviceId service }

def activateRegistration (sender : Address) (value : Nat) (serviceOwner : Address)
    (serviceId : Nat) (s : RegistryState) : Except Revert RegistryState := do
  revertIf (s.manager ≠ sender) (.managerOnly sender s.manager)
  let actualOwner ← s.erc721.ownerOf serviceId
  revertIf (actualOwner ≠ serviceOwner) (.ownerOnly serviceOwner actualOwner)
  let service := s.mapServices serviceId
  revertIf (service.state ≠ .preRegistration) (.serviceMustBeInactive serviceId)
  revertIf (value ≠ service.securityDeposit)
    (.incorrectRegistrationDepositValue value service.securityDeposit serviceId)
  return { s with
    mapServices := Function.update s.mapServices serviceId
      { service with state := .activeRegistration } }

/-- First loop of `registerAgents`: the bond of each listed Id. -/
def totalBondBody (serviceId : Nat) (mapParams : Word → AgentParams) (agentId : Uint32)
    (totalBond : Nat) : Except Revert Nat := do
  let agentParams := mapParams (serviceAgent serviceId agentId)
  revertIf (agentParams.slots = 0) (.agentNotInService agentId.val serviceId)
  checkedAdd 256 (.panic .arithmetic) totalBond agentParams.bond.val

/-- Second loop of `registerAgents`: one instance. -/
def registerAgentBody (operator : Address) (serviceId : Nat) (entry : Address × Uint32)
    (s : RegistryState) : Except Revert RegistryState := do
  let (agentInstance, agentId) := entry
  revertIf (operator = agentInstance) (.wrongOperator serviceId)
  revertIf (s.mapAgentInstanceOperators agentInstance ≠ 0)
    (.agentInstanceRegistered (s.mapAgentInstanceOperators agentInstance))
  let key := serviceAgent serviceId agentId
  revertIf ((s.mapServiceAndAgentIdAgentInstances key).length =
    (s.mapServiceAndAgentIdAgentParams key).slots.val) (.agentInstancesSlotsFilled serviceId)
  let opKey := operatorService operator serviceId
  let service := s.mapServices serviceId
  let numAgentInstances ← checkedAdd 32 (.panic .arithmetic) service.numAgentInstances 1
  return { s with
    mapServiceAndAgentIdAgentInstances :=
      Function.update s.mapServiceAndAgentIdAgentInstances key
        (s.mapServiceAndAgentIdAgentInstances key ++ [agentInstance])
    mapOperatorAndServiceIdAgentInstances :=
      Function.update s.mapOperatorAndServiceIdAgentInstances opKey
        (s.mapOperatorAndServiceIdAgentInstances opKey ++ [⟨agentInstance, agentId⟩])
    mapServices := Function.update s.mapServices serviceId { service with numAgentInstances }
    mapAgentInstanceOperators :=
      Function.update s.mapAgentInstanceOperators agentInstance operator }

def registerAgents (sender : Address) (value : Nat) (operator : Address) (serviceId : Nat)
    (agentInstances : List Address) (agentIds : List Uint32) (s : RegistryState) :
    Except Revert RegistryState := do
  revertIf (s.manager ≠ sender) (.managerOnly sender s.manager)
  revertIf (agentInstances.length ≠ agentIds.length)
    (.wrongArrayLength agentInstances.length agentIds.length)
  revertIf ((s.mapServices serviceId).state ≠ .activeRegistration)
    (.wrongServiceState (s.mapServices serviceId).state.toNat serviceId)
  let totalBond ← loop (totalBondBody serviceId s.mapServiceAndAgentIdAgentParams) agentIds 0
  revertIf (value ≠ totalBond) (.incorrectAgentBondingValue value totalBond serviceId)
  revertIf (s.mapAgentInstanceOperators operator ≠ 0) (.wrongOperator serviceId)
  let s ← loop (registerAgentBody operator serviceId) (agentInstances.zip agentIds) s
  let service := s.mapServices serviceId
  let s := { s with
    mapServices :=
      if service.numAgentInstances = service.maxNumAgentInstances then
        Function.update s.mapServices serviceId { service with state := .finishedRegistration }
      else s.mapServices }
  let opKey := operatorService operator serviceId
  let balance ← checkedAdd 96 (.panic .arithmetic)
    (s.mapOperatorAndServiceIdOperatorBalances opKey) (value % 2 ^ 96)
  return { s with
    mapOperatorAndServiceIdOperatorBalances :=
      Function.update s.mapOperatorAndServiceIdOperatorBalances opKey balance }

/-- One write `agentInstances[count] = instance; count++` of `_getAgentInstances`. -/
def fillBody (agentInstance : Address) (filled : List Address × Nat) :
    Except Revert (List Address × Nat) := do
  revertIf (filled.1.length ≤ filled.2) (.panic .arrayIndex)
  return (filled.1.set filled.2 agentInstance, filled.2 + 1)

/-- `_getAgentInstances`: an array of `numAgentInstances` zero addresses, filled with
the lists of the service's current agent Ids. -/
def getAgentInstances (service : Service) (serviceId : Nat) (s : RegistryState) :
    Except Revert (List Address) := do
  let (agentInstances, _) ← loop
    (fun agentId filled =>
      loop fillBody (s.mapServiceAndAgentIdAgentInstances (serviceAgent serviceId agentId)) filled)
    service.agentIds (List.replicate service.numAgentInstances 0, 0)
  return agentInstances

/-- Up to the call of the multisig implementation; returns the owners it is given. -/
def deploy (sender serviceOwner : Address) (serviceId : Nat) (multisigImplementation : Address)
    (s : RegistryState) : Except Revert (RegistryState × List Address) := do
  revertIf (1 < s.locked) .reentrancyGuard
  let s := { s with locked := 2 }
  revertIf (s.manager ≠ sender) (.managerOnly sender s.manager)
  let actualOwner ← s.erc721.ownerOf serviceId
  revertIf (actualOwner ≠ serviceOwner) (.ownerOnly serviceOwner actualOwner)
  revertIf (s.mapMultisigs multisigImplementation = false)
    (.unauthorizedMultisig multisigImplementation)
  let service := s.mapServices serviceId
  revertIf (service.state ≠ .finishedRegistration)
    (.wrongServiceState service.state.toNat serviceId)
  let agentInstances ← getAgentInstances service serviceId s
  return (s, agentInstances)

/-- After the multisig implementation returned `multisig`. On L1 the answer of
`calculateSubComponents` is needed as well. -/
def deployReturn (edition : Edition) (serviceId : Nat) (multisig : Address)
    (subComponents : List Uint32) (s : RegistryState) : RegistryState :=
  let service := s.mapServices serviceId
  let s := { s with
    mapServiceIdSetAgentIds :=
      if edition = Edition.l1 then Function.update s.mapServiceIdSetAgentIds serviceId service.agentIds
      else s.mapServiceIdSetAgentIds
    mapServiceIdSetComponentIds :=
      if edition = Edition.l1 then Function.update s.mapServiceIdSetComponentIds serviceId subComponents
      else s.mapServiceIdSetComponentIds }
  unlock { s with
    mapServices := Function.update s.mapServices serviceId
      { service with multisig, state := .deployed } }

/-- One iteration of the loop in `slash`. -/
def slashBody (serviceId : Nat) (entry : Address × Uint96) (s : RegistryState) :
    Except Revert RegistryState := do
  let (agentInstance, amount) := entry
  let operator := s.mapAgentInstanceOperators agentInstance
  let key := operatorService operator serviceId
  let balance := s.mapOperatorAndServiceIdOperatorBalances key
  let bumped ← checkedAdd 96 (.panic .arithmetic) amount.val 1
  let taken := if balance < bumped then balance else amount.val
  let slashedFunds ← checkedAdd 96 (.panic .arithmetic) s.slashedFunds taken
  return { s with
    slashedFunds
    mapOperatorAndServiceIdOperatorBalances :=
      Function.update s.mapOperatorAndServiceIdOperatorBalances key (balance - taken) }

def slash (sender : Address) (agentInstances : List Address) (amounts : List Uint96)
    (serviceId : Nat) (s : RegistryState) : Except Revert RegistryState := do
  let service := s.mapServices serviceId
  revertIf (service.state ≠ .deployed) (.wrongServiceState service.state.toNat serviceId)
  revertIf (agentInstances.length ≠ amounts.length)
    (.wrongArrayLength agentInstances.length amounts.length)
  revertIf (sender ≠ service.multisig) (.onlyOwnServiceMultisig sender service.multisig serviceId)
  loop (slashBody serviceId) (agentInstances.zip amounts) s

/-- Clears the instance lists of the listed Ids. -/
def deleteInstances (serviceId : Nat) (agentIds : List Uint32)
    (m : Word → List Address) : Word → List Address :=
  agentIds.foldl (fun m agentId => Function.update m (serviceAgent serviceId agentId) []) m

/-- Up to the refund call; returns the refund sent to the service owner. -/
def terminate (edition : Edition) (sender serviceOwner : Address) (serviceId : Nat)
    (s : RegistryState) : Except Revert (RegistryState × Nat) := do
  revertIf (1 < s.locked) .reentrancyGuard
  let s := { s with locked := 2 }
  revertIf (s.manager ≠ sender) (.managerOnly sender s.manager)
  let actualOwner ← s.erc721.ownerOf serviceId
  revertIf (actualOwner ≠ serviceOwner) (.ownerOnly serviceOwner actualOwner)
  let service := s.mapServices serviceId
  revertIf (service.state = .preRegistration ∨ service.state = .terminatedBonded)
    (.wrongServiceState service.state.toNat serviceId)
  let state : ServiceState :=
    if 0 < service.numAgentInstances then .terminatedBonded else .preRegistration
  return ({ s with
    mapServices := Function.update s.mapServices serviceId { service with state }
    mapServiceIdSetComponentIds :=
      if edition = Edition.l1 then Function.update s.mapServiceIdSetComponentIds serviceId []
      else s.mapServiceIdSetComponentIds
    mapServiceIdSetAgentIds :=
      if edition = Edition.l1 then Function.update s.mapServiceIdSetAgentIds serviceId []
      else s.mapServiceIdSetAgentIds
    mapServiceAndAgentIdAgentInstances :=
      deleteInstances serviceId service.agentIds s.mapServiceAndAgentIdAgentInstances },
    service.securityDeposit)

/-- Frees the instances of an operator. -/
def freeInstances (agentInstances : List AgentInstance) (m : Address → Address) :
    Address → Address :=
  agentInstances.foldl (fun m a => Function.update m a.inst 0) m

/-- Sum of the current bonds of an operator's instances. -/
def bondSum (serviceId : Nat) (agentInstances : List AgentInstance)
    (mapParams : Word → AgentParams) : Nat :=
  (agentInstances.map fun a => (mapParams (serviceAgent serviceId a.agentId)).bond.val).sum

/-- Up to the refund call, or to the end when there is nothing to refund; returns
the refund. -/
def unbond (sender operator : Address) (serviceId : Nat) (s : RegistryState) :
    Except Revert (RegistryState × Nat) := do
  revertIf (1 < s.locked) .reentrancyGuard
  let s := { s with locked := 2 }
  revertIf (s.manager ≠ sender) (.managerOnly sender s.manager)
  revertIf (operator = 0) .zeroAddress
  let service := s.mapServices serviceId
  revertIf (service.state ≠ .terminatedBonded)
    (.wrongServiceState service.state.toNat serviceId)
  let key := operatorService operator serviceId
  let agentInstances := s.mapOperatorAndServiceIdAgentInstances key
  revertIf (agentInstances.length = 0) (.operatorHasNoInstances operator serviceId)
  let numAgentInstances ← checkedSub (.panic .arithmetic) service.numAgentInstances
    (agentInstances.length % 2 ^ 32)
  let state := if numAgentInstances = 0 then .preRegistration else service.state
  let refund ← checkedAdd 256 (.panic .arithmetic) 0
    (bondSum serviceId agentInstances s.mapServiceAndAgentIdAgentParams)
  let balance := s.mapOperatorAndServiceIdOperatorBalances key
  let refund := min refund balance
  return ({ s with
    mapServices := Function.update s.mapServices serviceId
      { service with numAgentInstances, state }
    mapAgentInstanceOperators := freeInstances agentInstances s.mapAgentInstanceOperators
    mapOperatorAndServiceIdAgentInstances :=
      Function.update s.mapOperatorAndServiceIdAgentInstances key []
    mapOperatorAndServiceIdOperatorBalances :=
      if 0 < refund then Function.update s.mapOperatorAndServiceIdOperatorBalances key 0
      else s.mapOperatorAndServiceIdOperatorBalances }, refund)

/-- Up to the transfer to the drainer; returns the amount. -/
def drain (sender : Address) (s : RegistryState) : Except Revert (RegistryState × Nat) := do
  revertIf (1 < s.locked) .reentrancyGuard
  let s := { s with locked := 2 }
  revertIf (sender ≠ s.drainer) (.managerOnly sender s.drainer)
  return ({ s with slashedFunds := 0 }, s.slashedFunds)

def changeOwner (sender newOwner : Address) (s : RegistryState) :
    Except Revert RegistryState := do
  revertIf (sender ≠ s.owner) (.ownerOnly sender s.owner)
  revertIf (newOwner = 0) .zeroAddress
  return { s with owner := newOwner }

def changeManager (sender newManager : Address) (s : RegistryState) :
    Except Revert RegistryState := do
  revertIf (sender ≠ s.owner) (.ownerOnly sender s.owner)
  revertIf (newManager = 0) .zeroAddress
  return { s with manager := newManager }

def changeDrainer (sender newDrainer : Address) (s : RegistryState) :
    Except Revert RegistryState := do
  revertIf (sender ≠ s.owner) (.ownerOnly sender s.owner)
  revertIf (newDrainer = 0) .zeroAddress
  return { s with drainer := newDrainer }

def changeMultisigPermission (sender multisig : Address) (permission : Bool)
    (s : RegistryState) : Except Revert RegistryState := do
  revertIf (sender ≠ s.owner) (.ownerOnly sender s.owner)
  revertIf (multisig = 0) .zeroAddress
  return { s with mapMultisigs := Function.update s.mapMultisigs multisig permission }

end ServiceRegistry
end AutonolasRegistries.Source
