import AutonolasRegistries.Library.CallStack
import AutonolasRegistries.Source.Types

/-!
# ServiceRegistrySolana

The registry on Solana, `ServiceRegistrySolana.sol:10-734`. A service holds its own arrays,
the accounts of a transaction say who signed, and the deposits and bonds of all services lie
in one escrow account. A transaction calls the system program and nothing else, so a
function runs in one piece. Lamports that moved in and out of the escrow account are counted
beside the storage; whether a transfer goes through is call data.

`keccak256(abi.encode(operator, serviceId))` is the parameter `operatorServiceIdHash`. The
base URI, the program storage address and the bump bytes decide nothing here and are left
out.
-/
namespace AutonolasRegistries.Source
open Library

abbrev Pubkey := Fin (2 ^ 256)
abbrev Uint64 := Fin (2 ^ 64)

instance uint64_neZero : NeZero (2 ^ 64) := ⟨by decide⟩
instance uint64_lawfulBEq : LawfulBEq Uint64 := inferInstance

/-- An account of a transaction. The zero key is the system program's, which does not sign. -/
structure TxAccount where
  key : Pubkey
  isSigner : Bool
  signs : isSigner = true → key ≠ 0
  deriving DecidableEq

structure SolanaService where
  serviceOwner : Pubkey
  securityDeposit : Nat
  multisig : Pubkey
  configHash : Bytes32
  threshold : Uint32
  maxNumAgentInstances : Nat
  numAgentInstances : Nat
  state : ServiceState
  agentIds : List Uint32
  slots : List Uint32
  bonds : List Uint64
  operators : List Pubkey
  agentInstances : List Pubkey
  agentIdForAgentInstances : List Uint32
  deriving DecidableEq, Repr

/-- A record that was never written. -/
def SolanaService.empty : SolanaService :=
  ⟨0, 0, 0, 0, 0, 0, 0, .nonExistent, [], [], [], [], [], []⟩

structure SolanaState where
  owner : Pubkey
  totalSupply : Nat
  locked : Nat
  slashedFunds : Nat
  mapAgentInstanceOperators : Pubkey → Pubkey
  mapOperatorAndServiceIdOperatorBalances : Bytes32 → Nat
  services : Uint32 → SolanaService

/-- The messages of the source. -/
inductive SolanaRevert where
  | authorityMustSign | authorityMissing | reentrancyGuard | zeroAddress | zeroValue
  | wrongArrayLength | wrongAgentId | wrongThreshold | wrongServiceState
  | serviceMustBeInactive | agentNotInService | agentInstancesSlotsFilled | wrongOperator
  | agentInstanceRegistered | operatorHasNoInstances | transferFailed
  | panic (kind : Panic)
  deriving DecidableEq, Repr

namespace ServiceRegistrySolana

def requireSigner (accounts : List TxAccount) (authority : Pubkey) :
    Except SolanaRevert Unit :=
  match accounts.find? fun account => account.key = authority with
  | some account => revertIf (account.isSigner = false) .authorityMustSign
  | none => .error .authorityMissing

/-- The key of the first account that signed, which acts as the operator. -/
def signingOperator (accounts : List TxAccount) : Except SolanaRevert Pubkey := do
  let operator := match accounts.find? fun account => account.isSigner with
    | some account => account.key
    | none => 0
  revertIf (operator = 0) .zeroAddress
  return operator

/-- `services[serviceId]`; the array has one entry less than there are Ids. -/
def service (serviceId : Uint32) (s : SolanaState) : Except SolanaRevert SolanaService := do
  revertIf (2 ^ 32 - 1 ≤ serviceId.val) (.panic .arrayIndex)
  return s.services serviceId

def write (serviceId : Uint32) (sv : SolanaService) (s : SolanaState) : SolanaState :=
  { s with services := Function.update s.services serviceId sv }

def lock (s : SolanaState) : Except SolanaRevert SolanaState := do
  revertIf (1 < s.locked) .reentrancyGuard
  return { s with locked := 2 }

def unlock (s : SolanaState) : SolanaState := { s with locked := 1 }

def changeOwner (accounts : List TxAccount) (newOwner : Pubkey) (s : SolanaState) :
    Except SolanaRevert SolanaState := do
  requireSigner accounts s.owner
  revertIf (newOwner = 0) .zeroAddress
  return { s with owner := newOwner }

def transfer (accounts : List TxAccount) (serviceId : Uint32) (newServiceOwner : Pubkey)
    (s : SolanaState) : Except SolanaRevert SolanaState := do
  let sv ← service serviceId s
  requireSigner accounts sv.serviceOwner
  revertIf (newServiceOwner = 0) .zeroAddress
  return write serviceId { sv with serviceOwner := newServiceOwner } s

/-- One iteration of the loop that asks for ascending agent Ids. -/
def ascendingBody (agentId : Uint32) (lastId : Nat) : Except SolanaRevert Nat := do
  let least ← checkedAdd 32 (.panic .arithmetic) lastId 1
  revertIf (agentId.val < least) .wrongAgentId
  return agentId.val

def initialChecks (configHash : Bytes32) (agentIds slots : List Uint32) (bonds : List Uint64) :
    Except SolanaRevert Unit := do
  revertIf (configHash = 0) .zeroValue
  revertIf (agentIds.length = 0 ∨ agentIds.length ≠ slots.length ∨
    agentIds.length ≠ bonds.length) .wrongArrayLength
  let _ ← loop ascendingBody agentIds 0
  revertIf (0 ∈ slots ∨ 0 ∈ bonds) .zeroValue

/-- The sum of the slots, in 32 bits. -/
def addSlots (slot : Uint32) (maxNumAgentInstances : Nat) : Except SolanaRevert Nat :=
  checkedAdd 32 (.panic .arithmetic) maxNumAgentInstances slot.val

/-- The largest bond. -/
def maxBond (bonds : List Uint64) : Nat :=
  bonds.foldl (fun securityDeposit bond => max securityDeposit bond.val) 0

def setServiceData (sv : SolanaService) (agentIds slots : List Uint32) (bonds : List Uint64) :
    Except SolanaRevert SolanaService := do
  let maxNumAgentInstances ← loop addSlots slots sv.maxNumAgentInstances
  let twice ← checkedMul 32 (.panic .arithmetic) maxNumAgentInstances 2
  let raised ← checkedAdd 32 (.panic .arithmetic) twice 1
  let checkThreshold := if raised % 3 = 0 then raised / 3 else raised / 3 + 1
  revertIf (sv.threshold.val < checkThreshold ∨ maxNumAgentInstances < sv.threshold.val)
    .wrongThreshold
  return { sv with
    agentIds, slots, bonds, maxNumAgentInstances, securityDeposit := maxBond bonds }

def create (serviceOwner : Pubkey) (configHash : Bytes32) (agentIds slots : List Uint32)
    (bonds : List Uint64) (threshold : Uint32) (s : SolanaState) :
    Except SolanaRevert SolanaState := do
  let s ← lock s
  revertIf (serviceOwner = 0) .zeroAddress
  initialChecks configHash agentIds slots bonds
  let serviceId ← checkedAdd 32 (.panic .arithmetic) s.totalSupply 1
  let sv ← setServiceData
    { SolanaService.empty with threshold, configHash, state := .preRegistration }
    agentIds slots bonds
  let _ ← service (Fin.ofNat _ serviceId) s
  let s := write (Fin.ofNat _ serviceId) { sv with serviceOwner } s
  return unlock { s with totalSupply := serviceId }

def update (accounts : List TxAccount) (configHash : Bytes32) (agentIds slots : List Uint32)
    (bonds : List Uint64) (threshold : Uint32) (serviceId : Uint32) (s : SolanaState) :
    Except SolanaRevert SolanaState := do
  let sv ← service serviceId s
  requireSigner accounts sv.serviceOwner
  revertIf (sv.state ≠ .preRegistration) .wrongServiceState
  initialChecks configHash agentIds slots bonds
  let sv ← setServiceData { sv with threshold, maxNumAgentInstances := 0, configHash }
    agentIds slots bonds
  return write serviceId sv s

/-- Returns the lamports that go to the escrow account. -/
def activateRegistration (accounts : List TxAccount) (transferred : Bool) (serviceId : Uint32)
    (s : SolanaState) : Except SolanaRevert (SolanaState × Nat) := do
  let sv ← service serviceId s
  requireSigner accounts sv.serviceOwner
  revertIf (sv.state ≠ .preRegistration) .serviceMustBeInactive
  revertIf (transferred = false) .transferFailed
  return (write serviceId { sv with state := .activeRegistration } s, sv.securityDeposit)

/-- One iteration of the first loop of `registerAgents`: the bond is added and the slots are
looked at, as they were before the call. -/
def bondBody (sv : SolanaService) (agentId : Uint32) (totalBond : Nat) :
    Except SolanaRevert Nat := do
  let idx := sv.agentIds.idxOf agentId
  revertIf (idx = sv.agentIds.length) .agentNotInService
  let bond ← readAt (.panic .arrayIndex) sv.bonds idx
  let totalBond ← checkedAdd 64 (.panic .arithmetic) totalBond bond.val
  let numRegAgentInstances := sv.agentIdForAgentInstances.count agentId
  let slots ← readAt (.panic .arrayIndex) sv.slots idx
  revertIf (numRegAgentInstances = slots.val) .agentInstancesSlotsFilled
  return totalBond

/-- The old entries of an array in a new one of length `count + 1`, with `item` at the end. -/
def extend {α : Type} (count : Nat) (items : List α) (item : α) :
    Except SolanaRevert (List α) := do
  revertIf (items.length < count) (.panic .arrayIndex)
  return items.take count ++ [item]

/-- One iteration of the second loop of `registerAgents`. -/
def registerBody (operator : Pubkey) (serviceId : Uint32) (entry : Pubkey × Uint32)
    (s : SolanaState) : Except SolanaRevert SolanaState := do
  let agentInstance := entry.1
  revertIf (operator = agentInstance) .wrongOperator
  revertIf (s.mapAgentInstanceOperators agentInstance ≠ 0) .agentInstanceRegistered
  let sv := s.services serviceId
  let count := sv.operators.length
  let _ ← checkedAdd 32 (.panic .arithmetic) count 1
  let operators ← extend count sv.operators operator
  let agentInstances ← extend count sv.agentInstances agentInstance
  let agentIdForAgentInstances ← extend count sv.agentIdForAgentInstances entry.2
  let numAgentInstances ← checkedAdd 32 (.panic .arithmetic) sv.numAgentInstances 1
  let s := write serviceId
    { sv with operators, agentInstances, agentIdForAgentInstances, numAgentInstances } s
  return { s with
    mapAgentInstanceOperators :=
      Function.update s.mapAgentInstanceOperators agentInstance operator }

/-- A service with as many instances as slots is done with registration. -/
def fill (sv : SolanaService) : SolanaService :=
  if sv.numAgentInstances = sv.maxNumAgentInstances then
    { sv with state := .finishedRegistration }
  else sv

variable (operatorServiceIdHash : Pubkey → Uint32 → Bytes32)

/-- Returns the lamports that go to the escrow account. -/
def registerAgents (accounts : List TxAccount) (transferred : Bool) (serviceId : Uint32)
    (agentInstances : List Pubkey) (agentIds : List Uint32) (s : SolanaState) :
    Except SolanaRevert (SolanaState × Nat) := do
  revertIf (agentInstances.length ≠ agentIds.length) .wrongArrayLength
  let sv ← service serviceId s
  revertIf (sv.state ≠ .activeRegistration) .wrongServiceState
  let operator ← signingOperator accounts
  let totalBond ← loop (bondBody sv) agentIds 0
  revertIf (s.mapAgentInstanceOperators operator ≠ 0) .wrongOperator
  let s ← loop (registerBody operator serviceId) (agentInstances.zip agentIds) s
  let s := write serviceId (fill (s.services serviceId)) s
  revertIf (transferred = false) .transferFailed
  let key := operatorServiceIdHash operator serviceId
  let balance ← checkedAdd 64 (.panic .arithmetic)
    (s.mapOperatorAndServiceIdOperatorBalances key) totalBond
  return ({ s with
    mapOperatorAndServiceIdOperatorBalances :=
      Function.update s.mapOperatorAndServiceIdOperatorBalances key balance }, totalBond)

def deploy (accounts : List TxAccount) (serviceId : Uint32) (multisig : Pubkey)
    (s : SolanaState) : Except SolanaRevert SolanaState := do
  let s ← lock s
  let sv ← service serviceId s
  requireSigner accounts sv.serviceOwner
  revertIf (sv.state ≠ .finishedRegistration) .wrongServiceState
  revertIf (multisig = 0) .zeroAddress
  return unlock (write serviceId { sv with multisig, state := .deployed } s)

/-- One iteration of the loop in `slash`: the balance of the operator goes to the slashed
funds, up to the amount. -/
def slashBody (serviceId : Uint32) (entry : Pubkey × Uint64) (s : SolanaState) :
    Except SolanaRevert SolanaState := do
  let operator := s.mapAgentInstanceOperators entry.1
  let key := operatorServiceIdHash operator serviceId
  let balance := s.mapOperatorAndServiceIdOperatorBalances key
  let slashed := if balance ≤ entry.2.val then balance else entry.2.val
  let slashedFunds ← checkedAdd 64 (.panic .arithmetic) s.slashedFunds slashed
  return { s with
    slashedFunds
    mapOperatorAndServiceIdOperatorBalances :=
      Function.update s.mapOperatorAndServiceIdOperatorBalances key (balance - slashed) }

def slash (accounts : List TxAccount) (agentInstances : List Pubkey) (amounts : List Uint64)
    (serviceId : Uint32) (s : SolanaState) : Except SolanaRevert SolanaState := do
  let sv ← service serviceId s
  revertIf (sv.state ≠ .deployed) .wrongServiceState
  revertIf (agentInstances.length ≠ amounts.length) .wrongArrayLength
  requireSigner accounts sv.multisig
  loop (slashBody operatorServiceIdHash serviceId) (agentInstances.zip amounts) s

/-- Returns the lamports that go to the service owner. -/
def terminate (accounts : List TxAccount) (transferred : Bool) (serviceId : Uint32)
    (s : SolanaState) : Except SolanaRevert (SolanaState × Nat) := do
  let s ← lock s
  let sv ← service serviceId s
  requireSigner accounts sv.serviceOwner
  revertIf (sv.state = .preRegistration ∨ sv.state = .terminatedBonded) .wrongServiceState
  let state := if 0 < sv.numAgentInstances then ServiceState.terminatedBonded
    else .preRegistration
  revertIf (transferred = false) .transferFailed
  return (unlock (write serviceId { sv with state } s), sv.securityDeposit)

/-- What the loop of `unbond` carries: the service, the refund and the number of instances
that leave. -/
structure Unbonding where
  sv : SolanaService
  refund : Nat
  numAgentsUnbond : Nat

/-- The bond of an agent Id is added, if the service has the Id. -/
def addBond (sv : SolanaService) (agentId : Uint32) (refund : Nat) :
    Except SolanaRevert Nat := do
  let idx := sv.agentIds.idxOf agentId
  if idx < sv.agentIds.length then
    let bond ← readAt (.panic .arrayIndex) sv.bonds idx
    checkedAdd 64 (.panic .arithmetic) refund bond.val
  else return refund

/-- One iteration of the loop in `unbond`. -/
def unbondBody (operator : Pubkey) (j : Nat) (u : Unbonding) : Except SolanaRevert Unbonding := do
  let entry ← readAt (.panic .arrayIndex) u.sv.operators j
  if operator = entry then
    let agentId ← readAt (.panic .arrayIndex) u.sv.agentIdForAgentInstances j
    let operators ← writeAt (.panic .arrayIndex) u.sv.operators j 0
    let agentInstances ← writeAt (.panic .arrayIndex) u.sv.agentInstances j 0
    let agentIdForAgentInstances ←
      writeAt (.panic .arrayIndex) u.sv.agentIdForAgentInstances j 0
    let numAgentsUnbond ← checkedAdd 32 (.panic .arithmetic) u.numAgentsUnbond 1
    let sv := { u.sv with operators, agentInstances, agentIdForAgentInstances }
    let refund ← addBond sv agentId u.refund
    return ⟨sv, refund, numAgentsUnbond⟩
  else return u

/-- The arrays are deleted when the last operator has left. -/
def vacate (sv : SolanaService) : SolanaService :=
  if sv.numAgentInstances = 0 then
    { sv with
      operators := []
      agentInstances := []
      agentIdForAgentInstances := []
      state := .preRegistration }
  else sv

/-- The end of `unbond`: the operator gets `refund`, or its balance if that is less. -/
def refundOperator (transferred : Bool) (key : Bytes32) (refund : Nat) (s : SolanaState) :
    Except SolanaRevert (SolanaState × Nat) := do
  let balance := s.mapOperatorAndServiceIdOperatorBalances key
  let refund := if balance < refund then balance else refund
  if 0 < refund then
    revertIf (transferred = false) .transferFailed
    return ({ s with
      mapOperatorAndServiceIdOperatorBalances :=
        Function.update s.mapOperatorAndServiceIdOperatorBalances key 0 }, refund)
  else return (s, 0)

/-- Returns the lamports that go to the operator. -/
def unbond (accounts : List TxAccount) (transferred : Bool) (serviceId : Uint32)
    (s : SolanaState) : Except SolanaRevert (SolanaState × Nat) := do
  let s ← lock s
  let operator ← signingOperator accounts
  let sv ← service serviceId s
  revertIf (sv.state ≠ .terminatedBonded) .wrongServiceState
  let u ← loop (unbondBody operator) (List.range sv.operators.length) ⟨sv, 0, 0⟩
  revertIf (u.numAgentsUnbond = 0) .operatorHasNoInstances
  let numAgentInstances ← checkedSub (.panic .arithmetic) u.sv.numAgentInstances
    u.numAgentsUnbond
  let (s, amount) ← refundOperator transferred (operatorServiceIdHash operator serviceId) u.refund
    (write serviceId (vacate { u.sv with numAgentInstances }) s)
  return (unlock s, amount)

/-- Returns the lamports that are drained. -/
def drain (accounts : List TxAccount) (transferred : Bool) (s : SolanaState) :
    Except SolanaRevert (SolanaState × Nat) := do
  let s ← lock s
  requireSigner accounts s.owner
  if 0 < s.slashedFunds then
    revertIf (transferred = false) .transferFailed
    return (unlock { s with slashedFunds := 0 }, s.slashedFunds)
  else return (unlock s, 0)

/-- The storage after the constructor. -/
def deployment (owner : Pubkey) : SolanaState where
  owner := owner
  totalSupply := 0
  locked := 1
  slashedFunds := 0
  mapAgentInstanceOperators _ := 0
  mapOperatorAndServiceIdOperatorBalances _ := 0
  services _ := .empty

end ServiceRegistrySolana

/-- The program's storage, and the lamports moved into and out of its escrow account. -/
structure SolanaWorld where
  store : SolanaState
  received : Nat
  paid : Nat

inductive SolanaCall where
  | create (serviceOwner : Pubkey) (configHash : Bytes32) (agentIds slots : List Uint32)
      (bonds : List Uint64) (threshold : Uint32)
  | update (accounts : List TxAccount) (configHash : Bytes32) (agentIds slots : List Uint32)
      (bonds : List Uint64) (threshold : Uint32) (serviceId : Uint32)
  | activateRegistration (accounts : List TxAccount) (transferred : Bool) (serviceId : Uint32)
  | registerAgents (accounts : List TxAccount) (transferred : Bool) (serviceId : Uint32)
      (agentInstances : List Pubkey) (agentIds : List Uint32)
  | deploy (accounts : List TxAccount) (serviceId : Uint32) (multisig : Pubkey)
  | slash (accounts : List TxAccount) (agentInstances : List Pubkey) (amounts : List Uint64)
      (serviceId : Uint32)
  | terminate (accounts : List TxAccount) (transferred : Bool) (serviceId : Uint32)
  | unbond (accounts : List TxAccount) (transferred : Bool) (serviceId : Uint32)
  | drain (accounts : List TxAccount) (transferred : Bool)
  | changeOwner (accounts : List TxAccount) (newOwner : Pubkey)
  | transfer (accounts : List TxAccount) (serviceId : Uint32) (newServiceOwner : Pubkey)

namespace SolanaWorld

def deployment (owner : Pubkey) : SolanaWorld := ⟨ServiceRegistrySolana.deployment owner, 0, 0⟩

/-- A function that moves no lamports, one that takes some in, and one that sends some out. -/
def keeping (w : SolanaWorld) (run : Except SolanaRevert SolanaState) :
    Except SolanaRevert SolanaWorld := do
  let s ← run
  return { w with store := s }

def taking (w : SolanaWorld) (run : Except SolanaRevert (SolanaState × Nat)) :
    Except SolanaRevert SolanaWorld := do
  let (s, amount) ← run
  return { w with store := s, received := w.received + amount }

def sending (w : SolanaWorld) (run : Except SolanaRevert (SolanaState × Nat)) :
    Except SolanaRevert SolanaWorld := do
  let (s, amount) ← run
  return { w with store := s, paid := w.paid + amount }

open ServiceRegistrySolana in
def enter (operatorServiceIdHash : Pubkey → Uint32 → Bytes32) (call : SolanaCall)
    (w : SolanaWorld) : Except SolanaRevert SolanaWorld :=
  match call with
  | .create serviceOwner configHash agentIds slots bonds threshold =>
    w.keeping (create serviceOwner configHash agentIds slots bonds threshold w.store)
  | .update accounts configHash agentIds slots bonds threshold serviceId =>
    w.keeping (update accounts configHash agentIds slots bonds threshold serviceId w.store)
  | .activateRegistration accounts transferred serviceId =>
    w.taking (activateRegistration accounts transferred serviceId w.store)
  | .registerAgents accounts transferred serviceId agentInstances agentIds =>
    w.taking (registerAgents operatorServiceIdHash accounts transferred serviceId agentInstances
      agentIds w.store)
  | .deploy accounts serviceId multisig => w.keeping (deploy accounts serviceId multisig w.store)
  | .slash accounts agentInstances amounts serviceId =>
    w.keeping (slash operatorServiceIdHash accounts agentInstances amounts serviceId w.store)
  | .terminate accounts transferred serviceId =>
    w.sending (terminate accounts transferred serviceId w.store)
  | .unbond accounts transferred serviceId =>
    w.sending (unbond operatorServiceIdHash accounts transferred serviceId w.store)
  | .drain accounts transferred => w.sending (drain accounts transferred w.store)
  | .changeOwner accounts newOwner => w.keeping (changeOwner accounts newOwner w.store)
  | .transfer accounts serviceId newServiceOwner =>
    w.keeping (transfer accounts serviceId newServiceOwner w.store)

end SolanaWorld

/-- The program as a machine whose calls never wait. -/
def solanaMachine (operatorServiceIdHash : Pubkey → Uint32 → Bytes32) :
    Machine SolanaWorld SolanaCall Empty Empty SolanaRevert where
  enter call w := (w.enter operatorServiceIdHash call).map .done
  resume frame _ _ := frame.elim

end AutonolasRegistries.Source
