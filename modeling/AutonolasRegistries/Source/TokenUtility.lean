import AutonolasRegistries.Library.CallStack
import AutonolasRegistries.Source.ServiceRegistry

/-!
# ServiceRegistryTokenUtility

The token side of the registry, `ServiceRegistryTokenUtility.sol:78-683`. It reads the
registry and is written by its manager only, `slash` and `drain` apart. Each function is
cut at the call of the token. What the token's view functions answer before that call is
call data here, what the transfer answers and the balance read after it are the answer
of the external call.

The tokens pulled in and sent out are counted beside the storage. A token counts as sent
when the transfer is made, and as pulled in when `transferFrom` has returned and the
balance check has passed.
-/
namespace AutonolasRegistries.Source
open Library

structure TokenSecurityDeposit where
  token : Address
  securityDeposit : Nat
  deriving DecidableEq, Repr

/-- A record that was never written, or deleted. -/
def TokenSecurityDeposit.empty : TokenSecurityDeposit := ⟨0, 0⟩

structure UtilityState where
  self : Address
  owner : Address
  manager : Address
  drainer : Address
  locked : Nat
  mapServiceIdTokenDeposit : Nat → TokenSecurityDeposit
  mapServiceAndAgentIdAgentBond : Word → Nat
  mapOperatorAndServiceIdOperatorBalances : Word → Nat
  mapSlashedFunds : Address → Nat

/-- A `transferFrom` to this contract, with the balance read before it. -/
structure TokenPull where
  token : Address
  account : Address
  amount : Nat
  balanceBefore : Nat
  deriving DecidableEq, Repr

/-- A `transfer` out of this contract. -/
structure TokenPush where
  token : Address
  account : Address
  amount : Nat
  deriving DecidableEq, Repr

/-- What the token's `allowance` and `balanceOf` answer before the transfer. -/
structure TokenViews where
  allowance : Nat
  balanceBefore : Nat
  deriving DecidableEq, Repr

/-- Whether the transfer went through, and the balance read after it. -/
structure TokenAnswer where
  success : Bool
  balanceAfter : Nat
  deriving DecidableEq, Repr

namespace ServiceRegistryTokenUtility

/-- Storage after the constructor. -/
def deployment (self deployer : Address) : UtilityState where
  self := self
  owner := deployer
  manager := 0
  drainer := 0
  locked := 1
  mapServiceIdTokenDeposit := fun _ => .empty
  mapServiceAndAgentIdAgentBond := fun _ => 0
  mapOperatorAndServiceIdOperatorBalances := fun _ => 0
  mapSlashedFunds := fun _ => 0

/-- `type(uint96).max` -/
def uint96Max : Nat := 2 ^ 96 - 1

/-- The running values of the loop in `createWithToken`. -/
structure BondData where
  mapBonds : Word → Nat
  securityDeposit : Nat

def createWithTokenBody (serviceId : Nat) (bonds : List Nat) (entry : Uint32 × Nat)
    (d : BondData) : Except Revert BondData := do
  let bond ← readAt (.panic .arrayIndex) bonds entry.2
  if bond = 0 then
    return d
  else
    revertIf (uint96Max < bond) (.overflow bond uint96Max)
    return {
      mapBonds := Function.update d.mapBonds (serviceAgent serviceId entry.1) bond
      securityDeposit := max d.securityDeposit bond }

/-- `tokenAccepted` says whether the token has code and its `balanceOf` returned. -/
def createWithToken (tokenAccepted : Bool) (sender : Address) (serviceId : Nat) (token : Address)
    (agentIds : List Uint32) (bonds : List Nat) (s : UtilityState) :
    Except Revert UtilityState := do
  revertIf (s.manager ≠ sender) (.managerOnly sender s.manager)
  revertIf (tokenAccepted = false) (.tokenRejected token)
  let d ← loop (createWithTokenBody serviceId bonds) agentIds.zipIdx
    ⟨s.mapServiceAndAgentIdAgentBond, 0⟩
  return { s with
    mapServiceAndAgentIdAgentBond := d.mapBonds
    mapServiceIdTokenDeposit := Function.update s.mapServiceIdTokenDeposit serviceId
      ⟨token, d.securityDeposit % 2 ^ 96⟩ }

def resetServiceToken (sender : Address) (serviceId : Nat) (s : UtilityState) :
    Except Revert UtilityState := do
  revertIf (s.manager ≠ sender) (.managerOnly sender s.manager)
  return { s with
    mapServiceIdTokenDeposit := Function.update s.mapServiceIdTokenDeposit serviceId .empty }

/-- The last statement of every locked function. -/
def unlock (s : UtilityState) : UtilityState := { s with locked := 1 }

/-- Up to `safeTransferFrom`, or to the end when the service is not token-secured. -/
def activateRegistrationTokenDeposit (registry : RegistryState) (views : TokenViews)
    (sender : Address) (serviceId : Nat) (s : UtilityState) :
    Except Revert (UtilityState × Option TokenPull) := do
  revertIf (1 < s.locked) .reentrancyGuard
  let s := { s with locked := 2 }
  revertIf (s.manager ≠ sender) (.managerOnly sender s.manager)
  let tokenDeposit := s.mapServiceIdTokenDeposit serviceId
  if tokenDeposit.token ≠ 0 then
    let serviceOwner ← registry.erc721.ownerOf serviceId
    revertIf (views.allowance < tokenDeposit.securityDeposit)
      (.incorrectRegistrationDepositValue views.allowance tokenDeposit.securityDeposit serviceId)
    return (s, some ⟨tokenDeposit.token, serviceOwner, tokenDeposit.securityDeposit,
      views.balanceBefore⟩)
  else
    return (unlock s, none)

/-- One iteration of the loop in `registerAgentsTokenDeposit`. -/
def totalBondBody (serviceId : Nat) (mapBonds : Word → Nat) (agentId : Uint32)
    (totalBond : Nat) : Except Revert Nat :=
  checkedAdd 256 (.panic .arithmetic) totalBond (mapBonds (serviceAgent serviceId agentId))

/-- Up to `safeTransferFrom`, or to the end when the service is not token-secured. -/
def registerAgentsTokenDeposit (views : TokenViews) (sender operator : Address)
    (serviceId : Nat) (agentIds : List Uint32) (s : UtilityState) :
    Except Revert (UtilityState × Option TokenPull) := do
  revertIf (1 < s.locked) .reentrancyGuard
  let s := { s with locked := 2 }
  revertIf (s.manager ≠ sender) (.managerOnly sender s.manager)
  let token := (s.mapServiceIdTokenDeposit serviceId).token
  if token ≠ 0 then
    let totalBond ← loop (totalBondBody serviceId s.mapServiceAndAgentIdAgentBond) agentIds 0
    revertIf (views.allowance < totalBond)
      (.incorrectAgentBondingValue views.allowance totalBond serviceId)
    let key := operatorService operator serviceId
    let balance ← checkedAdd 256 (.panic .arithmetic)
      (s.mapOperatorAndServiceIdOperatorBalances key) totalBond
    return ({ s with
      mapOperatorAndServiceIdOperatorBalances :=
        Function.update s.mapOperatorAndServiceIdOperatorBalances key balance },
      some ⟨token, operator, totalBond, views.balanceBefore⟩)
  else
    return (unlock s, none)

/-- `safeTransferFrom` has returned; the balance check, and the end of the function.
The two deposit functions differ in the error of the check. -/
def pullReturn (wrongValue : Revert) (pull : TokenPull) (answer : TokenAnswer)
    (s : UtilityState) : Except Revert UtilityState := do
  revertIf (answer.success = false)
    (.transferFailed pull.token pull.account s.self pull.amount)
  revertIf (answer.balanceAfter < pull.balanceBefore ∨
    answer.balanceAfter - pull.balanceBefore ≠ pull.amount) wrongValue
  return unlock s

def activateRegistrationTokenDepositReturn (serviceId : Nat) (pull : TokenPull) :
    TokenAnswer → UtilityState → Except Revert UtilityState :=
  pullReturn (.incorrectRegistrationDepositValue 0 pull.amount serviceId) pull

def registerAgentsTokenDepositReturn (serviceId : Nat) (pull : TokenPull) :
    TokenAnswer → UtilityState → Except Revert UtilityState :=
  pullReturn (.incorrectAgentBondingValue 0 pull.amount serviceId) pull

/-- Up to `safeTransfer`, or to the end when the service is not token-secured. -/
def terminateTokenRefund (registry : RegistryState) (sender : Address) (serviceId : Nat)
    (s : UtilityState) : Except Revert (UtilityState × Option TokenPush) := do
  revertIf (1 < s.locked) .reentrancyGuard
  let s := { s with locked := 2 }
  revertIf (s.manager ≠ sender) (.managerOnly sender s.manager)
  let tokenDeposit := s.mapServiceIdTokenDeposit serviceId
  if tokenDeposit.token ≠ 0 then
    let serviceOwner ← registry.erc721.ownerOf serviceId
    return (s, some ⟨tokenDeposit.token, serviceOwner, tokenDeposit.securityDeposit⟩)
  else
    return (unlock s, none)

/-- Up to `safeTransfer`, or to the end when there is nothing to refund. -/
def unbondTokenRefund (sender operator : Address) (serviceId : Nat) (s : UtilityState) :
    Except Revert (UtilityState × Option TokenPush) := do
  revertIf (1 < s.locked) .reentrancyGuard
  let s := { s with locked := 2 }
  revertIf (s.manager ≠ sender) (.managerOnly sender s.manager)
  let token := (s.mapServiceIdTokenDeposit serviceId).token
  let key := operatorService operator serviceId
  let refund := s.mapOperatorAndServiceIdOperatorBalances key
  if token ≠ 0 ∧ 0 < refund then
    return ({ s with
      mapOperatorAndServiceIdOperatorBalances :=
        Function.update s.mapOperatorAndServiceIdOperatorBalances key 0 },
      some ⟨token, operator, refund⟩)
  else
    return (unlock s, none)

/-- `safeTransfer` has returned; the end of the function. -/
def pushReturn (push : TokenPush) (answer : TokenAnswer) (s : UtilityState) :
    Except Revert UtilityState := do
  revertIf (answer.success = false)
    (.transferFailed push.token s.self push.account push.amount)
  return unlock s

/-- The running values of the loop in `slash`. -/
structure SlashData where
  mapBalances : Word → Nat
  slashedFunds : Nat

/-- One iteration of the loop in `slash`. -/
def slashBody (registry : RegistryState) (serviceId : Nat) (entry : Address × Word)
    (d : SlashData) : Except Revert SlashData := do
  let operator := registry.mapAgentInstanceOperators entry.1
  let key := operatorService operator serviceId
  let balance := d.mapBalances key
  if balance = 0 then
    return d
  else
    let taken := if balance ≤ entry.2.val then balance else entry.2.val
    let slashedFunds ← checkedAdd 256 (.panic .arithmetic) d.slashedFunds taken
    return ⟨Function.update d.mapBalances key (balance - taken), slashedFunds⟩

def slash (registry : RegistryState) (sender : Address) (agentInstances : List Address)
    (amounts : List Word) (serviceId : Nat) (s : UtilityState) :
    Except Revert UtilityState := do
  let service := registry.mapServices serviceId
  revertIf (service.state ≠ .deployed) (.wrongServiceState service.state.toNat serviceId)
  revertIf (agentInstances.length = 0 ∨ agentInstances.length ≠ amounts.length)
    (.wrongArrayLength agentInstances.length amounts.length)
  revertIf (sender ≠ service.multisig)
    (.onlyOwnServiceMultisig sender service.multisig serviceId)
  let token := (s.mapServiceIdTokenDeposit serviceId).token
  revertIf (token = 0) .zeroAddress
  let d ← loop (slashBody registry serviceId) (agentInstances.zip amounts)
    ⟨s.mapOperatorAndServiceIdOperatorBalances, 0⟩
  let slashedFunds ← checkedAdd 256 (.panic .arithmetic) d.slashedFunds (s.mapSlashedFunds token)
  return { s with
    mapOperatorAndServiceIdOperatorBalances := d.mapBalances
    mapSlashedFunds := Function.update s.mapSlashedFunds token slashedFunds }

/-- Up to `safeTransfer`, or to the end when nothing was slashed. -/
def drain (sender token : Address) (s : UtilityState) :
    Except Revert (UtilityState × Option TokenPush) := do
  revertIf (1 < s.locked) .reentrancyGuard
  let s := { s with locked := 2 }
  revertIf (sender ≠ s.owner) (.ownerOnly sender s.owner)
  revertIf (s.drainer = 0) .zeroAddress
  let amount := s.mapSlashedFunds token
  if 0 < amount then
    return ({ s with mapSlashedFunds := Function.update s.mapSlashedFunds token 0 },
      some ⟨token, s.drainer, amount⟩)
  else
    return (unlock s, none)

def changeOwner (sender newOwner : Address) (s : UtilityState) :
    Except Revert UtilityState := do
  revertIf (sender ≠ s.owner) (.ownerOnly sender s.owner)
  revertIf (newOwner = 0) .zeroAddress
  return { s with owner := newOwner }

def changeManager (sender newManager : Address) (s : UtilityState) :
    Except Revert UtilityState := do
  revertIf (sender ≠ s.owner) (.ownerOnly sender s.owner)
  revertIf (newManager = 0) .zeroAddress
  return { s with manager := newManager }

def changeDrainer (sender newDrainer : Address) (s : UtilityState) :
    Except Revert UtilityState := do
  revertIf (sender ≠ s.owner) (.ownerOnly sender s.owner)
  revertIf (newDrainer = 0) .zeroAddress
  return { s with drainer := newDrainer }

end ServiceRegistryTokenUtility

structure UtilityWorld where
  store : UtilityState
  pulled : Address → Nat
  sent : Address → Nat

inductive UtilityCall where
  | createWithToken (sender : Caller) (tokenAccepted : Bool) (serviceId : Nat) (token : Address)
      (agentIds : List Uint32) (bonds : List Nat)
  | resetServiceToken (sender : Caller) (serviceId : Nat)
  | activateRegistrationTokenDeposit (sender : Caller) (views : TokenViews) (serviceId : Nat)
  | registerAgentsTokenDeposit (sender : Caller) (views : TokenViews) (operator : Address)
      (serviceId : Nat) (agentIds : List Uint32)
  | terminateTokenRefund (sender : Caller) (serviceId : Nat)
  | unbondTokenRefund (sender : Caller) (operator : Address) (serviceId : Nat)
  | slash (sender : Caller) (agentInstances : List Address) (amounts : List Word)
      (serviceId : Nat)
  | drain (sender : Caller) (token : Address)
  | changeOwner (sender : Caller) (newOwner : Address)
  | changeManager (sender : Caller) (newManager : Address)
  | changeDrainer (sender : Caller) (newDrainer : Address)

/-- What is left to do after the transfer of a suspended function. -/
inductive UtilityFrame where
  | activate (serviceId : Nat) (pull : TokenPull)
  | register (serviceId : Nat) (pull : TokenPull)
  | refund (push : TokenPush)
  deriving DecidableEq, Repr

/-- What a suspended refund pays, as its caller sees it. -/
def UtilityFrame.refunds : UtilityFrame → Nat
  | .refund push => push.amount
  | .activate .. | .register .. => 0

namespace UtilityWorld

def deployment (self deployer : Address) : UtilityWorld :=
  ⟨ServiceRegistryTokenUtility.deployment self deployer, fun _ => 0, fun _ => 0⟩

def pulling (w : UtilityWorld) (name : TokenPull → UtilityFrame)
    (run : UtilityState × Option TokenPull) : Outcome UtilityWorld UtilityFrame :=
  match run.2 with
  | some pull => .suspended { w with store := run.1 } (name pull)
  | none => .done { w with store := run.1 }

def pushing (w : UtilityWorld) (run : UtilityState × Option TokenPush) :
    Outcome UtilityWorld UtilityFrame :=
  match run.2 with
  | some push => .suspended
      { w with
        store := run.1
        sent := Function.update w.sent push.token (w.sent push.token + push.amount) }
      (.refund push)
  | none => .done { w with store := run.1 }

def finish (w : UtilityWorld) (run : Except Revert UtilityState) :
    Except Revert (Outcome UtilityWorld UtilityFrame) := do
  let s ← run
  return .done { w with store := s }

open ServiceRegistryTokenUtility in
def enter (registry : RegistryState) (call : UtilityCall) (w : UtilityWorld) :
    Except Revert (Outcome UtilityWorld UtilityFrame) :=
  match call with
  | .createWithToken sender tokenAccepted serviceId token agentIds bonds =>
    w.finish (createWithToken tokenAccepted sender serviceId token agentIds bonds w.store)
  | .resetServiceToken sender serviceId => w.finish (resetServiceToken sender serviceId w.store)
  | .activateRegistrationTokenDeposit sender views serviceId => do
    let run ← activateRegistrationTokenDeposit registry views sender serviceId w.store
    return w.pulling (.activate serviceId) run
  | .registerAgentsTokenDeposit sender views operator serviceId agentIds => do
    let run ← registerAgentsTokenDeposit views sender operator serviceId agentIds w.store
    return w.pulling (.register serviceId) run
  | .terminateTokenRefund sender serviceId => do
    let run ← terminateTokenRefund registry sender serviceId w.store
    return w.pushing run
  | .unbondTokenRefund sender operator serviceId => do
    let run ← unbondTokenRefund sender operator serviceId w.store
    return w.pushing run
  | .slash sender agentInstances amounts serviceId =>
    w.finish (slash registry sender agentInstances amounts serviceId w.store)
  | .drain sender token => do
    let run ← drain sender token w.store
    return w.pushing run
  | .changeOwner sender newOwner => w.finish (changeOwner sender newOwner w.store)
  | .changeManager sender newManager => w.finish (changeManager sender newManager w.store)
  | .changeDrainer sender newDrainer => w.finish (changeDrainer sender newDrainer w.store)

/-- The pull has come in. -/
def pullIn (w : UtilityWorld) (pull : TokenPull) (s : UtilityState) : UtilityWorld :=
  { w with
    store := s
    pulled := Function.update w.pulled pull.token (w.pulled pull.token + pull.amount) }

open ServiceRegistryTokenUtility in
def resume (frame : UtilityFrame) (answer : TokenAnswer) (w : UtilityWorld) :
    Except Revert UtilityWorld :=
  match frame with
  | .activate serviceId pull => do
    let s ← activateRegistrationTokenDepositReturn serviceId pull answer w.store
    return w.pullIn pull s
  | .register serviceId pull => do
    let s ← registerAgentsTokenDepositReturn serviceId pull answer w.store
    return w.pullIn pull s
  | .refund push => do
    let s ← pushReturn push answer w.store
    return { w with store := s }

end UtilityWorld
end AutonolasRegistries.Source
