import Mathlib.Data.Fintype.Basic
import Mathlib.Data.Fin.Basic
import AutonolasRegistries.Library.BigEndian
import AutonolasRegistries.Library.PackedKey
import AutonolasRegistries.Library.Revert

/-!
# Words, records and errors shared by the contracts

Call data is typed at the width of the source, so a value that does not fit its
type cannot be passed. Counters and amounts in storage are natural numbers with
the source's checked arithmetic written out. `IErrorsRegistries.sol`,
`ServiceRegistryL2.sol:7-70`.
-/
namespace AutonolasRegistries.Source
open Library

abbrev Address := Fin (2 ^ 160)
abbrev Word := Fin (2 ^ 256)

/-- An account that can send a call; the zero address cannot. -/
abbrev Caller := { a : Address // a ≠ 0 }
abbrev Bytes32 := Word
abbrev Uint32 := Fin (2 ^ 32)
abbrev Uint96 := Fin (2 ^ 96)

section Numerals

instance address_neZero : NeZero (2 ^ 160) := ⟨by decide⟩
instance word_neZero : NeZero (2 ^ 256) := ⟨by decide⟩
instance uint32_neZero : NeZero (2 ^ 32) := ⟨by decide⟩
instance uint96_neZero : NeZero (2 ^ 96) := ⟨by decide⟩

instance address_zero : Zero Address := ⟨0⟩

instance address_lawfulBEq : LawfulBEq Address := inferInstance
instance uint32_lawfulBEq : LawfulBEq Uint32 := inferInstance

end Numerals

inductive ServiceState where
  | nonExistent | preRegistration | activeRegistration | finishedRegistration
  | deployed | terminatedBonded
  deriving DecidableEq, Repr

/-- `uint256(state)` in the error arguments. -/
def ServiceState.toNat : ServiceState → Nat
  | .nonExistent => 0
  | .preRegistration => 1
  | .activeRegistration => 2
  | .finishedRegistration => 3
  | .deployed => 4
  | .terminatedBonded => 5

/-- The states in which the owner's security deposit is held. -/
def ServiceState.holdsDeposit : ServiceState → Bool
  | .activeRegistration | .finishedRegistration | .deployed => true
  | _ => false

structure AgentParams where
  slots : Uint32
  bond : Uint96
  deriving DecidableEq, Repr

instance : Inhabited AgentParams := ⟨⟨0, 0⟩⟩

structure AgentInstance where
  inst : Address
  agentId : Uint32
  deriving DecidableEq, Repr

structure Service where
  securityDeposit : Nat
  multisig : Address
  configHash : Bytes32
  threshold : Uint32
  maxNumAgentInstances : Nat
  numAgentInstances : Nat
  state : ServiceState
  agentIds : List Uint32
  deriving DecidableEq, Repr

/-- A record that was never written. -/
def Service.empty : Service :=
  ⟨0, 0, 0, 0, 0, 0, .nonExistent, []⟩

instance : Inhabited Service := ⟨Service.empty⟩

/-- The two panics the compiler inserts into the registry code. -/
inductive Panic where
  | arithmetic | arrayIndex
  deriving DecidableEq, Repr

/-- Errors of the registries, the token utility, the manager and the ERC721 base,
with the arguments the source puts into them. -/
inductive Revert where
  | managerOnly (sender manager : Address)
  | ownerOnly (sender owner : Address)
  | zeroAddress
  | zeroValue
  | paused
  | reentrancyGuard
  | wrongAgentId (agentId : Nat)
  | wrongArrayLength (numValues1 numValues2 : Nat)
  | wrongThreshold (currentThreshold minThreshold maxThreshold : Nat)
  | agentInstanceRegistered (operator : Address)
  | wrongOperator (serviceId : Nat)
  | operatorHasNoInstances (operator : Address) (serviceId : Nat)
  | agentNotInService (agentId serviceId : Nat)
  | overflow (provided max : Nat)
  | serviceMustBeInactive (serviceId : Nat)
  | agentInstancesSlotsFilled (serviceId : Nat)
  | wrongServiceState (state serviceId : Nat)
  | onlyOwnServiceMultisig (provided expected : Address) (serviceId : Nat)
  | unauthorizedMultisig (multisig : Address)
  | incorrectRegistrationDepositValue (sent expected serviceId : Nat)
  | incorrectAgentBondingValue (sent expected serviceId : Nat)
  | tokenRejected (token : Address)
  | transferFailed (token sender recipient : Address) (value : Nat)
  | multisigAlreadyBound (multisig : Address) (existingServiceId serviceId : Nat)
  | alreadyInitialized
  | wrongMetadataKey (metadataKey : List Byte)
  | zeroOperatorAddress
  | incorrectSignatureLength (signature : List Byte) (provided expected : Nat)
  | hashNotValidated (operator : Address) (msgHash : Bytes32) (signature : List Byte)
  | hashNotApproved (operator : Address) (msgHash : Bytes32) (signature : List Byte)
  | wrongOperatorAddress (provided expected : Address)
  | componentNotFound (componentId : Nat)
  | agentNotFound (agentId : Nat)
  | notMinted
  | notAuthorized
  | wrongFrom
  | invalidRecipient
  | alreadyMinted
  | insufficientBalance
  | externalFailure
  | panic (kind : Panic)
  deriving DecidableEq, Repr

/-- `operator | serviceId << 160`, in 256 bits. -/
def operatorService (operator : Address) (serviceId : Nat) : Word :=
  Fin.ofNat _ (pack 160 operator.val serviceId)

/-- `serviceId | agentId << 32`, in 256 bits. -/
def serviceAgent (serviceId : Nat) (agentId : Uint32) : Word :=
  Fin.ofNat _ (pack 32 serviceId agentId.val)

/-- The operator key is injective as long as the service Id keeps to the 96 bits
above the address. -/
theorem operatorService_injective {operator operator' : Address} {serviceId serviceId' : Nat}
    (bound : serviceId < 2 ^ 96) (bound' : serviceId' < 2 ^ 96)
    (same : operatorService operator serviceId = operatorService operator' serviceId') :
    operator = operator' ∧ serviceId = serviceId' := by
  have lt := pack_lt 96 operator.isLt bound
  have lt' := pack_lt 96 operator'.isLt bound'
  have values := congrArg Fin.val same
  simp only [operatorService, Fin.val_ofNat, Nat.mod_eq_of_lt lt, Nat.mod_eq_of_lt lt'] at values
  obtain ⟨sameOperator, sameService⟩ := pack_injective operator.isLt operator'.isLt values
  exact ⟨Fin.ext sameOperator, sameService⟩

/-- The operator a key is for, whatever the service: the low 160 bits. -/
def keyOperator (key : Word) : Address := Fin.ofNat _ key.val

theorem keyOperator_operatorService (operator : Address) (serviceId : Nat) :
    keyOperator (operatorService operator serviceId) = operator := by
  refine Fin.ext ?_
  rw [keyOperator, operatorService, Fin.val_ofNat, Fin.val_ofNat,
    Nat.mod_mod_of_dvd _ (Nat.pow_dvd_pow 2 (by decide))]
  exact pack_low 160 operator.val serviceId operator.isLt

theorem operatorService_operator {operator operator' : Address} {serviceId serviceId' : Nat}
    (same : operatorService operator serviceId = operatorService operator' serviceId') :
    operator = operator' := by
  rw [← keyOperator_operatorService operator serviceId, same, keyOperator_operatorService]

/-- The agent key is injective for service Ids below `2 ^ 32`, the bound the
source assumes in its comments. -/
theorem serviceAgent_injective {serviceId serviceId' : Nat} {agentId agentId' : Uint32}
    (bound : serviceId < 2 ^ 32) (bound' : serviceId' < 2 ^ 32)
    (same : serviceAgent serviceId agentId = serviceAgent serviceId' agentId') :
    serviceId = serviceId' ∧ agentId = agentId' := by
  have room : 2 ^ (32 + 32) ≤ 2 ^ 256 := Nat.pow_le_pow_right (by decide) (by decide)
  have lt := Nat.lt_of_lt_of_le (pack_lt 32 bound agentId.isLt) room
  have lt' := Nat.lt_of_lt_of_le (pack_lt 32 bound' agentId'.isLt) room
  have values := congrArg Fin.val same
  simp only [serviceAgent, Fin.val_ofNat, Nat.mod_eq_of_lt lt, Nat.mod_eq_of_lt lt'] at values
  obtain ⟨sameService, sameAgent⟩ := pack_injective bound bound' values
  exact ⟨sameService, Fin.ext sameAgent⟩

end AutonolasRegistries.Source
