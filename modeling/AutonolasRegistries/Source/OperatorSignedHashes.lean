import AutonolasRegistries.Source.Types

/-!
# OperatorSignedHashes

The typed messages an operator signs and the three ways a signature is checked,
`OperatorSignedHashes.sol:45-232`. The hash function and the recovery of a signer are
given with the chain; what is hashed is written out byte by byte.
-/
namespace AutonolasRegistries.Source
open Library

/-- What the contracts use of the chain they run on. -/
structure Chain where
  chainId : Word
  keccak256 : List Byte → Bytes32
  ecrecover : Bytes32 → Nat → Bytes32 → Bytes32 → Address

/-- What the accounts answer when a signature is checked: whether they have code, and
their `isValidSignature`, which may revert. -/
structure SignatureViews where
  hasCode : Address → Bool
  isValidSignature : Address → Bytes32 → List Byte → Option Uint32

/-- The bytes of an ASCII literal. -/
def textBytes (text : String) : List Byte := text.toList.map fun c => Fin.ofNat 256 c.toNat

def addressWord (a : Address) : Word := Fin.castLE (Nat.pow_le_pow_right (by decide) (by decide)) a

def uint32Word (n : Uint32) : Word := Fin.castLE (Nat.pow_le_pow_right (by decide) (by decide)) n

/-- A value of type `uint256`. -/
def uint256Word (n : Nat) : Word := Fin.ofNat _ n

/-- `abi.encode` of values that take one word each. -/
def abiEncode (words : List Word) : List Byte := words.flatMap fun w => toBytes 32 w.val

/-- `abi.encode(agentInstances, agentIds)`: the two offsets, then each array with its
length in front. -/
def encodeAgents (agentInstances : List Address) (agentIds : List Uint32) : List Word :=
  [64, uint256Word (96 + 32 * agentInstances.length)] ++
    (uint256Word agentInstances.length :: agentInstances.map addressWord) ++
    (uint256Word agentIds.length :: agentIds.map uint32Word)

namespace OperatorSignedHashes

/-- `MAGIC_VALUE` -/
def magicValue : Uint32 := 0x1626ba7e

def domainSeparatorType : String :=
  "EIP712Domain(string name,string version,uint256 chainId,address verifyingContract)"

def unbondType : String :=
  "Unbond(address operator,address serviceOwner,uint256 serviceId,uint256 nonce)"

def registerAgentsType : String :=
  "RegisterAgents(address operator,address serviceOwner,uint256 serviceId,bytes32 agentsData,uint256 nonce)"

/-- `NAME` and `VERSION` of the service manager. -/
def signingName : String := "OLAS Service Manager"

def signingVersion : String := "1.2.0"

section Hashes
variable (chain : Chain) (self : Address)

def textHash (text : String) : Bytes32 := chain.keccak256 (textBytes text)

/-- What `_computeDomainSeparator` hashes, -/
def domainBytes : List Byte :=
  abiEncode [textHash chain domainSeparatorType, textHash chain signingName,
    textHash chain signingVersion, chain.chainId, addressWord self]

def computeDomainSeparator : Bytes32 := chain.keccak256 (domainBytes chain self)

/-- and what is hashed in the end: `"\x19\x01"`, the domain and the message. -/
def typedBytes (structHash : Bytes32) : List Byte :=
  [0x19, 0x01] ++ abiEncode [computeDomainSeparator chain self, structHash]

def unbondBytes (operator serviceOwner : Address) (serviceId nonce : Nat) : List Byte :=
  abiEncode [textHash chain unbondType, addressWord operator, addressWord serviceOwner,
    uint256Word serviceId, uint256Word nonce]

def getUnbondHash (operator serviceOwner : Address) (serviceId nonce : Nat) : Bytes32 :=
  chain.keccak256
    (typedBytes chain self (chain.keccak256 (unbondBytes chain operator serviceOwner serviceId nonce)))

def agentsBytes (agentInstances : List Address) (agentIds : List Uint32) : List Byte :=
  abiEncode (encodeAgents agentInstances agentIds)

def registerAgentsBytes (operator serviceOwner : Address) (serviceId : Nat)
    (agentInstances : List Address) (agentIds : List Uint32) (nonce : Nat) : List Byte :=
  abiEncode [textHash chain registerAgentsType, addressWord operator, addressWord serviceOwner,
    uint256Word serviceId, chain.keccak256 (agentsBytes agentInstances agentIds),
    uint256Word nonce]

def getRegisterAgentsHash (operator serviceOwner : Address) (serviceId : Nat)
    (agentInstances : List Address) (agentIds : List Uint32) (nonce : Nat) : Bytes32 :=
  chain.keccak256 (typedBytes chain self (chain.keccak256
    (registerAgentsBytes chain operator serviceOwner serviceId agentInstances agentIds nonce)))

end Hashes

/-- `v` of a signature by an account without code is moved to the range of `ecrecover`. -/
def adjustedV (v : Nat) (hasCode : Bool) : Nat :=
  if v < 4 ∧ hasCode = false then v + 27 else v

def verifySignedHash (chain : Chain) (views : SignatureViews)
    (mapOperatorApprovedHashes : Address → Bytes32 → Bool) (operator : Address)
    (msgHash : Bytes32) (signature : List Byte) : Except Revert Unit := do
  revertIf (operator = 0) .zeroOperatorAddress
  revertIf (signature.length ≠ 65) (.incorrectSignatureLength signature signature.length 65)
  let last ← readAt (.panic .arrayIndex) signature 64
  let v := adjustedV last.val (views.hasCode operator)
  let r := uint256Word (ofBytes (signature.take 32))
  let s := uint256Word (ofBytes ((signature.drop 32).take 32))
  -- address(uint160(uint256(r)))
  let encoded : Address := Fin.ofNat _ r.val
  if v = 4 then
    revertIf (views.isValidSignature encoded msgHash signature = none) .externalFailure
    revertIf (views.isValidSignature encoded msgHash signature ≠ some magicValue)
      (.hashNotValidated encoded msgHash signature)
    revertIf (encoded ≠ operator) (.wrongOperatorAddress encoded operator)
  else if v = 5 then
    revertIf (mapOperatorApprovedHashes encoded msgHash = false)
      (.hashNotApproved encoded msgHash signature)
    revertIf (encoded ≠ operator) (.wrongOperatorAddress encoded operator)
  else
    let recOperator := chain.ecrecover msgHash v r s
    revertIf (recOperator ≠ operator) (.wrongOperatorAddress recOperator operator)

end OperatorSignedHashes
end AutonolasRegistries.Source
