import AutonolasRegistries.Library.ByteFields
import AutonolasRegistries.Source.OperatorSignedHashes

/-!
# GnosisSafeMultisig

The creation of a multisig from packed data, `GnosisSafeMultisig.sol:24-108`. The
parser loads words from memory at unaligned offsets, so a byte array is given here as
it lies in memory: its length word, then its bytes.
-/
namespace AutonolasRegistries.Source
open Library

/-- A byte array in memory; its length is a word. -/
abbrev ByteArrayValue := { bytes : List Byte // bytes.length < 2 ^ 256 }

/-- The memory from the array's pointer on. -/
def ByteArrayValue.memory (data : ByteArrayValue) : List Byte :=
  toBytes 32 data.val.length ++ data.val

/-- `mload(add(data, offset))` -/
def mload (memory : List Byte) (offset : Nat) : Word :=
  Fin.ofNat _ (ofBytes ((memory.drop offset).take 32))

/-- A word used as an address: the upper bits are cut off. -/
def wordAddress (word : Word) : Address := Fin.ofNat _ word.val

namespace GnosisSafeMultisig

/-- `GNOSIS_SAFE_SETUP_SELECTOR` -/
def setupSelector : Uint32 := 0xb63e800d

/-- `DEFAULT_DATA_LENGTH` -/
def defaultDataLength : Nat := 144

/-- What is read from the data, in the source's order. -/
@[ext]
structure SafeData where
  toAccount : Address
  fallbackHandler : Address
  paymentToken : Address
  paymentReceiver : Address
  payment : Word
  nonce : Word
  payload : List Byte
  deriving DecidableEq, Repr

/-- The return variables before anything is assigned. -/
def SafeData.zero : SafeData := ⟨0, 0, 0, 0, 0, 0, []⟩

inductive Failure where
  | incorrectDataLength (expected provided : Nat)
  | panic (kind : Panic)
  | factoryReverted
  deriving DecidableEq, Repr

/-- The body of the payload loop: `payload[i] = data[i + DEFAULT_DATA_LENGTH];` -/
def copyByte (data : List Byte) (i : Nat) (payload : List Byte) : Except Failure (List Byte) := do
  let index ← checkedAdd 256 (.panic .arithmetic) i defaultDataLength
  let byte ← readAt (.panic .arrayIndex) data index
  writeAt (.panic .arrayIndex) payload i byte

def copyPayload (data : List Byte) : Except Failure (List Byte) :=
  if defaultDataLength < data.length then do
    let payloadLength ← checkedSub (.panic .arithmetic) data.length defaultDataLength
    loop (copyByte data) (List.range payloadLength) (List.replicate payloadLength 0)
  else .ok []

/-- `_parseData` -/
def parseData (data : ByteArrayValue) : Except Failure SafeData :=
  let dataLength := data.val.length
  if 0 < dataLength then do
    revertIf (dataLength < defaultDataLength) (.incorrectDataLength defaultDataLength dataLength)
    let memory := data.memory
    -- the four addresses end at bytes 20, 40, 60 and 80 of the data, so that the first
    -- loads start inside the length word
    let offset := 20
    let toAccount := wordAddress (mload memory offset)
    let offset := offset + 20
    let fallbackHandler := wordAddress (mload memory offset)
    let offset := offset + 20
    let paymentToken := wordAddress (mload memory offset)
    let offset := offset + 20
    let paymentReceiver := wordAddress (mload memory offset)
    let offset := offset + 32
    let payment := mload memory offset
    let offset := offset + 32
    let nonce := mload memory offset
    let payload ← copyPayload data.val
    return ⟨toAccount, fallbackHandler, paymentToken, paymentReceiver, payment, nonce, payload⟩
  else .ok SafeData.zero

/-- `abi.encodePacked` of the seven values. -/
def SafeData.packed (values : SafeData) : List Byte :=
  toBytes 20 values.toAccount.val ++ (toBytes 20 values.fallbackHandler.val ++
    (toBytes 20 values.paymentToken.val ++ (toBytes 20 values.paymentReceiver.val ++
      (toBytes 32 values.payment.val ++ (toBytes 32 values.nonce.val ++ values.payload)))))

/-- The zero bytes that fill the last word of a byte array in call data. -/
def wordPadding (length : Nat) : List Byte := List.replicate ((32 - length % 32) % 32) 0

/-- `abi.encodeWithSelector(GNOSIS_SAFE_SETUP_SELECTOR, owners, threshold, to, payload, …)`:
the eight heads, then the owners and the payload with their lengths in front. -/
def safeParams (owners : List Address) (threshold : Word) (values : SafeData) : List Byte :=
  toBytes 4 setupSelector.val ++
    abiEncode [256, threshold, addressWord values.toAccount,
      uint256Word (288 + 32 * owners.length), addressWord values.fallbackHandler,
      addressWord values.paymentToken, values.payment, addressWord values.paymentReceiver] ++
    abiEncode (uint256Word owners.length :: owners.map addressWord) ++
    abiEncode [uint256Word values.payload.length] ++ values.payload ++
    wordPadding values.payload.length

/-- `create`; the proxy factory is a contract outside, which may revert. -/
def create (createProxyWithNonce : Address → List Byte → Word → Option Address)
    (gnosisSafe : Address) (owners : List Address) (threshold : Word) (data : ByteArrayValue) :
    Except Failure Address := do
  let values ← parseData data
  match createProxyWithNonce gnosisSafe (safeParams owners threshold values) values.nonce with
  | some multisig => .ok multisig
  | none => .error .factoryReverted

end GnosisSafeMultisig

end AutonolasRegistries.Source
