import AutonolasRegistries.Library.ByteLanes
import AutonolasRegistries.Source.OperatorSignedHashes
import AutonolasRegistries.Source.ServiceRegistry
import AutonolasRegistries.Source.UnitRegistry

/-!
# The token URI of a registry

`GenericRegistry.sol:104-141`: the hash of a unit as base-16 text behind the base URI and
the CID prefix. `ComplementaryServiceMetadata.sol:89-109,160-171` has the same two
functions over a hash of its own. The base URI is the owner's to set and is passed in.
-/
namespace AutonolasRegistries.Source
open Library

abbrev Bytes16 := Fin (2 ^ 128)

instance bytes16_neZero : NeZero (2 ^ 128) := ⟨by decide⟩

/-- `bytes16(data)`: the upper half. -/
def bytes16 (data : Bytes32) : Bytes16 := Fin.ofNat _ (data.val >>> 128)

/-- `bytes32(data)`: the lower half is zero. -/
def bytes32 (data : Bytes16) : Nat := data.val <<< 128

/-- `data << 128`, in 256 bits. -/
def shiftLeft128 (data : Bytes32) : Bytes32 := Fin.ofNat _ (data.val <<< 128)

namespace GenericRegistry

/-- `CID_PREFIX` -/
def cidPrefix : List Byte := textBytes "f01701220"

/-- The first five assignments of `_toHex16`. -/
def spreadNibbles (data : Nat) : Nat :=
  let result := data &&& 0xFFFFFFFFFFFFFFFF000000000000000000000000000000000000000000000000 |||
    (data &&& 0x0000000000000000FFFFFFFFFFFFFFFF00000000000000000000000000000000) >>> 64
  let result := result &&& 0xFFFFFFFF000000000000000000000000FFFFFFFF000000000000000000000000 |||
    (result &&& 0x00000000FFFFFFFF000000000000000000000000FFFFFFFF0000000000000000) >>> 32
  let result := result &&& 0xFFFF000000000000FFFF000000000000FFFF000000000000FFFF000000000000 |||
    (result &&& 0x0000FFFF000000000000FFFF000000000000FFFF000000000000FFFF00000000) >>> 16
  let result := result &&& 0xFF000000FF000000FF000000FF000000FF000000FF000000FF000000FF000000 |||
    (result &&& 0x00FF000000FF000000FF000000FF000000FF000000FF000000FF000000FF0000) >>> 8
  (result &&& 0xF000F000F000F000F000F000F000F000F000F000F000F000F000F000F000F000) >>> 4 |||
    (result &&& 0x0F000F000F000F000F000F000F000F000F000F000F000F000F000F000F000F00) >>> 8

/-- `_toHex16`; the sums and the product of the last assignment are checked. -/
def toHex16 (data : Bytes16) : Except Panic Nat := do
  let result := spreadNibbles (bytes32 data)
  let zeros ← checkedAdd 256 .arithmetic
    0x3030303030303030303030303030303030303030303030303030303030303030 result
  let carries ← checkedAdd 256 .arithmetic result
    0x0606060606060606060606060606060606060606060606060606060606060606
  let letters := carries >>> 4 &&&
    0x0F0F0F0F0F0F0F0F0F0F0F0F0F0F0F0F0F0F0F0F0F0F0F0F0F0F0F0F0F0F0F0F
  let gap ← checkedMul 256 .arithmetic letters 39
  checkedAdd 256 .arithmetic zeros gap

/-- `tokenURI` of the unit with this hash. -/
def tokenURI (baseURI : List Byte) (unitHash : Bytes32) : Except Panic (List Byte) := do
  let left ← toHex16 (bytes16 unitHash)
  let right ← toHex16 (bytes16 (shiftLeft128 unitHash))
  return baseURI ++ cidPrefix ++ toBytes 32 left ++ toBytes 32 right

end GenericRegistry

def UnitRegistry.tokenURI (baseURI : List Byte) (unitId : Nat) (s : UnitState) :
    Except Panic (List Byte) :=
  GenericRegistry.tokenURI baseURI (s.mapUnits unitId).unitHash

def ServiceRegistry.tokenURI (baseURI : List Byte) (serviceId : Nat) (s : RegistryState) :
    Except Panic (List Byte) :=
  GenericRegistry.tokenURI baseURI (s.mapServices serviceId).configHash

end AutonolasRegistries.Source
