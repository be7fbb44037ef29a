import AutonolasRegistries.Source.ERC721

/-!
# ComponentRegistry and AgentRegistry

Both are a `UnitRegistry`. A unit names the components it depends on and is stored with
the components it is built from, merged from the lists of its dependencies. An agent
reads those lists from the component registry. `UnitRegistry.sol:49-265`,
`ComponentRegistry.sol:28-50`, `AgentRegistry.sol:31-73`, `GenericRegistry.sol:33-66`.

`create` is cut at the `onERC721Received` call of `_safeMint`. Events and the URI
functions are left out.
-/
namespace AutonolasRegistries.Source
open Library

inductive UnitType where
  | component | agent
  deriving DecidableEq, Repr

structure UnitRecord where
  unitHash : Bytes32
  dependencies : List Uint32
  deriving DecidableEq, Repr

structure UnitState where
  erc721 : ERC721
  owner : Address
  manager : Address
  totalSupply : Nat
  locked : Nat
  mapUnitIdHashes : Nat → List Bytes32
  mapSubComponents : Nat → List Uint32
  mapUnits : Nat → UnitRecord

namespace UnitRegistry

/-- Storage after the constructor. -/
def deployment (deployer : Address) : UnitState where
  erc721 := ⟨fun _ => 0, fun _ => 0, fun _ _ => false⟩
  owner := deployer
  manager := 0
  totalSupply := 0
  locked := 1
  mapUnitIdHashes := fun _ => []
  mapSubComponents := fun _ => []
  mapUnits := fun _ => ⟨0, []⟩

section Merge

/-- The innermost loop of `_calculateSubComponents`: the index of the next component
above `minComponent`, or the end of the list. Its counter stays within
`numComponents`, so `fuel` is the rest of the list. -/
def seek (components : List Uint32) (numComponents : Nat) (minComponent : Uint32) :
    Nat → Nat → Except Revert Nat
  | 0, processed => .ok processed
  | fuel + 1, processed =>
    if processed < numComponents then do
      let component ← readAt (.panic .arrayIndex) components processed
      if minComponent < component then return processed
      else seek components numComponents minComponent fuel (processed + 1)
    else .ok processed

/-- The variables of one pass over the units. -/
structure Scan where
  processedComponents : List Nat
  tryMinComponent : Uint32
  minIdxComponent : Nat
  numComponentsCheck : Nat

/-- A component above the last one was found for unit `i`. -/
def consider (component : Uint32) (i : Nat) (scan : Scan) : Except Revert Scan := do
  let scan := if component < scan.tryMinComponent then
      { scan with tryMinComponent := component, minIdxComponent := i }
    else scan
  let numComponentsCheck ← checkedAdd 32 (.panic .arithmetic) scan.numComponentsCheck 1
  return { scan with numComponentsCheck }

def scanBody (components : List (List Uint32)) (numComponents : List Nat)
    (minComponent : Uint32) (i : Nat) (scan : Scan) : Except Revert Scan := do
  let list ← readAt (.panic .arrayIndex) components i
  let num ← readAt (.panic .arrayIndex) numComponents i
  let start ← readAt (.panic .arrayIndex) scan.processedComponents i
  let stop ← seek list num minComponent (num - start) start
  let processedComponents ← writeAt (.panic .arrayIndex) scan.processedComponents i stop
  let scan := { scan with processedComponents }
  if stop < num then do
    let component ← readAt (.panic .arrayIndex) list stop
    consider component i scan
  else return scan

/-- The variables of the outer loop. -/
structure Merge where
  processedComponents : List Nat
  minComponent : Uint32
  allComponents : List Uint32
  counter : Nat

/-- The outer loop, with the number of its remaining iterations. -/
def mergeLoop (components : List (List Uint32)) (numComponents : List Nat) (numUnits : Nat) :
    Nat → Merge → Except Revert Merge
  | 0, st => .ok st
  | remaining + 1, st => do
    let scan ← loop (scanBody components numComponents st.minComponent) (List.range numUnits)
      ⟨st.processedComponents, 4294967295, 0, 0⟩
    if 0 < scan.numComponentsCheck then do
      let allComponents ← writeAt (.panic .arrayIndex) st.allComponents st.counter
        scan.tryMinComponent
      let processed ← readAt (.panic .arrayIndex) scan.processedComponents scan.minIdxComponent
      let processed ← checkedAdd 32 (.panic .arithmetic) processed 1
      let processedComponents ← writeAt (.panic .arrayIndex) scan.processedComponents
        scan.minIdxComponent processed
      mergeLoop components numComponents numUnits remaining
        ⟨processedComponents, scan.tryMinComponent, allComponents, st.counter + 1⟩
    else return { st with
      processedComponents := scan.processedComponents
      minComponent := scan.tryMinComponent }

/-- `_calculateSubComponents`, given `_getSubComponents`. -/
def calculateSubComponents (getSubComponents : Uint32 → List Uint32) (unitIds : List Uint32) :
    Except Revert (List Uint32) := do
  let numUnits := unitIds.length % 2 ^ 32
  let components := (unitIds.take numUnits).map getSubComponents
  let numComponents := components.map fun list => list.length % 2 ^ 32
  let maxNumComponents ← loop
    (fun num total => checkedAdd 32 (.panic .arithmetic) total num) numComponents 0
  let st ← mergeLoop components numComponents numUnits maxNumComponents
    ⟨List.replicate numUnits 0, 0, List.replicate maxNumComponents 0, 0⟩
  return st.allComponents.take st.counter

end Merge

/-- `_checkDependencies` after the check for an empty list. -/
def checkDependencies (maxComponentId : Nat) : Nat → List Uint32 → Except Revert Unit
  | _, [] => .ok ()
  | lastId, dependency :: rest => do
    let least ← checkedAdd 32 (.panic .arithmetic) lastId 1
    revertIf (dependency.val < least ∨ maxComponentId < dependency.val)
      (.componentNotFound dependency.val)
    checkDependencies maxComponentId dependency.val rest

/-- Up to the `onERC721Received` call of `_safeMint`. The last component Id and the lists
of subcomponents are those of the component registry. -/
def create (unitType : UnitType) (componentTotalSupply : Nat)
    (getSubComponents : Uint32 → List Uint32) (sender unitOwner : Address) (unitHash : Bytes32)
    (dependencies : List Uint32) (s : UnitState) : Except Revert (UnitState × Nat) := do
  revertIf (1 < s.locked) .reentrancyGuard
  let s := { s with locked := 2 }
  revertIf (s.manager ≠ sender) (.managerOnly sender s.manager)
  revertIf (unitOwner = 0) .zeroAddress
  revertIf (unitHash = 0) .zeroValue
  revertIf (unitType = .agent ∧ dependencies.length = 0) .zeroValue
  checkDependencies (componentTotalSupply % 2 ^ 32) 0 dependencies
  let unitId ← checkedAdd 256 (.panic .arithmetic) s.totalSupply 1
  let subComponentIds ← calculateSubComponents getSubComponents dependencies
  let subComponentIds :=
    if unitType = .component then subComponentIds ++ [Fin.ofNat _ unitId] else subComponentIds
  let s := { s with
    mapUnits := Function.update s.mapUnits unitId ⟨unitHash, dependencies⟩
    mapSubComponents := Function.update s.mapSubComponents unitId subComponentIds
    totalSupply := unitId }
  let erc721 ← s.erc721.mint unitOwner unitId
  return ({ s with erc721 }, unitId)

/-- The last statement of `create`. -/
def unlock (s : UnitState) : UnitState := { s with locked := 1 }

def updateHash (unitType : UnitType) (sender unitOwner : Address) (unitId : Nat)
    (unitHash : Bytes32) (s : UnitState) : Except Revert UnitState := do
  revertIf (s.manager ≠ sender) (.managerOnly sender s.manager)
  let actualOwner ← s.erc721.ownerOf unitId
  revertIf (actualOwner ≠ unitOwner)
    (if unitType = .component then .componentNotFound unitId else .agentNotFound unitId)
  revertIf (unitHash = 0) .zeroValue
  return { s with
    mapUnitIdHashes := Function.update s.mapUnitIdHashes unitId
      (s.mapUnitIdHashes unitId ++ [unitHash]) }

def changeOwner (sender newOwner : Address) (s : UnitState) : Except Revert UnitState := do
  revertIf (sender ≠ s.owner) (.ownerOnly sender s.owner)
  revertIf (newOwner = 0) .zeroAddress
  return { s with owner := newOwner }

def changeManager (sender newManager : Address) (s : UnitState) : Except Revert UnitState := do
  revertIf (sender ≠ s.owner) (.ownerOnly sender s.owner)
  revertIf (newManager = 0) .zeroAddress
  return { s with manager := newManager }

end UnitRegistry
end AutonolasRegistries.Source
