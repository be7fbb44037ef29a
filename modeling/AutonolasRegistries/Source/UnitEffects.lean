import AutonolasRegistries.Source.UnitMachine

/-!
# What a successful call of a unit registry did

Only `create` writes the records of units.
-/
namespace AutonolasRegistries.Source
open Library

namespace UnitRegistry

theorem checkDependencies_ok {maxComponentId lastId : Nat} {dependencies : List Uint32} {u : Unit}
    (h : checkDependencies maxComponentId lastId dependencies = .ok u) :
    dependencies.Pairwise (· < ·) ∧
      ∀ d ∈ dependencies, lastId < d.val ∧ d.val ≤ maxComponentId := by
  induction dependencies generalizing lastId with
  | nil => simp
  | cons dependency rest ih =>
    simp only [checkDependencies, bind_eq_ok, revertIf_eq_ok, exists_const, checkedAdd_eq_ok,
      not_or, not_lt] at h
    obtain ⟨least, ⟨-, rfl⟩, ⟨low, high⟩, h⟩ := h
    obtain ⟨ascending, known⟩ := ih h
    refine ⟨List.pairwise_cons.mpr ⟨fun d member => (known d member).1, ascending⟩, ?_⟩
    intro d member
    rcases List.mem_cons.mp member with rfl | member
    · exact ⟨low, high⟩
    · have := known d member
      omega

end UnitRegistry

/-- What a call changed in the records of the units. -/
inductive UnitChange (unitType : UnitType) (components s s' : UnitState) : UnitCall → Prop where
  | created {sender : Caller} {unitOwner : Address} {unitHash : Bytes32}
      {dependencies result : List Uint32}
      (ascending : dependencies.Pairwise (· < ·))
      (known : ∀ d ∈ dependencies, 0 < d.val ∧ d.val ≤ components.totalSupply % 2 ^ 32)
      (merged : UnitRegistry.calculateSubComponents
        (fun componentId => components.mapSubComponents componentId.val) dependencies =
          .ok result)
      (units : s'.mapUnits =
        Function.update s.mapUnits (s.totalSupply + 1) ⟨unitHash, dependencies⟩)
      (subComponents : s'.mapSubComponents = Function.update s.mapSubComponents (s.totalSupply + 1)
        (if unitType = .component then result ++ [Fin.ofNat _ (s.totalSupply + 1)] else result))
      (supply : s'.totalSupply = s.totalSupply + 1) :
      UnitChange unitType components s s' (.create sender unitOwner unitHash dependencies)
  | kept {call : UnitCall} (units : s'.mapUnits = s.mapUnits)
      (subComponents : s'.mapSubComponents = s.mapSubComponents)
      (supply : s'.totalSupply = s.totalSupply) : UnitChange unitType components s s' call

theorem UnitState.enter_change {unitType : UnitType} {components s : UnitState} {call : UnitCall}
    {out : Outcome UnitState Unit} (h : UnitState.enter unitType components call s = .ok out) :
    UnitChange unitType components s out.state call := by
  cases call with
  | create =>
    simp only [enter, UnitRegistry.create, bind_eq_ok, revertIf_eq_ok, exists_const,
      checkedAdd_eq_ok, pure_eq_ok, Prod.exists, Prod.mk.injEq] at h
    obtain ⟨_, _, ⟨-, -, -, -, -, _, checked, unitId, ⟨-, rfl⟩, result, merged, erc721, -, rfl,
      rfl⟩, rfl⟩ := h
    obtain ⟨ascending, known⟩ := UnitRegistry.checkDependencies_ok checked
    exact .created ascending known merged rfl rfl rfl
  | updateHash =>
    simp only [enter, UnitRegistry.updateHash, bind_eq_ok, revertIf_eq_ok, exists_const,
      pure_eq_ok] at h
    obtain ⟨_, ⟨-, _, -, -, -, rfl⟩, rfl⟩ := h
    exact .kept rfl rfl rfl
  | changeOwner =>
    simp only [enter, UnitRegistry.changeOwner, bind_eq_ok, revertIf_eq_ok, exists_const,
      pure_eq_ok] at h
    obtain ⟨_, ⟨-, -, rfl⟩, rfl⟩ := h
    exact .kept rfl rfl rfl
  | changeManager =>
    simp only [enter, UnitRegistry.changeManager, bind_eq_ok, revertIf_eq_ok, exists_const,
      pure_eq_ok] at h
    obtain ⟨_, ⟨-, -, rfl⟩, rfl⟩ := h
    exact .kept rfl rfl rfl
  | approve =>
    simp only [enter, bind_eq_ok, pure_eq_ok] at h
    obtain ⟨_, -, rfl⟩ := h
    exact .kept rfl rfl rfl
  | setApprovalForAll =>
    cases h
    exact .kept rfl rfl rfl
  | transferFrom =>
    simp only [enter, bind_eq_ok, pure_eq_ok] at h
    obtain ⟨_, -, rfl⟩ := h
    exact .kept rfl rfl rfl

end AutonolasRegistries.Source
