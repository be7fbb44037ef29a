import Mathlib.Logic.Function.Basic
import AutonolasRegistries.Source.Types

/-!
# ERC721 base of the service registry

The token base as flattened in `audits/internal10/analysis/contracts/
StakingBase-flatten.sol:11-215`. The per-account counters are not kept: nothing
in the registries reads them. `safeTransferFrom` is `transferFrom` followed by a
call to the recipient, after which nothing is written.
-/
namespace AutonolasRegistries.Source
open Library

structure ERC721 where
  owners : Nat → Address
  getApproved : Nat → Address
  isApprovedForAll : Address → Address → Bool

namespace ERC721

def ownerOf (t : ERC721) (id : Nat) : Except Revert Address :=
  if t.owners id = 0 then .error .notMinted else .ok (t.owners id)

def approve (sender spender : Address) (id : Nat) (t : ERC721) : Except Revert ERC721 := do
  let owner := t.owners id
  revertIf (¬ (sender = owner ∨ t.isApprovedForAll owner sender = true)) .notAuthorized
  return { t with getApproved := Function.update t.getApproved id spender }

def setApprovalForAll (sender operator : Address) (approved : Bool) (t : ERC721) : ERC721 :=
  let granted := Function.update (t.isApprovedForAll sender) operator approved
  { t with isApprovedForAll := Function.update t.isApprovedForAll sender granted }

def transferFrom (sender owner recipient : Address) (id : Nat) (t : ERC721) :
    Except Revert ERC721 := do
  revertIf (owner ≠ t.owners id) .wrongFrom
  revertIf (recipient = 0) .invalidRecipient
  revertIf (¬ (sender = owner ∨ t.isApprovedForAll owner sender = true ∨
    sender = t.getApproved id)) .notAuthorized
  return { t with
    owners := Function.update t.owners id recipient
    getApproved := Function.update t.getApproved id 0 }

def mint (recipient : Address) (id : Nat) (t : ERC721) : Except Revert ERC721 := do
  revertIf (recipient = 0) .invalidRecipient
  revertIf (t.owners id ≠ 0) .alreadyMinted
  return { t with owners := Function.update t.owners id recipient }

theorem ownerOf_eq_ok {t : ERC721} {id : Nat} {owner : Address} :
    t.ownerOf id = .ok owner ↔ t.owners id ≠ 0 ∧ t.owners id = owner := by
  by_cases h : t.owners id = 0 <;> simp [ownerOf, h]

theorem approve_eq_ok {t t' : ERC721} {sender spender : Address} {id : Nat} :
    t.approve sender spender id = .ok t' ↔
      (sender = t.owners id ∨ t.isApprovedForAll (t.owners id) sender = true) ∧
      { t with getApproved := Function.update t.getApproved id spender } = t' := by
  simp only [approve, revertIf_bind_eq_ok, pure_eq_ok, not_not]

theorem transferFrom_eq_ok {t t' : ERC721} {sender owner recipient : Address} {id : Nat} :
    t.transferFrom sender owner recipient id = .ok t' ↔
      owner = t.owners id ∧ recipient ≠ 0 ∧
      (sender = owner ∨ t.isApprovedForAll owner sender = true ∨ sender = t.getApproved id) ∧
      { t with
        owners := Function.update t.owners id recipient
        getApproved := Function.update t.getApproved id 0 } = t' := by
  simp only [transferFrom, revertIf_bind_eq_ok, pure_eq_ok, not_not, ne_eq]

theorem mint_eq_ok {t t' : ERC721} {recipient : Address} {id : Nat} :
    t.mint recipient id = .ok t' ↔
      recipient ≠ 0 ∧ t.owners id = 0 ∧
      { t with owners := Function.update t.owners id recipient } = t' := by
  simp only [mint, revertIf_bind_eq_ok, pure_eq_ok, not_not, ne_eq]

/-- Nobody may act for the zero address, so an Id that was not minted stays so
until it is. -/
structure Guarded (t : ERC721) : Prop where
  operators : ∀ operator, t.isApprovedForAll 0 operator = false
  spenders : ∀ id, t.owners id = 0 → t.getApproved id = 0

theorem mint_guarded {t t' : ERC721} {recipient : Address} {id : Nat} (before : t.Guarded)
    (h : t.mint recipient id = .ok t') : t'.Guarded := by
  obtain ⟨valid, -, rfl⟩ := mint_eq_ok.mp h
  refine ⟨before.operators, fun id' zero => ?_⟩
  by_cases same : id' = id
  · subst same
    exact absurd (by simpa only [Function.update_self] using zero) valid
  · exact before.spenders id' (by simpa only [Function.update_of_ne same] using zero)

theorem setApprovalForAll_guarded {t : ERC721} (before : t.Guarded) (sender : Caller)
    (operator : Address) (approved : Bool) :
    (t.setApprovalForAll sender operator approved).Guarded := by
  refine ⟨fun other => ?_, before.spenders⟩
  simp only [setApprovalForAll, Function.update_of_ne sender.property.symm]
  exact before.operators other

theorem approve_guarded {t t' : ERC721} (before : t.Guarded) {sender : Caller}
    {spender : Address} {id : Nat} (h : t.approve sender spender id = .ok t') :
    t'.Guarded ∧ t'.owners = t.owners := by
  obtain ⟨allowed, rfl⟩ := approve_eq_ok.mp h
  have minted : t.owners id ≠ 0 := by
    intro zero
    rw [zero] at allowed
    rcases allowed with own | approved
    · exact sender.property own
    · rw [before.operators] at approved
      cases approved
  refine ⟨⟨before.operators, fun id' zero => ?_⟩, rfl⟩
  by_cases same : id' = id
  · subst same
    exact absurd zero minted
  · simp only [Function.update_of_ne same]
    exact before.spenders id' zero

theorem transferFrom_guarded {t t' : ERC721} (before : t.Guarded) {sender : Caller}
    {owner recipient : Address} {id : Nat}
    (h : t.transferFrom sender owner recipient id = .ok t') :
    t'.Guarded ∧ ∀ id', t'.owners id' = 0 ↔ t.owners id' = 0 := by
  obtain ⟨from_owner, valid, allowed, rfl⟩ := transferFrom_eq_ok.mp h
  have minted : t.owners id ≠ 0 := by
    intro zero
    rw [from_owner, zero, before.operators, before.spenders id zero] at allowed
    simp [sender.property] at allowed
  have owned : ∀ id', Function.update t.owners id recipient id' = 0 ↔ t.owners id' = 0 := by
    intro id'
    by_cases same : id' = id
    · subst same
      simp only [Function.update_self]
      exact ⟨fun zero => absurd zero valid, fun zero => absurd zero minted⟩
    · simp only [Function.update_of_ne same]
  refine ⟨⟨before.operators, fun id' zero => ?_⟩, owned⟩
  by_cases same : id' = id
  · subst same
    simp only [Function.update_self]
  · simp only [Function.update_of_ne same]
    exact before.spenders id' ((owned id').mp zero)

/-- An account whose tokens nobody else may move: it gave no approvals. -/
structure Keeps (account : Address) (t : ERC721) : Prop where
  operators : ∀ operator, t.isApprovedForAll account operator = false
  spenders : ∀ id, t.owners id = account → t.getApproved id = 0

theorem setApprovalForAll_keeps {t : ERC721} {account : Address} (before : t.Keeps account)
    {sender : Address} (other : sender ≠ account) (operator : Address) (approved : Bool) :
    (t.setApprovalForAll sender operator approved).Keeps account := by
  refine ⟨fun spender => ?_, before.spenders⟩
  simp only [setApprovalForAll, Function.update_of_ne other.symm]
  exact before.operators spender

theorem approve_keeps {t t' : ERC721} {account : Address} (before : t.Keeps account)
    {sender spender : Address} {id : Nat} (other : sender ≠ account)
    (h : t.approve sender spender id = .ok t') : t'.Keeps account := by
  obtain ⟨allowed, rfl⟩ := approve_eq_ok.mp h
  refine ⟨before.operators, fun id' owned => ?_⟩
  by_cases same : id' = id
  · subst same
    simp [show t.owners id' = account from owned, before.operators, other] at allowed
  · simp only [Function.update_of_ne same]
    exact before.spenders id' owned

theorem mint_keeps {t t' : ERC721} {account recipient : Address} {id : Nat}
    (guarded : t.Guarded) (before : t.Keeps account) (valid : account ≠ 0)
    (h : t.mint recipient id = .ok t') :
    t'.Keeps account ∧ ∀ id', t.owners id' = account → t'.owners id' = account := by
  obtain ⟨-, unminted, rfl⟩ := mint_eq_ok.mp h
  constructor
  · refine ⟨before.operators, fun id' owned => ?_⟩
    by_cases same : id' = id
    · subst same
      exact guarded.spenders id' unminted
    · exact before.spenders id' (by simpa only [Function.update_of_ne same] using owned)
  · intro id' owned
    have other : id' ≠ id := by
      rintro rfl
      exact valid (owned.symm.trans unminted)
    simpa only [Function.update_of_ne other] using owned

/-- A transfer, whoever makes it, leaves no approval behind. -/
theorem transferFrom_approvals {t t' : ERC721} {account : Address} (before : t.Keeps account)
    {sender owner recipient : Address} {id : Nat}
    (h : t.transferFrom sender owner recipient id = .ok t') : t'.Keeps account := by
  obtain ⟨-, -, -, rfl⟩ := transferFrom_eq_ok.mp h
  refine ⟨before.operators, fun id' owned => ?_⟩
  by_cases same : id' = id
  · subst same
    simp only [Function.update_self]
  · simp only [Function.update_of_ne same] at owned ⊢
    exact before.spenders id' owned

theorem transferFrom_keeps {t t' : ERC721} {account : Address} (before : t.Keeps account)
    {sender : Caller} {owner recipient : Address} {id : Nat} (other : sender.val ≠ account)
    (h : t.transferFrom sender owner recipient id = .ok t') :
    ∀ id', t.owners id' = account → t'.owners id' = account := by
  obtain ⟨from_owner, -, allowed, rfl⟩ := transferFrom_eq_ok.mp h
  intro id' owned
  have elsewhere : id' ≠ id := by
    rintro rfl
    rw [from_owner, owned, before.operators, before.spenders id' owned] at allowed
    simp [other, sender.property] at allowed
  simpa only [Function.update_of_ne elsewhere] using owned

end ERC721
end AutonolasRegistries.Source
