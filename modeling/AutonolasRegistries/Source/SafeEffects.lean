import Mathlib.Data.List.Nodup
import AutonolasRegistries.Source.RecoveryModule

/-!
# What the batches of the recovery module do to a Safe

The owner list of a Safe stays well formed under every call, and the two batches of the
module have a closed form: one removes from the head until the last owner is left, the
other puts the new owners in front and takes the old one off the end.
-/
namespace AutonolasRegistries.Source
open Library

namespace Safe

/-- Whoever is on the list behind the sentinel is an owner. -/
theorem proper_of_mem {this account : Address} {safe : Safe} (valid : safe.Valid this)
    (other : account ≠ sentinel) (member : account ∈ sentinel :: safe.owners) :
    account ≠ 0 ∧ account ≠ sentinel ∧ account ≠ this :=
  valid.proper account ((List.mem_cons.mp member).resolve_left other)

variable {code : SafeCode} (management : OwnerManagement code) {this : Address}
include management

/-- Every call keeps the owner list well formed. -/
theorem perform_valid {safe after : Safe} {call : SafeCall} (valid : safe.Valid this)
    (done : code.perform this safe call = some after) : after.Valid this := by
  have listed : (sentinel :: safe.owners).Nodup :=
    List.nodup_cons.mpr ⟨fun member => (valid.proper _ member).2.1 rfl, valid.nodup⟩
  cases call with
  | addOwnerWithThreshold owner threshold =>
    obtain ⟨⟨nonzero, notSentinel, other, fresh⟩, positive, reachable, rfl⟩ :=
      (management.addOwner valid).mp done
    refine ⟨List.nodup_cons.mpr ⟨fresh, valid.nodup⟩, fun a member => ?_, positive, reachable⟩
    rcases List.mem_cons.mp member with rfl | old
    · exact ⟨nonzero, notSentinel, other⟩
    · exact valid.proper a old
  | removeOwner prevOwner owner threshold =>
    obtain ⟨positive, enough, owners, relinked, rfl⟩ := (management.removeOwner valid).mp done
    have distinct := relinked.nodup listed List.nodup_nil (by simp)
    obtain ⟨notListed, nodup⟩ := List.nodup_cons.mp distinct
    refine ⟨nodup, fun a member => ?_, positive, ?_⟩
    · rcases relinked.mem (List.mem_cons_of_mem _ member) with new | old
      · cases new
      · exact proper_of_mem valid (fun same => notListed (same ▸ member)) old
    · have size := relinked.length
      simp only [List.length_nil] at size
      change threshold ≤ owners.length
      omega
  | swapOwner prevOwner oldOwner newOwner =>
    obtain ⟨⟨nonzero, notSentinel, other, fresh⟩, owners, relinked, rfl⟩ :=
      (management.swapOwner valid).mp done
    have distinct := relinked.nodup listed (List.nodup_singleton newOwner) fun a new => by
      rw [List.mem_singleton.mp new, List.mem_cons, not_or]
      exact ⟨notSentinel, fresh⟩
    obtain ⟨notListed, nodup⟩ := List.nodup_cons.mp distinct
    refine ⟨nodup, fun a member => ?_, valid.positive, ?_⟩
    · rcases relinked.mem (List.mem_cons_of_mem _ member) with new | old
      · rw [List.mem_singleton.mp new]
        exact ⟨nonzero, notSentinel, other⟩
      · exact proper_of_mem valid (fun same => notListed (same ▸ member)) old
    · have size := relinked.length
      have reachable := valid.reachable
      simp only [List.length_singleton] at size
      change safe.threshold ≤ owners.length
      omega

/-- The owner at the head goes, and the threshold becomes one. -/
theorem remove_first {first second : Address} {rest modules : List Address} {threshold : Nat}
    (valid : (⟨first :: second :: rest, threshold, modules⟩ : Safe).Valid this) :
    code.perform this ⟨first :: second :: rest, threshold, modules⟩
      (.removeOwner sentinel first 1) = some ⟨second :: rest, 1, modules⟩ := by
  refine (management.removeOwner valid).mpr ⟨le_refl 1, ?_, second :: rest, ?_, rfl⟩
  · simp
  · exact ⟨[], second :: rest, rfl, rfl⟩

/-- The removals of `recoverAccess` leave the last owner, with a threshold of one. -/
theorem removals_some {owners modules : List Address} {threshold : Nat} {lastOwner : Address}
    (valid : (⟨owners, threshold, modules⟩ : Safe).Valid this)
    (last : owners.getLast? = some lastOwner) :
    (owners.dropLast.map fun owner => SafeCall.removeOwner sentinel owner 1).foldlM
      (code.perform this) ⟨owners, threshold, modules⟩ = some ⟨[lastOwner], 1, modules⟩ := by
  induction owners generalizing threshold with
  | nil => cases last
  | cons first rest ih =>
    cases rest with
    | nil =>
      cases last
      have one : threshold = 1 := Nat.le_antisymm valid.reachable valid.positive
      rw [one]
      rfl
    | cons second rest =>
      have removed := remove_first management valid
      rw [List.getLast?_cons_cons] at last
      rw [List.dropLast_cons_cons, List.map_cons, List.foldlM_cons, removed]
      exact ih (perform_valid management valid removed) last

/-- The swap of the only owner that is left. -/
theorem swap_last {sender lastOwner : Address} {modules : List Address}
    (valid : (⟨[lastOwner], 1, modules⟩ : Safe).Valid this) :
    code.perform this ⟨[lastOwner], 1, modules⟩ (.swapOwner sentinel lastOwner sender) =
      if sender = 0 ∨ sender = sentinel ∨ sender = this ∨ sender = lastOwner then none
      else some ⟨[sender], 1, modules⟩ := by
  split
  · next refused =>
    refine Option.eq_none_iff_forall_not_mem.mpr fun after done => ?_
    obtain ⟨⟨nonzero, notSentinel, other, fresh⟩, -⟩ := (management.swapOwner valid).mp done
    simp only [List.mem_singleton] at fresh
    tauto
  · next allowed =>
    simp only [not_or] at allowed
    obtain ⟨nonzero, notSentinel, other, different⟩ := allowed
    refine (management.swapOwner valid).mpr
      ⟨⟨nonzero, notSentinel, other, ?_⟩, [sender], ⟨[], [], rfl, rfl⟩, rfl⟩
    rwa [List.mem_singleton]

/-- The whole batch goes through exactly when the last owner can be swapped for the
sender. -/
theorem recoverBatch_eq {safe : Safe} {sender lastOwner : Address} (valid : safe.Valid this)
    (last : safe.owners.getLast? = some lastOwner) :
    (RecoveryModule.recoverBatch safe.owners sender lastOwner).foldlM (code.perform this) safe =
      if sender = 0 ∨ sender = sentinel ∨ sender = this ∨ sender = lastOwner then none
      else some { safe with owners := [sender], threshold := 1 } := by
  have alone : (⟨[lastOwner], 1, safe.modules⟩ : Safe).Valid this := by
    refine ⟨List.nodup_singleton _, fun a member => ?_, le_refl 1, le_refl 1⟩
    rw [List.mem_singleton.mp member]
    exact valid.proper lastOwner (List.mem_of_getLast? last)
  have removals := removals_some management valid last
  simp only [RecoveryModule.recoverBatch, RecoveryModule.recoverThreshold, List.foldlM_append,
    removals, Option.bind_eq_bind, Option.bind_some, List.foldlM_cons, List.foldlM_nil,
    swap_last management alone]
  split <;> rfl

/-- The additions of `create` put the instances in front, the last one first. -/
theorem additions_some {instances owners modules : List Address}
    (valid : (⟨owners, 1, modules⟩ : Safe).Valid this)
    (nodup : (instances.reverse ++ owners).Nodup)
    (proper : ∀ a ∈ instances, a ≠ 0 ∧ a ≠ sentinel ∧ a ≠ this) :
    (instances.map fun owner => SafeCall.addOwnerWithThreshold owner 1).foldlM (code.perform this)
      ⟨owners, 1, modules⟩ = some ⟨instances.reverse ++ owners, 1, modules⟩ := by
  induction instances generalizing owners with
  | nil => rfl
  | cons first rest ih =>
    rw [List.reverse_cons, List.append_assoc, List.singleton_append] at nodup ⊢
    obtain ⟨nonzero, notSentinel, other⟩ := proper first List.mem_cons_self
    have fresh : first ∉ owners := by
      rw [List.nodup_middle] at nodup
      exact fun member => (List.nodup_cons.mp nodup).1 (List.mem_append_right _ member)
    have added : code.perform this ⟨owners, 1, modules⟩ (.addOwnerWithThreshold first 1) =
        some ⟨first :: owners, 1, modules⟩ :=
      (management.addOwner valid).mpr
        ⟨⟨nonzero, notSentinel, other, fresh⟩, le_refl 1, Nat.le_add_left 1 _, rfl⟩
    rw [List.map_cons, List.foldlM_cons, added]
    exact ih (perform_valid management valid added) nodup fun a member =>
      proper a (List.mem_cons_of_mem _ member)

/-- The batch of `create` on a recovered Safe. -/
theorem redeployBatch_some {first serviceOwner : Address} {rest modules : List Address}
    {threshold : Nat} (valid : (⟨[serviceOwner], 1, modules⟩ : Safe).Valid this)
    (nodup : ((first :: rest).reverse ++ [serviceOwner]).Nodup)
    (proper : ∀ a ∈ first :: rest, a ≠ 0 ∧ a ≠ sentinel ∧ a ≠ this) (positive : 1 ≤ threshold)
    (reachable : threshold ≤ (first :: rest).length) :
    (RecoveryModule.redeployBatch (first :: rest) first serviceOwner threshold).foldlM
      (code.perform this) ⟨[serviceOwner], 1, modules⟩ =
        some ⟨(first :: rest).reverse, threshold, modules⟩ := by
  have additions := additions_some management valid nodup proper
  have full : (⟨(first :: rest).reverse ++ [serviceOwner], 1, modules⟩ : Safe).Valid this := by
    refine ⟨nodup, fun a member => ?_, le_refl 1, ?_⟩
    · rcases List.mem_append.mp member with new | old
      · exact proper a (List.mem_reverse.mp new)
      · exact valid.proper a old
    · rw [List.length_append]
      exact Nat.le_add_left 1 _
  have removed : code.perform this ⟨(first :: rest).reverse ++ [serviceOwner], 1, modules⟩
      (.removeOwner first serviceOwner threshold) =
        some ⟨(first :: rest).reverse, threshold, modules⟩ := by
    refine (management.removeOwner full).mpr
      ⟨positive, ?_, (first :: rest).reverse, ⟨sentinel :: rest.reverse, [], ?_, ?_⟩, rfl⟩
    · simpa using reachable
    · simp
    · simp
  rw [RecoveryModule.redeployBatch, RecoveryModule.recoverThreshold, List.foldlM_append, additions]
  simp only [Option.bind_eq_bind, Option.bind_some, List.foldlM_cons, List.foldlM_nil, removed]
  rfl

end Safe

end AutonolasRegistries.Source
