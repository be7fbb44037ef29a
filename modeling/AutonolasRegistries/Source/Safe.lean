import AutonolasRegistries.Source.Types

/-!
# The Safe of a service

The Safe v1.3.0 and the multisend contract are not part of the repository, so their code
is a parameter here. `OwnerManagement` is what the recovery module relies on: the owners
are a linked list that starts at a sentinel, a new owner is put in front, and a batch of
calls takes effect as a whole or not at all, which the module transaction only reports by
its return value.
-/
namespace AutonolasRegistries.Source
open Library

/-- `owners` in the order of `getOwners`. -/
structure Safe where
  owners : List Address
  threshold : Nat
  modules : List Address
  deriving DecidableEq, Repr

inductive SafeCall where
  | addOwnerWithThreshold (owner : Address) (threshold : Nat)
  | removeOwner (prevOwner owner : Address) (threshold : Nat)
  | swapOwner (prevOwner oldOwner newOwner : Address)
  deriving DecidableEq, Repr

/-- One call of the Safe `this` to itself, and `execTransactionFromModule` of a multisend
batch of such calls; `none` is a revert, and the flag is the return value. -/
structure SafeCode where
  perform (this : Address) (safe : Safe) (call : SafeCall) : Option Safe
  execTransactionFromModule (this sender : Address) (batch : List SafeCall) (safe : Safe) :
    Option (Safe × Bool)

namespace Safe

def sentinel : Address := 1

/-- What `setup` establishes for the Safe at `this` and every call keeps. -/
structure Valid (this : Address) (safe : Safe) : Prop where
  nodup : safe.owners.Nodup
  proper : ∀ owner ∈ safe.owners, owner ≠ 0 ∧ owner ≠ sentinel ∧ owner ≠ this
  positive : 1 ≤ safe.threshold
  reachable : safe.threshold ≤ safe.owners.length

/-- An account that can become an owner. -/
def Admits (this : Address) (safe : Safe) (owner : Address) : Prop :=
  owner ≠ 0 ∧ owner ≠ sentinel ∧ owner ≠ this ∧ owner ∉ safe.owners

/-- `owner` is the entry behind `prevOwner`, and `after` has `replacement` in its place. -/
def Relinked (prevOwner owner : Address) (replacement owners after : List Address) : Prop :=
  ∃ front back, sentinel :: owners = front ++ prevOwner :: owner :: back ∧
    sentinel :: after = front ++ prevOwner :: (replacement ++ back)

section Relinked
variable {prevOwner owner : Address} {replacement owners after : List Address}

theorem Relinked.length (relinked : Relinked prevOwner owner replacement owners after) :
    after.length + 1 = owners.length + replacement.length := by
  obtain ⟨front, back, whole, linked⟩ := relinked
  have before := congrArg List.length whole
  have later := congrArg List.length linked
  simp only [List.length_cons, List.length_append] at before later
  omega

/-- The entry behind `prevOwner` is an owner. -/
theorem Relinked.owner_mem (relinked : Relinked prevOwner owner replacement owners after) :
    owner ∈ owners := by
  obtain ⟨front, back, whole, -⟩ := relinked
  cases front with
  | nil =>
    rw [List.tail_eq_of_cons_eq whole]
    exact List.mem_cons_self
  | cons first front =>
    rw [List.tail_eq_of_cons_eq whole]
    exact List.mem_append_right _ (List.mem_cons_of_mem _ List.mem_cons_self)

theorem Relinked.mem (relinked : Relinked prevOwner owner replacement owners after)
    {account : Address} (member : account ∈ sentinel :: after) :
    account ∈ replacement ∨ account ∈ sentinel :: owners := by
  obtain ⟨front, back, whole, linked⟩ := relinked
  rw [linked] at member
  rw [whole]
  simp only [List.mem_append, List.mem_cons] at member ⊢
  tauto

/-- The list stays without repetition when new accounts come in. -/
theorem Relinked.nodup (relinked : Relinked prevOwner owner replacement owners after)
    (distinct : (sentinel :: owners).Nodup) (new : replacement.Nodup)
    (fresh : ∀ account ∈ replacement, account ∉ sentinel :: owners) :
    (sentinel :: after).Nodup := by
  obtain ⟨front, back, whole, linked⟩ := relinked
  rw [whole] at distinct fresh
  have others : (front ++ [prevOwner] ++ back).Nodup := by
    refine distinct.sublist ?_
    rw [List.append_cons front prevOwner (owner :: back)]
    exact .append_left (List.sublist_cons_self owner back) _
  have order : (sentinel :: after).Perm (replacement ++ (front ++ [prevOwner] ++ back)) := by
    rw [linked, List.append_cons front prevOwner (replacement ++ back), ← List.append_assoc,
      ← List.append_assoc]
    exact List.perm_append_comm.append_right back
  refine order.nodup_iff.mpr (List.nodup_append.mpr ⟨new, others, ?_⟩)
  intro account came other stays same
  subst same
  refine fresh account came ?_
  simp only [List.mem_append, List.mem_cons, List.not_mem_nil, or_false] at stays ⊢
  tauto

end Relinked
end Safe

/-- The behaviour of the Safe v1.3.0 and the multisend contract. -/
structure OwnerManagement (code : SafeCode) : Prop where
  refused : ∀ {this sender batch safe}, sender = Safe.sentinel ∨ sender ∉ safe.modules →
    code.execTransactionFromModule this sender batch safe = none
  executed : ∀ {this sender batch safe after}, sender ≠ Safe.sentinel ∧ sender ∈ safe.modules →
    batch.foldlM (code.perform this) safe = some after →
      code.execTransactionFromModule this sender batch safe = some (after, true)
  failed : ∀ {this sender batch safe}, sender ≠ Safe.sentinel ∧ sender ∈ safe.modules →
    batch.foldlM (code.perform this) safe = none →
      code.execTransactionFromModule this sender batch safe = some (safe, false)
  addOwner : ∀ {this safe after owner threshold}, safe.Valid this →
    (code.perform this safe (.addOwnerWithThreshold owner threshold) = some after ↔
      safe.Admits this owner ∧ 1 ≤ threshold ∧ threshold ≤ safe.owners.length + 1 ∧
        after = { safe with owners := owner :: safe.owners, threshold := threshold })
  removeOwner : ∀ {this safe after prevOwner owner threshold}, safe.Valid this →
    (code.perform this safe (.removeOwner prevOwner owner threshold) = some after ↔
      1 ≤ threshold ∧ threshold ≤ safe.owners.length - 1 ∧
        ∃ owners, Safe.Relinked prevOwner owner [] safe.owners owners ∧
          after = { safe with owners := owners, threshold := threshold })
  swapOwner : ∀ {this safe after prevOwner oldOwner newOwner}, safe.Valid this →
    (code.perform this safe (.swapOwner prevOwner oldOwner newOwner) = some after ↔
      safe.Admits this newOwner ∧
        ∃ owners, Safe.Relinked prevOwner oldOwner [newOwner] safe.owners owners ∧
          after = { safe with owners := owners })

end AutonolasRegistries.Source
