import Mathlib.Algebra.BigOperators.Finprod
import Mathlib.Algebra.BigOperators.Group.Finset.Piecewise
import Mathlib.Algebra.Order.BigOperators.Group.Finset
import Mathlib.Data.Multiset.Basic
import Mathlib.Data.Fintype.BigOperators
import Mathlib.Tactic.Common

/-!
# Totals of storage maps

A storage mapping is a total function with a default value, so the sum of its
entries is a sum over all keys. It is a `finsum`: that never enumerates the keys,
which are words, and it covers mappings with infinitely many keys and finitely many
entries as well. Each write changes one entry; the lemmas here say what that does
to the total, in a form without subtraction.
-/
namespace AutonolasRegistries.Library

variable {κ M : Type} [AddCommMonoid M]

/-- The sum of all entries of a mapping. -/
noncomputable def total (f : κ → M) : M := ∑ᶠ k, f k

theorem total_eq_sum [Fintype κ] (f : κ → M) : total f = ∑ k, f k :=
  finsum_eq_sum_of_fintype f

theorem total_zero : total (fun _ : κ => (0 : M)) = 0 := finsum_zero

theorem total_add {f g : κ → M} (finite : f.support.Finite) (finite' : g.support.Finite) :
    total (fun k => f k + g k) = total f + total g :=
  finsum_add_distrib finite finite'

section Writes
variable [DecidableEq κ]

theorem sum_update_add_of_mem {s : Finset κ} (f : κ → M) {k : κ} (member : k ∈ s) (v : M) :
    (∑ x ∈ s, Function.update f k v x) + f k = (∑ x ∈ s, f x) + v := by
  rw [Finset.sum_update_of_mem member, Finset.sdiff_singleton_eq_erase,
    ← Finset.add_sum_erase s f member]
  exact (add_right_comm _ _ _).trans (by rw [add_comm v, add_right_comm, add_comm (f k)])

/-- The same for a quantity computed from each entry. -/
theorem sum_map_update_add_of_mem {s : Finset κ} {V : Type} (g : V → M) (f : κ → V) {k : κ}
    (member : k ∈ s) (v : V) :
    (∑ x ∈ s, g (Function.update f k v x)) + g (f k) = (∑ x ∈ s, g (f x)) + g v := by
  have entries : (fun x => g (Function.update f k v x)) =
      Function.update (fun x => g (f x)) k (g v) := Function.comp_update g f k v
  rw [entries]
  exact sum_update_add_of_mem (fun x => g (f x)) member (g v)

/-- Writing one entry of a mapping with finitely many entries. -/
theorem total_update_add_of_support {f : κ → M} (finite : f.support.Finite) (k : κ) (v : M) :
    total (Function.update f k v) + f k = total f + v := by
  have before : f.support ⊆ ↑(insert k finite.toFinset) := by
    intro x hx
    simp [Function.mem_support.mp hx]
  have after : (Function.update f k v).support ⊆ ↑(insert k finite.toFinset) := by
    intro x hx
    by_cases h : x = k
    · simp [h]
    · have : f x ≠ 0 := by simpa [h] using hx
      simp [this]
  rw [total, total, finsum_eq_sum_of_support_subset _ before,
    finsum_eq_sum_of_support_subset _ after]
  exact sum_update_add_of_mem f (Finset.mem_insert_self k _) v

theorem total_update_add [Finite κ] (f : κ → M) (k : κ) (v : M) :
    total (Function.update f k v) + f k = total f + v :=
  total_update_add_of_support (Set.toFinite _) k v

theorem total_map_update_add [Finite κ] {V : Type} (g : V → M) (f : κ → V) (k : κ) (v : V) :
    total (fun x => g (Function.update f k v x)) + g (f k) = total (fun x => g (f x)) + g v := by
  have entries : (fun x => g (Function.update f k v x)) =
      Function.update (fun x => g (f x)) k (g v) := Function.comp_update g f k v
  rw [entries]
  exact total_update_add (fun x => g (f x)) k (g v)

end Writes

theorem total_eq_zero_iff [Finite κ] {f : κ → Nat} : total f = 0 ↔ ∀ k, f k = 0 := by
  have := Fintype.ofFinite κ
  rw [total_eq_sum, Finset.sum_eq_zero_iff]
  exact ⟨fun h k => h k (Finset.mem_univ k), fun h k _ => h k⟩

theorem le_total_of_support {f : κ → Nat} (finite : f.support.Finite) (k : κ) :
    f k ≤ total f := by
  classical
  have cleared := total_update_add_of_support finite k 0
  rw [Nat.add_zero] at cleared
  exact cleared ▸ Nat.le_add_left _ _

theorem le_total [Finite κ] (f : κ → Nat) (k : κ) : f k ≤ total f := by
  have := Fintype.ofFinite κ
  rw [total_eq_sum]
  exact Finset.single_le_sum (fun _ _ => Nat.zero_le _) (Finset.mem_univ k)

section Multisets
variable {α : Type}

theorem mem_total [Finite κ] {f : κ → Multiset α} {a : α} : a ∈ total f ↔ ∃ k, a ∈ f k := by
  have := Fintype.ofFinite κ
  rw [total_eq_sum, Multiset.mem_sum]
  exact ⟨fun ⟨k, _, h⟩ => ⟨k, h⟩, fun ⟨k, h⟩ => ⟨k, Finset.mem_univ k, h⟩⟩

/-- Entries without duplicates that share nothing add up to no duplicates. -/
theorem nodup_total [Finite κ] {f : κ → Multiset α} (each : ∀ k, (f k).Nodup)
    (apart : ∀ k k' a, a ∈ f k → a ∈ f k' → k = k') : (total f).Nodup := by
  have := Fintype.ofFinite κ
  classical
  rw [total_eq_sum]
  refine Finset.induction_on (motive := fun s => (∑ k ∈ s, f k).Nodup) Finset.univ ?_ ?_
  · rw [Finset.sum_empty]
    exact Multiset.nodup_zero
  · intro k s fresh rest
    rw [Finset.sum_insert fresh, Multiset.nodup_add]
    refine ⟨each k, rest, Multiset.disjoint_left.mpr fun h member => ?_⟩
    obtain ⟨k', listed, member⟩ := Multiset.mem_sum.mp member
    exact fresh (apart k k' _ h member ▸ listed)

end Multisets

end AutonolasRegistries.Library
