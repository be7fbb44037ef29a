import Mathlib.Algebra.Order.BigOperators.Group.List
import Mathlib.Algebra.Order.Group.Nat
import Mathlib.Algebra.Ring.Nat
import Mathlib.Data.List.Perm.Basic
import Mathlib.Data.List.Nodup
import Mathlib.Tactic.Common

/-!
# Lists kept in groups

The same items indexed by a key: each key has the list of its items. Reading the
groups one after the other gives the items back up to order.
-/
namespace AutonolasRegistries.Library

variable {α κ : Type} [DecidableEq κ]

/-- Reading all groups gives back every item whose key is listed. -/
theorem groups_perm (key : α → κ) {keys : List κ} (unique : keys.Nodup) {items : List α}
    (covered : ∀ a ∈ items, key a ∈ keys) :
    (keys.flatMap fun k => items.filter fun a => key a = k).Perm items := by
  induction keys generalizing items with
  | nil =>
    cases items with
    | nil => exact .nil
    | cons a rest => cases covered a List.mem_cons_self
  | cons k rest ih =>
    obtain ⟨fresh, unique⟩ := List.nodup_cons.mp unique
    -- The groups of the other keys do not see the items of `k`.
    have others : (rest.flatMap fun k' => items.filter fun a => key a = k') =
        rest.flatMap fun k' => (items.filter fun a => !decide (key a = k)).filter
          fun a => key a = k' := by
      apply List.flatMap_congr
      intro k' member
      rw [List.filter_filter]
      apply List.filter_congr
      intro a _
      by_cases same : key a = k'
      · have : k' ≠ k := fun h => fresh (h ▸ member)
        simp [same, this]
      · simp [same]
    have remaining : ∀ a ∈ items.filter fun a => !decide (key a = k), key a ∈ rest := by
      intro a member
      obtain ⟨member, different⟩ := List.mem_filter.mp member
      rcases List.mem_cons.mp (covered a member) with same | listed
      · simp [same] at different
      · exact listed
    rw [List.flatMap_cons, others]
    exact ((ih unique remaining).append_left _).trans (List.filter_append_perm _ items)

/-- Appending to the groups appends the items. -/
theorem groups_append_perm (key : α → κ) {keys : List κ} (unique : keys.Nodup) {items : List α}
    (covered : ∀ a ∈ items, key a ∈ keys) {β : Type} (f : α → β) (groups : κ → List β) :
    (keys.flatMap fun k => groups k ++ (items.filter fun a => key a = k).map f).Perm
      (keys.flatMap groups ++ items.map f) := by
  refine (List.flatMap_append_perm keys groups _).symm.trans (List.Perm.append_left _ ?_)
  rw [← List.map_flatMap]
  exact (groups_perm key unique covered).map f

/-- Groups within their limits that fill the sum of the limits fill every limit. -/
theorem eq_of_sum_eq {α : Type} {items : List α} {size limit : α → Nat}
    (within : ∀ x ∈ items, size x ≤ limit x)
    (filled : (items.map size).sum = (items.map limit).sum) : ∀ x ∈ items, size x = limit x := by
  induction items with
  | nil => simp
  | cons first rest ih =>
    simp only [List.map_cons, List.sum_cons] at filled
    have here := within first List.mem_cons_self
    have others : (rest.map size).sum ≤ (rest.map limit).sum :=
      List.sum_le_sum fun x member => within x (List.mem_cons_of_mem _ member)
    have equal := ih (fun x member => within x (List.mem_cons_of_mem _ member)) (by omega)
    intro x member
    rcases List.mem_cons.mp member with rfl | member
    · omega
    · exact equal x member

end AutonolasRegistries.Library
