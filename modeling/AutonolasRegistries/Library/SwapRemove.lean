import Mathlib.Data.List.Perm.Basic
import Mathlib.Data.List.Nodup
import Mathlib.Data.List.Induction
import Mathlib.Tactic.Common

/-!
# Arrays used as sets

A storage array holds a set: an element is removed by writing the last one over it
and dropping the last. Several indices are removed from the highest down, so that
the lower ones still point at their elements. A memory array is allocated with
zeros and filled from the front.
-/
namespace AutonolasRegistries.Library

variable {α : Type}

/-- Filling the next free place of an allocated array. -/
theorem set_replicate (filled : List α) (free : Nat) (item zero : α) :
    (filled ++ List.replicate (free + 1) zero).set filled.length item =
      (filled ++ [item]) ++ List.replicate free zero := by
  rw [List.replicate_succ, List.set_append_right _ _ Nat.le.refl, Nat.sub_self]
  simp

/-- `items[idx] = items[last]; items.pop()`. -/
def swapRemove (items : List Nat) (idx : Nat) : List Nat :=
  (items.set idx (items.getD (items.length - 1) 0)).dropLast

theorem swapRemove_length (items : List Nat) (idx : Nat) :
    (swapRemove items idx).length = items.length - 1 := by
  rw [swapRemove, List.length_dropLast, List.length_set]

/-- The removed element and the remaining ones are the old ones. -/
theorem swapRemove_perm {items : List Nat} {idx : Nat} (inside : idx < items.length) :
    (swapRemove items idx ++ [items.getD idx 0]).Perm items := by
  obtain ⟨pre, x, post, rfl, rfl⟩ : ∃ pre x post, items = pre ++ x :: post ∧ idx = pre.length :=
    ⟨items.take idx, items[idx], items.drop (idx + 1), by simp, by simp; omega⟩
  induction post using List.reverseRecOn with
  | nil => simp [swapRemove]
  | append_singleton post y _ =>
    have removed : swapRemove (pre ++ x :: (post ++ [y])) pre.length = pre ++ y :: post := by
      have whole : pre ++ y :: (post ++ [y]) = (pre ++ y :: post) ++ [y] := by simp
      have last : (pre ++ x :: (post ++ [y])).getD
          ((pre ++ x :: (post ++ [y])).length - 1) 0 = y := by
        have split : pre ++ x :: (post ++ [y]) = (pre ++ x :: post) ++ [y] := by simp
        rw [split]
        simp
      rw [swapRemove, last, List.set_append_right _ _ Nat.le.refl, Nat.sub_self,
        List.set_cons_zero, whole, List.dropLast_concat]
    have found : (pre ++ x :: (post ++ [y])).getD pre.length 0 = x := by simp
    rw [removed, found, List.append_assoc, List.cons_append]
    refine List.Perm.append_left pre ?_
    calc (y :: (post ++ [x])).Perm (y :: x :: post) := (List.perm_append_singleton x post).cons y
      _ |>.Perm (x :: y :: post) := List.Perm.swap x y post
      _ |>.Perm (x :: (post ++ [y])) := (List.perm_append_singleton y post).symm.cons x

/-- Elements below the removed index stay where they are. -/
theorem swapRemove_getD {items : List Nat} {idx i : Nat} (inside : idx < items.length)
    (lower : i < idx) : (swapRemove items idx).getD i 0 = items.getD i 0 := by
  have short (value : Nat) : i < (items.set idx value).length - 1 := by
    rw [List.length_set]
    omega
  simp only [swapRemove, List.getD_eq_getElem?_getD, List.getElem?_dropLast, if_pos (short _),
    List.getElem?_set_ne (by omega : idx ≠ i)]

/-- Removes the given indices, the last one first. -/
def swapRemoveAll (idxs : List Nat) (items : List Nat) : List Nat :=
  idxs.foldr (fun idx rest => swapRemove rest idx) items

@[simp] theorem swapRemoveAll_nil (items : List Nat) : swapRemoveAll [] items = items := rfl

@[simp] theorem swapRemoveAll_cons (idx : Nat) (idxs items : List Nat) :
    swapRemoveAll (idx :: idxs) items = swapRemove (swapRemoveAll idxs items) idx := rfl

theorem swapRemoveAll_length (idxs items : List Nat) :
    (swapRemoveAll idxs items).length = items.length - idxs.length := by
  induction idxs with
  | nil => simp
  | cons idx idxs ih =>
    rw [swapRemoveAll_cons, swapRemove_length, ih, List.length_cons]
    omega

theorem increasing_bound {idx n : Nat} {idxs : List Nat} (order : (idx :: idxs).Pairwise (· < ·))
    (inside : ∀ i ∈ idx :: idxs, i < n) : idx + idxs.length < n := by
  induction idxs generalizing idx with
  | nil => simpa using inside
  | cons next idxs ih =>
    have step : idx < next := List.rel_of_pairwise_cons order List.mem_cons_self
    have rest := ih order.of_cons fun i member => inside i (List.mem_cons_of_mem _ member)
    rw [List.length_cons]
    omega

/-- Increasing indices are still valid after the higher ones were removed. -/
theorem swapRemoveAll_inside {idx : Nat} {idxs items : List Nat}
    (order : (idx :: idxs).Pairwise (· < ·)) (inside : ∀ i ∈ idx :: idxs, i < items.length) :
    idx < (swapRemoveAll idxs items).length := by
  have := increasing_bound order inside
  rw [swapRemoveAll_length]
  omega

theorem swapRemoveAll_getD {idxs items : List Nat} {i : Nat}
    (order : (i :: idxs).Pairwise (· < ·)) (inside : ∀ j ∈ i :: idxs, j < items.length) :
    (swapRemoveAll idxs items).getD i 0 = items.getD i 0 := by
  induction idxs with
  | nil => rfl
  | cons idx idxs ih =>
    obtain ⟨lower, later⟩ := List.pairwise_cons.mp order
    have below : ∀ j ∈ idxs, i < j := fun j member => lower j (List.mem_cons_of_mem _ member)
    have within : ∀ j ∈ idx :: idxs, j < items.length :=
      fun j member => inside j (List.mem_cons_of_mem _ member)
    rw [swapRemoveAll_cons, swapRemove_getD (swapRemoveAll_inside later within)
      (lower idx List.mem_cons_self)]
    refine ih (List.pairwise_cons.mpr ⟨below, later.of_cons⟩) fun j member => ?_
    rcases List.mem_cons.mp member with rfl | member
    · exact inside j List.mem_cons_self
    · exact within j (List.mem_cons_of_mem _ member)

/-- What is removed at increasing indices and what remains are the old elements. -/
theorem swapRemoveAll_perm {idxs items : List Nat} (order : idxs.Pairwise (· < ·))
    (inside : ∀ i ∈ idxs, i < items.length) :
    (swapRemoveAll idxs items ++ idxs.map (items.getD · 0)).Perm items := by
  induction idxs with
  | nil => simp
  | cons idx idxs ih =>
    have rest := ih order.of_cons fun i member => inside i (List.mem_cons_of_mem _ member)
    have one := swapRemove_perm (swapRemoveAll_inside order inside)
    rw [swapRemoveAll_getD order inside] at one
    rw [swapRemoveAll_cons, List.map_cons, List.append_cons]
    exact (one.append_right _).trans rest

end AutonolasRegistries.Library
