import Mathlib.Data.List.Nodup
import Mathlib.Logic.Function.Basic
import Mathlib.Tactic.Common

/-!
# Rosters

Accounts are entered into groups, each group has a head, and one map records for
every account the head it is engaged with, or nobody. The map and the lists are
written separately. The roster says that they agree: an account is engaged exactly
while it stands on a list, and then on one list only, once.
-/
namespace AutonolasRegistries.Library

variable {κ α β : Type} [Zero β]

structure Roster (head : κ → β) (held : κ → List α) (engaged : α → β) : Prop where
  names : ∀ key, ∀ a ∈ held key, engaged a = head key
  hired : ∀ key, ∀ a ∈ held key, engaged a ≠ 0
  found : ∀ a, engaged a ≠ 0 → ∃ key, a ∈ held key
  unique : ∀ key, (held key).Nodup
  apart : ∀ key key' a, a ∈ held key → a ∈ held key' → key = key'

namespace Roster
variable {head : κ → β} {held : κ → List α} {engaged : α → β}

theorem empty : Roster head (fun _ => ([] : List α)) fun _ => (0 : β) := by
  refine ⟨?_, ?_, ?_, ?_, ?_⟩ <;> simp

variable [DecidableEq κ] [DecidableEq α]

/-- Accounts that were free join one group. -/
theorem join (before : Roster head held engaged) (key : κ) (someone : head key ≠ 0)
    {added : List α} (fresh : added.Nodup) (free : ∀ a ∈ added, engaged a = 0) :
    Roster head (Function.update held key (held key ++ added))
      fun a => if a ∈ added then head key else engaged a := by
  have old : ∀ k, ∀ a ∈ held k, a ∉ added :=
    fun k a member new => before.hired k a member (free a new)
  have member : ∀ k a, a ∈ Function.update held key (held key ++ added) k →
      a ∈ held k ∨ (k = key ∧ a ∈ added) := by
    intro k a h
    by_cases same : k = key
    · subst same
      rw [Function.update_self] at h
      exact (List.mem_append.mp h).imp_right fun new => ⟨rfl, new⟩
    · rw [Function.update_of_ne same] at h
      exact Or.inl h
  refine ⟨fun k a h => ?_, fun k a h => ?_, fun a busy => ?_, fun k => ?_, fun k k' a h h' => ?_⟩
  · rcases member k a h with h | ⟨rfl, new⟩
    · simp only [if_neg (old k a h)]
      exact before.names k a h
    · simp only [if_pos new]
  · rcases member k a h with h | ⟨-, new⟩
    · simp only [if_neg (old k a h)]
      exact before.hired k a h
    · simp only [if_pos new]
      exact someone
  · by_cases new : a ∈ added
    · refine ⟨key, ?_⟩
      rw [Function.update_self]
      exact List.mem_append.mpr (Or.inr new)
    · simp only [if_neg new] at busy
      obtain ⟨k, h⟩ := before.found a busy
      refine ⟨k, ?_⟩
      by_cases same : k = key
      · subst same
        rw [Function.update_self]
        exact List.mem_append.mpr (Or.inl h)
      · rwa [Function.update_of_ne same]
  · by_cases same : k = key
    · subst same
      rw [Function.update_self]
      exact List.nodup_append'.mpr ⟨before.unique k, fresh, fun a h new => old k a h new⟩
    · rw [Function.update_of_ne same]
      exact before.unique k
  · rcases member k a h with h | ⟨rfl, new⟩
    · rcases member k' a h' with h' | ⟨-, new⟩
      · exact before.apart k k' a h h'
      · exact absurd new (old k a h)
    · rcases member k' a h' with h' | ⟨rfl, -⟩
      · exact absurd new (old k' a h')
      · rfl

/-- One group is dissolved. -/
theorem leave (before : Roster head held engaged) (key : κ) :
    Roster head (Function.update held key [])
      fun a => if a ∈ held key then 0 else engaged a := by
  have member : ∀ k a, a ∈ Function.update held key [] k → k ≠ key ∧ a ∈ held k := by
    intro k a h
    by_cases same : k = key
    · subst same
      rw [Function.update_self] at h
      cases h
    · rw [Function.update_of_ne same] at h
      exact ⟨same, h⟩
  have outside : ∀ k a, a ∈ Function.update held key [] k → a ∉ held key := by
    intro k a h there
    obtain ⟨different, h⟩ := member k a h
    exact different (before.apart k key a h there)
  refine ⟨fun k a h => ?_, fun k a h => ?_, fun a busy => ?_, fun k => ?_, fun k k' a h h' => ?_⟩
  · simp only [if_neg (outside k a h)]
    exact before.names k a (member k a h).2
  · simp only [if_neg (outside k a h)]
    exact before.hired k a (member k a h).2
  · by_cases there : a ∈ held key
    · simp only [if_pos there] at busy
      exact absurd rfl busy
    · simp only [if_neg there] at busy
      obtain ⟨k, h⟩ := before.found a busy
      have different : k ≠ key := by
        rintro rfl
        exact there h
      refine ⟨k, ?_⟩
      rwa [Function.update_of_ne different]
  · by_cases same : k = key
    · subst same
      rw [Function.update_self]
      exact List.nodup_nil
    · rw [Function.update_of_ne same]
      exact before.unique k
  · exact before.apart k k' a (member k a h).2 (member k' a h').2

end Roster
end AutonolasRegistries.Library
