import Mathlib.Logic.Relation
import Mathlib.Logic.Function.Basic
import Mathlib.Order.Basic
import Mathlib.Data.List.Basic

/-!
# Dependency graphs that grow

A graph is given by the list of dependencies of each node. What a node reaches is
settled when the node is added: nodes added later do not change it.
-/
namespace AutonolasRegistries.Library

variable {α : Type}

def DependsOn (deps : α → List α) (a b : α) : Prop := b ∈ deps a

/-- The nodes that can be reached by following dependencies, the node itself
included. -/
def Reaches (deps : α → List α) : α → α → Prop := Relation.ReflTransGen (DependsOn deps)

theorem reaches_iff {deps : α → List α} {a x : α} :
    Reaches deps a x ↔ a = x ∨ ∃ b ∈ deps a, Reaches deps b x :=
  Relation.ReflTransGen.cases_head_iff

/-- Nodes that are closed under dependencies do not see a node outside. -/
theorem reaches_update [DecidableEq α] {deps : α → List α} {old : α → Prop}
    (closed : ∀ a, old a → ∀ b ∈ deps a, old b) {fresh : α} (outside : ¬ old fresh)
    (list : List α) {a x : α} (here : old a) :
    Reaches (Function.update deps fresh list) a x ↔ Reaches deps a x := by
  have known : ∀ a, old a → Function.update deps fresh list a = deps a := by
    intro a here
    have different : a ≠ fresh := fun same => outside (same ▸ here)
    rw [Function.update_of_ne different]
  constructor
  · intro path
    induction path using Relation.ReflTransGen.head_induction_on with
    | refl => exact .refl
    | @head a b step _ ih =>
      have step' : b ∈ deps a := known a here ▸ step
      exact .head step' (ih (closed a here b step'))
  · intro path
    induction path using Relation.ReflTransGen.head_induction_on with
    | refl => exact .refl
    | @head a b step _ ih =>
      have step' : b ∈ Function.update deps fresh list a := (known a here).symm ▸ step
      exact .head step' (ih (closed a here b step))

section Order
variable [Preorder α] {deps : α → List α}

theorem Reaches.le (below : ∀ a, ∀ b ∈ deps a, b < a) {a x : α} (path : Reaches deps a x) :
    x ≤ a := by
  induction path with
  | refl => exact le_refl a
  | @tail b c _ step ih => exact le_trans (le_of_lt (below b c step)) ih

/-- A graph whose dependencies go down has no cycles. -/
theorem acyclic_of_lt (below : ∀ a, ∀ b ∈ deps a, b < a) (a : α) :
    ¬ Relation.TransGen (DependsOn deps) a a := by
  intro cycle
  have lower : ∀ b, Relation.TransGen (DependsOn deps) a b → b < a := by
    intro b path
    induction path with
    | single step => exact below a _ step
    | tail _ step ih => exact lt_trans (below _ _ step) ih
  exact lt_irrefl a (lower a cycle)

end Order

end AutonolasRegistries.Library
