import Mathlib.Algebra.Ring.Nat
import Mathlib.Data.List.Basic
import Mathlib.Tactic.Common

/-!
# Reverting computations

A contract call either returns or reverts, so every source function is read as
an `Except` computation. This module has the guard, the checked arithmetic and
the loop of such computations, each with the one lemma that inverts a successful
run. Later proofs peel a successful call apart with these and never unfold the
monad.
-/
namespace AutonolasRegistries.Library

variable {ε α β γ : Type}

/-- A sequence returns exactly when its first part returns and the rest returns
from there. -/
theorem bind_eq_ok {first : Except ε α} {next : α → Except ε β} {result : β} :
    (first >>= next) = .ok result ↔
      ∃ mid, first = .ok mid ∧ next mid = .ok result := by
  constructor
  · intro run
    rcases first with reason | mid
    · cases run
    · exact ⟨mid, rfl, run⟩
  · rintro ⟨mid, rfl, run⟩
    exact run

theorem ok_bind (value : α) (next : α → Except ε β) : (Except.ok value >>= next) = next value :=
  rfl

theorem pure_eq_ok {value result : α} :
    (pure value : Except ε α) = .ok result ↔ value = result :=
  Except.ok.injEq value result ▸ Iff.rfl

theorem ok_eq_ok {a b : α} : (Except.ok a : Except ε α) = .ok b ↔ a = b := by
  simp

theorem mapError_eq_ok {ε' : Type} {run : Except ε α} {rename : ε → ε'} {value : α} :
    run.mapError rename = .ok value ↔ run = .ok value := by
  cases run <;> simp [Except.mapError]

theorem toOption_eq_some {run : Except ε α} {value : α} :
    run.toOption = some value ↔ run = .ok value := by
  cases run <;> simp [Except.toOption]

/-- `if (condition) revert reason;` -/
def revertIf (condition : Prop) [Decidable condition] (reason : ε) : Except ε Unit :=
  if condition then .error reason else .ok ()

theorem revertIf_bind_eq_ok {condition : Prop} [Decidable condition] {reason : ε}
    {next : Unit → Except ε β} {b : β} :
    (revertIf condition reason >>= next) = .ok b ↔ ¬ condition ∧ next () = .ok b := by
  by_cases h : condition <;> simp [revertIf, h, bind, Except.bind]

theorem revertIf_eq_ok {condition : Prop} [Decidable condition] {reason : ε} {u : Unit} :
    revertIf condition reason = .ok u ↔ ¬ condition := by
  by_cases h : condition <;> simp [revertIf, h]

theorem revertIf_congr {condition condition' : Prop} [Decidable condition]
    [Decidable condition'] {reason : ε} (same : condition ↔ condition') :
    revertIf condition reason = revertIf condition' reason := by
  simp only [revertIf, same]

/-- Checked addition at the given width. -/
def checkedAdd (width : Nat) (reason : ε) (a b : Nat) : Except ε Nat :=
  if a + b < 2 ^ width then .ok (a + b) else .error reason

theorem checkedAdd_eq_ok {width : Nat} {reason : ε} {a b c : Nat} :
    checkedAdd width reason a b = .ok c ↔ a + b < 2 ^ width ∧ a + b = c := by
  by_cases h : a + b < 2 ^ width <;> simp [checkedAdd, h]

/-- Checked subtraction; the width does not matter for it. -/
def checkedSub (reason : ε) (a b : Nat) : Except ε Nat :=
  if b ≤ a then .ok (a - b) else .error reason

theorem checkedSub_eq_ok {reason : ε} {a b c : Nat} :
    checkedSub reason a b = .ok c ↔ b ≤ a ∧ a - b = c := by
  by_cases h : b ≤ a <;> simp [checkedSub, h]

/-- Checked multiplication at the given width. -/
def checkedMul (width : Nat) (reason : ε) (a b : Nat) : Except ε Nat :=
  if a * b < 2 ^ width then .ok (a * b) else .error reason

theorem checkedMul_eq_ok {width : Nat} {reason : ε} {a b c : Nat} :
    checkedMul width reason a b = .ok c ↔ a * b < 2 ^ width ∧ a * b = c := by
  by_cases h : a * b < 2 ^ width <;> simp [checkedMul, h]

/-- An array read. -/
def readAt (reason : ε) (items : List α) (index : Nat) : Except ε α :=
  match items[index]? with
  | some item => .ok item
  | none => .error reason

theorem readAt_eq_ok {reason : ε} {items : List α} {index : Nat} {item : α} :
    readAt reason items index = .ok item ↔ items[index]? = some item := by
  unfold readAt
  split <;> simp_all

/-- An array write. -/
def writeAt (reason : ε) (items : List α) (index : Nat) (item : α) : Except ε (List α) :=
  if index < items.length then .ok (items.set index item) else .error reason

theorem writeAt_eq_ok {reason : ε} {items written : List α} {index : Nat} {item : α} :
    writeAt reason items index item = .ok written ↔
      index < items.length ∧ items.set index item = written := by
  by_cases h : index < items.length <;> simp [writeAt, h]

/-- A source loop: `body` runs on each element in turn and may revert. -/
def loop (body : α → γ → Except ε γ) : List α → γ → Except ε γ
  | [], state => .ok state
  | item :: rest, state => body item state >>= loop body rest

@[simp] theorem loop_nil (body : α → γ → Except ε γ) (state : γ) :
    loop body [] state = .ok state := rfl

theorem loop_cons_eq_ok {body : α → γ → Except ε γ} {item : α} {rest : List α} {state final : γ} :
    loop body (item :: rest) state = .ok final ↔
      ∃ next, body item state = .ok next ∧ loop body rest next = .ok final :=
  bind_eq_ok

/-- A loop that only checks has checked every item. -/
theorem loop_checks {fails : α → Prop} [DecidablePred fails] {reason : α → ε} {items : List α}
    (run : loop (fun item (_ : Unit) => revertIf (fails item) (reason item)) items () = .ok ()) :
    ∀ item ∈ items, ¬ fails item := by
  induction items with
  | nil => simp
  | cons head rest ih =>
    obtain ⟨_, passed, others⟩ := loop_cons_eq_ok.mp run
    intro item member
    rcases List.mem_cons.mp member with rfl | later
    · exact revertIf_eq_ok.mp passed
    · exact ih others item later

/-- Loop rule: what one iteration preserves, the whole loop preserves. -/
theorem loop_invariant {body : α → γ → Except ε γ} (invariant : γ → Prop) {items : List α}
    (step : ∀ item ∈ items, ∀ state next, invariant state → body item state = .ok next →
      invariant next)
    {state final : γ} (before : invariant state) (run : loop body items state = .ok final) :
    invariant final := by
  induction items generalizing state with
  | nil =>
    cases run
    exact before
  | cons item rest ih =>
    obtain ⟨next, ran, run⟩ := loop_cons_eq_ok.mp run
    exact ih (fun other member => step other (List.mem_cons_of_mem _ member))
      (step item List.mem_cons_self state next before ran) run

/-- Loop rule for a running total: each iteration adds the item's weight. -/
theorem loop_total {body : α → γ → Except ε γ} (measure : γ → Nat) (weight : α → Nat)
    {items : List α}
    (step : ∀ item ∈ items, ∀ state next, body item state = .ok next →
      measure next = measure state + weight item)
    {state final : γ} (run : loop body items state = .ok final) :
    measure final = measure state + (items.map weight).sum := by
  induction items generalizing state with
  | nil =>
    cases run
    simp
  | cons item rest ih =>
    obtain ⟨next, ran, run⟩ := loop_cons_eq_ok.mp run
    have first := step item List.mem_cons_self state next ran
    have others := ih (fun other member => step other (List.mem_cons_of_mem _ member)) run
    simp only [List.map_cons, List.sum_cons]
    omega

/-- Loop rule for a loop that never reverts: it is a fold over the values it works on. -/
theorem loop_fold {σ : Type} {body : α → γ → Except ε γ} (view : σ → γ) (step : σ → α → σ)
    (invariant : σ → Prop) {items : List α}
    (each : ∀ item ∈ items, ∀ state, invariant state →
      body item (view state) = .ok (view (step state item)) ∧ invariant (step state item))
    {state : σ} (before : invariant state) :
    loop body items (view state) = .ok (view (items.foldl step state)) ∧
      invariant (items.foldl step state) := by
  induction items generalizing state with
  | nil => exact ⟨rfl, before⟩
  | cons item rest ih =>
    obtain ⟨ran, next⟩ := each item List.mem_cons_self state before
    obtain ⟨run, after⟩ := ih (fun later member => each later (List.mem_cons_of_mem _ member)) next
    exact ⟨loop_cons_eq_ok.mpr ⟨_, ran, run⟩, after⟩

/-- Loop rule for a counting loop that never reverts: the invariant carries the loop
from each index to the next. -/
theorem loop_range {body : Nat → γ → Except ε γ} (invariant : Nat → γ → Prop) {count : Nat}
    (step : ∀ index < count, ∀ state, invariant index state →
      ∃ next, body index state = .ok next ∧ invariant (index + 1) next)
    {state : γ} (before : invariant 0 state) :
    ∃ final, loop body (List.range count) state = .ok final ∧ invariant count final := by
  have tail : ∀ rest start, start + rest = count → ∀ state, invariant start state →
      ∃ final, loop body (List.range' start rest) state = .ok final ∧ invariant count final := by
    intro rest
    induction rest with
    | zero =>
      intro start total state before
      have last : start = count := by omega
      exact ⟨state, rfl, last ▸ before⟩
    | succ rest ih =>
      intro start total state before
      obtain ⟨next, ran, after⟩ := step start (by omega) state before
      obtain ⟨final, run, ended⟩ := ih (start + 1) (by omega) next after
      rw [List.range'_succ]
      exact ⟨final, loop_cons_eq_ok.mpr ⟨next, ran, run⟩, ended⟩
  rw [List.range_eq_range']
  exact tail count 0 (Nat.zero_add count) state before

section Avoids
variable {bad : ε → Prop}

/-- The computation does not fail for one of the given reasons. -/
def Avoids (bad : ε → Prop) (run : Except ε α) : Prop := ∀ reason, run = .error reason → ¬ bad reason

theorem avoids_of_ok {run : Except ε α} {value : α} (returns : run = .ok value) :
    Avoids bad run := by
  intro reason failed
  rw [returns] at failed
  cases failed

theorem avoids_error {reason : ε} (fine : ¬ bad reason) :
    Avoids bad (.error reason : Except ε α) := by
  rintro _ ⟨⟩
  exact fine

theorem avoids_bind {first : Except ε α} {next : α → Except ε β} (start : Avoids bad first)
    (rest : ∀ value, first = .ok value → Avoids bad (next value)) :
    Avoids bad (first >>= next) := by
  cases first with
  | error reason =>
    intro _ failed
    cases failed
    exact start reason rfl
  | ok value => exact rest value rfl

theorem avoids_ite {condition : Prop} [Decidable condition] {yes no : Except ε α}
    (first : Avoids bad yes) (second : Avoids bad no) :
    Avoids bad (if condition then yes else no) := by
  split
  · exact first
  · exact second

theorem avoids_revertIf {condition : Prop} [Decidable condition] {reason : ε}
    (fine : ¬ bad reason) : Avoids bad (revertIf condition reason) :=
  avoids_ite (avoids_error fine) (avoids_of_ok rfl)

theorem avoids_checkedAdd {width a b : Nat} {reason : ε} (fine : ¬ bad reason) :
    Avoids bad (checkedAdd width reason a b) :=
  avoids_ite (avoids_of_ok rfl) (avoids_error fine)

theorem avoids_checkedSub {a b : Nat} {reason : ε} (fine : ¬ bad reason) :
    Avoids bad (checkedSub reason a b) :=
  avoids_ite (avoids_of_ok rfl) (avoids_error fine)

theorem avoids_checkedMul {width a b : Nat} {reason : ε} (fine : ¬ bad reason) :
    Avoids bad (checkedMul width reason a b) :=
  avoids_ite (avoids_of_ok rfl) (avoids_error fine)

theorem avoids_loop {body : α → γ → Except ε γ} (each : ∀ item state, Avoids bad (body item state))
    (items : List α) (state : γ) : Avoids bad (loop body items state) := by
  induction items generalizing state with
  | nil => exact avoids_of_ok rfl
  | cons item rest ih => exact avoids_bind (each item state) fun next _ => ih next

theorem avoids_mapM {f : α → Except ε β} (each : ∀ item, Avoids bad (f item)) (items : List α) :
    Avoids bad (items.mapM f) := by
  induction items with
  | nil => exact avoids_of_ok rfl
  | cons item rest ih =>
    rw [List.mapM_cons]
    exact avoids_bind (each item) fun _ _ => avoids_bind ih fun _ _ => avoids_of_ok rfl

end Avoids

end AutonolasRegistries.Library
