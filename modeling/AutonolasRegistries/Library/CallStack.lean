import Mathlib.Data.List.Basic
import Mathlib.Tactic.Common

/-!
# Contracts that hand over control in the middle of a call

A contract call runs until it returns, reverts, or makes an external call. At an
external call everything the contract has written so far is visible, the callee
may start further calls, and the rest of the function runs only when the callee
returns. If anything later in the call reverts, the storage is put back to what
it was when the call started.

The machine keeps that explicitly: a stack of suspended calls, each with the
local data its continuation needs (the frame) and the state to roll back to.
Every state in which foreign code can run is a configuration of the machine, so
an invariant of all configurations holds at the moment of every external call.
-/
namespace AutonolasRegistries.Library

/-- Running contract code until it returns or stops at an external call. -/
inductive Outcome (σ φ : Type) where
  | done (state : σ)
  | suspended (state : σ) (frame : φ)

namespace Outcome
variable {σ φ : Type}

def state : Outcome σ φ → σ
  | done s => s
  | suspended s _ => s

/-- The call left waiting, if there is one. -/
def pending : Outcome σ φ → List φ
  | done _ => []
  | suspended _ frame => [frame]

@[simp] theorem state_done (s : σ) : (done s : Outcome σ φ).state = s := rfl
@[simp] theorem state_suspended (s : σ) (f : φ) : (suspended s f).state = s := rfl
@[simp] theorem pending_done (s : σ) : (done s : Outcome σ φ).pending = [] := rfl
@[simp] theorem pending_suspended (s : σ) (f : φ) : (suspended s f).pending = [f] := rfl

end Outcome

/-- `enter` starts a call, `resume` continues a suspended one with the answer of
the external call it waits for. -/
structure Machine (σ κ φ ρ ε : Type) where
  enter : κ → σ → Except ε (Outcome σ φ)
  resume : φ → ρ → σ → Except ε (Outcome σ φ)

/-- The storage, and the suspended calls with the storage each would restore. -/
structure Config (σ φ : Type) where
  state : σ
  stack : List (φ × σ)

def Config.frames {σ φ : Type} (c : Config σ φ) : List φ := c.stack.map Prod.fst

/-- What is assumed of the calls and of the answers of a run. -/
structure Discipline (σ κ φ ρ : Type) where
  call : κ → σ → Prop
  answer : φ → ρ → σ → Prop

variable {σ κ φ ρ ε : Type}

/-- Nothing is assumed. -/
def Discipline.free : Discipline σ κ φ ρ := ⟨fun _ _ => True, fun _ _ _ => True⟩

/-- One piece of contract code: a call up to its return or its first external
call, or the continuation of the call suspended last. -/
inductive Local (M : Machine σ κ φ ρ ε) (D : Discipline σ κ φ ρ) :
    σ → List φ → σ → List φ → Prop where
  | entered {s : σ} {frames : List φ} {out : Outcome σ φ} (call : κ)
      (allowed : D.call call s) (ran : M.enter call s = .ok out) :
      Local M D s frames out.state (out.pending ++ frames)
  | resumed {s : σ} {frame : φ} {frames : List φ} {out : Outcome σ φ} (answer : ρ)
      (allowed : D.answer frame answer s) (ran : M.resume frame answer s = .ok out) :
      Local M D s (frame :: frames) out.state (out.pending ++ frames)

/-- One step of a run. A call that reverts before any external call leaves no
trace and is no step; a suspended call may revert at any later moment. -/
inductive Step (M : Machine σ κ φ ρ ε) (D : Discipline σ κ φ ρ) :
    Config σ φ → Config σ φ → Prop where
  | entered {s : σ} {stack : List (φ × σ)} {out : Outcome σ φ} (call : κ)
      (allowed : D.call call s) (ran : M.enter call s = .ok out) :
      Step M D ⟨s, stack⟩ ⟨out.state, out.pending.map (·, s) ++ stack⟩
  | resumed {s saved : σ} {frame : φ} {stack : List (φ × σ)} {out : Outcome σ φ} (answer : ρ)
      (allowed : D.answer frame answer s) (ran : M.resume frame answer s = .ok out) :
      Step M D ⟨s, (frame, saved) :: stack⟩ ⟨out.state, out.pending.map (·, saved) ++ stack⟩
  | reverted {s saved : σ} {frame : φ} {stack : List (φ × σ)} :
      Step M D ⟨s, (frame, saved) :: stack⟩ ⟨saved, stack⟩

/-- The configurations of all runs from `start` that keep to the discipline. -/
inductive Reachable (M : Machine σ κ φ ρ ε) (D : Discipline σ κ φ ρ) (start : σ) :
    Config σ φ → Prop where
  | start : Reachable M D start ⟨start, []⟩
  | step {c c' : Config σ φ} (before : Reachable M D start c) (taken : Step M D c c') :
      Reachable M D start c'

/-- `P` survives every piece of code that starts where `given` holds. -/
def Preserved (M : Machine σ κ φ ρ ε) (D : Discipline σ κ φ ρ)
    (given P : σ → List φ → Prop) : Prop :=
  ∀ s frames s' frames', Local M D s frames s' frames' → given s frames → P s frames →
    P s' frames'

/-- The trivial context. -/
def always : σ → List φ → Prop := fun _ _ => True

/-- Invariants are stacked: what is preserved given an invariant is one together
with it. -/
theorem Preserved.join {M : Machine σ κ φ ρ ε} {D : Discipline σ κ φ ρ}
    {Q P : σ → List φ → Prop} (base : Preserved M D always Q) (above : Preserved M D Q P) :
    Preserved M D always fun s frames => Q s frames ∧ P s frames :=
  fun s frames s' frames' taken _ before =>
    ⟨base s frames s' frames' taken trivial before.1,
      above s frames s' frames' taken before.1 before.2⟩

/-- A stronger discipline preserves at least as much. -/
theorem Preserved.restrict {M : Machine σ κ φ ρ ε} {D D' : Discipline σ κ φ ρ}
    {Q P : σ → List φ → Prop} (calls : ∀ call s, D'.call call s → D.call call s)
    (answers : ∀ frame answer s, D'.answer frame answer s → D.answer frame answer s)
    (keep : Preserved M D Q P) : Preserved M D' Q P := by
  intro s frames s' frames' taken given before
  cases taken with
  | entered call allowed ran =>
    exact keep _ _ _ _ (.entered call (calls _ _ allowed) ran) given before
  | resumed answer allowed ran =>
    exact keep _ _ _ _ (.resumed answer (answers _ _ _ allowed) ran) given before

/-- The invariant at the current state and, below every suspended call, at the
state that call would restore. -/
def Everywhere (P : σ → List φ → Prop) : σ → List (φ × σ) → Prop
  | s, [] => P s []
  | s, (frame, saved) :: stack =>
    P s (frame :: stack.map Prod.fst) ∧ Everywhere P saved stack

theorem Everywhere.here {P : σ → List φ → Prop} {s : σ} {stack : List (φ × σ)}
    (h : Everywhere P s stack) : P s (stack.map Prod.fst) := by
  cases stack with
  | nil => exact h
  | cons top rest => exact h.1

/-- Code that ran on top of `saved` left the invariant in place. -/
theorem Everywhere.push {P : σ → List φ → Prop} {saved : σ} {stack : List (φ × σ)}
    {out : Outcome σ φ} (below : Everywhere P saved stack)
    (now : P out.state (out.pending ++ stack.map Prod.fst)) :
    Everywhere P out.state (out.pending.map (·, saved) ++ stack) := by
  cases out with
  | suspended s' frame => exact ⟨now, below⟩
  | done s' =>
    cases stack with
    | nil => exact now
    | cons top rest => exact ⟨now, below.2⟩

theorem Step.everywhere {M : Machine σ κ φ ρ ε} {D : Discipline σ κ φ ρ}
    {P : σ → List φ → Prop} (keep : Preserved M D always P) {c c' : Config σ φ}
    (before : Everywhere P c.state c.stack) (taken : Step M D c c') :
    Everywhere P c'.state c'.stack := by
  cases taken with
  | entered call allowed ran =>
    exact before.push (keep _ _ _ _ (.entered call allowed ran) trivial before.here)
  | resumed answer allowed ran =>
    exact before.2.push (keep _ _ _ _ (.resumed answer allowed ran) trivial before.1)
  | reverted => exact before.2

theorem Reachable.everywhere {M : Machine σ κ φ ρ ε} {D : Discipline σ κ φ ρ}
    {P : σ → List φ → Prop} (keep : Preserved M D always P) {start : σ} (initial : P start [])
    {c : Config σ φ} (run : Reachable M D start c) : Everywhere P c.state c.stack := by
  induction run with
  | start => exact initial
  | step _ taken ih => exact taken.everywhere keep ih

/-- Run rule: a preserved invariant holds in every configuration of every run,
at the moment of every external call included. -/
theorem Reachable.invariant {M : Machine σ κ φ ρ ε} {D : Discipline σ κ φ ρ}
    {P : σ → List φ → Prop} (keep : Preserved M D always P) {start : σ} (initial : P start [])
    {c : Config σ φ} (run : Reachable M D start c) : P c.state c.frames :=
  (run.everywhere keep initial).here

/-- Where an invariant makes the assumptions of a stronger discipline true, its runs are all
runs. -/
theorem Reachable.tighten {M : Machine σ κ φ ρ ε} {D D' : Discipline σ κ φ ρ}
    {P : σ → List φ → Prop} (keep : Preserved M D always P) {start : σ} (initial : P start [])
    (calls : ∀ call s frames, P s frames → D.call call s → D'.call call s)
    (answers : ∀ frame answer s frames, P s (frame :: frames) → D.answer frame answer s →
      D'.answer frame answer s)
    {c : Config σ φ} (run : Reachable M D start c) : Reachable M D' start c := by
  induction run with
  | start => exact .start
  | step before taken ih =>
    have here := before.invariant keep initial
    refine .step ih ?_
    cases taken with
    | entered call allowed ran => exact .entered call (calls _ _ _ here allowed) ran
    | resumed answer allowed ran => exact .resumed answer (answers _ _ _ _ here allowed) ran
    | reverted => exact .reverted

section Components
variable {τ κ' ψ ρ' ε' : Type}

/-- Any number of pieces of code one after the other. -/
inductive Locals (M : Machine σ κ φ ρ ε) (D : Discipline σ κ φ ρ) :
    σ → List φ → σ → List φ → Prop where
  | refl {s : σ} {frames : List φ} : Locals M D s frames s frames
  | tail {s s' s'' : σ} {frames frames' frames'' : List φ}
      (before : Locals M D s frames s' frames') (taken : Local M D s' frames' s'' frames'') :
      Locals M D s frames s'' frames''

theorem Locals.keep {M : Machine σ κ φ ρ ε} {D : Discipline σ κ φ ρ} {P : σ → List φ → Prop}
    (keep : Preserved M D always P) {s s' : σ} {frames frames' : List φ}
    (run : Locals M D s frames s' frames') (before : P s frames) : P s' frames' := by
  induction run with
  | refl => exact before
  | tail _ taken ih => exact keep _ _ _ _ taken trivial (ih before)

/-- A system of several contracts seen from one of them: every piece of the
system's code is, for that contract, some pieces of its own code. `part` reads the
contract's storage and `inner` the suspended calls of the contract that a
suspended call of the system has open. -/
def Projects (N : Machine τ κ' ψ ρ' ε') (E : Discipline τ κ' ψ ρ')
    (M : Machine σ κ φ ρ ε) (D : Discipline σ κ φ ρ) (part : τ → σ) (inner : ψ → List φ) : Prop :=
  ∀ t frames t' frames', Local N E t frames t' frames' →
    Locals M D (part t) (frames.flatMap inner) (part t') (frames'.flatMap inner)

/-- Composition rule: an invariant of a contract is one of every system it is
part of. -/
theorem Preserved.lift {N : Machine τ κ' ψ ρ' ε'} {E : Discipline τ κ' ψ ρ'}
    {M : Machine σ κ φ ρ ε} {D : Discipline σ κ φ ρ} {part : τ → σ} {inner : ψ → List φ}
    {P : σ → List φ → Prop} (projects : Projects N E M D part inner)
    (keep : Preserved M D always P) :
    Preserved N E always fun t frames => P (part t) (frames.flatMap inner) :=
  fun t frames t' frames' taken _ before =>
    (projects t frames t' frames' taken).keep keep before

end Components

section Embedding
variable {τ ψ : Type}

/-- Code of one contract as code of the system it is part of. -/
def Outcome.embed (put : σ → τ) (name : φ → ψ) : Outcome σ φ → Outcome τ ψ
  | done s => done (put s)
  | suspended s frame => suspended (put s) (name frame)

@[simp] theorem Outcome.state_embed (put : σ → τ) (name : φ → ψ) (out : Outcome σ φ) :
    (out.embed put name).state = put out.state := by
  cases out <;> rfl

@[simp] theorem Outcome.pending_embed (put : σ → τ) (name : φ → ψ) (out : Outcome σ φ) :
    (out.embed put name).pending = out.pending.map name := by
  cases out <;> rfl

/-- The open calls of one contract, when another one is suspended, -/
theorem frames_other {inner : ψ → List φ} {ω : Type} {name : ω → ψ}
    (other : ∀ frame, inner (name frame) = []) (pending : List ω) (frames : List ψ) :
    (pending.map name ++ frames).flatMap inner = frames.flatMap inner := by
  simp only [List.flatMap_append, List.flatMap_map, other, List.flatMap_eq_nil_iff.mpr,
    implies_true, List.nil_append]

/-- and when the contract itself is. -/
theorem frames_own {inner : ψ → List φ} {name : φ → ψ}
    (own : ∀ frame, inner (name frame) = [frame]) (pending : List φ) (frames : List ψ) :
    (pending.map name ++ frames).flatMap inner = pending ++ frames.flatMap inner := by
  simp only [List.flatMap_append, List.flatMap_map, own, List.flatMap_singleton']

end Embedding

section Context
variable {M : Machine σ κ φ ρ ε} {D : Discipline σ κ φ ρ} {P : σ → List φ → Prop}

/-- What code preserves, it preserves on top of any suspended calls. -/
theorem Preserved.under (keep : Preserved M D always P) (below : List φ) :
    Preserved M D always fun s frames => P s (frames ++ below) := by
  intro s frames s' frames' taken _ before
  cases taken with
  | entered call allowed ran =>
    rw [List.append_assoc]
    exact keep _ _ _ _ (.entered call allowed ran) trivial before
  | resumed answer allowed ran =>
    rw [List.append_assoc]
    exact keep _ _ _ _ (.resumed answer allowed ran) trivial before

end Context

section Logging
variable {η : Type}

/-- The same contract code with other storage. -/
def Outcome.map {τ : Type} (f : σ → τ) : Outcome σ φ → Outcome τ φ
  | done s => done (f s)
  | suspended s frame => suspended (f s) frame

@[simp] theorem Outcome.state_map {τ : Type} (f : σ → τ) (out : Outcome σ φ) :
    (out.map f).state = f out.state := by
  cases out <;> rfl

@[simp] theorem Outcome.pending_map {τ : Type} (f : σ → τ) (out : Outcome σ φ) :
    (out.map f).pending = out.pending := by
  cases out <;> rfl

/-- The contract with a journal beside its storage: what is noted when a call is made, and
when a suspended one goes on. A call that is rolled back leaves nothing in the journal
either. -/
def Machine.journaled (M : Machine σ κ φ ρ ε) (note : κ → σ → σ → List η)
    (noteReturn : φ → σ → σ → List η) : Machine (σ × List η) κ φ ρ ε where
  enter call w := (M.enter call w.1).map fun out =>
    out.map fun s => (s, w.2 ++ note call w.1 s)
  resume frame answer w := (M.resume frame answer w.1).map fun out =>
    out.map fun s => (s, w.2 ++ noteReturn frame w.1 s)

/-- The contract with a history of its calls: the journal in which a call that goes on
notes nothing. -/
def Machine.logged (M : Machine σ κ φ ρ ε) (note : κ → σ → σ → List η) :
    Machine (σ × List η) κ φ ρ ε :=
  M.journaled note fun _ _ _ => []

def Discipline.logged (D : Discipline σ κ φ ρ) : Discipline (σ × List η) κ φ ρ where
  call call w := D.call call w.1
  answer frame answer w := D.answer frame answer w.1

instance (D : Discipline σ κ φ ρ) [∀ call s, Decidable (D.call call s)] (call : κ)
    (w : σ × List η) : Decidable (D.logged.call call w) :=
  inferInstanceAs (Decidable (D.call call w.1))

instance (D : Discipline σ κ φ ρ) [∀ frame answer s, Decidable (D.answer frame answer s)]
    (frame : φ) (answer : ρ) (w : σ × List η) : Decidable (D.logged.answer frame answer w) :=
  inferInstanceAs (Decidable (D.answer frame answer w.1))

variable {M : Machine σ κ φ ρ ε} {D : Discipline σ κ φ ρ} {note : κ → σ → σ → List η}

/-- What a piece of code of the contract with a journal is, and what it writes there. -/
theorem journaled_cases {noteReturn : φ → σ → σ → List η} {w w' : σ × List η}
    {frames frames' : List φ}
    (taken : Local (M.journaled note noteReturn) D.logged w frames w' frames') :
    Local M D w.1 frames w'.1 frames' ∧
      ((∃ call out, D.call call w.1 ∧ M.enter call w.1 = .ok out ∧ w'.1 = out.state ∧
          frames' = out.pending ++ frames ∧ w'.2 = w.2 ++ note call w.1 out.state) ∨
        ∃ frame rest answer out, D.answer frame answer w.1 ∧ frames = frame :: rest ∧
          M.resume frame answer w.1 = .ok out ∧ w'.1 = out.state ∧
          frames' = out.pending ++ rest ∧ w'.2 = w.2 ++ noteReturn frame w.1 out.state) := by
  cases taken with
  | entered call allowed ran =>
    simp only [Machine.journaled, Except.map] at ran
    split at ran
    · cases ran
    · next out entered =>
      cases ran
      rw [Outcome.state_map, Outcome.pending_map]
      exact ⟨.entered call allowed entered,
        Or.inl ⟨call, out, allowed, entered, rfl, rfl, rfl⟩⟩
  | @resumed frame rest _ answer allowed ran =>
    simp only [Machine.journaled, Except.map] at ran
    split at ran
    · cases ran
    · next out resumed =>
      cases ran
      rw [Outcome.state_map, Outcome.pending_map]
      exact ⟨.resumed answer allowed resumed,
        Or.inr ⟨frame, rest, answer, out, allowed, rfl, resumed, rfl, rfl, rfl⟩⟩

theorem Preserved.journaled {noteReturn : φ → σ → σ → List η} {P : σ → List φ → Prop}
    (keep : Preserved M D always P) :
    Preserved (M.journaled note noteReturn) D.logged always fun w frames => P w.1 frames :=
  fun _ _ _ _ taken _ before => keep _ _ _ _ (journaled_cases taken).1 trivial before

/-- A piece of code of the contract with a history is one of the contract, which decides
what is noted. -/
theorem logged_cases {w w' : σ × List η} {frames frames' : List φ}
    (taken : Local (M.logged note) D.logged w frames w' frames') :
    Local M D w.1 frames w'.1 frames' ∧
      ((∃ call out, D.call call w.1 ∧ M.enter call w.1 = .ok out ∧ w'.1 = out.state ∧
          w'.2 = w.2 ++ note call w.1 out.state) ∨
        ∃ frame rest answer out, frames = frame :: rest ∧ M.resume frame answer w.1 = .ok out ∧
          w'.1 = out.state ∧ w'.2 = w.2) := by
  obtain ⟨here, ⟨call, out, allowed, ran, now, -, noted⟩ |
    ⟨frame, rest, answer, out, -, rfl, ran, now, -, noted⟩⟩ := journaled_cases taken
  · exact ⟨here, Or.inl ⟨call, out, allowed, ran, now, noted⟩⟩
  · exact ⟨here, Or.inr ⟨frame, rest, answer, out, rfl, ran, now, by
      rw [noted, List.append_nil]⟩⟩

/-- The history changes nothing about the contract. -/
theorem Preserved.logged {P : σ → List φ → Prop} (keep : Preserved M D always P) :
    Preserved (M.logged note) D.logged always fun w frames => P w.1 frames :=
  keep.journaled

end Logging

/-- A scripted run: calls from outside, each either returning at once or
suspended, and answers to the call suspended last. -/
inductive Move (κ ρ : Type) where
  | call (call : κ)
  | answer (answer : ρ)

def Machine.move (M : Machine σ κ φ ρ ε) : Move κ ρ → Config σ φ → Option (Config σ φ)
  | .call call, ⟨s, stack⟩ =>
    match M.enter call s with
    | .ok out => some ⟨out.state, out.pending.map (·, s) ++ stack⟩
    | .error _ => none
  | .answer _, ⟨_, []⟩ => none
  | .answer answer, ⟨s, (frame, saved) :: stack⟩ =>
    match M.resume frame answer s with
    | .ok out => some ⟨out.state, out.pending.map (·, saved) ++ stack⟩
    | .error _ => none

def Discipline.move (D : Discipline σ κ φ ρ) : Move κ ρ → Config σ φ → Prop
  | .call call, ⟨s, _⟩ => D.call call s
  | .answer _, ⟨_, []⟩ => True
  | .answer answer, ⟨s, (frame, _) :: _⟩ => D.answer frame answer s

theorem Machine.move_step {M : Machine σ κ φ ρ ε} {D : Discipline σ κ φ ρ} {m : Move κ ρ}
    {c c' : Config σ φ} (allowed : D.move m c) (ran : M.move m c = some c') :
    Step M D c c' := by
  obtain ⟨s, stack⟩ := c
  cases m with
  | call call =>
    simp only [Machine.move] at ran
    split at ran
    · next entered =>
      cases ran
      exact .entered call allowed entered
    · cases ran
  | answer answer =>
    cases stack with
    | nil => cases ran
    | cons top rest =>
      obtain ⟨frame, saved⟩ := top
      simp only [Machine.move] at ran
      split at ran
      · next resumed =>
        cases ran
        exact .resumed answer allowed resumed
      · cases ran

section Scripts
variable (D : Discipline σ κ φ ρ) [∀ call s, Decidable (D.call call s)]
  [∀ frame answer s, Decidable (D.answer frame answer s)]

instance Discipline.decidableMove (m : Move κ ρ) (c : Config σ φ) : Decidable (D.move m c) :=
  match m, c with
  | .call call, ⟨s, _⟩ => inferInstanceAs (Decidable (D.call call s))
  | .answer _, ⟨_, []⟩ => .isTrue trivial
  | .answer answer, ⟨s, (frame, _) :: _⟩ => inferInstanceAs (Decidable (D.answer frame answer s))

instance Discipline.decidableFreeCall (call : κ) (s : σ) :
    Decidable ((Discipline.free : Discipline σ κ φ ρ).call call s) := .isTrue trivial

instance Discipline.decidableFreeAnswer (frame : φ) (answer : ρ) (s : σ) :
    Decidable ((Discipline.free : Discipline σ κ φ ρ).answer frame answer s) := .isTrue trivial

/-- Runs a script as long as every move is allowed and goes through. -/
def Machine.play (M : Machine σ κ φ ρ ε) :
    List (Move κ ρ) → Config σ φ → Option (Config σ φ)
  | [], c => some c
  | m :: rest, c => if D.move m c then (M.move m c).bind (M.play rest) else none

/-- A script that goes through is a run. -/
theorem Machine.play_reachable {M : Machine σ κ φ ρ ε} {start : σ}
    (script : List (Move κ ρ)) {c c' : Config σ φ}
    (before : Reachable M D start c) (ran : M.play D script c = some c') :
    Reachable M D start c' := by
  induction script generalizing c with
  | nil =>
    cases ran
    exact before
  | cons m rest ih =>
    simp only [Machine.play] at ran
    split at ran
    · next passed =>
      obtain ⟨mid, moved, ran⟩ := Option.bind_eq_some_iff.mp ran
      exact ih (.step before (Machine.move_step passed moved)) ran
    · cases ran

/-- What is observed at the end of a script is observed at the end of a run. -/
theorem Machine.play_observed (M : Machine σ κ φ ρ ε) (start : σ) {β : Type}
    (script : List (Move κ ρ)) (observe : Config σ φ → β) (value : β)
    (seen : (M.play D script ⟨start, []⟩).map observe = some value) :
    ∃ c, Reachable M D start c ∧ observe c = value := by
  obtain ⟨c, ran, seen⟩ := Option.map_eq_some_iff.mp seen
  exact ⟨c, Machine.play_reachable D script .start ran, seen⟩

/-- The storage a script leaves. -/
def Machine.after (M : Machine σ κ φ ρ ε) (script : List (Move κ ρ)) (start : σ) : σ :=
  ((M.play D script ⟨start, []⟩).map Config.state).getD start

/-- A script that ends with no call suspended ends a run. -/
theorem Machine.after_reachable (M : Machine σ κ φ ρ ε) (start : σ) (script : List (Move κ ρ))
    (settled : (M.play D script ⟨start, []⟩).map (fun c => c.stack.length) = some 0) :
    Reachable M D start ⟨M.after D script start, []⟩ := by
  obtain ⟨⟨state, stack⟩, ran, none⟩ := Option.map_eq_some_iff.mp settled
  obtain rfl := List.eq_nil_of_length_eq_zero none
  have run := Machine.play_reachable D script (.start : Reachable M D start _) ran
  rw [Machine.after, ran]
  exact run

end Scripts

end AutonolasRegistries.Library
