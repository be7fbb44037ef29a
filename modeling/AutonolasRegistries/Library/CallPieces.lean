import Mathlib.Algebra.Ring.Nat
import AutonolasRegistries.Library.CallStack

/-!
# One call and the pieces of code it runs

A call that goes through is a list of pieces, each with the storage before and after it.
What foreign code does between two pieces is left open, so the storage before a piece has
nothing to do with the storage after the last one; a quantity the contract itself moves is
followed piece by piece.
-/
namespace AutonolasRegistries.Library
variable {σ κ φ ρ ε : Type}

/-- The pieces a suspended call still runs until it returns. -/
inductive Rest (M : Machine σ κ φ ρ ε) : φ → List (σ × σ) → Prop where
  | returned {frame : φ} {s s' : σ} (answer : ρ)
      (ran : M.resume frame answer s = .ok (.done s')) : Rest M frame [(s, s')]
  | suspended {frame next : φ} {s s' : σ} {later : List (σ × σ)} (answer : ρ)
      (ran : M.resume frame answer s = .ok (.suspended s' next)) (rest : Rest M next later) :
      Rest M frame ((s, s') :: later)

/-- The pieces of a call that starts at `s` and returns. -/
inductive Whole (M : Machine σ κ φ ρ ε) (call : κ) (s : σ) : List (σ × σ) → Prop where
  | returned {s' : σ} (ran : M.enter call s = .ok (.done s')) : Whole M call s [(s, s')]
  | suspended {s' : σ} {frame : φ} {later : List (σ × σ)}
      (ran : M.enter call s = .ok (.suspended s' frame)) (rest : Rest M frame later) :
      Whole M call s ((s, s') :: later)

/-- A call that goes through in any case: `between` says what may happen to the storage while
it is suspended, `accepted` what its external calls may answer, and `post` what holds when it
returns. -/
inductive GoesThrough (M : Machine σ κ φ ρ ε) (between : σ → σ → Prop)
    (accepted : φ → ρ → σ → Prop) (post : σ → Prop) : Outcome σ φ → Prop where
  | returned {s : σ} (holds : post s) : GoesThrough M between accepted post (.done s)
  | suspended {s : σ} {frame : φ}
      (runs : ∀ s' answer, between s s' → accepted frame answer s' →
        ∃ out, M.resume frame answer s' = .ok out)
      (later : ∀ s' answer out, between s s' → accepted frame answer s' →
        M.resume frame answer s' = .ok out → GoesThrough M between accepted post out) :
      GoesThrough M between accepted post (.suspended s frame)

/-- It is enough to go on once from every storage the call may find. -/
theorem GoesThrough.next {M : Machine σ κ φ ρ ε} {between : σ → σ → Prop}
    {accepted : φ → ρ → σ → Prop} {post : σ → Prop} {s : σ} {frame : φ}
    (step : ∀ s' answer, between s s' → accepted frame answer s' →
      ∃ out, M.resume frame answer s' = .ok out ∧ GoesThrough M between accepted post out) :
    GoesThrough M between accepted post (.suspended s frame) := by
  constructor
  · intro s' answer meanwhile allowed
    obtain ⟨out, ran, -⟩ := step s' answer meanwhile allowed
    exact ⟨out, ran⟩
  · intro s' answer out meanwhile allowed ran
    obtain ⟨out', ran', goes⟩ := step s' answer meanwhile allowed
    rw [ran] at ran'
    cases ran'
    exact goes

/-- The sums of a quantity before and after the pieces. -/
def sumBefore (f : σ → Nat) (pieces : List (σ × σ)) : Nat := (pieces.map fun p => f p.1).sum

def sumAfter (f : σ → Nat) (pieces : List (σ × σ)) : Nat := (pieces.map fun p => f p.2).sum

@[simp] theorem sumBefore_nil (f : σ → Nat) : sumBefore f [] = 0 := rfl
@[simp] theorem sumAfter_nil (f : σ → Nat) : sumAfter f [] = 0 := rfl

@[simp] theorem sumBefore_cons (f : σ → Nat) (p : σ × σ) (pieces : List (σ × σ)) :
    sumBefore f (p :: pieces) = f p.1 + sumBefore f pieces := List.sum_cons

@[simp] theorem sumAfter_cons (f : σ → Nat) (p : σ × σ) (pieces : List (σ × σ)) :
    sumAfter f (p :: pieces) = f p.2 + sumAfter f pieces := List.sum_cons

/-- The pieces of a suspended call when nothing runs in between. -/
def Machine.soloRest (M : Machine σ κ φ ρ ε) : List ρ → φ → σ → Option (List (σ × σ))
  | [], _, _ => none
  | answer :: answers, frame, s =>
    match M.resume frame answer s with
    | .error _ => none
    | .ok (.done s') => some [(s, s')]
    | .ok (.suspended s' next) => (M.soloRest answers next s').map ((s, s') :: ·)

def Machine.solo (M : Machine σ κ φ ρ ε) (call : κ) (answers : List ρ) (s : σ) :
    Option (List (σ × σ)) :=
  match M.enter call s with
  | .error _ => none
  | .ok (.done s') => some [(s, s')]
  | .ok (.suspended s' next) => (M.soloRest answers next s').map ((s, s') :: ·)

theorem Machine.soloRest_rest {M : Machine σ κ φ ρ ε} {answers : List ρ} {frame : φ} {s : σ}
    {pieces : List (σ × σ)} (ran : M.soloRest answers frame s = some pieces) :
    Rest M frame pieces := by
  induction answers generalizing frame s pieces with
  | nil => cases ran
  | cons answer answers ih =>
    simp only [Machine.soloRest] at ran
    split at ran
    · cases ran
    · next resumed =>
      cases ran
      exact .returned answer resumed
    · next resumed =>
      obtain ⟨later, rest, rfl⟩ := Option.map_eq_some_iff.mp ran
      exact .suspended answer resumed (ih rest)

theorem Machine.solo_whole {M : Machine σ κ φ ρ ε} {call : κ} {answers : List ρ} {s : σ}
    {pieces : List (σ × σ)} (ran : M.solo call answers s = some pieces) :
    Whole M call s pieces := by
  simp only [Machine.solo] at ran
  split at ran
  · cases ran
  · next entered =>
    cases ran
    exact .returned entered
  · next entered =>
    obtain ⟨later, rest, rfl⟩ := Option.map_eq_some_iff.mp ran
    exact .suspended entered (Machine.soloRest_rest rest)

end AutonolasRegistries.Library
