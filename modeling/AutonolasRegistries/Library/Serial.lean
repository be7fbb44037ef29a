import AutonolasRegistries.Library.CallStack

/-!
# Runs in which calls do not overlap

While a call is suspended, others run. Where those that can run then do not interfere with what
the suspended call still does, they can as well come after it: each state between calls is
reached by calls made one after the other.
-/
namespace AutonolasRegistries.Library
variable {σ κ φ ρ ε : Type}

section Runs
variable (M : Machine σ κ φ ρ ε) (D : Discipline σ κ φ ρ)

/-- Runs in which a call starts when the one before it has returned, and nothing is rolled
back. -/
inductive Serial (start : σ) : σ → List φ → Prop where
  | start : Serial start start []
  | entered {s : σ} {out : Outcome σ φ} (before : Serial start s []) (call : κ)
      (allowed : D.call call s) (ran : M.enter call s = .ok out) :
      Serial start out.state out.pending
  | resumed {s : σ} {frame : φ} {out : Outcome σ φ} (before : Serial start s [frame])
      (answer : ρ) (allowed : D.answer frame answer s) (ran : M.resume frame answer s = .ok out) :
      Serial start out.state out.pending

/-- Calls of one kind, each of which returns without an external call. -/
inductive Visits (kind : κ → Prop) (s : σ) : σ → Prop where
  | refl : Visits kind s s
  | tail {s' s'' : σ} (before : Visits kind s s') (call : κ) (visitor : kind call)
      (allowed : D.call call s') (ran : M.enter call s' = .ok (.done s'')) : Visits kind s s''

/-- Only visitors run while a call is suspended, and what it does next it can do before a
visit, which then goes the same way. -/
structure Unhindered (kind : κ → Prop) (P : σ → List φ → Prop) : Prop where
  visitors : ∀ s frame frames call out, P s (frame :: frames) → D.call call s →
    M.enter call s = .ok out → kind call ∧ out.pending = []
  earlier : ∀ s s' frame call answer out, P s [frame] → kind call → D.call call s →
    M.enter call s = .ok (.done s') → D.answer frame answer s' →
    M.resume frame answer s' = .ok out →
    D.answer frame answer s ∧ ∃ before : Outcome σ φ, M.resume frame answer s = .ok before ∧
      before.pending = out.pending ∧ D.call call before.state ∧
      M.enter call before.state = .ok (.done out.state)

end Runs

variable {M : Machine σ κ φ ρ ε} {D : Discipline σ κ φ ρ} {kind : κ → Prop}
  {P : σ → List φ → Prop} {start s s' : σ}

theorem Serial.keep {frames : List φ} (keep : Preserved M D always P) (initial : P start [])
    (run : Serial M D start s frames) : P s frames := by
  induction run with
  | start => exact initial
  | entered _ call allowed ran ih =>
    have after := keep _ _ _ _ (.entered call allowed ran) trivial ih
    rwa [List.append_nil] at after
  | resumed _ answer allowed ran ih =>
    have after := keep _ _ _ _ (.resumed answer allowed ran) trivial ih
    rwa [List.append_nil] at after

theorem Visits.keep {frames : List φ} (keep : Preserved M D always P)
    (visits : Visits M D kind s s') (before : P s frames) : P s' frames := by
  induction visits with
  | refl => exact before
  | tail _ call _ allowed ran ih => exact keep _ _ _ _ (.entered call allowed ran) trivial ih

theorem Visits.serial (visits : Visits M D kind s s') (before : Serial M D start s []) :
    Serial M D start s' [] := by
  induction visits with
  | refl => exact before
  | tail _ call _ allowed ran ih => exact .entered ih call allowed ran

/-- The suspended call goes on before all the visits. -/
theorem Visits.later (keep : Preserved M D always P) (unhindered : Unhindered M D kind P)
    (visits : Visits M D kind s s') {frame : φ} {answer : ρ} {out : Outcome σ φ}
    (here : P s [frame]) (allowed : D.answer frame answer s')
    (ran : M.resume frame answer s' = .ok out) :
    D.answer frame answer s ∧ ∃ before : Outcome σ φ, M.resume frame answer s = .ok before ∧
      before.pending = out.pending ∧ Visits M D kind before.state out.state := by
  induction visits generalizing out with
  | refl => exact ⟨allowed, out, ran, rfl, .refl⟩
  | tail visits call visitor called entered ih =>
    obtain ⟨allowed', between, ran', pending', called', entered'⟩ :=
      unhindered.earlier _ _ _ _ _ _ (visits.keep keep here) visitor called entered allowed ran
    obtain ⟨allowed'', before, ran'', pending, visits'⟩ := ih allowed' ran'
    exact ⟨allowed'', before, ran'', pending.trans pending',
      .tail visits' call visitor called' entered'⟩

/-- A configuration as calls one after the other leave it, with the visits of the last one. -/
def Serialised (M : Machine σ κ φ ρ ε) (D : Discipline σ κ φ ρ) (kind : κ → Prop) (start s : σ) :
    List (φ × σ) → Prop
  | [] => Serial M D start s []
  | [(frame, saved)] => Serial M D start saved [] ∧
    ∃ s₀, Serial M D start s₀ [frame] ∧ Visits M D kind s₀ s
  | _ => False

theorem Step.serialised (keep : Preserved M D always P) (initial : P start [])
    (unhindered : Unhindered M D kind P) {c c' : Config σ φ}
    (here : P c.state c.frames) (before : Serialised M D kind start c.state c.stack)
    (taken : Step M D c c') : Serialised M D kind start c'.state c'.stack := by
  cases taken with
  | @entered s stack out call allowed ran =>
    match stack, before with
    | [], before =>
      cases out with
      | done s' => exact .entered before call allowed ran
      | suspended s' frame => exact ⟨before, s', .entered before call allowed ran, .refl⟩
    | [(frame, saved)], ⟨below, s₀, serial, visits⟩ =>
      obtain ⟨visitor, pending⟩ := unhindered.visitors _ _ _ _ _ here allowed ran
      cases out with
      | done s' => exact ⟨below, s₀, serial, .tail visits call visitor allowed ran⟩
      | suspended s' frame' => cases pending
  | @resumed s saved frame stack out answer allowed ran =>
    match stack, before with
    | [], ⟨below, s₀, serial, visits⟩ =>
      obtain ⟨allowed', first, ran', pending, visits'⟩ :=
        visits.later keep unhindered (serial.keep keep initial) allowed ran
      have next := Serial.resumed serial answer allowed' ran'
      rw [pending] at next
      cases out with
      | done s' => exact visits'.serial next
      | suspended s' frame' => exact ⟨below, first.state, next, visits'⟩
  | @reverted s saved frame stack =>
    match stack, before with
    | [], ⟨below, _⟩ => exact below

theorem Reachable.serialised (keep : Preserved M D always P) (initial : P start [])
    (unhindered : Unhindered M D kind P) {c : Config σ φ} (run : Reachable M D start c) :
    Serialised M D kind start c.state c.stack := by
  induction run with
  | start => exact .start
  | step before taken ih =>
    exact taken.serialised keep initial unhindered (before.invariant keep initial) ih

/-- Run rule: a run with visits reaches what calls one after the other reach, up to the visits
the suspended call has had so far. -/
theorem Reachable.serial (keep : Preserved M D always P) (initial : P start [])
    (unhindered : Unhindered M D kind P) {c : Config σ φ} (run : Reachable M D start c) :
    (c.frames = [] → Serial M D start c.state []) ∧
      ∃ s, Serial M D start s c.frames ∧ Visits M D kind s c.state := by
  have serialised := run.serialised keep initial unhindered
  obtain ⟨s, stack⟩ := c
  match stack, serialised with
  | [], serial => exact ⟨fun _ => serial, s, serial, .refl⟩
  | [(frame, saved)], ⟨_, s₀, serial, visits⟩ =>
    exact ⟨fun idle => (List.cons_ne_nil _ _ idle).elim, s₀, serial, visits⟩

end AutonolasRegistries.Library
