import AutonolasRegistries.Library.CallStack
import AutonolasRegistries.Library.Revert

/-!
# Two machines in lockstep

Two contracts are given the same calls and the same answers of their external calls.
They are in lockstep when they accept and reject the same ones, stop at the same places
and keep their storage related. Then an observer who sees what was rejected and why,
what every call replied and which calls are open cannot tell them apart.
-/
namespace AutonolasRegistries.Library

/-- What happens to a contract from outside: a call, the answer of the external call it
waits for, or the failure of that call. -/
inductive Act (κ ρ : Type) where
  | call (call : κ)
  | answer (answer : ρ)
  | fail

/-- What an observer sees of one act. -/
structure Sighting (ε η φ : Type) where
  failure : Option ε
  reply : Option η
  pending : List φ

variable {σ τ κ φ ρ ε η : Type}

/-- One act. A rejected call changes nothing, and a call that fails after its external
call is rolled back. -/
def Machine.act (M : Machine σ κ φ ρ ε) (reply : κ → σ → Option η) :
    Act κ ρ → Config σ φ → Sighting ε η φ × Config σ φ
  | .call call, ⟨s, stack⟩ =>
    match M.enter call s with
    | .ok out =>
      let next : Config σ φ := ⟨out.state, out.pending.map (·, s) ++ stack⟩
      (⟨none, reply call s, next.frames⟩, next)
    | .error reason => (⟨some reason, none, stack.map Prod.fst⟩, ⟨s, stack⟩)
  | .answer answer, ⟨s, (frame, saved) :: stack⟩ =>
    match M.resume frame answer s with
    | .ok out =>
      let next : Config σ φ := ⟨out.state, out.pending.map (·, saved) ++ stack⟩
      (⟨none, none, next.frames⟩, next)
    | .error reason => (⟨some reason, none, stack.map Prod.fst⟩, ⟨saved, stack⟩)
  | .fail, ⟨_, (_, saved) :: stack⟩ => (⟨none, none, stack.map Prod.fst⟩, ⟨saved, stack⟩)
  | .answer _, ⟨s, []⟩ | .fail, ⟨s, []⟩ => (⟨none, none, []⟩, ⟨s, []⟩)

/-- A history: what was seen, and where it ended. -/
def Machine.history (M : Machine σ κ φ ρ ε) (reply : κ → σ → Option η) :
    List (Act κ ρ) → Config σ φ → List (Sighting ε η φ) × Config σ φ
  | [], c => ([], c)
  | act :: rest, c =>
    let (seen, next) := M.act reply act c
    let (others, final) := M.history reply rest next
    (seen :: others, final)

/-- Two runs of contract code with the same result up to the relation. -/
inductive Agree (R : σ → τ → Prop) :
    Except ε (Outcome σ φ) → Except ε (Outcome τ φ) → Prop where
  | failed (reason : ε) : Agree R (.error reason) (.error reason)
  | done {s : σ} {t : τ} (related : R s t) : Agree R (.ok (.done s)) (.ok (.done t))
  | suspended {s : σ} {t : τ} (frame : φ) (related : R s t) :
      Agree R (.ok (.suspended s frame)) (.ok (.suspended t frame))

/-- Related storage, now and below every suspended call. -/
inductive RelatedConfigs (R : σ → τ → Prop) : Config σ φ → Config τ φ → Prop where
  | empty {s : σ} {t : τ} (related : R s t) : RelatedConfigs R ⟨s, []⟩ ⟨t, []⟩
  | push {s saved : σ} {t saved' : τ} {stack : List (φ × σ)} {stack' : List (φ × τ)}
      (frame : φ) (related : R s t)
      (below : RelatedConfigs R ⟨saved, stack⟩ ⟨saved', stack'⟩) :
      RelatedConfigs R ⟨s, (frame, saved) :: stack⟩ ⟨t, (frame, saved') :: stack'⟩

structure Lockstep (M : Machine σ κ φ ρ ε) (N : Machine τ κ φ ρ ε) (R : σ → τ → Prop)
    (allowed : κ → Prop) (reply : κ → σ → Option η) (reply' : κ → τ → Option η) : Prop where
  enter : ∀ call s t, allowed call → R s t → Agree R (M.enter call s) (N.enter call t)
  resume : ∀ frame answer s t, R s t → Agree R (M.resume frame answer s) (N.resume frame answer t)
  replies : ∀ call s t, allowed call → R s t → reply call s = reply' call t

namespace RelatedConfigs
variable {R : σ → τ → Prop} {c : Config σ φ} {d : Config τ φ}

theorem state (h : RelatedConfigs R c d) : R c.state d.state := by
  cases h with
  | empty related => exact related
  | push _ related => exact related

theorem frames (h : RelatedConfigs R c d) : c.frames = d.frames := by
  induction h with
  | empty => rfl
  | push frame related below ih =>
    simp only [Config.frames, List.map_cons] at ih ⊢
    rw [ih]

/-- The storage on top may be replaced by related storage. -/
theorem replace {s s' : σ} {t t' : τ} {stack : List (φ × σ)} {stack' : List (φ × τ)}
    (h : RelatedConfigs R ⟨s, stack⟩ ⟨t, stack'⟩) (related : R s' t') :
    RelatedConfigs R ⟨s', stack⟩ ⟨t', stack'⟩ := by
  cases h with
  | empty => exact .empty related
  | push frame _ below => exact .push frame related below

end RelatedConfigs

section Simulation
variable {M : Machine σ κ φ ρ ε} {N : Machine τ κ φ ρ ε} {R : σ → τ → Prop}
  {allowed : κ → Prop} {reply : κ → σ → Option η} {reply' : κ → τ → Option η}

/-- The acts of the calls that are allowed. -/
def Act.Allowed (allowed : κ → Prop) : Act κ ρ → Prop
  | .call made => allowed made
  | .answer _ | .fail => True

theorem Lockstep.act (lock : Lockstep M N R allowed reply reply') {act : Act κ ρ}
    (permitted : act.Allowed allowed) {c : Config σ φ} {d : Config τ φ}
    (related : RelatedConfigs R c d) :
    (M.act reply act c).1 = (N.act reply' act d).1 ∧
      RelatedConfigs R (M.act reply act c).2 (N.act reply' act d).2 := by
  obtain ⟨s, stack⟩ := c
  obtain ⟨t, stack'⟩ := d
  have frames := related.frames
  simp only [Config.frames] at frames
  cases act with
  | call call =>
    have same := lock.replies call s t permitted related.state
    have agree := lock.enter call s t permitted related.state
    simp only [Machine.act]
    generalize M.enter call s = left at agree
    generalize N.enter call t = right at agree
    cases agree with
    | failed reason => exact ⟨by simp only [frames], related⟩
    | done after =>
      exact ⟨by simp only [Config.frames, Outcome.pending_done, List.map_nil, List.nil_append,
        same, frames], related.replace after⟩
    | suspended frame after =>
      exact ⟨by simp only [Config.frames, Outcome.pending_suspended, List.map_cons, List.map_nil,
        List.cons_append, List.nil_append, same, frames], .push frame after related⟩
  | answer answer =>
    cases related with
    | empty related => exact ⟨rfl, .empty related⟩
    | @push _ saved _ saved' rest rest' frame top below =>
      have agree := lock.resume frame answer s t top
      have frames := below.frames
      simp only [Config.frames] at frames
      simp only [Machine.act]
      generalize M.resume frame answer s = left at agree
      generalize N.resume frame answer t = right at agree
      cases agree with
      | failed reason => exact ⟨by simp only [frames], below⟩
      | done after =>
        exact ⟨by simp only [Config.frames, Outcome.pending_done, List.map_nil, List.nil_append,
          frames], below.replace after⟩
      | suspended next after =>
        exact ⟨by simp only [Config.frames, Outcome.pending_suspended, List.map_cons,
          List.map_nil, List.cons_append, List.nil_append, frames], .push next after below⟩
  | fail =>
    cases related with
    | empty related => exact ⟨rfl, .empty related⟩
    | push frame top below =>
      have frames := below.frames
      simp only [Config.frames] at frames
      exact ⟨by simp only [Machine.act, frames], below⟩

/-- Lockstep rule: the same history is seen of both contracts, from any related start. -/
theorem Lockstep.history (lock : Lockstep M N R allowed reply reply') (acts : List (Act κ ρ))
    (permitted : ∀ act ∈ acts, act.Allowed allowed) {c : Config σ φ} {d : Config τ φ}
    (related : RelatedConfigs R c d) :
    (M.history reply acts c).1 = (N.history reply' acts d).1 ∧
      RelatedConfigs R (M.history reply acts c).2 (N.history reply' acts d).2 := by
  induction acts generalizing c d with
  | nil => exact ⟨rfl, related⟩
  | cons act rest ih =>
    obtain ⟨seen, next⟩ := lock.act (permitted act List.mem_cons_self) related
    obtain ⟨others, final⟩ := ih (fun other member => permitted other
      (List.mem_cons_of_mem _ member)) next
    simp only [Machine.history]
    exact ⟨by rw [seen, others], final⟩

end Simulation

end AutonolasRegistries.Library
