import AutonolasRegistries.Guarantees.SheetRuns
import AutonolasRegistries.Library.Ledger

/-!
# Operators of a service

The instances counted for a service are the ones its operators hold, and an
operator's balance never exceeds the bonds of its instances under the parameters
recorded now: `unbond` recomputes the bonds, and nothing can change them while
anybody is bonded. No condition on the Ids is needed for this.
-/
namespace AutonolasRegistries.Guarantees
open Library Source Model

structure OperatorBook (t : ServiceSheet) : Prop where
  counted : t.service.numAgentInstances = total fun a => (t.operators a).length
  fits : t.service.numAgentInstances < 2 ^ 32
  idle : t.service.state = .nonExistent ∨ t.service.state = .preRegistration →
    t.service.numAgentInstances = 0
  backed : ∀ a, t.balances a ≤ bondOf t.params (t.operators a)

namespace OperatorBook
variable {t t' : ServiceSheet}

/-- While nobody may register, nobody is registered or has a balance. -/
theorem vacant (h : OperatorBook t)
    (idle : t.service.state = .nonExistent ∨ t.service.state = .preRegistration) (a : Address) :
    t.operators a = [] ∧ t.balances a = 0 := by
  have none := h.counted.symm.trans (h.idle idle)
  have empty : t.operators a = [] := List.length_eq_zero_iff.mp (total_eq_zero_iff.mp none a)
  refine ⟨empty, Nat.le_zero.mp (le_trans (h.backed a) ?_)⟩
  rw [empty]
  exact le_refl _

/-- The 32-bit cast in `unbond` loses nothing. -/
theorem length_mod (h : OperatorBook t) (a : Address) :
    (t.operators a).length % 2 ^ 32 = (t.operators a).length := by
  have le := le_total (fun a => (t.operators a).length) a
  rw [← h.counted] at le
  exact Nat.mod_eq_of_lt (lt_of_le_of_lt le h.fits)

/-- A refund is the whole balance. -/
theorem refund_eq (h : OperatorBook t) (a : Address) :
    min (bondOf t.params (t.operators a)) (t.balances a) = t.balances a :=
  min_eq_right (h.backed a)

theorem cleared (h : OperatorBook t) (a : Address) :
    (if 0 < min (bondOf t.params (t.operators a)) (t.balances a) then 0 else t.balances a) =
      0 := by
  rw [h.refund_eq]
  split
  · rfl
  · omega

theorem bondOf_append (params : Uint32 → AgentParams) (xs ys : List AgentInstance) :
    bondOf params (xs ++ ys) = bondOf params xs + bondOf params ys := by
  simp only [bondOf, List.map_append, List.sum_append]

theorem configure {entries : List (Uint32 × AgentParams)} (before : OperatorBook t)
    (step : t.Step t' (.configure entries)) : OperatorBook t' := by
  cases step with
  | configure idle _ _ _ state _ _ count _ operators balances =>
    refine ⟨?_, ?_, fun _ => ?_, fun a => ?_⟩
    · rw [count, operators, before.counted]
    · rw [count]
      exact before.fits
    · rw [count]
      exact before.idle idle
    · rw [balances, (before.vacant idle a).2]
      exact Nat.zero_le _

theorem register {operator : Address} {entries : List (Address × Uint32)}
    (before : OperatorBook t) (step : t.Step t' (.register operator entries)) :
    OperatorBook t' := by
  cases step with
  | register state service counted params lists room operators balances =>
    refine ⟨?_, ?_, ?_, ?_⟩
    · have moved := total_map_update_add List.length t.operators operator
        (t.operators operator ++ instancesOf entries)
      rw [List.length_append, instancesOf, List.length_map] at moved
      rw [service, operators, instancesOf]
      have held := before.counted
      simp only
      omega
    · rw [service]
      exact counted before.fits
    · rw [service]
      simp only [state]
      split <;> rintro (h | h) <;> cases h
    · intro a
      rw [params, operators, balances]
      by_cases same : a = operator
      · subst same
        rw [Function.update_self, Function.update_self, bondOf_append]
        exact Nat.add_le_add (before.backed a) (Nat.mod_le _ _)
      · rw [Function.update_of_ne same, Function.update_of_ne same]
        exact before.backed a

theorem terminate (before : OperatorBook t) (step : t.Step t' .terminate) : OperatorBook t' := by
  cases step with
  | terminate state after =>
    subst after
    refine ⟨before.counted, before.fits, fun idle => ?_, before.backed⟩
    simp only at idle ⊢
    split at idle
    · rcases idle with h | h <;> cases h
    · omega

theorem unbond {operator : Address} (before : OperatorBook t)
    (step : t.Step t' (.unbond operator)) : OperatorBook t' := by
  cases step with
  | unbond state bonded enough after =>
    subst after
    simp only [before.length_mod, before.cleared] at enough ⊢
    refine ⟨?_, ?_, fun idle => ?_, fun a => ?_⟩
    · have moved := total_map_update_add List.length t.operators operator []
      have held := before.counted
      rw [List.length_nil] at moved
      simp only
      omega
    · exact lt_of_le_of_lt (Nat.sub_le _ _) before.fits
    · simp only [state] at idle ⊢
      split at idle
      · assumption
      · rcases idle with h | h <;> cases h
    · by_cases same : a = operator
      · subst same
        simp only [Function.update_self]
        exact Nat.zero_le _
      · simp only [Function.update_of_ne same]
        exact before.backed a

theorem step {action : ServiceAction} (before : OperatorBook t) (step : t.Step t' action) :
    OperatorBook t' := by
  cases action with
  | configure entries => exact before.configure step
  | register operator entries => exact before.register step
  | terminate => exact before.terminate step
  | unbond operator => exact before.unbond step
  | activate =>
    cases step with
    | activate state after =>
      subst after
      refine ⟨before.counted, before.fits, ?_, before.backed⟩
      rintro (h | h) <;> cases h
  | deploy =>
    cases step with
    | deploy multisig state after =>
      subst after
      refine ⟨before.counted, before.fits, ?_, before.backed⟩
      rintro (h | h) <;> cases h
  | slash =>
    cases step with
    | slash state below after =>
      subst after
      exact ⟨before.counted, before.fits, before.idle,
        fun a => le_trans (below a) (before.backed a)⟩

end OperatorBook

theorem operatorBook_preserved {edition : Edition}
    {D : Discipline RegistryWorld RegistryCall RegistryFrame RegistryAnswer}
    (bounded : ∀ call w, D.call call w → Bounded call w) :
    Preserved (registryMachine edition) D RegistryBase
      fun w _ => ∀ serviceId < 2 ^ 32, OperatorBook (sheet w.store serviceId) :=
  sheets_preserved (fun _ _ => True) bounded (fun _ _ _ _ _ _ => trivial)
    (fun _ => trivial) fun _ _ _ before _ step => before.step step

theorem operatorBook_deployment (deployer : Address) (serviceId : Nat) :
    OperatorBook (sheet (RegistryWorld.deployment deployer).store serviceId) :=
  ⟨total_zero.symm, Nat.two_pow_pos 32, fun _ => rfl, fun _ => le_refl _⟩

end AutonolasRegistries.Guarantees
