import AutonolasRegistries.Guarantees.RegistrySolvency
import AutonolasRegistries.Guarantees.ServiceIsolation

/-!
# Who paid what into a service

The registry keeps one balance for each operator of a service and the deposit that was
asked for, not the payments themselves. With a history of the payments beside the
storage, the balance is the bonds paid since the operator last left less what was slashed
from it, and the deposit held is the one paid at activation.
`ServiceRegistryL2.sol:346-374`, `:405-471`, `:537-585`, `:651-731`.
-/
namespace AutonolasRegistries.Guarantees
open Library Source Model

inductive PaymentEvent where
  | activated (serviceId value : Nat)
  | bonded (operator : Address) (serviceId value : Nat)
  | slashed (operator : Address) (serviceId amount : Nat)
  | unbonded (operator : Address) (serviceId : Nat)
  deriving DecidableEq, Repr

namespace PaymentEvent

def service : PaymentEvent → Nat
  | activated serviceId _ | bonded _ serviceId _ | slashed _ serviceId _
  | unbonded _ serviceId => serviceId

/-- The deposit of a service: the last one paid. -/
def deposit (target : Nat) (before : Nat) : PaymentEvent → Nat
  | activated serviceId value => if serviceId = target then value else before
  | _ => before

/-- The bonds an operator paid into a service since it last left. -/
def bonds (operator : Address) (target : Nat) (before : Nat) : PaymentEvent → Nat
  | bonded payer serviceId value =>
    if payer = operator ∧ serviceId = target then before + value else before
  | unbonded leaving serviceId =>
    if leaving = operator ∧ serviceId = target then 0 else before
  | _ => before

/-- What was slashed from an operator in a service since it last left. -/
def slashes (operator : Address) (target : Nat) (before : Nat) : PaymentEvent → Nat
  | slashed bondholder serviceId amount =>
    if bondholder = operator ∧ serviceId = target then before + amount else before
  | unbonded leaving serviceId =>
    if leaving = operator ∧ serviceId = target then 0 else before
  | _ => before

end PaymentEvent

def depositPaid (serviceId : Nat) (history : List PaymentEvent) : Nat :=
  history.foldl (PaymentEvent.deposit serviceId) 0

def bondsPaid (operator : Address) (serviceId : Nat) (history : List PaymentEvent) : Nat :=
  history.foldl (PaymentEvent.bonds operator serviceId) 0

def bondsSlashed (operator : Address) (serviceId : Nat) (history : List PaymentEvent) : Nat :=
  history.foldl (PaymentEvent.slashes operator serviceId) 0

/-- What each iteration of the loop in `slash` moves to the slashed funds, and out of
whose bonds. -/
def slashedBy (serviceId : Nat) : List (Address × Uint96) → RegistryState → List PaymentEvent
  | [], _ => []
  | entry :: rest, s =>
    match ServiceRegistry.slashBody serviceId entry s with
    | .ok next =>
      .slashed (s.mapAgentInstanceOperators entry.1) serviceId
        (next.slashedFunds - s.slashedFunds) :: slashedBy serviceId rest next
    | .error _ => []

/-- The payments a call makes when it goes through. -/
def paymentsOf (call : RegistryCall) (w _after : RegistryWorld) : List PaymentEvent :=
  match call with
  | .activateRegistration _ value _ serviceId => [.activated serviceId value]
  | .registerAgents _ value operator serviceId _ _ => [.bonded operator serviceId value]
  | .slash _ agentInstances amounts serviceId =>
    slashedBy serviceId (agentInstances.zip amounts) w.store
  | .unbond _ operator serviceId => [.unbonded operator serviceId]
  | .create .. | .update .. | .deploy .. | .terminate .. | .drain .. | .changeOwner ..
  | .changeManager .. | .changeDrainer .. | .changeMultisigPermission .. | .approve ..
  | .setApprovalForAll .. | .transferFrom .. => []

/-- The registry with the history of its payments. -/
abbrev paymentMachine (edition : Edition) :
    Machine (RegistryWorld × List PaymentEvent) RegistryCall RegistryFrame RegistryAnswer Revert :=
  (registryMachine edition).logged paymentsOf

/-- The records of a service agree with the history. -/
structure Accounted (t : ServiceSheet) (serviceId : Nat) (history : List PaymentEvent) :
    Prop where
  deposit : t.service.state.holdsDeposit = true →
    t.service.securityDeposit = depositPaid serviceId history
  bonds : ∀ operator, t.balances operator + bondsSlashed operator serviceId history =
    bondsPaid operator serviceId history

section Counters
variable {serviceId : Nat}

/-- Payments into other services do not count. -/
theorem counters_elsewhere (operator : Address) {events : List PaymentEvent}
    (elsewhere : ∀ e ∈ events, e.service ≠ serviceId) (before : Nat) :
    events.foldl (PaymentEvent.deposit serviceId) before = before ∧
      events.foldl (PaymentEvent.bonds operator serviceId) before = before ∧
      events.foldl (PaymentEvent.slashes operator serviceId) before = before := by
  induction events with
  | nil => exact ⟨rfl, rfl, rfl⟩
  | cons e rest ih =>
    have different := elsewhere e List.mem_cons_self
    have ih := ih fun other member => elsewhere other (List.mem_cons_of_mem _ member)
    have same : PaymentEvent.deposit serviceId before e = before ∧
        PaymentEvent.bonds operator serviceId before e = before ∧
        PaymentEvent.slashes operator serviceId before e = before := by
      cases e <;>
        simp_all [PaymentEvent.service, PaymentEvent.deposit, PaymentEvent.bonds,
          PaymentEvent.slashes]
    simp only [List.foldl_cons, same]
    exact ih

theorem Accounted.elsewhere {t : ServiceSheet} {history events : List PaymentEvent}
    (before : Accounted t serviceId history)
    (elsewhere : ∀ e ∈ events, e.service ≠ serviceId) :
    Accounted t serviceId (history ++ events) := by
  refine ⟨fun held => ?_, fun operator => ?_⟩
  · rw [depositPaid, List.foldl_append,
      (counters_elsewhere 0 elsewhere _).1]
    exact before.deposit held
  · rw [bondsSlashed, bondsPaid, List.foldl_append, List.foldl_append,
      (counters_elsewhere operator elsewhere _).2.2, (counters_elsewhere operator elsewhere _).2.1]
    exact before.bonds operator

/-- The loop in `slash`: what leaves a balance is what the history says was slashed. -/
theorem slashedBy_counters (operator : Address) (small : serviceId < 2 ^ 32) {entries : List (Address × Uint96)}
    {s s' : RegistryState}
    (run : loop (ServiceRegistry.slashBody serviceId) entries s = .ok s') (before : Nat) :
    (slashedBy serviceId entries s).foldl (PaymentEvent.deposit serviceId) before = before ∧
    (slashedBy serviceId entries s).foldl (PaymentEvent.bonds operator serviceId) before =
      before ∧
    (sheet s' serviceId).balances operator +
        (slashedBy serviceId entries s).foldl (PaymentEvent.slashes operator serviceId) before =
      (sheet s serviceId).balances operator + before := by
  induction entries generalizing s before with
  | nil =>
    cases run
    exact ⟨rfl, rfl, rfl⟩
  | cons entry rest ih =>
    obtain ⟨next, ran, run⟩ := loop_cons_eq_ok.mp run
    simp only [slashedBy, ran, List.foldl_cons, PaymentEvent.deposit, PaymentEvent.bonds]
    obtain ⟨deposit, bonds, -⟩ := ih run before
    refine ⟨deposit, bonds, ?_⟩
    rw [(ih run _).2.2]
    simp only [ServiceRegistry.slashBody, bind_eq_ok, checkedAdd_eq_ok, pure_eq_ok] at ran
    obtain ⟨bumped, ⟨-, rfl⟩, total, ⟨-, rfl⟩, rfl⟩ := ran
    simp only [PaymentEvent.slashes, sheet, Nat.add_sub_cancel_left, and_true,
      update_operatorService (widen small) (widen small), true_and]
    by_cases same : s.mapAgentInstanceOperators entry.1 = operator
    · subst same
      rw [if_pos rfl, if_pos rfl]
      split <;> omega
    · rw [if_neg same, if_neg (Ne.symm same)]

theorem slashedBy_service (entries : List (Address × Uint96)) (s : RegistryState) :
    ∀ e ∈ slashedBy serviceId entries s, e.service = serviceId := by
  induction entries generalizing s with
  | nil =>
    intro e member
    cases member
  | cons entry rest ih =>
    intro e member
    simp only [slashedBy] at member
    split at member
    · next next ran =>
      rcases List.mem_cons.mp member with rfl | member
      · rfl
      · exact ih next e member
    · cases member

end Counters

/-- Payments are made into the service the call is addressed to. -/
theorem paymentsOf_service (call : RegistryCall) (w after : RegistryWorld) {e : PaymentEvent}
    (member : e ∈ paymentsOf call w after) : callService w.store call = some e.service := by
  cases call with
  | slash sender agentInstances amounts serviceId =>
    simp only [callService, slashedBy_service _ _ e member]
  | activateRegistration | registerAgents | unbond =>
    obtain rfl := List.mem_singleton.mp member
    rfl
  | _ => cases member

section Calls
variable {edition : Edition} {w : RegistryWorld} {history : List PaymentEvent}

/-- What a call does to the service it is addressed to. -/
theorem Accounted.target {call : RegistryCall} {out : Outcome RegistryWorld RegistryFrame}
    {target : Nat} (small : target < 2 ^ 32) (book : OperatorBook (sheet w.store target))
    (funded : Funded call) (taken : RegistryTransition edition w call out)
    (here : callService w.store call = some target)
    (before : Accounted (sheet w.store target) target history) :
    Accounted (sheet out.state.store target) target (history ++ paymentsOf call w out.state) := by
  obtain ⟨deposit, bonds⟩ := before
  cases taken with
  | create ran =>
    obtain ⟨-, rfl, rfl⟩ := ServiceRegistry.create_ok ran
    cases here
    rw [paymentsOf, List.append_nil]
    refine ⟨fun held => ?_, bonds⟩
    simp [sheet, ServiceState.holdsDeposit] at held
  | update ran =>
    obtain ⟨-, -, ⟨-, -, -, state, -⟩, -, rfl⟩ := ServiceRegistry.update_ok ran
    cases here
    rw [paymentsOf, List.append_nil]
    refine ⟨fun held => ?_, bonds⟩
    simp [sheet, state, ServiceState.holdsDeposit] at held
  | activateRegistration ran =>
    obtain ⟨⟨-, -, -, -, paid⟩, rfl⟩ := ServiceRegistry.activateRegistration_ok ran
    cases here
    refine ⟨fun _ => ?_, fun operator => ?_⟩
    · simp only [sheet, Outcome.state_done, Function.update_self, depositPaid, paymentsOf,
        List.foldl_append, List.foldl_cons, List.foldl_nil, PaymentEvent.deposit, if_true, ← paid]
    · rw [bondsSlashed, bondsPaid, List.foldl_append, List.foldl_append]
      exact bonds operator
  | @registerAgents _ value payer _ _ _ _ ran =>
    obtain ⟨-, ⟨-, -, state, -⟩, -, -⟩ := ServiceRegistry.registerAgents_ok ran
    obtain ⟨mid, -, rfl⟩ := ServiceRegistry.registerAgents_done ran
    cases here
    refine ⟨fun _ => ?_, fun operator => ?_⟩
    · rw [depositPaid, List.foldl_append]
      have held := deposit (by simp only [sheet, state]; rfl)
      simp only [sheet, Outcome.state_done, Function.update_self]
      exact held
    · have fits : value % 2 ^ 96 = value := Nat.mod_eq_of_lt funded
      have held := bonds operator
      simp only [bondsSlashed, bondsPaid, paymentsOf, List.foldl_append, List.foldl_cons,
        List.foldl_nil, PaymentEvent.bonds, PaymentEvent.slashes, and_true, sheet, fits,
        Outcome.state_done,
        update_operatorService (widen small) (widen small), true_and] at held ⊢
      by_cases same : payer = operator
      · subst same
        rw [if_pos rfl, if_pos rfl]
        omega
      · rw [if_neg same, if_neg (Ne.symm same)]
        exact held
  | deploy ran =>
    obtain ⟨-, -, rfl⟩ := ServiceRegistry.deploy_ok ran
    rw [paymentsOf, List.append_nil]
    exact ⟨deposit, bonds⟩
  | slash ran =>
    obtain ⟨-, run⟩ := ServiceRegistry.slash_ok ran
    cases here
    refine ⟨fun held => ?_, fun operator => ?_⟩
    · obtain ⟨slashed, balances, frame, -⟩ := ServiceRegistry.slashLoop_frame run
      rw [depositPaid, paymentsOf, List.foldl_append,
        (slashedBy_counters 0 small run _).1]
      rw [Outcome.state_done, frame] at held ⊢
      exact deposit held
    · obtain ⟨-, paid, -⟩ := slashedBy_counters operator small run
        (bondsPaid operator target history)
      obtain ⟨-, -, taken⟩ := slashedBy_counters operator small run
        (bondsSlashed operator target history)
      rw [bondsSlashed, bondsPaid, paymentsOf, List.foldl_append, List.foldl_append]
      have held := bonds operator
      simp only [bondsPaid, bondsSlashed] at paid taken held
      simp only [Outcome.state_done]
      omega
  | terminate ran =>
    obtain ⟨-, -, -, -, rfl⟩ := ServiceRegistry.terminate_ok ran
    cases here
    rw [paymentsOf, List.append_nil]
    refine ⟨fun held => ?_, bonds⟩
    simp only [sheet, Outcome.state_suspended, Function.update_self] at held
    split at held <;> cases held
  | @unbond _ leaving _ _ _ ran =>
    obtain ⟨instances, rfl, ⟨-, -, -, state, -⟩, paid, rfl⟩ := ServiceRegistry.unbond_ok ran
    cases here
    rw [sheet_refunding]
    refine ⟨fun held => ?_, fun operator => ?_⟩
    · simp only [sheet, Function.update_self, state] at held
      split at held <;> cases held
    · have cleared := book.cleared leaving
      have held := bonds operator
      simp only [bondsSlashed, bondsPaid, paymentsOf, List.foldl_append, List.foldl_cons,
        List.foldl_nil, PaymentEvent.bonds, PaymentEvent.slashes, and_true, sheet,
        update_operatorService (widen small) (widen small), true_and] at held ⊢
      by_cases same : leaving = operator
      · subst same
        rw [if_pos rfl, if_pos rfl, if_pos rfl, paid]
        exact cleared
      · rw [if_neg same, if_neg same, if_neg (Ne.symm same)]
        exact held
  | drain ran => cases here
  | administer kind _ _ => cases call <;> cases kind <;> cases here

theorem Accounted.enter {call : RegistryCall} {out : Outcome RegistryWorld RegistryFrame}
    {frames : List RegistryFrame} (ledger : RegistryLedger w frames)
    (after : out.state.store.totalSupply < 2 ^ 32) (funded : Funded call)
    (taken : RegistryTransition edition w call out) {serviceId : Nat} (small : serviceId < 2 ^ 32)
    (before : Accounted (sheet w.store serviceId) serviceId history) :
    Accounted (sheet out.state.store serviceId) serviceId
      (history ++ paymentsOf call w out.state) := by
  by_cases here : callService w.store call = some serviceId
  · exact before.target small (ledger.2 serviceId small) funded taken here
  · have same : sheet out.state.store serviceId = sheet w.store serviceId :=
      sheet_elsewhere (enter_moves ledger.1.1 ledger.1.2 after taken) small fun _ label =>
        here (callAction_service label)
    rw [same]
    refine before.elsewhere fun e member touched => here ?_
    rw [paymentsOf_service call w out.state member, touched]

theorem Accounted.resume {frame : RegistryFrame} {answer : RegistryAnswer}
    {out : Outcome RegistryWorld RegistryFrame} {frames : List RegistryFrame}
    (shape : RegistryShape w.store (frame :: frames))
    (ran : w.resume edition frame answer = .ok out) {serviceId : Nat}
    (before : Accounted (sheet w.store serviceId) serviceId history) :
    Accounted (sheet out.state.store serviceId) serviceId history := by
  cases RegistryWorld.resume_return ran with
  | create | refund => exact before
  | deploy target =>
    cases shape.lock with
    | deploying _ state =>
      refine ⟨fun held => ?_, before.bonds⟩
      simp only [sheet, Outcome.state_done, ServiceRegistry.deployReturn,
        ServiceRegistry.unlock, Function.update_apply] at held ⊢
      split
      · next same =>
        subst same
        exact before.deposit (by simp only [sheet, state]; rfl)
      · next different =>
        rw [if_neg different] at held
        exact before.deposit held

end Calls

/-- The history of every run accounts for the records of every service. -/
theorem accounted_preserved {edition : Edition}
    {D : Discipline RegistryWorld RegistryCall RegistryFrame RegistryAnswer}
    (bounded : ∀ call w, D.call call w → Bounded call w)
    (funded : ∀ call w, D.call call w → Funded call) :
    Preserved (paymentMachine edition) D.logged (fun w frames => RegistryLedger w.1 frames)
      fun w _ => ∀ serviceId < 2 ^ 32, Accounted (sheet w.1.store serviceId) serviceId w.2 := by
  intro w frames w' frames' taken ledger before serviceId small
  obtain ⟨-, noted⟩ := logged_cases taken
  rcases noted with ⟨call, out, allowed, ran, state, history⟩ |
    ⟨frame, rest, answer, out, rfl, ran, state, history⟩
  · have kind := RegistryWorld.enter_transition ledger.1.1.registered.guarded ran
    have after := enter_supply kind (bounded call _ allowed) ledger.1.2
    rw [state, history]
    exact (before serviceId small).enter ledger after (funded call _ allowed) kind small
  · rw [state, history]
    exact (before serviceId small).resume ledger.1.1 ran

theorem accounted_deployment (deployer : Address) (serviceId : Nat) :
    Accounted (sheet (RegistryWorld.deployment deployer).store serviceId) serviceId [] := by
  refine ⟨fun held => ?_, fun _ => rfl⟩
  cases held

end AutonolasRegistries.Guarantees
