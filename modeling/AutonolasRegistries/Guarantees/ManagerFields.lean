import AutonolasRegistries.Source.ManagerMoves

/-!
# What a call writes of the manager

Besides its lock and its bindings the manager writes little: a nonce when it accepts a
signature, an approved hash, and what its owner sets. `written` says it call by call, and
the lemma at the end that nothing else changes, whatever the functions go through.
-/
namespace AutonolasRegistries.Guarantees
open Library Source

/-- What a call writes besides the lock and the bindings. -/
def written (call : SystemCall) (m : ManagerState) : ManagerState :=
  match call with
  | .manager (.unbondWithSignature _ _ operator serviceId _) =>
    let key := operatorService operator serviceId
    { m with
      mapOperatorUnbondNonces := Function.update m.mapOperatorUnbondNonces key
        (m.mapOperatorUnbondNonces key + 1) }
  | .manager (.registerAgentsWithSignature _ _ _ _ operator serviceId _ _ _) =>
    let key := operatorService operator serviceId
    { m with
      mapOperatorRegisterAgentsNonces := Function.update m.mapOperatorRegisterAgentsNonces key
        (m.mapOperatorRegisterAgentsNonces key + 1) }
  | .manager (.operatorApproveHash sender hash) =>
    { m with
      mapOperatorApprovedHashes := Function.update m.mapOperatorApprovedHashes sender
        (Function.update (m.mapOperatorApprovedHashes sender) hash true) }
  | .manager (.initializeStorage sender) => { m with owner := sender }
  | .manager (.setOperatorWhitelist _ operatorWhitelist) => { m with operatorWhitelist }
  | .manager (.setIdentityRegistryBridger _ identityRegistryBridger) =>
    { m with identityRegistryBridger }
  | .manager (.changeOwner _ owner) => { m with owner }
  | .manager (.pause _) => { m with paused := true }
  | .manager (.unpause _) => { m with paused := false }
  | _ => m

section Views
variable {α : Type} {view : ManagerState → α} {value : α} {setup : Setup}

/-- What is read of the manager besides its lock and its bindings. -/
structure Steady (view : ManagerState → α) : Prop where
  locked : ∀ m locked, view { m with locked } = view m
  bindings : ∀ m mapMultisigServiceIds, view { m with mapMultisigServiceIds } = view m

/-- Where the code goes through, the manager shows the value. -/
def Shows (view : ManagerState → α) (value : α) (run : SystemRun) : Prop :=
  ∀ out, run = .ok out → view out.state.manager = value

theorem shows_done {out : Outcome SystemWorld SystemFrame}
    (same : view out.state.manager = value) : Shows view value (.ok out) := by
  intro out' ran
  cases ran
  exact same

theorem shows_bind {β : Type} {first : Except Revert β} {next : β → SystemRun}
    (after : ∀ result, first = .ok result → Shows view value (next result)) :
    Shows view value (first >>= next) := by
  intro out ran
  obtain ⟨result, began, ran⟩ := bind_eq_ok.mp ran
  exact after result began out ran

theorem shows_ite {condition : Prop} [Decidable condition] {yes no : SystemRun}
    (left : Shows view value yes) (right : Shows view value no) :
    Shows view value (if condition then yes else no) := by
  split
  · exact left
  · exact right

theorem shows_afterRegistry {w : SystemWorld} (same : view w.manager = value)
    {run : Except Revert (Outcome RegistryWorld RegistryFrame)}
    {wait : RegistryFrame → SystemFrame} {next : SystemWorld → SystemRun}
    (after : ∀ r, Shows view value (next (w.withRegistry r))) :
    Shows view value (w.afterRegistry run wait next) := by
  intro out ran
  rcases SystemWorld.afterRegistry_eq_ok.mp ran with ⟨r, -, ran⟩ | ⟨r, frame, -, rfl⟩
  · exact after r out ran
  · exact same

theorem shows_afterUtility {w : SystemWorld} (same : view w.manager = value)
    {run : Except Revert (Outcome UtilityWorld UtilityFrame)}
    {wait : UtilityFrame → SystemFrame} {next : SystemWorld → SystemRun}
    (after : ∀ u, Shows view value (next (w.withUtility u))) :
    Shows view value (w.afterUtility run wait next) := by
  intro out ran
  rcases SystemWorld.afterUtility_eq_ok.mp ran with ⟨u, -, ran⟩ | ⟨u, frame, -, rfl⟩
  · exact after u out ran
  · exact same

theorem shows_administer (sender : Address) {m : ManagerState} {w : SystemWorld}
    (same : view m = value) : Shows view value (ServiceManager.administer sender m w) :=
  shows_bind fun _ _ => shows_done same

section Functions
variable (steady : Steady view) {w : SystemWorld} (same : view w.manager = value)
include steady same

theorem shows_finish (returned : Nat) :
    Shows view value (.ok (ServiceManager.finish returned w)) :=
  shows_done ((steady.locked w.manager 1).trans same)

omit steady same in
theorem shows_lock {next : SystemWorld → SystemRun}
    (after : Shows view value (next (w.withManager { w.manager with locked := 2 }))) :
    Shows view value (ServiceManager.lock w >>= next) := by
  refine shows_bind fun w' locked => ?_
  obtain ⟨-, rfl⟩ := lock_eq_ok.mp locked
  exact after

/-- The start of a function that writes nothing of its own. -/
theorem shows_locked {next : SystemWorld → SystemRun}
    (after : ∀ w' : SystemWorld, view w'.manager = value → Shows view value (next w')) :
    Shows view value (ServiceManager.lock w >>= next) :=
  shows_lock (after _ ((steady.locked w.manager 2).trans same))

omit steady in
theorem shows_pay {amount : Nat} {next : SystemWorld → SystemRun}
    (after : ∀ w' : SystemWorld, view w'.manager = value → Shows view value (next w')) :
    Shows view value (ServiceManager.pay amount w >>= next) := by
  refine shows_bind fun w' paid => after w' ?_
  obtain ⟨-, rfl⟩ := pay_eq_ok.mp paid
  exact same

theorem shows_createReturn (serviceId : Nat) :
    Shows view value (ServiceManager.createReturn serviceId w) :=
  shows_ite (shows_done same) (shows_finish steady same serviceId)

theorem shows_createInRegistry (call : RegistryCall) (serviceId : Nat) :
    Shows view value (ServiceManager.createInRegistry setup call serviceId w) :=
  shows_afterRegistry same fun _ => shows_createReturn steady (by exact same) serviceId

theorem shows_activateInRegistry (sender : Address) (amount serviceId : Nat)
    (isTokenSecured : Bool) :
    Shows view value (ServiceManager.activateInRegistry setup sender amount serviceId
      isTokenSecured w) :=
  shows_bind fun _ _ => shows_pay same fun _ same =>
    shows_afterRegistry same fun _ => shows_finish steady (by exact same) 1

theorem shows_registerInRegistry (signed : Bool) (amount : Nat) (operator : Address)
    (serviceId : Nat) (agentInstances : List Address) (agentIds : List Uint32)
    (isTokenSecured : Bool) :
    Shows view value (ServiceManager.registerInRegistry setup signed amount operator serviceId
      agentInstances agentIds isTokenSecured w) :=
  shows_bind fun _ _ => shows_pay same fun _ same =>
    shows_afterRegistry same fun _ => shows_finish steady (by exact same) 1

theorem shows_registerWithTokens (signed : Bool) (amount : Nat) (views : TokenViews)
    (operator : Address) (serviceId : Nat) (agentInstances : List Address)
    (agentIds : List Uint32) :
    Shows view value (ServiceManager.registerWithTokens setup signed amount views operator
      serviceId agentInstances agentIds w) :=
  shows_afterUtility same fun _ => shows_registerInRegistry steady (by exact same) _ _ _ _ _ _ _

theorem shows_refundInRegistry (call : RegistryCall) (tokenRefund : Nat) :
    Shows view value (ServiceManager.refundInRegistry setup call tokenRefund w) :=
  shows_bind fun _ _ => shows_afterRegistry same fun _ => shows_finish steady (by exact same) _

theorem shows_unbondWithTokens (operator : Address) (serviceId : Nat) :
    Shows view value (ServiceManager.unbondWithTokens setup operator serviceId w) :=
  shows_afterUtility same fun _ => shows_refundInRegistry steady (by exact same) _ _

theorem shows_deployReturn (serviceId : Nat) (lastMultisig multisig : Address) :
    Shows view value (ServiceManager.deployReturn serviceId lastMultisig multisig w) := by
  refine shows_bind fun _ _ => shows_bind fun _ _ => ?_
  have bound := (steady.bindings w.manager (ServiceManager.bind serviceId lastMultisig multisig
    w.manager.mapMultisigServiceIds)).trans same
  exact shows_ite (shows_done bound) (shows_finish steady (by exact bound) _)

theorem shows_resume (frame : SystemFrame) (answer : SystemAnswer) :
    Shows view value (w.resume setup frame answer) := by
  cases frame with
  | registry frame =>
    refine shows_bind fun out _ => shows_done ?_
    rw [Outcome.state_embed]
    exact same
  | utility frame => exact shows_bind fun _ _ => shows_done same
  | create serviceId frame =>
    exact shows_afterRegistry same fun _ => shows_createReturn steady (by exact same) _
  | deploy serviceId last frame =>
    exact shows_afterRegistry same fun _ => shows_deployReturn steady (by exact same) _ _ _
  | refund returned frame =>
    rw [SystemWorld.resume]
    exact shows_afterRegistry same fun _ => shows_finish steady (by exact same) returned
  | activate sender amount serviceId frame =>
    exact shows_bind fun _ _ => shows_activateInRegistry steady (by exact same) _ _ _ _
  | register signed amount operator serviceId agentInstances agentIds frame =>
    exact shows_bind fun _ _ => shows_registerInRegistry steady (by exact same) _ _ _ _ _ _ _
  | terminate sender serviceId frame =>
    exact shows_bind fun _ _ => shows_refundInRegistry steady (by exact same) _ _
  | unbond operator serviceId frame =>
    exact shows_bind fun _ _ => shows_refundInRegistry steady (by exact same) _ _
  | bridger returned => exact shows_finish steady same _

end Functions

/-- A call writes what `written` says. -/
theorem shows_enter (steady : Steady view) (w : SystemWorld) (call : SystemCall) :
    Shows view (view (written call w.manager)) (w.enter setup call) := by
  cases call with
  | registry call =>
    refine shows_bind fun out _ => shows_done ?_
    rw [Outcome.state_embed]
    rfl
  | utility call =>
    refine shows_bind fun out _ => shows_done ?_
    rw [Outcome.state_embed]
    rfl
  | manager call =>
    cases call with
    | create =>
      refine shows_locked steady rfl fun _ same => shows_bind fun _ _ => shows_bind fun _ _ => ?_
      refine shows_ite (shows_bind fun _ _ => shows_createInRegistry steady same _ _) ?_
      exact shows_bind fun _ _ => shows_bind fun _ _ =>
        shows_afterUtility same fun _ => shows_createInRegistry steady (by exact same) _ _
    | update =>
      refine shows_locked steady rfl fun _ same => shows_bind fun _ _ => shows_bind fun _ _ => ?_
      refine shows_ite ?_ ?_
      · exact shows_afterRegistry same fun _ =>
          shows_afterUtility (by exact same) fun _ => shows_finish steady (by exact same) 1
      · exact shows_afterUtility same fun _ =>
          shows_afterRegistry (by exact same) fun _ => shows_finish steady (by exact same) 1
    | activateRegistration =>
      exact shows_locked steady rfl fun _ same => shows_afterUtility same fun _ =>
        shows_activateInRegistry steady (by exact same) _ _ _ _
    | registerAgents =>
      exact shows_locked steady rfl fun _ same => shows_bind fun _ _ =>
        shows_registerWithTokens steady same _ _ _ _ _ _ _
    | deploy =>
      exact shows_locked steady rfl fun _ same => shows_afterRegistry same fun _ =>
        shows_finish steady (by exact same) 0
    | bindMultisig =>
      refine shows_locked steady rfl fun w' same => shows_finish steady ?_ 0
      exact (steady.bindings w'.manager _).trans same
    | terminate =>
      exact shows_locked steady rfl fun _ same => shows_afterUtility same fun _ =>
        shows_refundInRegistry steady (by exact same) _ _
    | unbond =>
      exact shows_locked steady rfl fun _ same => shows_unbondWithTokens steady same _ _
    | unbondWithSignature sender signing operator serviceId signature =>
      -- The nonce is written under the lock.
      refine shows_bind fun w' locked => shows_bind fun _ _ => shows_bind fun _ _ =>
        shows_bind fun _ _ => shows_bind fun next counted =>
          shows_unbondWithTokens steady ?_ _ _
      obtain ⟨-, rfl⟩ := lock_eq_ok.mp locked
      obtain ⟨-, rfl⟩ := checkedAdd_eq_ok.mp counted
      exact steady.locked (written (.manager
        (.unbondWithSignature sender signing operator serviceId signature)) w.manager) 2
    | registerAgentsWithSignature sender amount signing views operator serviceId agentInstances
        agentIds signature =>
      refine shows_bind fun w' locked => shows_bind fun _ _ => shows_bind fun _ _ =>
        shows_bind fun _ _ => shows_bind fun next counted =>
          shows_registerWithTokens steady ?_ _ _ _ _ _ _ _
      obtain ⟨-, rfl⟩ := lock_eq_ok.mp locked
      obtain ⟨-, rfl⟩ := checkedAdd_eq_ok.mp counted
      exact steady.locked (written (.manager
        (.registerAgentsWithSignature sender amount signing views operator serviceId agentInstances
          agentIds signature)) w.manager) 2
    | operatorApproveHash | forcedEther => exact shows_done rfl
    | initializeStorage => exact shows_bind fun _ _ => shows_done rfl
    | setOperatorWhitelist | setIdentityRegistryBridger | pause | unpause =>
      exact shows_administer _ rfl
    | changeOwner => exact shows_bind fun _ _ => shows_bind fun _ _ => shows_done rfl

end Views
end AutonolasRegistries.Guarantees
