import AutonolasRegistries.Library.CallPieces
import AutonolasRegistries.Guarantees.MultisigBinding

/-!
# ETH passes through the manager

The manager has four payable paths. Three of them hand the whole `msg.value` on to the
registry; `registerAgentsWithSignature` of a service secured by a token hands on one wei per
instance and does not compare that with what it was sent, `ServiceManager.sol:666-676`.
-/
namespace AutonolasRegistries.Guarantees
open Library Source

/-- The ETH a call of the manager brings along; nothing for the functions that are not
payable. ETH forced upon the manager is no call of one of its functions. -/
def msgValue : ManagerCall → Option Nat
  | .activateRegistration _ value .. | .registerAgents _ value ..
  | .registerAgentsWithSignature _ value .. => some value
  | .forcedEther .. => none
  | .create .. | .update .. | .deploy .. | .bindMultisig .. | .terminate .. | .unbond ..
  | .unbondWithSignature .. | .operatorApproveHash .. | .initializeStorage ..
  | .setOperatorWhitelist .. | .setIdentityRegistryBridger .. | .changeOwner .. | .pause ..
  | .unpause .. => some 0

/-- A signed registration for a service secured by a token comes with one wei for each
instance. -/
def PaysPerInstance (call : ManagerCall) (w : SystemWorld) : Prop :=
  match call with
  | .registerAgentsWithSignature _ value _ _ _ serviceId agentInstances _ _ =>
    (w.utility.store.mapServiceIdTokenDeposit serviceId).token ≠ 0 →
      value = agentInstances.val.length
  | _ => True

/-- Over its pieces a call brought the registry `value` and left the manager's ETH as it
was. -/
structure PassesOn (value : Nat) (pieces : List (SystemWorld × SystemWorld)) : Prop where
  forwarded : sumAfter (·.registry.received) pieces =
    sumBefore (·.registry.received) pieces + value
  kept : sumAfter (·.ether) pieces = sumBefore (·.ether) pieces

/-- One piece: `came` was sent to the manager, which sent `sent` to the registry. -/
structure Sends (w w' : SystemWorld) (came sent : Nat) : Prop where
  received : w'.registry.received = w.registry.received + sent
  ether : w'.ether + sent = w.ether + came

/-- What a suspended call still has to send. -/
def toSend : SystemFrame → Nat
  | .activate .. => ServiceManager.bondWrapper.val
  | .register _ _ _ _ agentInstances _ _ => agentInstances.length
  | _ => 0

/-- The check that a suspended call makes of its `msg.value` before it sends. -/
def Checks : SystemFrame → Prop
  | .activate _ value _ _ => value = ServiceManager.bondWrapper.val
  | .register false value _ _ agentInstances _ _ => value = agentInstances.length
  | _ => True

/-- Neither ETH nor a call that will send some. -/
structure Quiet (w : SystemWorld) (out : Outcome SystemWorld SystemFrame) : Prop where
  sends : Sends w out.state 0 0
  later : ∀ frame ∈ out.pending, toSend frame = 0

section Pieces
variable {setup : Setup} {w : SystemWorld} {out : Outcome SystemWorld SystemFrame}
open ServiceManager

/-- The ETH the payable functions of the registry are sent. -/
theorem enter_received {edition : Edition} {r : RegistryWorld} {call : RegistryCall}
    {out : Outcome RegistryWorld RegistryFrame} (ran : r.enter edition call = .ok out)
    (unpaid : ∀ sender value, (∀ owner id, call ≠ .activateRegistration sender value owner id) ∧
      ∀ operator id instances ids, call ≠ .registerAgents sender value operator id instances ids) :
    out.state.received = r.received := by
  cases call with
  | activateRegistration sender value => exact absurd rfl ((unpaid sender value).1 _ _)
  | registerAgents sender value => exact absurd rfl ((unpaid sender value).2 _ _ _ _)
  | create =>
    obtain ⟨_, _, -, rfl⟩ := registry_create ran
    rfl
  | deploy =>
    obtain ⟨_, _, -, rfl⟩ := registry_deploy ran
    rfl
  | terminate =>
    obtain ⟨_, _, -, rfl⟩ := registry_terminate ran
    rfl
  | unbond =>
    obtain ⟨_, refund, -, rfl⟩ := registry_unbond ran
    rw [RegistryWorld.refunding]
    split <;> rfl
  | drain =>
    simp only [RegistryWorld.enter, bind_eq_ok, pure_eq_ok, Prod.exists] at ran
    obtain ⟨_, amount, -, rfl⟩ := ran
    rw [RegistryWorld.refunding]
    split <;> rfl
  | setApprovalForAll =>
    cases ran
    rfl
  | update | slash | changeOwner | changeManager | changeDrainer | changeMultisigPermission
  | approve | transferFrom =>
    obtain ⟨_, -, rfl⟩ := RegistryWorld.finish_eq_ok.mp ran
    rfl

theorem resume_received {edition : Edition} {r : RegistryWorld} {frame : RegistryFrame}
    {answer : RegistryAnswer} {out : Outcome RegistryWorld RegistryFrame}
    (ran : r.resume edition frame answer = .ok out) : out.state.received = r.received := by
  cases RegistryWorld.resume_return ran <;> rfl

namespace Quiet

theorem of_eq {w' : SystemWorld} (same : Quiet w' out)
    (received : w'.registry.received = w.registry.received) (ether : w'.ether = w.ether) :
    Quiet w out :=
  ⟨⟨same.sends.received.trans (by rw [received]), same.sends.ether.trans (by rw [ether])⟩,
    same.later⟩

theorem finish {returned : Nat} : Quiet w (ServiceManager.finish returned w) :=
  ⟨⟨rfl, rfl⟩, by simp [ServiceManager.finish]⟩

/-- Around a function of the registry that is not payable, -/
theorem afterRegistry {run : Except Revert (Outcome RegistryWorld RegistryFrame)}
    {wait : RegistryFrame → SystemFrame} {next : SystemWorld → SystemRun}
    (ran : w.afterRegistry run wait next = .ok out)
    (called : ∀ out, run = .ok out → out.state.received = w.registry.received)
    (waits : ∀ frame, toSend (wait frame) = 0)
    (rest : ∀ w out, next w = .ok out → Quiet w out) : Quiet w out := by
  rcases SystemWorld.afterRegistry_eq_ok.mp ran with ⟨r, done, ran⟩ | ⟨r, frame, done, rfl⟩
  · exact (rest _ _ ran).of_eq (called _ done) rfl
  · refine ⟨⟨called _ done, rfl⟩, ?_⟩
    simpa using waits frame

/-- and around one of the token utility. -/
theorem afterUtility {run : Except Revert (Outcome UtilityWorld UtilityFrame)}
    {wait : UtilityFrame → SystemFrame} {next : SystemWorld → SystemRun}
    (ran : w.afterUtility run wait next = .ok out) (waits : ∀ frame, toSend (wait frame) = 0)
    (rest : ∀ w out, next w = .ok out → Quiet w out) : Quiet w out := by
  rcases SystemWorld.afterUtility_eq_ok.mp ran with ⟨u, -, ran⟩ | ⟨u, frame, -, rfl⟩
  · exact (rest _ _ ran).of_eq rfl rfl
  · refine ⟨⟨rfl, rfl⟩, ?_⟩
    simpa using waits frame

theorem finished {returned : Nat} (w : SystemWorld) (out : Outcome SystemWorld SystemFrame)
    (ran : (.ok (ServiceManager.finish returned w) : SystemRun) = .ok out) : Quiet w out := by
  cases ran
  exact .finish

theorem createReturn {serviceId : Nat} (w : SystemWorld) (out : Outcome SystemWorld SystemFrame)
    (ran : ServiceManager.createReturn serviceId w = .ok out) : Quiet w out := by
  simp only [ServiceManager.createReturn] at ran
  split at ran <;> cases ran
  · exact ⟨⟨rfl, rfl⟩, by simp [toSend]⟩
  · exact .finish

theorem deployReturn {serviceId : Nat} {lastMultisig multisig : Address} (w : SystemWorld)
    (out : Outcome SystemWorld SystemFrame)
    (ran : ServiceManager.deployReturn serviceId lastMultisig multisig w = .ok out) :
    Quiet w out := by
  simp only [ServiceManager.deployReturn, bind_eq_ok, revertIf_eq_ok, exists_const] at ran
  obtain ⟨-, -, ran⟩ := ran
  split at ran <;> cases ran
  · exact ⟨⟨rfl, rfl⟩, by simp [toSend]⟩
  · exact ⟨⟨rfl, rfl⟩, by simp [ServiceManager.finish]⟩

theorem createInRegistry {sender : Caller} {serviceOwner : Address} {agentTotalSupply : Nat}
    {configHash : Bytes32} {agentIds : List Uint32} {agentParams : List AgentParams}
    {threshold : Uint32} {serviceId : Nat} (w : SystemWorld)
    (out : Outcome SystemWorld SystemFrame)
    (ran : ServiceManager.createInRegistry setup (.create sender serviceOwner agentTotalSupply
      configHash agentIds agentParams threshold) serviceId w = .ok out) : Quiet w out :=
  afterRegistry ran (fun _ done => enter_received done (by simp)) (fun _ => rfl) createReturn

theorem terminateInRegistry {sender : Address} {serviceId tokenRefund : Nat} (w : SystemWorld)
    (out : Outcome SystemWorld SystemFrame)
    (ran : ServiceManager.terminateInRegistry setup sender serviceId tokenRefund w = .ok out) :
    Quiet w out := by
  simp only [ServiceManager.terminateInRegistry, refundInRegistry, bind_eq_ok] at ran
  obtain ⟨_, -, ran⟩ := ran
  exact afterRegistry ran (fun _ done => enter_received done (by simp)) (fun _ => rfl) finished

theorem unbondInRegistry {operator : Address} {serviceId tokenRefund : Nat} (w : SystemWorld)
    (out : Outcome SystemWorld SystemFrame)
    (ran : ServiceManager.unbondInRegistry setup operator serviceId tokenRefund w = .ok out) :
    Quiet w out := by
  simp only [ServiceManager.unbondInRegistry, refundInRegistry, bind_eq_ok] at ran
  obtain ⟨_, -, ran⟩ := ran
  exact afterRegistry ran (fun _ done => enter_received done (by simp)) (fun _ => rfl) finished

theorem unbondWithTokens {operator : Address} {serviceId : Nat}
    (ran : ServiceManager.unbondWithTokens setup operator serviceId w = .ok out) : Quiet w out :=
  afterUtility ran (fun _ => rfl) unbondInRegistry

theorem create {tokenAccepted : Bool} {agentTotalSupply : Nat} {serviceOwner token : Address}
    {configHash : Bytes32} {agentIds : List Uint32} {agentParams : List AgentParams}
    {threshold : Uint32}
    (ran : ServiceManager.create setup tokenAccepted agentTotalSupply serviceOwner token
      configHash agentIds agentParams threshold w = .ok out) : Quiet w out := by
  simp only [ServiceManager.create, bind_eq_ok, lock_eq_ok, revertIf_eq_ok, exists_const] at ran
  obtain ⟨locked, ⟨-, rfl⟩, -, -, ran⟩ := ran
  split at ran
  · simp only [bind_eq_ok] at ran
    obtain ⟨_, -, ran⟩ := ran
    exact (createInRegistry _ _ ran).of_eq rfl rfl
  · simp only [bind_eq_ok, revertIf_eq_ok, exists_const] at ran
    obtain ⟨-, _, -, ran⟩ := ran
    exact (afterUtility ran (fun _ => rfl) createInRegistry).of_eq rfl rfl

theorem update {sender : Address} {tokenAccepted : Bool} {agentTotalSupply : Nat}
    {token : Address} {configHash : Bytes32} {agentIds : List Uint32}
    {agentParams : List AgentParams} {threshold : Uint32} {serviceId : Nat}
    (ran : ServiceManager.update setup sender tokenAccepted agentTotalSupply token configHash
      agentIds agentParams threshold serviceId w = .ok out) : Quiet w out := by
  simp only [ServiceManager.update, bind_eq_ok, lock_eq_ok, revertIf_eq_ok, exists_const] at ran
  obtain ⟨locked, ⟨-, rfl⟩, -, -, ran⟩ := ran
  split at ran
  · refine (afterRegistry ran (fun _ done => enter_received done (by simp)) (fun _ => rfl)
      fun _ _ ran => ?_).of_eq rfl rfl
    exact afterUtility ran (fun _ => rfl) finished
  · refine (afterUtility ran (fun _ => rfl) fun _ _ ran => ?_).of_eq rfl rfl
    exact afterRegistry ran (fun _ done => enter_received done (by simp)) (fun _ => rfl) finished

theorem administer {sender : Address} {m : ManagerState}
    (ran : ServiceManager.administer sender m w = .ok out) : Quiet w out := by
  simp only [ServiceManager.administer, bind_eq_ok, revertIf_eq_ok, exists_const, pure_eq_ok]
    at ran
  obtain ⟨-, rfl⟩ := ran
  exact ⟨⟨rfl, rfl⟩, by simp⟩

end Quiet

theorem activateInRegistry_sends {sender : Address} {value serviceId : Nat}
    {isTokenSecured : Bool}
    (ran : activateInRegistry setup sender value serviceId isTokenSecured w = .ok out) :
    out.pending = [] ∧ Sends w out.state 0 value ∧
      (isTokenSecured = true → value = bondWrapper.val) := by
  simp only [activateInRegistry, bind_eq_ok, revertIf_eq_ok, exists_const, pay_eq_ok, not_and,
    ne_eq, not_not] at ran
  obtain ⟨checked, _, ⟨enough, rfl⟩, ran⟩ := ran
  obtain ⟨s, -, ran⟩ := SystemWorld.afterRegistry_finish ran
  cases ran
  have amount : (if isTokenSecured = true then bondWrapper.val else value) = value := by
    split
    · next secured => exact (checked secured).symm
    · rfl
  rw [amount] at enough ⊢
  exact ⟨rfl, ⟨rfl, Nat.sub_add_cancel enough⟩, checked⟩

theorem registerInRegistry_sends {signed : Bool} {value : Nat} {operator : Address}
    {serviceId : Nat} {agentInstances : List Address} {agentIds : List Uint32}
    {isTokenSecured : Bool}
    (ran : registerInRegistry setup signed value operator serviceId agentInstances agentIds
      isTokenSecured w = .ok out) :
    out.pending = [] ∧
      Sends w out.state 0 (if isTokenSecured = true then agentInstances.length else value) ∧
      (isTokenSecured = true → signed = false → value = agentInstances.length) := by
  simp only [registerInRegistry, bind_eq_ok, revertIf_eq_ok, exists_const, pay_eq_ok, not_and,
    ne_eq, not_not] at ran
  obtain ⟨checked, _, ⟨enough, rfl⟩, ran⟩ := ran
  obtain ⟨s, -, ran⟩ := SystemWorld.afterRegistry_finish ran
  cases ran
  have each : agentInstances.length * bondWrapper.val = agentInstances.length := Nat.mul_one _
  rw [each] at checked enough ⊢
  exact ⟨rfl, ⟨rfl, Nat.sub_add_cancel enough⟩, checked⟩

/-- What a call of the manager did up to its return or its first external call: either it
passed everything on, or the call it waits in will. -/
inductive Enters (call : ManagerCall) (w : SystemWorld) (value : Nat)
    (out : Outcome SystemWorld SystemFrame) : Prop where
  | sent (sends : Sends w out.state value value) (later : ∀ frame ∈ out.pending, toSend frame = 0)
      (pays : PaysPerInstance call w)
  | waits (frame : SystemFrame) (pending : out.pending = [frame])
      (sends : Sends w out.state value 0)
      (pays : Checks frame → (PaysPerInstance call w ↔ value = toSend frame))

theorem Quiet.enters {call : ManagerCall} (quiet : Quiet w out) (pays : PaysPerInstance call w) :
    Enters call w 0 out :=
  .sent quiet.sends quiet.later pays

theorem activateRegistration_enters {sender : Caller} {value serviceId : Nat}
    {views : TokenViews}
    (ran : activateRegistration setup sender value views serviceId w = .ok out) :
    Enters (.activateRegistration sender value views serviceId) w value out := by
  simp only [activateRegistration, bind_eq_ok, lock_eq_ok] at ran
  obtain ⟨_, ⟨-, rfl⟩, ran⟩ := ran
  rcases SystemWorld.afterUtility_pulling ran with ⟨u, -, ran⟩ | ⟨u, pull, -, rfl⟩
  · obtain ⟨pending, sends, -⟩ := activateInRegistry_sends ran
    refine .sent ⟨sends.received, sends.ether⟩ ?_ trivial
    simp [pending]
  · exact .waits _ rfl ⟨rfl, rfl⟩ fun checked => iff_of_true trivial checked

/-- The two registration functions, from where they are the same. -/
theorem registerWithTokens_enters {call : ManagerCall} {signed : Bool} {value : Nat}
    {views : TokenViews} {operator : Address} {serviceId : Nat} {agentInstances : List Address}
    {agentIds : List Uint32} {w₀ : SystemWorld}
    (ran : registerWithTokens setup signed value views operator serviceId agentInstances agentIds
      w = .ok out) (received : w.registry.received = w₀.registry.received)
    (ether : w.ether = w₀.ether + value)
    (unsecured : (w.utility.store.mapServiceIdTokenDeposit serviceId).token = 0 →
      PaysPerInstance call w₀)
    (secured : (w.utility.store.mapServiceIdTokenDeposit serviceId).token ≠ 0 →
      (signed = false → value = agentInstances.length) →
      (PaysPerInstance call w₀ ↔ value = agentInstances.length)) :
    Enters call w₀ value out := by
  rcases SystemWorld.afterUtility_pulling ran with ⟨u, called, ran⟩ | ⟨u, pull, called, rfl⟩
  · obtain ⟨-, -, ⟨ether', -⟩ | ⟨_, -, wrong, -⟩⟩ :=
      ServiceRegistryTokenUtility.registerAgentsTokenDeposit_ok called
    · obtain ⟨pending, sends, -⟩ := registerInRegistry_sends ran
      refine .sent ⟨sends.received.trans (congrArg (· + _) received),
        sends.ether.trans ether⟩ ?_ (unsecured ether')
      simp [pending]
    · cases wrong
  · obtain ⟨-, -, ⟨-, wrong, -⟩ | ⟨_, token, -⟩⟩ :=
      ServiceRegistryTokenUtility.registerAgentsTokenDeposit_ok called
    · cases wrong
    · refine .waits _ rfl ⟨received, ether⟩ fun checked => secured token fun unsigned => ?_
      subst unsigned
      exact checked

theorem enter_sends {call : ManagerCall} {value : Nat} (payable : msgValue call = some value)
    (ran : ServiceManager.enter setup call w = .ok out) : Enters call w value out := by
  cases call with
  | forcedEther => cases payable
  | activateRegistration =>
    cases payable
    exact activateRegistration_enters ran
  | registerAgents =>
    cases payable
    simp only [ServiceManager.enter, registerAgents, bind_eq_ok, lock_eq_ok, revertIf_eq_ok,
      exists_const] at ran
    obtain ⟨_, ⟨-, rfl⟩, -, ran⟩ := ran
    exact registerWithTokens_enters ran rfl rfl (fun _ => trivial)
      fun _ checked => iff_of_true trivial (checked rfl)
  | registerAgentsWithSignature =>
    cases payable
    simp only [ServiceManager.enter, registerAgentsWithSignature, bind_eq_ok, lock_eq_ok,
      revertIf_eq_ok, exists_const, checkedAdd_eq_ok] at ran
    obtain ⟨_, ⟨-, rfl⟩, _, -, -, _, -, _, -, ran⟩ := ran
    exact registerWithTokens_enters ran rfl rfl (fun none token => absurd none token)
      fun token _ => ⟨fun pays => pays token, fun paid _ => paid⟩
  | create =>
    cases payable
    exact (Quiet.create ran).enters trivial
  | update =>
    cases payable
    exact (Quiet.update ran).enters trivial
  | deploy =>
    cases payable
    simp only [ServiceManager.enter, deploy, bind_eq_ok, lock_eq_ok] at ran
    obtain ⟨_, ⟨-, rfl⟩, ran⟩ := ran
    have quiet := Quiet.afterRegistry ran (fun _ done => enter_received done (by simp))
      (fun _ => rfl) Quiet.finished
    have here : Quiet w out := quiet.of_eq rfl rfl
    exact here.enters trivial
  | bindMultisig =>
    cases payable
    simp only [ServiceManager.enter, bindMultisig, bind_eq_ok, lock_eq_ok, pure_eq_ok] at ran
    obtain ⟨_, ⟨-, rfl⟩, rfl⟩ := ran
    exact .sent ⟨rfl, rfl⟩ (by simp [finish]) trivial
  | terminate =>
    cases payable
    simp only [ServiceManager.enter, terminate, bind_eq_ok, lock_eq_ok] at ran
    obtain ⟨_, ⟨-, rfl⟩, ran⟩ := ran
    have quiet := Quiet.afterUtility ran (fun _ => rfl) Quiet.terminateInRegistry
    have here : Quiet w out := quiet.of_eq rfl rfl
    exact here.enters trivial
  | unbond =>
    cases payable
    simp only [ServiceManager.enter, unbond, bind_eq_ok, lock_eq_ok] at ran
    obtain ⟨_, ⟨-, rfl⟩, ran⟩ := ran
    have here : Quiet w out := (Quiet.unbondWithTokens ran).of_eq rfl rfl
    exact here.enters trivial
  | unbondWithSignature =>
    cases payable
    simp only [ServiceManager.enter, unbondWithSignature, bind_eq_ok, lock_eq_ok, revertIf_eq_ok,
      exists_const, checkedAdd_eq_ok] at ran
    obtain ⟨_, ⟨-, rfl⟩, _, -, -, _, -, _, -, ran⟩ := ran
    have here : Quiet w out := (Quiet.unbondWithTokens ran).of_eq rfl rfl
    exact here.enters trivial
  | operatorApproveHash =>
    cases payable
    cases ran
    exact .sent ⟨rfl, rfl⟩ (by simp) trivial
  | initializeStorage =>
    cases payable
    simp only [ServiceManager.enter, bind_eq_ok, revertIf_eq_ok, exists_const, pure_eq_ok] at ran
    obtain ⟨-, rfl⟩ := ran
    exact .sent ⟨rfl, rfl⟩ (by simp) trivial
  | changeOwner =>
    cases payable
    simp only [ServiceManager.enter, bind_eq_ok, revertIf_eq_ok, exists_const, pure_eq_ok] at ran
    obtain ⟨-, -, rfl⟩ := ran
    exact .sent ⟨rfl, rfl⟩ (by simp) trivial
  | setOperatorWhitelist | setIdentityRegistryBridger | pause | unpause =>
    cases payable
    exact (Quiet.administer ran).enters trivial

theorem resume_sends {frame : SystemFrame} {answer : SystemAnswer}
    (ran : w.resume setup frame answer = .ok out) :
    Sends w out.state 0 (toSend frame) ∧ Checks frame ∧
      ∀ next ∈ out.pending, toSend next = 0 := by
  have quiet : Quiet w out → toSend frame = 0 → Checks frame →
      Sends w out.state 0 (toSend frame) ∧ Checks frame ∧
        ∀ next ∈ out.pending, toSend next = 0 := by
    intro quiet none checked
    rw [none]
    exact ⟨quiet.sends, checked, quiet.later⟩
  cases frame with
  | registry frame =>
    simp only [SystemWorld.resume, bind_eq_ok, pure_eq_ok] at ran
    obtain ⟨inner, resumed, rfl⟩ := ran
    refine ⟨⟨?_, ?_⟩, trivial, by simp [toSend]⟩
    · rw [Outcome.state_embed]
      exact resume_received resumed
    · rw [Outcome.state_embed]
      rfl
  | utility frame =>
    simp only [SystemWorld.resume, bind_eq_ok, pure_eq_ok] at ran
    obtain ⟨u, -, rfl⟩ := ran
    exact ⟨⟨rfl, rfl⟩, trivial, by simp⟩
  | create serviceId frame =>
    exact quiet (.afterRegistry ran (fun _ => resume_received) (fun _ => rfl) Quiet.createReturn)
      rfl trivial
  | deploy serviceId lastMultisig frame =>
    exact quiet (.afterRegistry ran (fun _ => resume_received) (fun _ => rfl) Quiet.deployReturn)
      rfl trivial
  | refund returned frame =>
    simp only [SystemWorld.resume] at ran
    exact quiet (.afterRegistry ran (fun _ => resume_received) (fun _ => rfl) Quiet.finished)
      rfl trivial
  | activate sender value serviceId frame =>
    simp only [SystemWorld.resume, bind_eq_ok] at ran
    obtain ⟨u, -, ran⟩ := ran
    obtain ⟨pending, sends, checked⟩ := activateInRegistry_sends ran
    rw [checked rfl] at sends
    exact ⟨⟨sends.received, sends.ether⟩, checked rfl, by simp [pending]⟩
  | register signed value operator serviceId agentInstances agentIds frame =>
    simp only [SystemWorld.resume, bind_eq_ok] at ran
    obtain ⟨u, -, ran⟩ := ran
    obtain ⟨pending, sends, checked⟩ := registerInRegistry_sends ran
    refine ⟨⟨sends.received, sends.ether⟩, ?_, by simp [pending]⟩
    cases signed with
    | true => trivial
    | false => exact checked rfl rfl
  | terminate sender serviceId frame =>
    simp only [SystemWorld.resume, bind_eq_ok] at ran
    obtain ⟨u, -, ran⟩ := ran
    exact quiet ((Quiet.terminateInRegistry _ _ ran).of_eq rfl rfl) rfl trivial
  | unbond operator serviceId frame =>
    simp only [SystemWorld.resume, bind_eq_ok] at ran
    obtain ⟨u, -, ran⟩ := ran
    exact quiet ((Quiet.unbondInRegistry _ _ ran).of_eq rfl rfl) rfl trivial
  | bridger returned =>
    cases ran
    exact quiet .finish rfl trivial

end Pieces

/-- A suspended call sends what it has to send, having checked it. -/
theorem rest_sends {setup : Setup} {frame : SystemFrame}
    {pieces : List (SystemWorld × SystemWorld)} (rest : Rest (systemMachine setup) frame pieces) :
    sumAfter (·.registry.received) pieces =
        sumBefore (·.registry.received) pieces + toSend frame ∧
      sumAfter (·.ether) pieces + toSend frame = sumBefore (·.ether) pieces ∧ Checks frame := by
  induction rest with
  | returned answer ran =>
    obtain ⟨sends, checked, -⟩ := resume_sends ran
    simp only [sumAfter_cons, sumBefore_cons, sumAfter_nil, sumBefore_nil, Nat.add_zero]
    exact ⟨sends.received, sends.ether, checked⟩
  | suspended answer ran rest ih =>
    obtain ⟨sends, checked, later⟩ := resume_sends ran
    rw [later _ (by simp)] at ih
    obtain ⟨received, ether, -⟩ := ih
    have received' := sends.received
    have ether' := sends.ether
    simp only [Outcome.state_suspended] at received' ether'
    simp only [sumAfter_cons, sumBefore_cons]
    exact ⟨by omega, by omega, checked⟩

/-- A call of the manager that goes through, with whatever happens during its external
calls, forwards exactly its `msg.value` and leaves the manager's ETH alone, if and only if
it is no signed registration for a token that comes with another amount than one wei per
instance. -/
theorem manager_passes_ether_on (setup : Setup) (call : ManagerCall) (w : SystemWorld)
    {value : Nat} (payable : msgValue call = some value)
    {pieces : List (SystemWorld × SystemWorld)}
    (run : Whole (systemMachine setup) (.manager call) w pieces) :
    PassesOn value pieces ↔ PaysPerInstance call w := by
  cases run with
  | returned ran =>
    cases enter_sends payable ran with
    | waits frame pending => cases pending
    | sent sends later pays =>
      refine iff_of_true ⟨?_, ?_⟩ pays
      · simpa using sends.received
      · simpa using sends.ether
  | suspended ran rest =>
    obtain ⟨received, ether, checked⟩ := rest_sends rest
    cases enter_sends payable ran with
    | sent sends later pays =>
      rw [later _ (by simp)] at received ether
      have received' := sends.received
      have ether' := sends.ether
      simp only [Outcome.state_suspended] at received' ether'
      refine iff_of_true ⟨?_, ?_⟩ pays <;> simp only [sumAfter_cons, sumBefore_cons] <;> omega
    | waits frame pending sends pays =>
      cases pending
      have received' := sends.received
      have ether' := sends.ether
      simp only [Outcome.state_suspended] at received' ether'
      rw [pays checked]
      constructor
      · intro passes
        have forwarded := passes.forwarded
        simp only [sumAfter_cons, sumBefore_cons] at forwarded
        omega
      · intro paid
        constructor <;> simp only [sumAfter_cons, sumBefore_cons] <;> omega

section Example

/-- A service secured by token 20, with its registration open. -/
def tokenServiceScript : List (Move SystemCall SystemAnswer) :=
  [.call (.manager (.create exampleOwner true 0 3 20 1 [1] [⟨1, 5⟩] 1)),
    .answer ⟨⟨0, [], true⟩, ⟨true, 0⟩⟩,
    .call (.manager (.activateRegistration exampleOwner 1 ⟨5, 0⟩ 1)),
    .answer ⟨⟨0, [], true⟩, ⟨true, 5⟩⟩]

/-- The owner registers instance 5 for operator 4, a contract that says yes to the hash. -/
def signedRegistration (value : Nat) : ManagerCall :=
  .registerAgentsWithSignature exampleOwner value
    ⟨fun _ => true, fun _ _ _ => some OperatorSignedHashes.magicValue⟩ ⟨5, 5⟩ 4 1
    ⟨[5], by decide⟩ ⟨[1], by decide⟩ (toBytes 32 4 ++ toBytes 32 0 ++ [4])

/-- That registration with `value`, the transfer of its bond included. -/
def registersSigned (value : Nat) (w : SystemWorld) : Option (List (SystemWorld × SystemWorld)) :=
  (systemMachine exampleSetup).solo (.manager (signedRegistration value))
    [⟨⟨0, [], true⟩, ⟨true, 10⟩⟩] w

/-- With one wei for its instance the registration passes on what it got. -/
theorem manager_passes_ether_on_signed :
    ∃ c pieces, Reachable (systemMachine exampleSetup) .free exampleTakeover c ∧
      Whole (systemMachine exampleSetup) (.manager (signedRegistration 1)) c.state pieces ∧
      PassesOn 1 pieces := by
  obtain ⟨c, run, seen⟩ := Machine.play_observed .free (systemMachine exampleSetup)
    exampleTakeover tokenServiceScript (fun c => (registersSigned 1 c.state).isSome) true
    (by decide +kernel)
  obtain ⟨pieces, ran⟩ := Option.isSome_iff_exists.mp seen
  have whole := Machine.solo_whole ran
  have paid : PaysPerInstance (signedRegistration 1) c.state := fun _ => rfl
  exact ⟨c, pieces, run, whole,
    (manager_passes_ether_on exampleSetup (signedRegistration 1) c.state rfl whole).mpr paid⟩

/-- With three wei the registry gets one, and two stay with the manager. -/
theorem signed_registration_keeps_ether :
    ∃ c pieces, Reachable (systemMachine exampleSetup) .free exampleTakeover c ∧
      Whole (systemMachine exampleSetup) (.manager (signedRegistration 3)) c.state pieces ∧
      sumAfter (·.ether) pieces = sumBefore (·.ether) pieces + 2 ∧ ¬ PassesOn 3 pieces := by
  obtain ⟨c, run, seen⟩ := Machine.play_observed .free (systemMachine exampleSetup)
    exampleTakeover tokenServiceScript
    (fun c => (registersSigned 3 c.state).map fun pieces =>
      (sumBefore (·.ether) pieces, sumAfter (·.ether) pieces)) (some (3, 5)) (by decide +kernel)
  obtain ⟨pieces, ran, sums⟩ := Option.map_eq_some_iff.mp seen
  obtain ⟨before, after⟩ := Prod.mk.inj sums
  refine ⟨c, pieces, run, Machine.solo_whole ran, ?_, fun passes => ?_⟩
  · rw [before, after]
  · have kept := passes.kept
    rw [before, after] at kept
    cases kept

end Example

end AutonolasRegistries.Guarantees
