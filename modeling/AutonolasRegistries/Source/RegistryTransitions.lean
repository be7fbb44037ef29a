import AutonolasRegistries.Source.RegistryRecords

/-!
# The transitions of the registry machine

Every call that goes through is one of ten kinds, and every return from an external call
one of three. The functions that only concern administration and the NFT itself are one
kind: they write no record of a service and no balance.
-/
namespace AutonolasRegistries.Source
open Library

namespace RegistryWorld

@[simp] theorem refunding_store (w : RegistryWorld) (s : RegistryState) (amount : Nat) :
    (w.refunding s amount).state.store = if 0 < amount then s else ServiceRegistry.unlock s := by
  unfold refunding
  split <;> rfl

@[simp] theorem refunding_received (w : RegistryWorld) (s : RegistryState) (amount : Nat) :
    (w.refunding s amount).state.received = w.received := by
  unfold refunding
  split <;> rfl

@[simp] theorem refunding_paid (w : RegistryWorld) (s : RegistryState) (amount : Nat) :
    (w.refunding s amount).state.paid = w.paid + amount := by
  unfold refunding
  split
  · rfl
  · simp only [Outcome.state_done]
    omega

@[simp] theorem refunding_pending (w : RegistryWorld) (s : RegistryState) (amount : Nat) :
    (w.refunding s amount).pending = if 0 < amount then [.refund] else [] := by
  unfold refunding
  split <;> rfl

theorem finish_eq_ok {w : RegistryWorld} {value : Nat} {run : Except Revert RegistryState}
    {out : Outcome RegistryWorld RegistryFrame} :
    w.finish value run = .ok out ↔
      ∃ s, run = .ok s ∧ out = .done { w with store := s, received := w.received + value } := by
  simp only [finish, bind_eq_ok, pure_eq_ok]
  exact exists_congr fun s => and_congr_right fun _ => eq_comm

end RegistryWorld

/-- What the administrative functions and the NFT functions may change. -/
def RegistryState.administered (s : RegistryState) (erc721 : ERC721)
    (owner manager drainer : Address) (mapMultisigs : Address → Bool) : RegistryState :=
  { s with erc721, owner, manager, drainer, mapMultisigs }

def RegistryCall.administrative : RegistryCall → Bool
  | .changeOwner .. | .changeManager .. | .changeDrainer .. | .changeMultisigPermission ..
  | .approve .. | .setApprovalForAll .. | .transferFrom .. => true
  | _ => false

/-- A call that went through, by kind. -/
inductive RegistryTransition (edition : Edition) (w : RegistryWorld) :
    RegistryCall → Outcome RegistryWorld RegistryFrame → Prop where
  | create {sender : Caller}
      {serviceOwner agentTotalSupply configHash agentIds agentParams threshold} {s : RegistryState} {serviceId : Nat}
      (ran : ServiceRegistry.create edition agentTotalSupply sender serviceOwner configHash
        agentIds agentParams threshold w.store = .ok (s, serviceId)) :
      RegistryTransition edition w
        (.create sender serviceOwner agentTotalSupply configHash agentIds agentParams threshold)
        (.suspended { w with store := s } .create)
  | update {sender : Caller}
      {serviceOwner agentTotalSupply configHash agentIds agentParams threshold serviceId}
      {s : RegistryState}
      (ran : ServiceRegistry.update edition agentTotalSupply sender serviceOwner configHash
        agentIds agentParams threshold serviceId w.store = .ok s) :
      RegistryTransition edition w
        (.update sender serviceOwner agentTotalSupply configHash agentIds agentParams threshold
          serviceId)
        (.done { w with store := s })
  | activateRegistration {sender : Caller} {value serviceOwner serviceId} {s : RegistryState}
      (ran : ServiceRegistry.activateRegistration sender value serviceOwner serviceId w.store =
        .ok s) :
      RegistryTransition edition w (.activateRegistration sender value serviceOwner serviceId)
        (.done { w with store := s, received := w.received + value })
  | registerAgents {sender : Caller} {value operator serviceId agentInstances agentIds}
      {s : RegistryState}
      (ran : ServiceRegistry.registerAgents sender value operator serviceId agentInstances
        agentIds w.store = .ok s) :
      RegistryTransition edition w
        (.registerAgents sender value operator serviceId agentInstances agentIds)
        (.done { w with store := s, received := w.received + value })
  | deploy {sender : Caller} {serviceOwner serviceId multisigImplementation} {s : RegistryState}
      {owners : List Address}
      (ran : ServiceRegistry.deploy sender serviceOwner serviceId multisigImplementation
        w.store = .ok (s, owners)) :
      RegistryTransition edition w
        (.deploy sender serviceOwner serviceId multisigImplementation)
        (.suspended { w with store := s } (.deploy serviceId))
  | slash {sender : Caller} {agentInstances amounts serviceId} {s : RegistryState}
      (ran : ServiceRegistry.slash sender agentInstances amounts serviceId w.store = .ok s) :
      RegistryTransition edition w (.slash sender agentInstances amounts serviceId)
        (.done { w with store := s })
  | terminate {sender : Caller} {serviceOwner serviceId} {s : RegistryState} {refund : Nat}
      (ran : ServiceRegistry.terminate edition sender serviceOwner serviceId w.store =
        .ok (s, refund)) :
      RegistryTransition edition w (.terminate sender serviceOwner serviceId)
        (.suspended { w with store := s, paid := w.paid + refund } .refund)
  | unbond {sender : Caller} {operator serviceId} {s : RegistryState} {refund : Nat}
      (ran : ServiceRegistry.unbond sender operator serviceId w.store = .ok (s, refund)) :
      RegistryTransition edition w (.unbond sender operator serviceId) (w.refunding s refund)
  | drain {sender : Caller} {s : RegistryState} {amount : Nat}
      (ran : ServiceRegistry.drain sender w.store = .ok (s, amount)) :
      RegistryTransition edition w (.drain sender) (w.refunding s amount)
  | administer {call : RegistryCall} {erc721 : ERC721} {owner manager drainer : Address}
      {mapMultisigs : Address → Bool}
      (kind : call.administrative = true) (guarded : erc721.Guarded)
      (minted : ∀ id, erc721.owners id = 0 ↔ w.store.erc721.owners id = 0) :
      RegistryTransition edition w call
        (.done { w with
          store := w.store.administered erc721 owner manager drainer mapMultisigs })

theorem RegistryWorld.enter_transition {edition : Edition} {call : RegistryCall}
    {w : RegistryWorld} {out : Outcome RegistryWorld RegistryFrame}
    (guarded : w.store.erc721.Guarded) (h : w.enter edition call = .ok out) :
    RegistryTransition edition w call out := by
  cases call with
  | create =>
    simp only [enter, bind_eq_ok, pure_eq_ok, Prod.exists] at h
    obtain ⟨s, serviceId, ran, rfl⟩ := h
    exact .create ran
  | update =>
    obtain ⟨s, ran, rfl⟩ := finish_eq_ok.mp h
    exact .update ran
  | activateRegistration =>
    obtain ⟨s, ran, rfl⟩ := finish_eq_ok.mp h
    exact .activateRegistration ran
  | registerAgents =>
    obtain ⟨s, ran, rfl⟩ := finish_eq_ok.mp h
    exact .registerAgents ran
  | deploy =>
    simp only [enter, bind_eq_ok, pure_eq_ok, Prod.exists] at h
    obtain ⟨s, owners, ran, rfl⟩ := h
    exact .deploy ran
  | slash =>
    obtain ⟨s, ran, rfl⟩ := finish_eq_ok.mp h
    exact .slash ran
  | terminate =>
    simp only [enter, bind_eq_ok, pure_eq_ok, Prod.exists] at h
    obtain ⟨s, refund, ran, rfl⟩ := h
    exact .terminate ran
  | unbond =>
    simp only [enter, bind_eq_ok, pure_eq_ok, Prod.exists] at h
    obtain ⟨s, refund, ran, rfl⟩ := h
    exact .unbond ran
  | drain =>
    simp only [enter, bind_eq_ok, pure_eq_ok, Prod.exists] at h
    obtain ⟨s, amount, ran, rfl⟩ := h
    exact .drain ran
  | changeOwner =>
    obtain ⟨s, ran, rfl⟩ := finish_eq_ok.mp h
    simp only [ServiceRegistry.changeOwner, revertIf_bind_eq_ok, pure_eq_ok] at ran
    obtain ⟨-, -, rfl⟩ := ran
    exact .administer rfl guarded fun _ => Iff.rfl
  | changeManager =>
    obtain ⟨s, ran, rfl⟩ := finish_eq_ok.mp h
    simp only [ServiceRegistry.changeManager, revertIf_bind_eq_ok, pure_eq_ok] at ran
    obtain ⟨-, -, rfl⟩ := ran
    exact .administer rfl guarded fun _ => Iff.rfl
  | changeDrainer =>
    obtain ⟨s, ran, rfl⟩ := finish_eq_ok.mp h
    simp only [ServiceRegistry.changeDrainer, revertIf_bind_eq_ok, pure_eq_ok] at ran
    obtain ⟨-, -, rfl⟩ := ran
    exact .administer rfl guarded fun _ => Iff.rfl
  | changeMultisigPermission =>
    obtain ⟨s, ran, rfl⟩ := finish_eq_ok.mp h
    simp only [ServiceRegistry.changeMultisigPermission, revertIf_bind_eq_ok, pure_eq_ok] at ran
    obtain ⟨-, -, rfl⟩ := ran
    exact .administer rfl guarded fun _ => Iff.rfl
  | approve =>
    obtain ⟨s, ran, rfl⟩ := finish_eq_ok.mp h
    simp only [bind_eq_ok, pure_eq_ok] at ran
    obtain ⟨t, ran, rfl⟩ := ran
    obtain ⟨after, owners⟩ := ERC721.approve_guarded guarded ran
    exact .administer rfl after fun id => by rw [owners]
  | setApprovalForAll sender operator approved =>
    cases h
    exact .administer rfl
      (ERC721.setApprovalForAll_guarded guarded sender operator approved) fun _ => Iff.rfl
  | transferFrom =>
    obtain ⟨s, ran, rfl⟩ := finish_eq_ok.mp h
    simp only [bind_eq_ok, pure_eq_ok] at ran
    obtain ⟨t, ran, rfl⟩ := ran
    obtain ⟨after, owners⟩ := ERC721.transferFrom_guarded guarded ran
    exact .administer rfl after owners

/-- The calls that create a service. -/
def RegistryCall.creates : RegistryCall → Bool
  | .create .. => true
  | _ => false

/-- Only `create` numbers a service, and it numbers one. -/
theorem RegistryTransition.supply {edition : Edition} {w : RegistryWorld} {call : RegistryCall}
    {out : Outcome RegistryWorld RegistryFrame} (taken : RegistryTransition edition w call out) :
    out.state.store.totalSupply = w.store.totalSupply + if call.creates then 1 else 0 := by
  cases taken with
  | create ran =>
    obtain ⟨-, rfl, rfl⟩ := ServiceRegistry.create_ok ran
    rfl
  | update ran =>
    obtain ⟨-, -, -, -, rfl⟩ := ServiceRegistry.update_ok ran
    rfl
  | activateRegistration ran =>
    obtain ⟨-, rfl⟩ := ServiceRegistry.activateRegistration_ok ran
    rfl
  | registerAgents ran =>
    obtain ⟨-, -, rfl⟩ := ServiceRegistry.registerAgents_done ran
    rfl
  | deploy ran =>
    obtain ⟨-, -, rfl⟩ := ServiceRegistry.deploy_ok ran
    rfl
  | slash ran =>
    obtain ⟨-, -, rfl, -⟩ := ServiceRegistry.slashLoop_frame (ServiceRegistry.slash_ok ran).2
    rfl
  | terminate ran =>
    obtain ⟨-, -, -, -, rfl⟩ := ServiceRegistry.terminate_ok ran
    rfl
  | unbond ran =>
    obtain ⟨-, -, -, -, rfl⟩ := ServiceRegistry.unbond_ok ran
    rw [RegistryWorld.refunding_store]
    split <;> rfl
  | drain ran =>
    obtain ⟨-, -, rfl⟩ := ServiceRegistry.drain_ok ran
    rw [RegistryWorld.refunding_store]
    split <;> rfl
  | @administer call _ _ _ _ _ kind =>
    cases call <;> first | rfl | cases kind

theorem RegistryTransition.supply_le {edition : Edition} {w : RegistryWorld}
    {call : RegistryCall} {out : Outcome RegistryWorld RegistryFrame}
    (taken : RegistryTransition edition w call out) :
    w.store.totalSupply ≤ out.state.store.totalSupply :=
  Nat.le.intro taken.supply.symm

/-- A suspended call that went on, by kind. -/
inductive RegistryReturn (edition : Edition) (w : RegistryWorld) (answer : RegistryAnswer) :
    RegistryFrame → Outcome RegistryWorld RegistryFrame → Prop where
  | create : RegistryReturn edition w answer .create
      (.done { w with store := ServiceRegistry.unlock w.store })
  | refund (taken : answer.result = true) : RegistryReturn edition w answer .refund
      (.done { w with store := ServiceRegistry.unlock w.store })
  | deploy (serviceId : Nat) : RegistryReturn edition w answer (.deploy serviceId)
      (.done { w with
        store := ServiceRegistry.deployReturn edition serviceId answer.multisig
          answer.subComponents w.store })

theorem RegistryWorld.resume_return {edition : Edition} {frame : RegistryFrame}
    {answer : RegistryAnswer} {w : RegistryWorld} {out : Outcome RegistryWorld RegistryFrame}
    (ran : w.resume edition frame answer = .ok out) :
    RegistryReturn edition w answer frame out := by
  cases frame with
  | create =>
    cases ran
    exact .create
  | refund =>
    simp only [resume, bind_eq_ok, revertIf_eq_ok, exists_const, pure_eq_ok,
      Bool.not_eq_false] at ran
    obtain ⟨taken, rfl⟩ := ran
    exact .refund taken
  | deploy serviceId =>
    cases ran
    exact .deploy serviceId

/-- A refund that is taken goes through. -/
theorem RegistryWorld.refund_taken {edition : Edition} {answer : RegistryAnswer}
    (taken : answer.result = true) (w : RegistryWorld) :
    w.resume edition .refund answer =
      .ok (.done { w with store := ServiceRegistry.unlock w.store }) := by
  simp only [resume, taken, Bool.true_eq_false, revertIf, if_false, ok_bind]
  rfl

end AutonolasRegistries.Source
