import AutonolasRegistries.Source.IdentityRegistryBridger

/-!
# What the functions of the bridger do

One lemma for each function. `linkServiceIdAgentIds` links a range of services one after
the other; what linking one service keeps, linking the range keeps.
-/
namespace AutonolasRegistries.Source.IdentityRegistryBridger
open Library

/-- The services registered, each with the agent Id it got. -/
def registrations (requests : List IdentityRequest) : List (Nat × Nat) :=
  requests.filterMap fun
    | .register serviceId agentId => some (serviceId, agentId)
    | _ => none

theorem issuedIds_eq (requests : List IdentityRequest) :
    issuedIds requests = (registrations requests).map Prod.snd := by
  rw [issuedIds, registrations, List.map_filterMap]
  congr 1
  funext request
  cases request <;> rfl

theorem mem_registrations {requests : List IdentityRequest} {serviceId agentId : Nat} :
    (serviceId, agentId) ∈ registrations requests ↔ .register serviceId agentId ∈ requests := by
  simp only [registrations, List.mem_filterMap]
  constructor
  · rintro ⟨request, member, found⟩
    cases request with
    | register =>
      cases found
      exact member
    | unsetAgentWallet | setAgentWallet | setMetadata => cases found
  · intro member
    exact ⟨_, member, rfl⟩

theorem registrations_append (first second : List IdentityRequest) :
    registrations (first ++ second) = registrations first ++ registrations second :=
  List.filterMap_append

section Functions
variable {b b' : BridgerState}

theorem lock_eq_ok : lock b = .ok b' ↔ b.locked ≤ 1 ∧ { b with locked := 2 } = b' := by
  simp only [lock, bind_eq_ok, revertIf_eq_ok, exists_const, pure_eq_ok, not_lt]

/-- A service that has an agent Id keeps it. -/
theorem register_ok {serviceManager sender : Address} {ids : IdentityAnswer} {serviceId : Nat}
    (ran : register serviceManager sender ids serviceId b = .ok b') :
    let agentId := ids.agentId (issuedIds b.requests)
    sender = serviceManager ∧
    ((b.mapServiceIdAgentIds serviceId ≠ 0 ∧ b' = { b with locked := 1 }) ∨
      (b.mapServiceIdAgentIds serviceId = 0 ∧ ∃ requests,
        registrations requests = registrations b.requests ++ [(serviceId, agentId)] ∧
        b' = { b with
          mapServiceIdAgentIds := Function.update b.mapServiceIdAgentIds serviceId agentId
          requests
          locked := 1 })) := by
  intro agentId
  simp only [register, bind_eq_ok, lock_eq_ok, revertIf_eq_ok, exists_const, not_not,
    ne_eq] at ran
  obtain ⟨_, ⟨-, rfl⟩, same, ran⟩ := ran
  refine ⟨same, ?_⟩
  split at ran
  · next unlinked =>
    rw [pure_eq_ok] at ran
    subst ran
    exact .inr ⟨unlinked, _, registrations_append _ _, rfl⟩
  · next linked =>
    rw [pure_eq_ok] at ran
    subst ran
    exact .inl ⟨linked, rfl⟩

/-- The multisigs after a service moved from one to another. -/
def movedWallet (agentId : Nat) (oldMultisig newMultisig : Address) (m : Address → Nat) :
    Address → Nat :=
  Function.update (if oldMultisig ≠ 0 then Function.update m oldMultisig 0 else m) newMultisig
    agentId

theorem internalUpdateAgentWallet_eq (agentId : Nat) (oldMultisig newMultisig : Address)
    (b : BridgerState) :
    ∃ requests, registrations requests = registrations b.requests ∧
      internalUpdateAgentWallet agentId oldMultisig newMultisig b = { b with
        mapMultisigAgentIds :=
          movedWallet agentId oldMultisig newMultisig b.mapMultisigAgentIds
        requests } := by
  simp only [internalUpdateAgentWallet, movedWallet]
  split
  · refine ⟨_, ?_, rfl⟩
    rw [registrations_append]
    exact List.append_nil _
  · exact ⟨_, rfl, rfl⟩

theorem updateAgentWallet_ok {serviceManager sender : Address} {serviceId : Nat}
    {oldMultisig newMultisig : Address}
    (ran : updateAgentWallet serviceManager sender serviceId oldMultisig newMultisig b =
      .ok b') :
    sender = serviceManager ∧ ∃ requests multisigs,
      registrations requests = registrations b.requests ∧
      multisigs = (if 0 < b.mapServiceIdAgentIds serviceId then
        movedWallet (b.mapServiceIdAgentIds serviceId) oldMultisig newMultisig
          b.mapMultisigAgentIds
        else b.mapMultisigAgentIds) ∧
      b' = { b with mapMultisigAgentIds := multisigs, requests, locked := 1 } := by
  simp only [updateAgentWallet, bind_eq_ok, lock_eq_ok, revertIf_eq_ok, exists_const, not_not,
    ne_eq] at ran
  obtain ⟨_, ⟨-, rfl⟩, same, ran⟩ := ran
  refine ⟨same, ?_⟩
  dsimp only at ran
  split at ran
  · next linked =>
    rw [pure_eq_ok] at ran
    subst ran
    obtain ⟨requests, issued, moved⟩ := internalUpdateAgentWallet_eq
      (b.mapServiceIdAgentIds serviceId) oldMultisig newMultisig { b with locked := 2 }
    rw [moved]
    exact ⟨requests, _, issued, (if_pos linked).symm, rfl⟩
  · next unlinked =>
    rw [pure_eq_ok] at ran
    subst ran
    exact ⟨_, _, rfl, (if_neg unlinked).symm, rfl⟩

/-- A multisig that acts for its agent Id makes one request about it. -/
theorem actForMultisig_ok {sender : Address} {metadata : Nat → List Byte}
    {request : Nat → Except Revert IdentityRequest}
    (ran : actForMultisig sender metadata request b = .ok b') :
    b.mapMultisigAgentIds sender ≠ 0 ∧ ∃ asked,
      request (b.mapMultisigAgentIds sender) = .ok asked ∧
      b' = { b with requests := b.requests ++ [asked], locked := 1 } := by
  simp only [actForMultisig, getAgentServiceIds, bind_eq_ok, lock_eq_ok, revertIf_eq_ok,
    exists_const, pure_eq_ok, Prod.exists, Prod.mk.injEq] at ran
  obtain ⟨_, ⟨-, rfl⟩, agentId, serviceId, ⟨some, -, -, rfl, rfl⟩, asked, made, rfl⟩ := ran
  exact ⟨some, asked, made, rfl⟩

/-- The three functions a multisig calls: each asks for something about its agent Id that
is not a registration. -/
theorem setMetadata_ok {sender : Address} {chain : Chain} {metadata : Nat → List Byte}
    {metadataKey metadataValue : List Byte}
    (ran : setMetadata sender chain metadata metadataKey metadataValue b = .ok b') :
    b.mapMultisigAgentIds sender ≠ 0 ∧ b' = { b with
      requests := b.requests ++
        [.setMetadata (b.mapMultisigAgentIds sender) metadataKey metadataValue]
      locked := 1 } := by
  obtain ⟨some, asked, made, rfl⟩ := actForMultisig_ok ran
  simp only [bind_eq_ok, revertIf_eq_ok, exists_const, pure_eq_ok] at made
  obtain ⟨-, rfl⟩ := made
  exact ⟨some, rfl⟩

theorem setAgentWallet_ok {sender : Address} {metadata : Nat → List Byte}
    (ran : setAgentWallet sender metadata b = .ok b') :
    b.mapMultisigAgentIds sender ≠ 0 ∧ b' = { b with
      requests := b.requests ++ [.setAgentWallet (b.mapMultisigAgentIds sender) sender]
      locked := 1 } := by
  obtain ⟨some, asked, made, rfl⟩ := actForMultisig_ok ran
  cases made
  exact ⟨some, rfl⟩

theorem unsetAgentWallet_ok {sender : Address} {metadata : Nat → List Byte}
    (ran : unsetAgentWallet sender metadata b = .ok b') :
    b.mapMultisigAgentIds sender ≠ 0 ∧ b' = { b with
      requests := b.requests ++ [.unsetAgentWallet (b.mapMultisigAgentIds sender)]
      locked := 1 } := by
  obtain ⟨some, asked, made, rfl⟩ := actForMultisig_ok ran
  cases made
  exact ⟨some, rfl⟩

end Functions

section Linking
variable {registry : RegistryState} {ids : IdentityAnswer} {b b' : BridgerState}

/-- What linking one service does: it gets a new agent Id, and so does its multisig. -/
theorem linkService_eq (registry : RegistryState) (ids : IdentityAnswer) (serviceId : Nat)
    (b : BridgerState) :
    let agentId := ids.agentId (issuedIds b.requests)
    let multisig := (registry.mapServices serviceId).multisig
    ∃ requests, registrations requests = registrations b.requests ++ [(serviceId, agentId)] ∧
      (linkService registry ids serviceId b).1 = { b with
        mapServiceIdAgentIds := Function.update b.mapServiceIdAgentIds serviceId agentId
        mapMultisigAgentIds := if multisig ≠ 0 then
          Function.update b.mapMultisigAgentIds multisig agentId else b.mapMultisigAgentIds
        requests } := by
  intro agentId multisig
  simp only [linkService, internalRegister]
  split
  · next deployed =>
    obtain ⟨requests, issued, moved⟩ := internalUpdateAgentWallet_eq agentId 0 multisig
      (internalRegister ids serviceId b).1
    refine ⟨requests, issued.trans ?_, moved.trans ?_⟩
    · exact registrations_append _ _
    · simp [movedWallet, internalRegister, agentId]
  · exact ⟨_, registrations_append _ _, rfl⟩

/-- The services from `start` on, linked one after the other. -/
def linkRange (registry : RegistryState) (ids : IdentityAnswer) :
    Nat → Nat → BridgerState → BridgerState
  | _, 0, b => b
  | start, count + 1, b =>
    linkRange registry ids (start + 1) count (linkService registry ids start b).1

/-- What linking a service that has no agent Id keeps, linking a range of such services
keeps. -/
theorem linkRange_invariant {P : BridgerState → Prop}
    (step : ∀ serviceId b, b.mapServiceIdAgentIds serviceId = 0 → P b →
      P (linkService registry ids serviceId b).1) {start count : Nat}
    (unlinked : ∀ i, i < count → b.mapServiceIdAgentIds (start + i) = 0) (before : P b) :
    P (linkRange registry ids start count b) := by
  induction count generalizing start b with
  | zero => exact before
  | succ count ih =>
    refine ih (fun i inside => ?_) (step start b (unlinked 0 (Nat.succ_pos _)) before)
    obtain ⟨requests, -, linked⟩ := linkService_eq registry ids start b
    rw [linked]
    dsimp only
    rw [Function.update_of_ne (by omega), Nat.add_assoc, Nat.add_comm 1]
    exact unlinked (i + 1) (by omega)

/-- Linking a range gives every service of it an agent Id, and no other. -/
theorem linkRange_services {start count : Nat}
    (unlinked : ∀ i, i < count → b.mapServiceIdAgentIds (start + i) = 0) (serviceId : Nat) :
    let after := (linkRange registry ids start count b).mapServiceIdAgentIds serviceId
    if start ≤ serviceId ∧ serviceId < start + count then after ≠ 0
    else after = b.mapServiceIdAgentIds serviceId := by
  induction count generalizing start b with
  | zero =>
    intro after
    rw [if_neg (by omega)]
    rfl
  | succ count ih =>
    obtain ⟨requests, -, linked⟩ := linkService_eq registry ids start b
    have rest := @ih (linkService registry ids start b).1 (start + 1)
      fun i inside => by
        rw [linked]
        dsimp only
        rw [Function.update_of_ne (by omega), Nat.add_assoc, Nat.add_comm 1]
        exact unlinked (i + 1) (by omega)
    intro after
    dsimp only at rest
    have range : after =
        (linkRange registry ids (start + 1) count
          (linkService registry ids start b).1).mapServiceIdAgentIds serviceId := rfl
    rw [← range] at rest
    by_cases first : serviceId = start
    · subst first
      rw [if_neg (by omega), linked] at rest
      rw [if_pos (by omega), rest]
      dsimp only
      rw [Function.update_self]
      exact ids.nonzero _
    · rw [linked] at rest
      dsimp only at rest
      rw [Function.update_of_ne first] at rest
      split at rest
      · rw [if_pos (by omega)]
        exact rest
      · rw [if_neg (by omega)]
        exact rest

theorem linkLoop_eq (registry : RegistryState) (ids : IdentityAnswer) (remaining start : Nat)
    (agentIds : List Nat) (b : BridgerState) :
    let linked := linkLoop registry ids remaining start agentIds b
    ∃ count, count ≤ remaining ∧ linked.lastServiceId = start + count ∧
      linked.bridger = linkRange registry ids start count b ∧
      (∀ i, i < count → b.mapServiceIdAgentIds (start + i) = 0) ∧
      (linked.linkedAll = true → b.mapServiceIdAgentIds (start + count) ≠ 0) ∧
      (linked.linkedAll = false → count = remaining) := by
  induction remaining generalizing start agentIds b with
  | zero => exact ⟨0, le_refl 0, rfl, rfl, by simp, by simp [linkLoop], by simp⟩
  | succ remaining ih =>
    by_cases unlinked : b.mapServiceIdAgentIds start = 0
    · obtain ⟨requests, -, effect⟩ := linkService_eq registry ids start b
      have others : ∀ i, (linkService registry ids start b).1.mapServiceIdAgentIds
          (start + 1 + i) = b.mapServiceIdAgentIds (start + (i + 1)) := by
        intro i
        rw [effect]
        dsimp only
        rw [Function.update_of_ne (by omega), Nat.add_assoc, Nat.add_comm 1]
      obtain ⟨count, few, last, range, before, all, done⟩ := ih (start + 1)
        (agentIds ++ [(linkService registry ids start b).2]) (linkService registry ids start b).1
      simp only [linkLoop, if_pos unlinked]
      refine ⟨count + 1, by omega, by rw [last]; omega, range, fun i inside => ?_, ?_, ?_⟩
      · cases i with
        | zero => exact unlinked
        | succ i => exact (others i).symm.trans (before i (by omega))
      · intro stopped
        exact (others count) ▸ all stopped
      · intro ended
        rw [done ended]
    · simp only [linkLoop, if_neg unlinked]
      exact ⟨0, Nat.zero_le _, rfl, rfl, by simp, fun _ => unlinked, by simp⟩

theorem clampServices_ok {maxServiceId startServiceId numServices count : Nat}
    (ran : clampServices maxServiceId startServiceId numServices = .ok count) :
    startServiceId + count ≤ maxServiceId + 1 ∧
      (count = numServices ∨ startServiceId + count = maxServiceId + 1) := by
  simp only [clampServices, bind_eq_ok, checkedAdd_eq_ok] at ran
  obtain ⟨_, ⟨-, rfl⟩, ran⟩ := ran
  split at ran
  · simp only [bind_eq_ok, checkedAdd_eq_ok, checkedSub_eq_ok] at ran
    obtain ⟨_, ⟨-, rfl⟩, order, rfl⟩ := ran
    omega
  · rw [pure_eq_ok] at ran
    omega

/-- A call of `linkServiceIdAgentIds` links the services from the cursor on, up to the first
one that is linked or to the end. It disables itself in the first case. -/
theorem linkServiceIdAgentIds_ok {numServices : Nat} {agentIds : List Nat}
    (ran : linkServiceIdAgentIds registry ids numServices b = .ok (b', agentIds)) :
    let start := b.startLinkServiceId
    start ≠ 0 ∧ ∃ count, start + count ≤ registry.totalSupply + 1 ∧
      (∀ i, i < count → b.mapServiceIdAgentIds (start + i) = 0) ∧
      ((b'.startLinkServiceId = 0 ∧ b.mapServiceIdAgentIds (start + count) ≠ 0) ∨
        (b'.startLinkServiceId = start + count ∧ 0 < count)) ∧
      b' = { linkRange registry ids start count { b with locked := 2 } with
        startLinkServiceId := b'.startLinkServiceId
        locked := 1 } := by
  simp only [linkServiceIdAgentIds, bind_eq_ok, lock_eq_ok, revertIf_eq_ok, exists_const,
    pure_eq_ok, Prod.mk.injEq] at ran
  obtain ⟨_, ⟨-, rfl⟩, -, some, total, clamped, several, rfl, -⟩ := ran
  obtain ⟨bound, -⟩ := clampServices_ok clamped
  dsimp only at some bound several
  obtain ⟨count, few, last, range, unlinked, stopped, ended⟩ := linkLoop_eq registry ids total
    b.startLinkServiceId [] { b with locked := 2 }
  intro start
  refine ⟨some, count, by omega, unlinked, ?_, ?_⟩
  · cases all : (linkLoop registry ids total b.startLinkServiceId []
      { b with locked := 2 }).linkedAll with
    | true => exact .inl ⟨by simp [unlock], stopped all⟩
    | false =>
      have whole := ended all
      exact .inr ⟨by simp only [unlock, Bool.false_eq_true, if_false]; exact last, by omega⟩
  · rw [range]
    rfl

end Linking

end AutonolasRegistries.Source.IdentityRegistryBridger
