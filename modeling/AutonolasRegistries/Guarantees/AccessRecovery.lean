import AutonolasRegistries.Guarantees.Redeployment
import AutonolasRegistries.Source.SafeEffects

/-!
# Recovering a Safe and redeploying on it

`recoverAccess` sends one batch through the Safe and does not look at what comes back:
when the batch fails, the Safe stays as it was and the call returns all the same. It
fails when the service owner cannot be swapped in for the last owner of the list, which
is so when it already is that owner, or is the Safe. Vulnerabilities list, item 13: these
functions "must revert if they return false on failure".

`create` reads the Safe again behind its batch, so what it returns is always right.
-/
namespace AutonolasRegistries.Guarantees
open Library Source Model

/-- The service owner has the Safe to itself. -/
def Recovered (m : RecoveryState) (multisig serviceOwner : Address) : Prop :=
  ∃ safe, m.safes multisig = some safe ∧ safe.owners = [serviceOwner] ∧ safe.threshold = 1

section Recovery
variable {code : SafeCode} {sender multisig : Address} {serviceId : Nat} {s : RegistryState}
  {m m' : RecoveryState} {safe : Safe}

/-- A batch takes effect as a whole or not at all. -/
theorem execute_eq (management : OwnerManagement code) {batch : List SafeCall}
    (here : m.safes multisig = some safe)
    (enabled : m.self ≠ Safe.sentinel ∧ m.self ∈ safe.modules) :
    RecoveryModule.execute code multisig batch m = .ok { m with
      safes := Function.update m.safes multisig
        (some ((batch.foldlM (code.perform multisig) safe).getD safe)) } := by
  simp only [RecoveryModule.execute, RecoveryModule.safeAt, here, ok_bind]
  cases outcome : batch.foldlM (code.perform multisig) safe with
  | none =>
    rw [management.failed enabled outcome]
    rfl
  | some after =>
    rw [management.executed enabled outcome]
    rfl

/-- The module acts only through Safes on which it is enabled. -/
theorem execute_enabled (management : OwnerManagement code) {batch : List SafeCall}
    (here : m.safes multisig = some safe)
    (ran : RecoveryModule.execute code multisig batch m = .ok m') :
    m.self ≠ Safe.sentinel ∧ m.self ∈ safe.modules := by
  by_contra disabled
  rw [not_and_or, not_not] at disabled
  simp only [RecoveryModule.execute, RecoveryModule.safeAt, here, ok_bind,
    management.refused disabled] at ran
  cases ran

/-- The Safe after a recovery. -/
def recoveredSafe (sender multisig : Address) (safe : Safe) : Safe :=
  if sender = Safe.sentinel ∨ sender = multisig ∨ safe.owners.getLast? = some sender then safe
  else { safe with owners := [sender], threshold := 1 }

theorem recoverAccess_ok_iff (management : OwnerManagement code)
    (here : m.safes (s.mapServices serviceId).multisig = some safe)
    (valid : safe.Valid (s.mapServices serviceId).multisig) :
    RecoveryModule.recoverAccess code sender serviceId s m = .ok m' ↔
      m.locked ≤ 1 ∧ s.erc721.ownerOf serviceId = .ok sender ∧
      (s.mapServices serviceId).state = .preRegistration ∧
      (s.mapServices serviceId).multisig ≠ 0 ∧
      (m.self ≠ Safe.sentinel ∧ m.self ∈ safe.modules) ∧
      m' = { m with
        locked := 1
        safes := Function.update m.safes (s.mapServices serviceId).multisig
          (some (recoveredSafe sender (s.mapServices serviceId).multisig safe)) } := by
  have nonempty : safe.owners ≠ [] := List.ne_nil_of_length_pos
    (Nat.lt_of_lt_of_le valid.positive valid.reachable)
  obtain ⟨lastOwner, last⟩ := Option.isSome_iff_exists.mp
    (List.getLast?_isSome.mpr nonempty)
  have batch := @Safe.recoverBatch_eq _ management _ safe sender lastOwner valid last
  have after : sender ≠ 0 →
      ((RecoveryModule.recoverBatch safe.owners sender lastOwner).foldlM
        (code.perform (s.mapServices serviceId).multisig) safe).getD safe =
      recoveredSafe sender (s.mapServices serviceId).multisig safe := by
    intro nonzero
    rw [batch, recoveredSafe, last]
    simp only [nonzero, false_or, Option.some.injEq, @eq_comm _ lastOwner]
    split <;> rfl
  simp only [RecoveryModule.recoverAccess, RecoveryModule.view, RecoveryModule.safeAt, here, last,
    bind_eq_ok, revertIf_eq_ok, exists_const, mapError_eq_ok, ok_eq_ok, pure_eq_ok, ne_eq, not_not,
    Nat.not_lt, exists_eq_left']
  have locked : (({ m with locked := 2 } : RecoveryState)).safes
      (s.mapServices serviceId).multisig = some safe := here
  constructor
  · rintro ⟨unlocked, serviceOwner, owner, rfl, state, nonzero, next, ran, rfl⟩
    have enabled := execute_enabled management locked ran
    have owned := ERC721.ownerOf_eq_ok.mp owner
    rw [execute_eq management locked enabled, after (owned.2 ▸ owned.1)] at ran
    obtain rfl := Except.ok.inj ran
    exact ⟨unlocked, owner, state, nonzero, enabled, rfl⟩
  · rintro ⟨unlocked, owner, state, nonzero, enabled, rfl⟩
    have owned := ERC721.ownerOf_eq_ok.mp owner
    have ran := @execute_eq _ _ _ _ management
      (RecoveryModule.recoverBatch safe.owners sender lastOwner) locked enabled
    rw [after (owned.2 ▸ owned.1)] at ran
    exact ⟨unlocked, sender, owner, rfl, state, nonzero, _, ran, rfl⟩

/-- Which Safes are recovered. -/
theorem recoveredSafe_recovered_iff (valid : safe.Valid multisig) :
    ((recoveredSafe sender multisig safe).owners = [sender] ∧
      (recoveredSafe sender multisig safe).threshold = 1) ↔
      sender ≠ Safe.sentinel ∧ sender ≠ multisig ∧
        (safe.owners.getLast? = some sender → safe.owners = [sender]) := by
  unfold recoveredSafe
  split
  · rename_i stuck
    constructor
    · rintro ⟨owners, -⟩
      obtain ⟨-, notSentinel, other⟩ := valid.proper sender (by rw [owners]; simp)
      exact ⟨notSentinel, other, fun _ => owners⟩
    · rintro ⟨notSentinel, other, only⟩
      rcases stuck with same | same | last
      · exact absurd same notSentinel
      · exact absurd same other
      · have owners := only last
        have reachable := valid.reachable
        rw [owners] at reachable
        exact ⟨owners, Nat.le_antisymm reachable valid.positive⟩
  · rename_i free
    simp only [not_or] at free
    exact iff_of_true ⟨rfl, rfl⟩ ⟨free.1, free.2.1, fun last => absurd last free.2.2⟩

/-- `recoverAccess` that returns has recovered the Safe exactly when the service owner
is neither the Safe nor the sentinel, and is not the last of several owners. -/
theorem access_recovered_iff (management : OwnerManagement code)
    (here : m.safes (s.mapServices serviceId).multisig = some safe)
    (valid : safe.Valid (s.mapServices serviceId).multisig)
    (returned : RecoveryModule.recoverAccess code sender serviceId s m = .ok m') :
    Recovered m' (s.mapServices serviceId).multisig sender ↔
      sender ≠ Safe.sentinel ∧ sender ≠ (s.mapServices serviceId).multisig ∧
        (safe.owners.getLast? = some sender → safe.owners = [sender]) := by
  obtain ⟨-, -, -, -, -, rfl⟩ := (recoverAccess_ok_iff management here valid).mp returned
  rw [← recoveredSafe_recovered_iff valid]
  simp only [Recovered, Function.update_self, Option.some.injEq, exists_eq_left']

end Recovery

/-- Service 1 of the owner 3 with the instances 5 and `second`, deployed on the Safe 9
and brought back to its beginning. -/
def undeployedScript (second : Address) : List (Move RegistryCall RegistryAnswer) :=
  twoSlotsScript ++
    [.call (.activateRegistration registryManager 1 3 1),
      .call (.registerAgents registryManager 2 4 1 [5, second] [1, 1]),
      .call (.changeMultisigPermission registryOwner 8 true),
      .call (.deploy registryManager 3 1 8), .answer ⟨9, [], true⟩,
      .call (.terminate registryManager 3 1), .answer ⟨0, [], true⟩,
      .call (.unbond registryManager 4 1), .answer ⟨0, [], true⟩]

/-- The module at 8, enabled on the Safe 9, which has two owners and needs both. -/
def twoOwnersModule (second : Address) : RecoveryState where
  self := 8
  serviceRegistry := 20
  locked := 1
  safes a := if a = 9 then some ⟨[5, second], 2, [8]⟩ else none

theorem twoOwners_valid {second : Address}
    (other : second ≠ 0 ∧ second ≠ 1 ∧ second ≠ 9 ∧ 5 ≠ second) :
    (⟨[5, second], 2, [8]⟩ : Safe).Valid 9 := by
  obtain ⟨nonzero, notSentinel, notSafe, different⟩ := other
  refine ⟨by simp [different], ?_, Nat.le_succ 1, by simp⟩
  intro a member
  rcases List.mem_cons.mp member with rfl | member
  · decide
  · rw [List.mem_singleton.mp member]
    exact ⟨nonzero, notSentinel, notSafe⟩

theorem access_recovered_two_owners :
    ∃ c m', Reachable (registryMachine .l2) managedDiscipline (RegistryWorld.deployment 1) c ∧
      RecoveryModule.recoverAccess linkedSafe 3 1 c.state.store (twoOwnersModule 6) = .ok m' ∧
      Recovered m' 9 3 := by
  obtain ⟨c, run, seen⟩ := Machine.play_observed managedDiscipline (registryMachine .l2)
    (RegistryWorld.deployment 1) (undeployedScript 6)
    (fun c => ((c.state.store.mapServices 1).multisig,
      (RecoveryModule.recoverAccess linkedSafe 3 1 c.state.store
        (twoOwnersModule 6)).toOption.isSome))
    (9, true) (by decide +kernel)
  obtain ⟨multisig, returns⟩ := Prod.mk.inj seen
  obtain ⟨m', returned⟩ := Option.isSome_iff_exists.mp returns
  have returned := toOption_eq_some.mp returned
  have here : (twoOwnersModule 6).safes (c.state.store.mapServices 1).multisig =
      some ⟨[5, 6], 2, [8]⟩ := by
    rw [multisig]
    rfl
  have valid : (⟨[5, 6], 2, [8]⟩ : Safe).Valid (c.state.store.mapServices 1).multisig := by
    rw [multisig]
    exact twoOwners_valid (by decide)
  have recovered := (access_recovered_iff linkedSafe_management here valid returned).mpr
    ⟨by decide, by rw [multisig]; decide, fun last => absurd last (by decide)⟩
  rw [multisig] at recovered
  exact ⟨c, m', run, returned, recovered⟩

/-- With the service owner as the last owner the swap fails, the batch is undone, and
the call returns with both owners in place. -/
theorem access_not_recovered :
    ¬ ∀ c, Reachable (registryMachine .l2) managedDiscipline (RegistryWorld.deployment 1) c →
      ∀ serviceId sender m m' safe,
        m.safes (c.state.store.mapServices serviceId).multisig = some safe →
        safe.Valid (c.state.store.mapServices serviceId).multisig →
        m.self ≠ Safe.sentinel ∧ m.self ∈ safe.modules →
        RecoveryModule.recoverAccess linkedSafe sender serviceId c.state.store m = .ok m' →
        Recovered m' (c.state.store.mapServices serviceId).multisig sender := by
  intro claim
  obtain ⟨c, run, seen⟩ := Machine.play_observed managedDiscipline (registryMachine .l2)
    (RegistryWorld.deployment 1) (undeployedScript 3)
    (fun c => ((c.state.store.mapServices 1).multisig,
      (RecoveryModule.recoverAccess linkedSafe 3 1 c.state.store (twoOwnersModule 3)).toOption.map
        fun m' => m'.safes 9))
    (9, some (some ⟨[5, 3], 2, [8]⟩)) (by decide +kernel)
  obtain ⟨multisig, returns⟩ := Prod.mk.inj seen
  obtain ⟨m', returned, unchanged⟩ := Option.map_eq_some_iff.mp returns
  have recovered := claim c run 1 3 (twoOwnersModule 3) m' ⟨[5, 3], 2, [8]⟩
    (by rw [multisig]; rfl) (by rw [multisig]; exact twoOwners_valid (by decide)) (by decide)
    (toOption_eq_some.mp returned)
  obtain ⟨safe, there, owners, -⟩ := recovered
  rw [multisig, unchanged] at there
  cases there
  cases owners

section Redeploy
variable {code : SafeCode} {multisig serviceOwner : Address} {serviceId : Word} {s : RegistryState}
  {m m' : RecoveryState} {instances : List Address} {threshold : Nat} {safe : Safe}

theorem checkOwners_same (owners : List Address) :
    RecoveryModule.checkOwners owners owners = .ok () := by
  induction owners with
  | nil => rfl
  | cons owner rest ih =>
    simp only [RecoveryModule.checkOwners, revertIf_bind_eq_ok, ne_eq, not_true_eq_false,
      not_false_eq_true, true_and, ih]

theorem encodeServiceId_decoded (serviceId : Word) :
    ofBytes (RecoveryModule.encodeServiceId serviceId.val) = serviceId.val := by
  rw [RecoveryModule.encodeServiceId, ofBytes_toBytes]
  exact Nat.mod_eq_of_lt serviceId.isLt

/-- The registry's own call passes the checks of the call. -/
theorem checkService_passes (unlocked : m.locked ≤ 1)
    (owner : s.erc721.ownerOf serviceId.val = .ok serviceOwner)
    (nonzero : (s.mapServices serviceId.val).multisig ≠ 0)
    (report : ServiceRegistry.getAgentInstances (s.mapServices serviceId.val) serviceId.val s =
      .ok instances) :
    RecoveryModule.checkService m.serviceRegistry instances
      (s.mapServices serviceId.val).threshold.val
      (RecoveryModule.encodeServiceId serviceId.val) s m =
        .ok (serviceOwner, (s.mapServices serviceId.val).multisig) := by
  have width : (RecoveryModule.encodeServiceId serviceId.val).length =
      RecoveryModule.defaultDataLength := length_toBytes _ _
  simp only [RecoveryModule.checkService, encodeServiceId_decoded, RecoveryModule.view,
    bind_eq_ok, revertIf_eq_ok, exists_const, mapError_eq_ok, pure_eq_ok, ne_eq, not_not,
    not_true_eq_false, not_false_eq_true, true_and, Nat.not_lt]
  exact ⟨unlocked, width, _, owner, nonzero, _, report, rfl, (), checkOwners_same _, rfl⟩

/-- The recovered Safe takes the instances over. -/
theorem handOver_recovered (management : OwnerManagement code) (here : m.safes multisig = some safe)
    (enabled : m.self ≠ Safe.sentinel ∧ m.self ∈ safe.modules) (valid : safe.Valid multisig)
    (owners : safe.owners = [serviceOwner]) (some_ : instances ≠ [])
    (nodup : instances.Nodup)
    (proper : ∀ a ∈ instances, a ≠ 0 ∧ a ≠ Safe.sentinel ∧ a ≠ multisig)
    (apart : serviceOwner ∉ instances) (positive : 1 ≤ threshold)
    (reachable : threshold ≤ instances.length) :
    RecoveryModule.handOver code instances threshold serviceOwner multisig m = .ok { m with
      safes := Function.update m.safes multisig
        (some { safe with owners := instances.reverse, threshold := threshold }) } := by
  obtain ⟨first, rest, rfl⟩ := List.exists_cons_of_ne_nil some_
  obtain ⟨list, one, modules⟩ := safe
  obtain rfl : list = [serviceOwner] := owners
  obtain rfl : one = 1 := Nat.le_antisymm valid.reachable valid.positive
  have distinct : ((first :: rest).reverse ++ [serviceOwner]).Nodup := by
    rw [List.nodup_append]
    refine ⟨List.nodup_reverse.mpr nodup, List.nodup_singleton _, ?_⟩
    intro a member b single same
    rw [List.mem_singleton.mp single] at same
    exact apart (same ▸ List.mem_reverse.mp member)
  have batch := Safe.redeployBatch_some management valid distinct proper positive reachable
  simp only [RecoveryModule.handOver, RecoveryModule.safeAt, here, ok_bind, if_true,
    execute_eq management here enabled, batch, Option.getD_some]

/-- Any other Safe is left alone. -/
theorem handOver_other (here : m.safes multisig = some safe)
    (owners : safe.owners ≠ [serviceOwner]) :
    RecoveryModule.handOver code instances threshold serviceOwner multisig m = .ok m := by
  simp only [RecoveryModule.handOver, RecoveryModule.safeAt, here, ok_bind, if_neg owners]
  rfl

/-- What `create` leaves behind is what it was asked for. -/
theorem create_verified {sender found : Address} {owners : List Address} {data : List Byte}
    (ran : RecoveryModule.create code sender owners threshold data s m = .ok (m', found)) :
    ∃ serviceOwner next, RecoveryModule.checkService sender owners threshold data s m =
        .ok (serviceOwner, found) ∧
      RecoveryModule.handOver code owners threshold serviceOwner found { m with locked := 2 } =
        .ok next ∧ m' = { next with locked := 1 } ∧
      ∃ after, next.safes found = some after ∧ after.owners = owners.reverse ∧
        after.threshold = threshold := by
  simp only [RecoveryModule.create, bind_eq_ok, Prod.exists, revertIf_eq_ok, exists_const,
    pure_eq_ok, Prod.mk.injEq, ne_eq, not_not] at ran
  obtain ⟨serviceOwner, multisig, passed, next, handed, after, here, sameThreshold, sameNumber, _,
    sameOwners, rfl, rfl⟩ := ran
  have there : next.safes multisig = some after := by
    unfold RecoveryModule.safeAt at here
    split at here
    · rename_i safe found
      cases here
      exact found
    · cases here
  have order := checkOwners_ok (by rw [sameNumber, List.length_reverse]) sameOwners
  exact ⟨serviceOwner, next, passed, handed, rfl, after, there,
    by rw [order, List.reverse_reverse], sameThreshold.symm⟩

/-- Once the Safe shows the owners in reverse order and the threshold, `create` returns. -/
theorem create_returns {sender : Address} {owners : List Address} {data : List Byte}
    {next : RecoveryState} {after : Safe}
    (passed : RecoveryModule.checkService sender owners threshold data s m =
      .ok (serviceOwner, multisig))
    (handed : RecoveryModule.handOver code owners threshold serviceOwner multisig
      { m with locked := 2 } = .ok next)
    (there : next.safes multisig = some after) (order : after.owners = owners.reverse)
    (sameThreshold : after.threshold = threshold) :
    RecoveryModule.create code sender owners threshold data s m =
      .ok ({ next with locked := 1 }, multisig) := by
  have compared := checkOwners_same owners
  simp only [RecoveryModule.create, passed, ok_bind, handed, RecoveryModule.safeAt, there, order,
    sameThreshold, List.length_reverse, List.reverse_reverse, compared, bind_eq_ok, revertIf_eq_ok,
    exists_const, ne_eq, not_true_eq_false, not_false_eq_true, true_and, pure_eq_ok]

/-- The service owner takes back a Safe that is held by others. -/
theorem access_recovered_again (management : OwnerManagement code) {serviceId : Nat}
    {later : RecoveryState} {after : Safe}
    (there : later.safes (s.mapServices serviceId).multisig = some after)
    (valid : after.Valid (s.mapServices serviceId).multisig)
    (enabled : later.self ≠ Safe.sentinel ∧ later.self ∈ after.modules)
    (unlocked : later.locked ≤ 1) (owner : s.erc721.ownerOf serviceId = .ok serviceOwner)
    (state : (s.mapServices serviceId).state = .preRegistration)
    (nonzero : (s.mapServices serviceId).multisig ≠ 0) (notSentinel : serviceOwner ≠ Safe.sentinel)
    (other : serviceOwner ≠ (s.mapServices serviceId).multisig)
    (apart : serviceOwner ∉ after.owners) :
    ∃ final, RecoveryModule.recoverAccess code serviceOwner serviceId s later = .ok final ∧
      Recovered final (s.mapServices serviceId).multisig serviceOwner := by
  have returned := (recoverAccess_ok_iff management there valid).mpr
    ⟨unlocked, owner, state, nonzero, enabled, rfl⟩
  refine ⟨_, returned, ?_⟩
  obtain ⟨-, -, -, -, -, final⟩ := (recoverAccess_ok_iff management there valid).mp returned
  rw [final, Recovered]
  simp only [Function.update_self, Option.some.injEq, exists_eq_left']
  rw [recoveredSafe_recovered_iff valid]
  exact ⟨notSentinel, other, fun last => absurd (List.mem_of_getLast? last) apart⟩

/-- A redeployment on a recovered Safe puts the instances in place of the service owner,
and the service owner can take the Safe back afterwards. On a Safe in any other state
`create` changes nothing, and returns only if the instances are its owners already. -/
theorem redeployed_on_recovered (management : OwnerManagement code) (unlocked : m.locked ≤ 1)
    (owner : s.erc721.ownerOf serviceId.val = .ok serviceOwner)
    (pointed : (s.mapServices serviceId.val).multisig = multisig) (nonzero : multisig ≠ 0)
    (agreed : (s.mapServices serviceId.val).threshold.val = threshold)
    (report : ServiceRegistry.getAgentInstances (s.mapServices serviceId.val) serviceId.val s =
      .ok instances)
    (here : m.safes multisig = some safe) (valid : safe.Valid multisig)
    (enabled : m.self ≠ Safe.sentinel ∧ m.self ∈ safe.modules) :
    (safe.owners = [serviceOwner] → safe.threshold = 1 → instances ≠ [] → instances.Nodup →
      (∀ a ∈ instances, a ≠ 0 ∧ a ≠ Safe.sentinel ∧ a ≠ multisig ∧ a ≠ serviceOwner) →
      1 ≤ threshold → threshold ≤ instances.length →
      ∃ m' after, RecoveryModule.create code m.serviceRegistry instances threshold
          (RecoveryModule.encodeServiceId serviceId.val) s m = .ok (m', multisig) ∧
        m'.safes = Function.update m.safes multisig (some after) ∧
        after.owners = instances.reverse ∧ after.threshold = threshold ∧
        ∀ (s' : RegistryState) (later : RecoveryState), later.safes multisig = some after →
          later.self = m.self → later.locked ≤ 1 →
          s'.erc721.ownerOf serviceId.val = .ok serviceOwner →
          (s'.mapServices serviceId.val).state = .preRegistration →
          (s'.mapServices serviceId.val).multisig = multisig →
          ∃ final,
            RecoveryModule.recoverAccess code serviceOwner serviceId.val s' later = .ok final ∧
            Recovered final multisig serviceOwner) ∧
    (¬ (safe.owners = [serviceOwner] ∧ safe.threshold = 1) →
      ∀ m' found, RecoveryModule.create code m.serviceRegistry instances threshold
          (RecoveryModule.encodeServiceId serviceId.val) s m = .ok (m', found) →
        m'.safes = m.safes ∧ safe.owners = instances.reverse ∧ safe.threshold = threshold) := by
  subst pointed agreed
  have passed := checkService_passes unlocked owner nonzero report
  constructor
  · intro owners _ some_ nodup proper positive reachable
    have apart : serviceOwner ∉ instances := fun member => (proper _ member).2.2.2 rfl
    have handed := @handOver_recovered _ _ _ { m with locked := 2 } _ _ _ management here enabled
      valid owners some_ nodup (fun a member => ⟨(proper a member).1, (proper a member).2.1,
        (proper a member).2.2.1⟩) apart positive reachable
    have ran := create_returns passed handed (Function.update_self _ _ _) rfl rfl
    have held : (⟨instances.reverse, (s.mapServices serviceId.val).threshold.val, safe.modules⟩ :
        Safe).Valid (s.mapServices serviceId.val).multisig := by
      refine ⟨List.nodup_reverse.mpr nodup, fun a member => ?_, positive, ?_⟩
      · obtain ⟨nonzero, notSentinel, other, -⟩ := proper a (List.mem_reverse.mp member)
        exact ⟨nonzero, notSentinel, other⟩
      · rw [List.length_reverse]
        exact reachable
    obtain ⟨-, notSentinel, other⟩ := valid.proper serviceOwner (by rw [owners]; simp)
    refine ⟨_, _, ran, rfl, rfl, rfl, ?_⟩
    intro s' later there self unlocked owner state multisig
    rw [← multisig] at there held nonzero other ⊢
    exact access_recovered_again management there held (self ▸ enabled) unlocked owner state nonzero
      notSentinel other fun member => apart (List.mem_reverse.mp member)
  · intro other m' found ran
    obtain ⟨serviceOwner', next, passed', handed, rfl, after, there, order, sameThreshold⟩ :=
      create_verified ran
    rw [passed] at passed'
    obtain ⟨rfl, rfl⟩ := Prod.mk.inj (Except.ok.inj passed')
    have alone : safe.owners ≠ [serviceOwner] := by
      intro owners
      have reachable := valid.reachable
      rw [owners] at reachable
      exact other ⟨owners, Nat.le_antisymm reachable valid.positive⟩
    rw [@handOver_other _ _ _ { m with locked := 2 } _ _ _ here alone] at handed
    obtain rfl := Except.ok.inj handed
    have same := Option.some.inj (here.symm.trans there)
    exact ⟨rfl, same ▸ order, same ▸ sameThreshold⟩

end Redeploy

/-- The recovered Safe of service 1, which is complete again with the instances 5 and 6. -/
theorem redeployed_on_recovered_two_instances :
    ∃ c m' after, Reachable (registryMachine .l2) managedDiscipline
        (RegistryWorld.deployment 1) c ∧
      RecoveryModule.create linkedSafe 20 [5, 6] 2 (RecoveryModule.encodeServiceId 1) c.state.store
        { recoveryModule with safes := fun a => if a = 9 then some ⟨[3], 1, [8]⟩ else none } =
          .ok (m', 9) ∧ m'.safes 9 = some after ∧ after.owners = [6, 5] ∧ after.threshold = 2 := by
  obtain ⟨c, run, seen⟩ := Machine.play_observed managedDiscipline (registryMachine .l2)
    (RegistryWorld.deployment 1) (undeployedScript 6 ++ fillScript)
    (fun c => ((c.state.store.mapServices 1).multisig, (c.state.store.mapServices 1).threshold.val,
      (c.state.store.erc721.ownerOf 1).toOption,
      (ServiceRegistry.getAgentInstances (c.state.store.mapServices 1) 1
        c.state.store).toOption))
    (9, 2, some 3, some [5, 6]) (by decide +kernel)
  obtain ⟨multisig, rest⟩ := Prod.mk.inj seen
  obtain ⟨threshold, rest⟩ := Prod.mk.inj rest
  obtain ⟨owner, report⟩ := Prod.mk.inj rest
  have valid : (⟨[3], 1, [8]⟩ : Safe).Valid 9 := by
    refine ⟨List.nodup_singleton 3, fun a member => ?_, by decide, by decide⟩
    rw [List.mem_singleton.mp member]
    decide
  have proper : ∀ a ∈ [(5 : Address), 6], a ≠ 0 ∧ a ≠ Safe.sentinel ∧ a ≠ 9 ∧ a ≠ 3 := by
    simp [Safe.sentinel]
  obtain ⟨m', after, ran, safes, owners, sameThreshold, -⟩ := (@redeployed_on_recovered linkedSafe
    9 3 1 c.state.store
    { recoveryModule with safes := fun a => if a = 9 then some ⟨[3], 1, [8]⟩ else none }
    [5, 6] 2 ⟨[3], 1, [8]⟩ linkedSafe_management (by decide) (toOption_eq_some.mp owner) multisig
    (by decide) threshold (toOption_eq_some.mp report) rfl valid (by decide)).1 rfl rfl
    (by decide) (by decide) proper (by decide) (by decide)
  exact ⟨c, m', after, run, ran, by rw [safes, Function.update_self], owners, sameThreshold⟩

end AutonolasRegistries.Guarantees
