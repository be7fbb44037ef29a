import AutonolasRegistries.Library.CallPieces
import AutonolasRegistries.Guarantees.BondsCovered
import AutonolasRegistries.Guarantees.Leaving
import AutonolasRegistries.Guarantees.TokenConservation

/-!
# Leaving a service that is secured by a token

The owner of a token-secured service can terminate it, and its operators can unbond: the
functions of the manager go through all their transfers, whatever other calls come in
between, and pay the deposit and the balances the token utility has on record, out of tokens
it has. `ServiceManager.sol:507-550`, `ServiceRegistryTokenUtility.sol:474-546`.
-/
namespace AutonolasRegistries.Guarantees
open Library Source Model ServiceRegistryTokenUtility

section Meanwhile
variable {setup : Setup} {w w' : SystemWorld} {frames pending : List SystemFrame}
  {serviceId : Nat}

/-- The calls of others that wait for a payment of the registry or the token utility. -/
def Outside : SystemFrame → Prop
  | .registry .refund | .utility (.refund _) => True
  | _ => False

/-- What nobody but the manager changes about a service: the record, the token deposit and,
unless the service is deployed and can be slashed, everything else. -/
structure Aside (w w' : SystemWorld) (serviceId : Nat) : Prop where
  service : w'.registry.store.mapServices serviceId = w.registry.store.mapServices serviceId
  secured : w'.utility.store.mapServiceIdTokenDeposit serviceId =
    w.utility.store.mapServiceIdTokenDeposit serviceId
  whole : (w.registry.store.mapServices serviceId).state ≠ .deployed →
    sheet w'.registry.store serviceId = sheet w.registry.store serviceId ∧
      tokenSheet w'.utility.store serviceId = tokenSheet w.utility.store serviceId

namespace Aside

theorem refl (w : SystemWorld) (serviceId : Nat) : Aside w w serviceId :=
  ⟨rfl, rfl, fun _ => ⟨rfl, rfl⟩⟩

theorem trans {w'' : SystemWorld} (first : Aside w w' serviceId)
    (second : Aside w' w'' serviceId) : Aside w w'' serviceId := by
  refine ⟨second.service.trans first.service, second.secured.trans first.secured, fun calm => ?_⟩
  obtain ⟨sheets, tokens⟩ := first.whole calm
  obtain ⟨sheets', tokens'⟩ := second.whole (by rwa [first.service])
  exact ⟨sheets'.trans sheets, tokens'.trans tokens⟩

theorem of_sheets (sheets : sheet w'.registry.store serviceId = sheet w.registry.store serviceId)
    (secured : w'.utility.store.mapServiceIdTokenDeposit serviceId =
      w.utility.store.mapServiceIdTokenDeposit serviceId)
    (tokens : tokenSheet w'.utility.store serviceId = tokenSheet w.utility.store serviceId) :
    Aside w w' serviceId :=
  ⟨congrArg ServiceSheet.service sheets, secured, fun _ => ⟨sheets, tokens⟩⟩

end Aside

theorem registry_pending {edition : Edition} {r : RegistryWorld} {call : RegistryCall}
    {out : Outcome RegistryWorld RegistryFrame} {inner : List RegistryFrame}
    (base : RegistryBase r inner) (other : r.store.manager ≠ call.sender)
    (entered : r.enter edition call = .ok out) : ∀ frame ∈ out.pending, frame = .refund := by
  have kind := RegistryWorld.enter_transition base.1.registered.guarded entered
  cases kind with
  | create ran => exact absurd (ServiceRegistry.create_ok ran).1.2.1 other
  | deploy ran => exact absurd (ServiceRegistry.deploy_ok ran).1.2.1 other
  | terminate ran => exact absurd (ServiceRegistry.terminate_ok ran).1.2.1 other
  | drain | unbond =>
    intro frame member
    rw [RegistryWorld.refunding_pending] at member
    split at member
    · exact List.mem_singleton.mp member
    · cases member
  | _ =>
    intro frame member
    cases member

theorem registryCall_aside (known : Managed setup w frames) {call : RegistryCall}
    (other : call.sender ≠ setup.self) (small : serviceId < 2 ^ 32)
    {out : Outcome RegistryWorld RegistryFrame}
    (ran : w.registry.enter setup.edition call = .ok out) :
    Aside w (w.withRegistry out.state) serviceId ∧
      ∀ frame ∈ out.pending.map SystemFrame.registry, Outside frame := by
  have foreign : w.registry.store.manager ≠ call.sender := by
    rw [known.shape.authority]
    exact fun same => other (Subtype.ext same.symm)
  constructor
  · rcases registry_byOther known.registry foreign ran with same | ⟨target, moved⟩
    · exact .of_sheets (same serviceId) rfl rfl
    · obtain ⟨-, step, others⟩ := moved
      by_cases own : serviceId = target
      · subst own
        cases step with
        | slash deployed _ after =>
          exact ⟨congrArg ServiceSheet.service after, rfl, fun calm => absurd deployed calm⟩
      · exact .of_sheets (others serviceId small own) rfl rfl
  · intro frame member
    obtain ⟨inner, listed, rfl⟩ := List.mem_map.mp member
    rw [registry_pending known.registry foreign ran inner listed]
    trivial

theorem utilityCall_aside (known : Managed setup w frames) {call : UtilityCall}
    (other : call.sender ≠ setup.self) (small : serviceId < 2 ^ 32)
    {out : Outcome UtilityWorld UtilityFrame}
    (ran : w.utility.enter w.registry.store call = .ok out) :
    Aside w (w.withUtility out.state) serviceId ∧
      ∀ frame ∈ out.pending.map SystemFrame.utility, Outside frame := by
  have foreign : w.utility.store.manager ≠ call.sender := by
    rw [known.authority]
    exact fun same => other (Subtype.ext same.symm)
  have kind := utility_byOther foreign ran
  generalize out.state = u, out.pending = inner at kind ⊢
  cases kind with
  | @slash _ _ _ target _ ran =>
    have deployed := slash_deployed ran
    have bound := known.small (by rw [deployed]; decide)
    obtain ⟨-, balances, taken, slashed, rfl⟩ := slash_ok (widen bound) ran
    refine ⟨⟨rfl, rfl, fun calm => ⟨rfl, ?_⟩⟩, by simp⟩
    have different : serviceId ≠ target := by
      rintro rfl
      exact calm deployed
    have same : ∀ a, balances (operatorService a serviceId) =
        w.utility.store.mapOperatorAndServiceIdOperatorBalances (operatorService a serviceId) := by
      intro a
      refine slashed.others _ fun agentInstance _ shared => different ?_
      exact (operatorService_injective (widen small) (widen bound) shared).2
    simp only [SystemWorld.withUtility, tokenSheet, same]
  | @drain _ _ _ push ran =>
    refine ⟨?_, ?_⟩
    · obtain ⟨-, ⟨rfl, rfl⟩ | ⟨rfl, rfl⟩⟩ := drain_ok ran <;> exact .of_sheets rfl rfl rfl
    · intro frame member
      obtain ⟨inner, listed, rfl⟩ := List.mem_map.mp member
      cases push with
      | none => cases listed
      | some push =>
        rw [List.mem_singleton.mp listed]
        trivial
  | administer => exact ⟨.of_sheets rfl rfl rfl, by simp⟩

/-- While the manager waits, every call is one of somebody else. -/
theorem move_aside (known : Managed setup w frames) {call : SystemCall}
    (other : call.sender ≠ setup.self) (locked : ¬ w.manager.locked ≤ 1)
    (small : serviceId < 2 ^ 32) (move : SystemMove setup w call w' pending) :
    Aside w w' serviceId ∧ ∀ frame ∈ pending, Outside frame := by
  cases move with
  | createEth _ manager | createToken _ manager | updateEth manager | updateToken manager
  | activate manager | activateToken manager | register manager | registerToken manager
  | deploy manager | terminate manager | terminateToken manager | unbond manager
  | unbondToken manager => exact absurd manager.free locked
  | bindMultisig _ free => exact absurd free locked
  | administer _ _ registry utility =>
    refine ⟨.of_sheets (by rw [registry]) (by rw [utility]) (by rw [utility]), ?_⟩
    intro frame member
    cases member
  | registry direct ran =>
    subst direct
    exact registryCall_aside known other small ran
  | utility direct ran =>
    subst direct
    exact utilityCall_aside known other small ran

theorem resume_aside {frame : SystemFrame} {answer : SystemAnswer} (outside : Outside frame)
    (move : SystemReturn setup w answer frame w' pending) :
    Aside w w' serviceId ∧ pending = [] := by
  cases frame with
  | registry inner =>
    cases move with
    | registry ran =>
      cases inner with
      | refund =>
        cases RegistryWorld.resume_return ran
        exact ⟨.of_sheets rfl rfl rfl, rfl⟩
      | create | deploy => cases outside
  | utility inner =>
    cases move with
    | utility ran =>
      cases inner with
      | refund push =>
        simp only [UtilityWorld.resume, bind_eq_ok, pure_eq_ok] at ran
        obtain ⟨s, ran, rfl⟩ := ran
        rw [pushReturn_ok ran]
        exact ⟨.of_sheets rfl rfl rfl, rfl⟩
      | activate | register => cases outside
  | _ => cases outside

/-- What runs, and returns, while a call of the system is suspended. -/
def Meanwhile (setup : Setup) (w w' : SystemWorld) : Prop :=
  Reachable (systemMachine setup) (jointDiscipline setup) w ⟨w', []⟩

/-- The state above a suspended call of the manager. -/
structure Waited (setup : Setup) (serviceId : Nat) (below : SystemFrame) (w₀ w : SystemWorld)
    (frames : List SystemFrame) : Prop where
  known : Managed setup w (frames ++ [below])
  outside : ∀ frame ∈ frames, Outside frame
  aside : Aside w₀ w serviceId

theorem waited_preserved (small : serviceId < 2 ^ 32) {below : SystemFrame}
    (own : managed below = true) (w₀ : SystemWorld) :
    Preserved (systemMachine setup) (jointDiscipline setup) always
      (Waited setup serviceId below w₀) := by
  intro w frames w' frames' taken _ before
  have known := (managed_preserved setup).under [below] _ _ _ _ taken trivial before.known
  cases taken with
  | entered call allowed ran =>
    have locked : ¬ w.manager.locked ≤ 1 := by
      intro free
      have quiet := before.known.shape.free free below (List.mem_append_right _ List.mem_cons_self)
      rw [own] at quiet
      cases quiet
    obtain ⟨aside, outside⟩ := move_aside before.known allowed.1.1 locked small
      (SystemWorld.enter_move ran)
    refine ⟨known, fun frame member => ?_, before.aside.trans aside⟩
    rcases List.mem_append.mp member with new | old
    · exact outside frame new
    · exact before.outside frame old
  | @resumed frame rest out answer allowed ran =>
    have here := before.outside frame List.mem_cons_self
    obtain ⟨aside, none⟩ := resume_aside here (SystemWorld.resume_return ran)
    refine ⟨known, fun other member => ?_, before.aside.trans aside⟩
    rw [none, List.nil_append] at member
    exact before.outside other (List.mem_cons_of_mem _ member)

/-- A call of the manager finds its service as it left it. -/
theorem Meanwhile.waited {below : SystemFrame} (small : serviceId < 2 ^ 32)
    (own : managed below = true) (known : Managed setup w [below])
    (meanwhile : Meanwhile setup w w') : Managed setup w' [below] ∧ Aside w w' serviceId := by
  have waited := Reachable.invariant (waited_preserved small own w)
    ⟨known, by simp, .refl w serviceId⟩ meanwhile
  exact ⟨waited.known, waited.aside⟩

end Meanwhile

section Locks
variable {setup : Setup} {w w' : SystemWorld} {frames pending : List SystemFrame}

/-- The calls that hold the lock of the token utility. -/
def HoldsUtility : SystemFrame → Prop
  | .utility _ | .activate .. | .register .. | .terminate .. | .unbond .. => True
  | _ => False

/-- The token utility is locked only while some call holds its lock. -/
def UtilityFree (w : SystemWorld) (frames : List SystemFrame) : Prop :=
  (∃ frame ∈ frames, HoldsUtility frame) ∨ w.utility.store.locked ≤ 1

theorem move_utilityFree (known : Managed setup w frames) {call : SystemCall}
    (other : call.sender ≠ setup.self) (move : SystemMove setup w call w' pending)
    (free : w.utility.store.locked ≤ 1) : UtilityFree w' pending := by
  have holding {frame : SystemFrame} (holds : HoldsUtility frame) : UtilityFree w' [frame] :=
    .inl ⟨frame, List.mem_cons_self, holds⟩
  cases move with
  | createEth _ _ _ _ utility | deploy _ _ _ utility | administer _ _ _ utility =>
    refine .inr ?_
    rwa [utility]
  | createToken _ _ _ _ recorded _ _ utility | updateToken _ _ _ recorded _ _ utility =>
    refine .inr ?_
    rw [utility, (createWithToken_ok recorded).2]
    exact free
  | updateEth _ _ _ reset _ utility =>
    refine .inr ?_
    rw [utility, (resetServiceToken_ok reset).2]
    exact free
  | activate _ unsecured _ _ utility =>
    obtain ⟨-, -, ⟨-, -, rfl⟩ | ⟨_, _, -, wrong, -⟩⟩ :=
      activateRegistrationTokenDeposit_ok unsecured
    · refine .inr ?_
      rw [utility]
    · cases wrong
  | register _ _ unsecured _ _ utility =>
    obtain ⟨-, -, ⟨-, -, rfl⟩ | ⟨_, -, wrong, -⟩⟩ := registerAgentsTokenDeposit_ok unsecured
    · refine .inr ?_
      rw [utility]
    · cases wrong
  | terminate _ unsecured _ _ utility =>
    obtain ⟨-, -, ⟨-, -, rfl⟩ | ⟨_, -, wrong, -⟩⟩ := terminateTokenRefund_ok unsecured
    · refine .inr ?_
      rw [utility]
    · cases wrong
  | unbond _ unsecured _ _ _ utility =>
    obtain ⟨-, -, ⟨-, -, rfl⟩ | ⟨-, wrong, -⟩⟩ := unbondTokenRefund_ok unsecured
    · refine .inr ?_
      rw [utility]
    · cases wrong
  | activateToken | registerToken | terminateToken | unbondToken => exact holding trivial
  | bindMultisig _ _ after =>
    subst after
    exact .inr free
  | registry => exact .inr free
  | @utility asked out direct ran =>
    subst direct
    have foreign : w.utility.store.manager ≠ asked.sender := by
      rw [known.authority]
      exact fun same => other (Subtype.ext same.symm)
    have kind := utility_byOther foreign ran
    generalize out.state = u, out.pending = inner at kind ⊢
    cases kind with
    | slash ran =>
      have bound := known.small (by rw [slash_deployed ran]; decide)
      obtain ⟨-, _, _, -, rfl⟩ := slash_ok (widen bound) ran
      exact .inr free
    | drain ran =>
      obtain ⟨-, ⟨rfl, rfl⟩ | ⟨rfl, rfl⟩⟩ := drain_ok ran
      · exact .inr (le_refl 1)
      · exact .inl ⟨_, List.mem_cons_self, trivial⟩
    | administer => exact .inr free

theorem resume_unlocks {u u' : UtilityWorld} {inner : UtilityFrame} {answer : TokenAnswer}
    (ran : u.resume inner answer = .ok u') : u'.store.locked ≤ 1 := by
  cases inner with
  | activate | register =>
    simp only [UtilityWorld.resume, bind_eq_ok, pure_eq_ok] at ran
    obtain ⟨s, ran, rfl⟩ := ran
    rw [pullReturn_ok ran]
    exact le_refl 1
  | refund =>
    simp only [UtilityWorld.resume, bind_eq_ok, pure_eq_ok] at ran
    obtain ⟨s, ran, rfl⟩ := ran
    rw [pushReturn_ok ran]

theorem return_utilityFree {frame : SystemFrame} {answer : SystemAnswer}
    (move : SystemReturn setup w answer frame w' pending)
    (free : HoldsUtility frame ∨ w.utility.store.locked ≤ 1) : w'.utility.store.locked ≤ 1 := by
  cases move with
  | utility ran | activate _ ran | register _ ran | terminate _ ran | unbond _ ran =>
    exact resume_unlocks ran
  | registry | bridger => exact free.resolve_left id
  | create _ _ _ utility | deploy _ _ _ _ _ utility | refund _ _ utility =>
    rw [utility]
    exact free.resolve_left id

theorem utilityFree_preserved (setup : Setup) :
    Preserved (systemMachine setup) (jointDiscipline setup) (Managed setup) UtilityFree := by
  intro w frames w' frames' taken known before
  cases taken with
  | entered call allowed ran =>
    rcases before with ⟨frame, member, holds⟩ | free
    · exact .inl ⟨frame, List.mem_append_right _ member, holds⟩
    · have move := SystemWorld.enter_move ran
      rcases move_utilityFree known allowed.1.1 move free with ⟨frame, member, holds⟩ | free
      · exact .inl ⟨frame, List.mem_append_left _ member, holds⟩
      · exact .inr free
  | @resumed frame rest out answer allowed ran =>
    have move := SystemWorld.resume_return ran
    rcases before with ⟨holder, member, holds⟩ | free
    · rcases List.mem_cons.mp member with rfl | below
      · exact .inr (return_utilityFree move (.inl holds))
      · exact .inl ⟨holder, List.mem_append_right _ below, holds⟩
    · exact .inr (return_utilityFree move (.inr free))

/-- What is known of the system at every external call. -/
structure Accounts (setup : Setup) (w : SystemWorld) (frames : List SystemFrame) : Prop where
  known : Managed setup w frames
  sound : EscrowSound (escrow w frames)
  free : UtilityFree w frames

theorem accounts_preserved (setup : Setup) :
    Preserved (systemMachine setup) (jointDiscipline setup) always (Accounts setup) := by
  intro w frames w' frames' taken _ before
  constructor
  · exact managed_preserved setup _ _ _ _ taken trivial before.known
  · exact before.sound.step (local_escrow before.known taken)
  · exact utilityFree_preserved setup _ _ _ _ taken before.known before.free

theorem Fresh.accounts {start : SystemWorld} (fresh : Fresh setup start) :
    Accounts setup start [] := by
  refine ⟨fresh.managed, fresh.sound, .inr ?_⟩
  obtain ⟨-, ⟨self, deployer, utility⟩, -⟩ := fresh
  rw [utility]
  exact le_refl 1

/-- What is known of the system when no call is suspended. -/
structure Between (setup : Setup) (w : SystemWorld) : Prop where
  known : Managed setup w []
  sound : EscrowSound (escrow w [])
  manager : w.manager.locked ≤ 1
  utility : w.utility.store.locked ≤ 1
  registry : w.registry.store.locked ≤ 1

theorem Accounts.between (accounts : Accounts setup w []) : Between setup w := by
  refine ⟨accounts.known, accounts.sound, ?_, ?_, ?_⟩
  · by_contra locked
    have one := accounts.known.shape.lock
    rw [if_neg locked] at one
    cases one
  · exact accounts.free.resolve_left (by simp)
  · cases accounts.known.registry.1.lock with
    | idle unlocked => exact le_of_eq unlocked

end Locks

section Exit
variable {setup : Setup} {w w' : SystemWorld} {serviceId : Nat} {sender : Address}

/-- What a payment of the two functions may find when it has gone out: the token says it is
paid and the NFT is still with the owner who terminates, and the refund in ETH is taken. -/
def Accepts : SystemFrame → SystemAnswer → SystemWorld → Prop
  | .terminate sender serviceId _, answer, w =>
    answer.token.success = true ∧ w.registry.store.erc721.owners serviceId = sender
  | .unbond .., answer, _ => answer.token.success = true
  | .refund .., answer, _ => answer.registry.result = true
  | _, _, _ => True

theorem Managed.unlocked {frame : SystemFrame} (known : Managed setup w [frame])
    (outer : registryFrame frame = []) : w.registry.store.locked ≤ 1 := by
  have lock := known.registry.1.lock
  rw [List.flatMap_cons, outer] at lock
  cases lock with
  | idle free => exact le_of_eq free

theorem pushReturn_goes {u : UtilityWorld} {push : TokenPush} {answer : TokenAnswer}
    (paid : answer.success = true) :
    u.resume (.refund push) answer = .ok { u with store := unlock u.store } := by
  simp [UtilityWorld.resume, pushReturn, paid, revertIf]

/-- The registry's refund, if it is taken, is the last thing a function of the manager waits
for. -/
theorem refund_resumes {answer : SystemAnswer} (returned : Nat)
    (taken : answer.registry.result = true) :
    w.resume setup (.refund returned .refund) answer = .ok (ServiceManager.finish returned
      (w.withRegistry
        { w.registry with store := ServiceRegistry.unlock w.registry.store })) := by
  simp only [SystemWorld.resume, SystemWorld.afterRegistry, RegistryWorld.refund_taken taken,
    ok_bind]

/-- The part of `terminate` in the registry. -/
theorem terminateInRegistry_goes (free : w.registry.store.locked ≤ 1)
    (authority : w.registry.store.manager = setup.self) (someone : sender ≠ 0)
    (owns : w.registry.store.erc721.owners serviceId = sender)
    (held : (w.registry.store.mapServices serviceId).state.holdsDeposit = true)
    (tokenRefund : Nat) :
    ∃ r returned, ServiceManager.terminateInRegistry setup sender serviceId tokenRefund w =
        .ok (.suspended (w.withRegistry r) (.refund returned .refund)) ∧
      (r.store.mapServices serviceId).state.holdsDeposit = false := by
  have goes : ∃ s refund, ServiceRegistry.terminate setup.edition setup.self sender serviceId
      w.registry.store = .ok (s, refund) := by
    simp only [ServiceRegistry.terminate, bind_eq_ok, revertIf_eq_ok, exists_const, pure_eq_ok,
      ERC721.ownerOf_eq_ok, Prod.mk.injEq, not_lt, ne_eq, not_not, not_or]
    refine ⟨_, _, free, authority, _, ⟨?_, rfl⟩, owns, ⟨?_, ?_⟩, rfl, rfl⟩
    · rw [owns]
      exact someone
    · intro state
      rw [state] at held
      cases held
    · intro state
      rw [state] at held
      cases held
  obtain ⟨s, refund, ran⟩ := goes
  refine ⟨{ w.registry with store := s, paid := w.registry.paid + refund },
    if 0 < tokenRefund then tokenRefund else refund, ?_, ?_⟩
  · simp only [ServiceManager.terminateInRegistry, ServiceManager.refundInRegistry,
      RegistryWorld.reply, RegistryWorld.enter, ran]
    rfl
  · obtain ⟨-, -, _, _, rfl⟩ := ServiceRegistry.terminate_ok ran
    simp only [Function.update_self]
    split <;> rfl

/-- What the registry and the token utility have on record for an operator that left. -/
structure Discharged (operator : Address) (serviceId : Nat) (w : SystemWorld) : Prop where
  instances : (sheet w.registry.store serviceId).operators operator = []
  balance : (sheet w.registry.store serviceId).balances operator = 0
  tokens : (tokenSheet w.utility.store serviceId).balances operator = 0

/-- The part of `unbond` in the registry, which refunds ETH if there is any. -/
theorem unbondInRegistry_goes (free : w.registry.store.locked ≤ 1)
    (authority : w.registry.store.manager = setup.self) {operator : Address}
    (someone : operator ≠ 0) (book : OperatorBook (sheet w.registry.store serviceId))
    (state : (w.registry.store.mapServices serviceId).state = .terminatedBonded)
    (bonded : (sheet w.registry.store serviceId).operators operator ≠ [])
    (paid : (tokenSheet w.utility.store serviceId).balances operator = 0) (tokenRefund : Nat) :
    ∃ out, ServiceManager.unbondInRegistry setup operator serviceId tokenRefund w = .ok out ∧
      Discharged operator serviceId out.state ∧
      (out.state.registry.store.mapServices serviceId).state ≠ .deployed ∧
      ((∃ w'', out = .done w'') ∨
        ∃ w'' returned, out = .suspended w'' (.refund returned .refund)) := by
  have counted : ((sheet w.registry.store serviceId).operators operator).length ≤
      (w.registry.store.mapServices serviceId).numAgentInstances :=
    le_of_le_of_eq
      (le_total (fun a => ((sheet w.registry.store serviceId).operators a).length) operator)
      book.counted.symm
  have sum := bondOf_lt (sheet w.registry.store serviceId).params
    ((sheet w.registry.store serviceId).operators operator) (lt_of_le_of_lt counted book.fits)
  have goes : ∃ s, ServiceRegistry.unbond setup.self operator serviceId w.registry.store =
      .ok (s, (sheet w.registry.store serviceId).balances operator) := by
    simp only [ServiceRegistry.unbond, bind_eq_ok, revertIf_eq_ok, exists_const,
      checkedAdd_eq_ok, checkedSub_eq_ok, pure_eq_ok, Prod.mk.injEq, not_lt, ne_eq, not_not,
      Nat.zero_add]
    refine ⟨_, free, authority, someone, state, ?_, _, ⟨?_, rfl⟩, _, ⟨sum, rfl⟩, rfl,
      book.refund_eq operator⟩
    · exact fun none => bonded (List.length_eq_zero_iff.mp none)
    · exact le_of_eq_of_le (book.length_mod operator) counted
  obtain ⟨s, ran⟩ := goes
  have ran' : ∃ out, ServiceManager.unbondInRegistry setup operator serviceId tokenRefund w =
      .ok out := by
    have entered : w.registry.enter setup.edition (.unbond setup.self operator serviceId) =
        .ok (w.registry.refunding s ((sheet w.registry.store serviceId).balances operator)) := by
      simp only [RegistryWorld.enter, ran]
      rfl
    simp only [ServiceManager.unbondInRegistry, ServiceManager.refundInRegistry,
      RegistryWorld.reply, ran, entered]
    generalize w.registry.refunding s _ = reached
    cases reached <;> exact ⟨_, rfl⟩
  obtain ⟨out, ran'⟩ := ran'
  obtain ⟨s', refund, returned, unbonded, -, registry, utility, pending⟩ := unbondInRegistry_ok ran'
  rw [ran] at unbonded
  cases unbonded
  obtain ⟨_, rfl, -, refund, after⟩ := ServiceRegistry.unbond_ok ran
  have stored : out.state.registry.store =
      { s with locked := out.state.registry.store.locked } := by
    rw [registry, RegistryWorld.refunding_store]
    split <;> rfl
  refine ⟨out, ran', ⟨?_, ?_, ?_⟩, ?_, ?_⟩
  · rw [stored, after]
    simp [sheet]
  · rw [stored, after]
    have cleared := book.cleared operator
    rw [book.refund_eq] at cleared
    simpa [sheet] using cleared
  · rw [utility]
    exact paid
  · rw [stored, after]
    simp only [Function.update_self, state]
    split <;> decide
  · cases out with
    | done w'' => exact .inl ⟨w'', rfl⟩
    | suspended w'' frame =>
      rw [RegistryWorld.refunding_pending] at pending
      split at pending
      · cases pending
        exact .inr ⟨w'', returned, rfl⟩
      · cases pending

/-- The last wait of a function of the manager changes nothing of its service. -/
theorem refund_waits {returned : Nat} {post : SystemWorld → Prop} (small : serviceId < 2 ^ 32)
    (known : Managed setup w [.refund returned .refund])
    (kept : ∀ w', Aside w w' serviceId → post w') :
    GoesThrough (systemMachine setup) (Meanwhile setup) Accepts post
      (.suspended w (.refund returned .refund)) := by
  apply GoesThrough.next
  intro paid answer meanwhile taken
  obtain ⟨-, aside⟩ := meanwhile.waited small rfl known
  refine ⟨_, refund_resumes returned taken, .returned (kept _ (aside.trans ?_))⟩
  exact .of_sheets rfl rfl rfl

/-- One call of the manager, from where nothing is suspended. -/
theorem Between.calls (here : Between setup w) {call : SystemCall}
    {out : Outcome SystemWorld SystemFrame} (allowed : (jointDiscipline setup).call call w)
    (ran : w.enter setup call = .ok out) : Managed setup out.state out.pending := by
  have after := managed_preserved setup _ _ _ _ (.entered call allowed ran) trivial here.known
  rwa [List.append_nil] at after

theorem Managed.resumes {frame : SystemFrame} {answer : SystemAnswer}
    (known : Managed setup w [frame]) {out : Outcome SystemWorld SystemFrame}
    (ran : w.resume setup frame answer = .ok out) : Managed setup out.state out.pending := by
  have after := managed_preserved setup _ _ _ _ (.resumed answer trivial ran) trivial known
  rwa [List.append_nil] at after

/-- The manager waits for tokens on their way out, with the token utility at `s`. -/
def sending (w : SystemWorld) (s : UtilityState) (push : TokenPush) : SystemWorld :=
  { w with
    manager := { w.manager with locked := 2 }
    utility := { w.utility with
      store := s
      sent := credit w.utility.sent push.token push.amount } }

/-- The deposit goes back to the owner. -/
def depositPush (w : SystemWorld) (serviceId : Nat) : TokenPush :=
  ⟨(w.utility.store.mapServiceIdTokenDeposit serviceId).token,
    w.registry.store.erc721.owners serviceId,
    (w.utility.store.mapServiceIdTokenDeposit serviceId).securityDeposit⟩

/-- The balance goes back to the operator. -/
def balancePush (w : SystemWorld) (serviceId : Nat) (operator : Address) : TokenPush :=
  ⟨(w.utility.store.mapServiceIdTokenDeposit serviceId).token, operator,
    w.utility.store.mapOperatorAndServiceIdOperatorBalances (operatorService operator serviceId)⟩

/-- The first half of `terminate` of a service with a token. -/
theorem terminate_starts (here : Between setup w) {owner : Caller}
    (secured : (w.utility.store.mapServiceIdTokenDeposit serviceId).token ≠ 0)
    (owns : w.registry.store.erc721.owners serviceId = owner) :
    w.enter setup (.manager (.terminate owner serviceId)) = .ok (.suspended
      (sending w { w.utility.store with locked := 2 } (depositPush w serviceId))
      (.terminate owner serviceId (.refund (depositPush w serviceId)))) := by
  have minted : w.registry.store.erc721.ownerOf serviceId =
      .ok (w.registry.store.erc721.owners serviceId) := by
    rw [ERC721.ownerOf_eq_ok, owns]
    exact ⟨owner.property, rfl⟩
  have refunds : terminateTokenRefund w.registry.store setup.self serviceId w.utility.store =
      .ok ({ w.utility.store with locked := 2 }, some (depositPush w serviceId)) := by
    simp only [terminateTokenRefund, bind_eq_ok, revertIf_eq_ok, exists_const, not_lt, ne_eq,
      not_not]
    refine ⟨here.utility, here.known.authority, ?_⟩
    rw [if_pos secured, minted]
    rfl
  have locks := lock_eq_ok.mpr ⟨here.manager, rfl⟩
  simp only [SystemWorld.enter, ServiceManager.enter, ServiceManager.terminate, locks,
    SystemWorld.withManager, UtilityWorld.enter, ok_bind, refunds]
  rfl

/-- The first half of `unbond` for an operator with a balance of tokens. -/
theorem unbond_starts (here : Between setup w) {operator : Caller}
    (secured : (w.utility.store.mapServiceIdTokenDeposit serviceId).token ≠ 0)
    (owed : 0 < w.utility.store.mapOperatorAndServiceIdOperatorBalances
      (operatorService operator serviceId)) :
    w.enter setup (.manager (.unbond operator serviceId)) = .ok (.suspended
      (sending w { w.utility.store with
        locked := 2
        mapOperatorAndServiceIdOperatorBalances :=
          Function.update w.utility.store.mapOperatorAndServiceIdOperatorBalances
            (operatorService operator serviceId) 0 } (balancePush w serviceId operator))
      (.unbond operator serviceId (.refund (balancePush w serviceId operator)))) := by
  have refunds : unbondTokenRefund setup.self operator serviceId w.utility.store = .ok
      ({ w.utility.store with
        locked := 2
        mapOperatorAndServiceIdOperatorBalances :=
          Function.update w.utility.store.mapOperatorAndServiceIdOperatorBalances
            (operatorService operator serviceId) 0 }, some (balancePush w serviceId operator)) := by
    simp only [unbondTokenRefund, bind_eq_ok, revertIf_eq_ok, exists_const, not_lt, ne_eq,
      not_not]
    refine ⟨here.utility, here.known.authority, ?_⟩
    rw [if_pos ⟨secured, owed⟩]
    rfl
  have locks := lock_eq_ok.mpr ⟨here.manager, rfl⟩
  simp only [SystemWorld.enter, ServiceManager.enter, ServiceManager.unbond,
    ServiceManager.unbondWithTokens, locks, SystemWorld.withManager, UtilityWorld.enter, ok_bind,
    refunds]
  rfl

/-- An operator that was slashed to nothing goes on in the registry. -/
theorem unbond_skips (here : Between setup w) {operator : Caller}
    (spent : w.utility.store.mapOperatorAndServiceIdOperatorBalances
      (operatorService operator serviceId) = 0) :
    w.enter setup (.manager (.unbond operator serviceId)) =
      ServiceManager.unbondInRegistry setup operator serviceId 0 { w with
        manager := { w.manager with locked := 2 }
        utility := { w.utility with store := unlock w.utility.store } } := by
  have refunds : unbondTokenRefund setup.self operator serviceId w.utility.store =
      .ok (unlock w.utility.store, none) := by
    simp only [unbondTokenRefund, bind_eq_ok, revertIf_eq_ok, exists_const, not_lt, ne_eq,
      not_not]
    refine ⟨here.utility, here.known.authority, ?_⟩
    rw [if_neg (fun owed => Nat.ne_of_gt owed.2 spent)]
    rfl
  have locks := lock_eq_ok.mpr ⟨here.manager, rfl⟩
  simp only [SystemWorld.enter, ServiceManager.enter, ServiceManager.unbond,
    ServiceManager.unbondWithTokens, locks, SystemWorld.withManager, UtilityWorld.enter, ok_bind,
    refunds]
  rfl

theorem balances_owed {f : Folio} {token : Address} (own : f.tokens.token = token) :
    total f.tokens.balances ≤ tokensOwed token f := by
  rw [tokensOwed, if_pos own]
  exact Nat.le_add_left _ _

/-- What is owed to one service is there. -/
theorem Between.holds (here : Between setup w)
    (secured : (w.utility.store.mapServiceIdTokenDeposit serviceId).token ≠ 0) :
    w.utility.sent (w.utility.store.mapServiceIdTokenDeposit serviceId).token +
        tokensOwed (w.utility.store.mapServiceIdTokenDeposit serviceId).token
          ⟨sheet w.registry.store serviceId, tokenSheet w.utility.store serviceId⟩ ≤
      w.utility.pulled (w.utility.store.mapServiceIdTokenDeposit serviceId).token := by
  have balanced := here.sound.balanced _ secured
  have share := le_total (fun id => tokensOwed
    (w.utility.store.mapServiceIdTokenDeposit serviceId).token ((escrow w []).folios id))
    (serviceKey serviceId)
  simp only [escrow_folio (here.known.secured secured)] at share
  have none : transit (w.utility.store.mapServiceIdTokenDeposit serviceId).token
      (escrow w []).waiting = 0 := rfl
  have pulled : (escrow w []).pulled = w.utility.pulled := rfl
  have sent : (escrow w []).sent = w.utility.sent := rfl
  rw [none, pulled, sent] at balanced
  omega

/-- The token utility takes note of a transfer, and the registry comes next. -/
theorem terminate_resumes {push : TokenPush} {answer : SystemAnswer} (owner : Address)
    (serviceId : Nat) (paid : answer.token.success = true) :
    w.resume setup (.terminate owner serviceId (.refund push)) answer =
      ServiceManager.terminateInRegistry setup owner serviceId push.amount
        (w.withUtility { w.utility with store := unlock w.utility.store }) := by
  simp only [SystemWorld.resume, pushReturn_goes paid, ok_bind]
  rfl

theorem unbond_resumes {push : TokenPush} {answer : SystemAnswer} (operator : Address)
    (serviceId : Nat) (paid : answer.token.success = true) :
    w.resume setup (.unbond operator serviceId (.refund push)) answer =
      ServiceManager.unbondInRegistry setup operator serviceId push.amount
        (w.withUtility { w.utility with store := unlock w.utility.store }) := by
  simp only [SystemWorld.resume, pushReturn_goes paid, ok_bind]
  rfl

/-- The owner's `terminate`, from the transfer of the deposit on. -/
theorem terminate_waits {owner : Address} {push : TokenPush} (someone : owner ≠ 0)
    (small : serviceId < 2 ^ 32)
    (known : Managed setup w [.terminate owner serviceId (.refund push)])
    (held : (w.registry.store.mapServices serviceId).state.holdsDeposit = true) :
    GoesThrough (systemMachine setup) (Meanwhile setup) Accepts
      (fun w' => (w'.registry.store.mapServices serviceId).state.holdsDeposit = false)
      (.suspended w (.terminate owner serviceId (.refund push))) := by
  apply GoesThrough.next
  intro paid answer meanwhile accepted
  obtain ⟨success, owns⟩ := accepted
  obtain ⟨known, aside⟩ := meanwhile.waited small rfl known
  rw [← aside.service] at held
  obtain ⟨r, returned, ran, ended⟩ := terminateInRegistry_goes
    (w := paid.withUtility { paid.utility with store := unlock paid.utility.store })
    (known.unlocked rfl) known.shape.authority someone owns held push.amount
  have resumed := (terminate_resumes owner serviceId success).trans ran
  refine ⟨_, resumed, refund_waits small (known.resumes resumed) fun w' kept => ?_⟩
  rw [kept.service]
  exact ended

/-- The end of `unbond`, with a refund of ETH or without. -/
theorem unbond_ends {operator : Address} {out : Outcome SystemWorld SystemFrame}
    (small : serviceId < 2 ^ 32) (known : Managed setup out.state out.pending)
    (settled : Discharged operator serviceId out.state)
    (calm : (out.state.registry.store.mapServices serviceId).state ≠ .deployed)
    (last : (∃ w'', out = .done w'') ∨
      ∃ w'' returned, out = .suspended w'' (.refund returned .refund)) :
    GoesThrough (systemMachine setup) (Meanwhile setup) Accepts (Discharged operator serviceId)
      out := by
  rcases last with ⟨w'', rfl⟩ | ⟨w'', returned, rfl⟩
  · exact .returned settled
  · apply refund_waits small known
    intro w' aside
    obtain ⟨sheets, tokens⟩ := aside.whole calm
    constructor
    · rw [sheets]
      exact settled.instances
    · rw [sheets]
      exact settled.balance
    · rw [tokens]
      exact settled.tokens

/-- An operator's `unbond`, from the transfer of its balance on. -/
theorem unbond_waits {operator : Address} {push : TokenPush} (someone : operator ≠ 0)
    (small : serviceId < 2 ^ 32)
    (known : Managed setup w [.unbond operator serviceId (.refund push)])
    (book : OperatorBook (sheet w.registry.store serviceId))
    (state : (w.registry.store.mapServices serviceId).state = .terminatedBonded)
    (bonded : (sheet w.registry.store serviceId).operators operator ≠ [])
    (paid : (tokenSheet w.utility.store serviceId).balances operator = 0) :
    GoesThrough (systemMachine setup) (Meanwhile setup) Accepts (Discharged operator serviceId)
      (.suspended w (.unbond operator serviceId (.refund push))) := by
  apply GoesThrough.next
  intro w' answer meanwhile success
  obtain ⟨known, aside⟩ := meanwhile.waited small rfl known
  obtain ⟨sheets, tokens⟩ := aside.whole (by rw [state]; decide)
  rw [← sheets] at book bonded
  rw [← tokens] at paid
  rw [← aside.service] at state
  obtain ⟨out, ran, settled, calm, last⟩ := unbondInRegistry_goes
    (w := w'.withUtility { w'.utility with store := unlock w'.utility.store })
    (known.unlocked rfl) known.shape.authority someone book state bonded paid push.amount
  have resumed := (unbond_resumes operator serviceId success).trans ran
  refine ⟨out, resumed, unbond_ends small (known.resumes resumed) settled calm last⟩

theorem Between.holds_deposit (here : Between setup w)
    (secured : (w.utility.store.mapServiceIdTokenDeposit serviceId).token ≠ 0)
    (held : (w.registry.store.mapServices serviceId).state.holdsDeposit = true) :
    w.utility.sent (depositPush w serviceId).token + (depositPush w serviceId).amount ≤
      w.utility.pulled (depositPush w serviceId).token := by
  have owed : tokensOwed (w.utility.store.mapServiceIdTokenDeposit serviceId).token
      ⟨sheet w.registry.store serviceId, tokenSheet w.utility.store serviceId⟩ =
      (depositPush w serviceId).amount + total (tokenSheet w.utility.store serviceId).balances :=
    tokensOwed_held rfl held
  have held := here.holds secured
  rw [owed] at held
  exact le_trans (Nat.add_le_add_left (Nat.le_add_right _ _) _) held

theorem Between.holds_balance (here : Between setup w)
    (secured : (w.utility.store.mapServiceIdTokenDeposit serviceId).token ≠ 0)
    (operator : Address) :
    w.utility.sent (balancePush w serviceId operator).token +
        (balancePush w serviceId operator).amount ≤
      w.utility.pulled (balancePush w serviceId operator).token := by
  have share : (balancePush w serviceId operator).amount ≤
      total (tokenSheet w.utility.store serviceId).balances :=
    le_total (tokenSheet w.utility.store serviceId).balances operator
  have owed := share.trans (balances_owed
    (f := ⟨sheet w.registry.store serviceId, tokenSheet w.utility.store serviceId⟩) rfl)
  exact le_trans (Nat.add_le_add_left owed _) (here.holds secured)

/-- The owner's `terminate`, as a whole. -/
theorem Between.terminates (here : Between setup w)
    (secured : (w.utility.store.mapServiceIdTokenDeposit serviceId).token ≠ 0)
    (held : (w.registry.store.mapServices serviceId).state.holdsDeposit = true)
    {owner : Caller} (other : owner ≠ setup.self)
    (owns : w.registry.store.erc721.owners serviceId = owner) :
    ∃ paying, w.enter setup (.manager (.terminate owner serviceId)) =
        .ok (.suspended paying (.terminate owner serviceId (.refund (depositPush w serviceId)))) ∧
      paying.utility.sent (depositPush w serviceId).token =
        w.utility.sent (depositPush w serviceId).token + (depositPush w serviceId).amount ∧
      paying.utility.sent (depositPush w serviceId).token ≤
        paying.utility.pulled (depositPush w serviceId).token ∧
      GoesThrough (systemMachine setup) (Meanwhile setup) Accepts
        (fun w => (w.registry.store.mapServices serviceId).state.holdsDeposit = false)
        (.suspended paying (.terminate owner serviceId (.refund (depositPush w serviceId)))) := by
  have entered := terminate_starts here secured owns
  have allowed : (jointDiscipline setup).call (.manager (.terminate owner serviceId)) w :=
    ⟨⟨other, trivial⟩, trivial, fun minted => by cases minted⟩
  refine ⟨_, entered, credit_self .., ?_, ?_⟩
  · exact le_of_eq_of_le (credit_self ..) (here.holds_deposit secured held)
  · exact terminate_waits owner.property (here.known.secured secured)
      (here.calls allowed entered) held

variable {start : SystemWorld} {c : Config SystemWorld SystemFrame}

/-- The owner of a service gets its deposit back and the service out of the states that hold
it, whatever runs while the two transfers are under way, if the token accepts the transfer, the
owner keeps the NFT meanwhile and then takes the registry's refund in ETH. -/
theorem owner_terminates_with_deposit (setup : Setup) (fresh : Fresh setup start)
    (run : Reachable (systemMachine setup) (jointDiscipline setup) start c)
    (between : c.frames = []) {serviceId : Nat}
    (secured : (c.state.utility.store.mapServiceIdTokenDeposit serviceId).token ≠ 0)
    (held : (c.state.registry.store.mapServices serviceId).state.holdsDeposit = true)
    {owner : Caller} (other : owner ≠ setup.self)
    (owns : c.state.registry.store.erc721.owners serviceId = owner) :
    let push := depositPush c.state serviceId
    ∃ paying, c.state.enter setup (.manager (.terminate owner serviceId)) =
        .ok (.suspended paying (.terminate owner serviceId (.refund push))) ∧
      paying.utility.sent push.token = c.state.utility.sent push.token + push.amount ∧
      paying.utility.sent push.token ≤ paying.utility.pulled push.token ∧
      GoesThrough (systemMachine setup) (Meanwhile setup) Accepts
        (fun w => (w.registry.store.mapServices serviceId).state.holdsDeposit = false)
        (.suspended paying (.terminate owner serviceId (.refund push))) := by
  have accounts := run.invariant (accounts_preserved setup) fresh.accounts
  rw [between] at accounts
  exact accounts.between.terminates secured held other owns

theorem owner_terminates_with_deposit_bonded :
    ∃ c push paying, Reachable (systemMachine exampleSetup) (jointDiscipline exampleSetup)
        exampleTakeover c ∧
      c.state.enter exampleSetup (.manager (.terminate exampleOwner 1)) =
        .ok (.suspended paying (.terminate 3 1 (.refund push))) ∧
      GoesThrough (systemMachine exampleSetup) (Meanwhile exampleSetup) Accepts
        (fun w => (w.registry.store.mapServices 1).state.holdsDeposit = false)
        (.suspended paying (.terminate 3 1 (.refund push))) := by
  obtain ⟨c, run, seen⟩ := Machine.play_observed (jointDiscipline exampleSetup)
    (systemMachine exampleSetup) exampleTakeover bondedScript
    (fun c => (c.frames, (c.state.utility.store.mapServiceIdTokenDeposit 1).token,
      (c.state.registry.store.mapServices 1).state, c.state.registry.store.erc721.owners 1))
    ([], 20, .finishedRegistration, 3) (by decide +kernel)
  obtain ⟨between, seen⟩ := Prod.mk.inj seen
  obtain ⟨token, seen⟩ := Prod.mk.inj seen
  obtain ⟨state, owns⟩ := Prod.mk.inj seen
  obtain ⟨paying, entered, -, -, goes⟩ := owner_terminates_with_deposit exampleSetup
    exampleTakeover_fresh run between (by rw [token]; decide) (by rw [state]; rfl)
    (show exampleOwner ≠ exampleSetup.self by decide) owns
  exact ⟨c, _, paying, run, entered, goes⟩

/-- An operator gets its whole balance of tokens back, and leaves the service, whatever runs
while the transfers are under way, if the token accepts the transfer and the operator takes
the registry's refund in ETH. -/
theorem operator_unbonds_with_tokens (setup : Setup) (fresh : Fresh setup start)
    (run : Reachable (systemMachine setup) (jointDiscipline setup) start c)
    (between : c.frames = []) {serviceId : Nat}
    (secured : (c.state.utility.store.mapServiceIdTokenDeposit serviceId).token ≠ 0)
    (ended : (c.state.registry.store.mapServices serviceId).state = .terminatedBonded)
    {operator : Caller} (other : operator ≠ setup.self)
    (bonded : c.state.registry.store.mapOperatorAndServiceIdAgentInstances
      (operatorService operator serviceId) ≠ []) :
    let push := balancePush c.state serviceId operator
    ∃ out, c.state.enter setup (.manager (.unbond operator serviceId)) = .ok out ∧
      (0 < push.amount →
        ∃ paying, out = .suspended paying (.unbond operator serviceId (.refund push))) ∧
      out.state.utility.sent push.token = c.state.utility.sent push.token + push.amount ∧
      out.state.utility.sent push.token ≤ out.state.utility.pulled push.token ∧
      GoesThrough (systemMachine setup) (Meanwhile setup) Accepts (Discharged operator serviceId)
        out := by
  intro push
  have accounts := run.invariant (accounts_preserved setup) fresh.accounts
  rw [between] at accounts
  have here := accounts.between
  have small := here.known.secured secured
  have book := here.sound.books (serviceKey serviceId)
  rw [escrow_folio small] at book
  have allowed : (jointDiscipline setup).call (.manager (.unbond operator serviceId)) c.state :=
    ⟨⟨other, trivial⟩, trivial, fun minted => by cases minted⟩
  by_cases owed : 0 < push.amount
  · have entered := unbond_starts here secured owed
    refine ⟨_, entered, fun _ => ⟨_, rfl⟩, credit_self .., ?_, ?_⟩
    · exact le_of_eq_of_le (credit_self ..) (here.holds_balance secured operator)
    · exact unbond_waits operator.property small (here.calls allowed entered) book ended bonded
        (Function.update_self ..)
  · have spent : push.amount = 0 := Nat.eq_zero_of_not_pos owed
    have entered := unbond_skips here spent
    obtain ⟨out, ran, settled, calm, last⟩ := unbondInRegistry_goes
      (w := { c.state with
        manager := { c.state.manager with locked := 2 }
        utility := { c.state.utility with store := unlock c.state.utility.store } })
      here.registry here.known.shape.authority operator.property book ended bonded spent 0
    have entered := entered.trans ran
    obtain ⟨-, -, -, -, -, -, utility, -⟩ := unbondInRegistry_ok ran
    refine ⟨out, entered, fun owes => absurd owes owed, ?_, ?_,
      unbond_ends small (here.calls allowed entered) settled calm last⟩
    · rw [utility, spent]
      rfl
    · rw [utility]
      exact le_trans (Nat.le_add_right _ _) (here.holds_balance secured operator)

theorem operator_unbonds_with_tokens_terminated :
    ∃ c out, Reachable (systemMachine exampleSetup) (jointDiscipline exampleSetup)
        exampleTakeover c ∧
      c.state.enter exampleSetup (.manager (.unbond exampleOperator 1)) = .ok out ∧
      GoesThrough (systemMachine exampleSetup) (Meanwhile exampleSetup) Accepts (Discharged 4 1)
        out := by
  obtain ⟨c, run, seen⟩ := Machine.play_observed (jointDiscipline exampleSetup)
    (systemMachine exampleSetup) exampleTakeover
    (bondedScript ++ [.call (.manager (.terminate exampleOwner 1)), .answer ⟨⟨0, [], true⟩, ⟨true, 0⟩⟩,
      .answer ⟨⟨0, [], true⟩, ⟨true, 0⟩⟩])
    (fun c => (c.frames, (c.state.utility.store.mapServiceIdTokenDeposit 1).token,
      (c.state.registry.store.mapServices 1).state,
      c.state.registry.store.mapOperatorAndServiceIdAgentInstances (operatorService 4 1)))
    ([], 20, .terminatedBonded, [⟨5, 1⟩]) (by decide +kernel)
  obtain ⟨between, seen⟩ := Prod.mk.inj seen
  obtain ⟨token, seen⟩ := Prod.mk.inj seen
  obtain ⟨state, instances⟩ := Prod.mk.inj seen
  have bonded : c.state.registry.store.mapOperatorAndServiceIdAgentInstances
      (operatorService 4 1) ≠ [] := by
    rw [instances]
    exact List.cons_ne_nil _ _
  obtain ⟨out, entered, -, -, -, goes⟩ := operator_unbonds_with_tokens exampleSetup
    exampleTakeover_fresh run between (by rw [token]; decide) state
    (show exampleOperator ≠ exampleSetup.self by decide) bonded
  exact ⟨c, out, run, entered, goes⟩

end Exit
end AutonolasRegistries.Guarantees
