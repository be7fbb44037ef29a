import AutonolasRegistries.Guarantees.PaymentHistory

/-!
# Everyone can leave

A service that is not in pre-registration can always be wound up: its owner terminates
it, its operators unbond in any order, and whatever happens to other services in between,
none of these calls reverts, each pays exactly what is left of what was paid in, and what
remains of the service does not depend on the order. `unbond` recomputes the bonds from
the parameters recorded now; they are the ones at registration, because nothing can
change them while anybody is bonded. `ServiceRegistryL2.sol:592-731`.
-/
namespace AutonolasRegistries.Guarantees
open Library Source Model

/-- No zero operator, at most `2 ^ 32 - 1` services and less than `2 ^ 96` wei in any
call. -/
def exitDiscipline : Discipline RegistryWorld RegistryCall RegistryFrame RegistryAnswer where
  call call w := Bounded call w ∧ RealOperator call ∧ Funded call
  answer _ _ _ := True

section Decidable
variable (call : RegistryCall) (frame : RegistryFrame) (answer : RegistryAnswer)

instance (w : RegistryWorld) : Decidable (exitDiscipline.call call w) :=
  inferInstanceAs (Decidable (Bounded call w ∧ RealOperator call ∧ Funded call))

instance (w : RegistryWorld × List PaymentEvent) :
    Decidable (exitDiscipline.logged.call call w) :=
  inferInstanceAs (Decidable (exitDiscipline.call call w.1))

instance (w : RegistryWorld × List PaymentEvent) :
    Decidable (exitDiscipline.logged.answer frame answer w) := .isTrue trivial

end Decidable

/-- In addition no operation on the service `target`. -/
def awayDiscipline (target : Nat) :
    Discipline RegistryWorld RegistryCall RegistryFrame RegistryAnswer where
  call call w := exitDiscipline.call call w ∧ callService w.store call ≠ some target
  answer _ _ _ := True

/-- Any operations on other services, all of them returned. -/
def Elsewhere (edition : Edition) (target : Nat) (w w' : RegistryWorld) : Prop :=
  Reachable (registryMachine edition) (awayDiscipline target) w ⟨w', []⟩

/-- A call that goes through, with all that happens until it returns: the recipient of a
payment accepts it, and may use the control it gets for operations on other services. -/
inductive Completes (edition : Edition) (target : Nat) (call : RegistryCall)
    (w w' : RegistryWorld) : Prop where
  | atOnce (ran : w.enter edition call = .ok (.done w'))
  | waited {paying paid : RegistryWorld} {frame : RegistryFrame} {answer : RegistryAnswer}
      (ran : w.enter edition call = .ok (.suspended paying frame))
      (meanwhile : Elsewhere edition target paying paid)
      (returned : paid.resume edition frame answer = .ok (.done w'))

/-- The winding up of a service: `left` are the operators that have unbonded so far. -/
inductive Leaving (edition : Edition) (target : Nat) (start : RegistryWorld) :
    List Address → RegistryWorld → Prop where
  | start : Leaving edition target start [] start
  | elsewhere {left : List Address} {w w' : RegistryWorld}
      (before : Leaving edition target start left w) (run : Elsewhere edition target w w') :
      Leaving edition target start left w'
  | terminate {left : List Address} {w w' : RegistryWorld} {manager : Caller} {owner : Address}
      (before : Leaving edition target start left w)
      (completed : Completes edition target (.terminate manager owner target) w w') :
      Leaving edition target start left w'
  | unbond {left : List Address} {w w' : RegistryWorld} {manager : Caller} {operator : Address}
      (before : Leaving edition target start left w)
      (completed : Completes edition target (.unbond manager operator target) w w') :
      Leaving edition target start (operator :: left) w'

section Runs
variable {edition : Edition} {target : Nat}

/-- What is known in every state of such runs. -/
structure ExitContext (w : RegistryWorld) (frames : List RegistryFrame) : Prop where
  books : RegistryBooks w frames
  minted : Minted w.store
  roster : Enrolled w.store
  solvent : Solvent w

theorem ExitContext.ledger {w : RegistryWorld} {frames : List RegistryFrame}
    (context : ExitContext w frames) : RegistryLedger w frames :=
  ⟨context.books.base, fun serviceId small => (context.books.books serviceId small).operators⟩

theorem exitContext_preserved (edition : Edition) :
    Preserved (registryMachine edition) exitDiscipline always ExitContext := by
  have books : Preserved (registryMachine edition) exitDiscipline always RegistryBooks :=
    registryBooks_preserved fun _ _ allowed => allowed.1
  have roster : Preserved (registryMachine edition) exitDiscipline RegistryBase
      fun w _ => Enrolled w.store := enrolled_preserved fun _ _ allowed => allowed.2.1
  have calls : ∀ call w, exitDiscipline.call call w → fundedDiscipline.call call w :=
    fun _ _ allowed => ⟨allowed.1, allowed.2.2⟩
  have solvent : Preserved (registryMachine edition) exitDiscipline RegistryLedger
      fun w _ => Solvent w := (solvent_preserved edition).restrict calls fun _ _ _ _ => trivial
  intro w frames w' frames' taken _ before
  exact ⟨books _ _ _ _ taken trivial before.books,
    minted_preserved edition _ _ _ _ taken before.books.base.1 before.minted,
    roster _ _ _ _ taken before.books.base before.roster,
    solvent _ _ _ _ taken before.ledger before.solvent⟩

theorem exitContext_deployment (deployer : Address) :
    ExitContext (RegistryWorld.deployment deployer) [] :=
  ⟨registryBooks_deployment deployer, minted_deployment deployer, enrolled_deployment deployer,
    solvent_deployment deployer⟩

/-- A call that is suspended on a service is one on that service. -/
theorem enter_frame {w : RegistryWorld} {call : RegistryCall}
    {out : Outcome RegistryWorld RegistryFrame} (taken : RegistryTransition edition w call out)
    {frame : RegistryFrame} (member : frame ∈ out.pending)
    (here : frameService frame = some target) : callService w.store call = some target := by
  cases taken with
  | deploy ran =>
    obtain rfl := List.mem_singleton.mp member
    exact here
  | unbond | drain =>
    rw [RegistryWorld.refunding_pending] at member
    split at member
    · obtain rfl := List.mem_singleton.mp member
      cases here
    · cases member
  | create | terminate =>
    obtain rfl := List.mem_singleton.mp member
    cases here
  | _ => cases member

/-- The records of the service are as they were at `s`, and no suspended call is one on
it. -/
structure Untouched (target : Nat) (s : RegistryState) (w : RegistryWorld)
    (frames : List RegistryFrame) : Prop where
  sheet : sheet w.store target = sheet s target
  archive : archive w.store target = archive s target
  away : ∀ frame ∈ frames, frameService frame ≠ some target

theorem untouched_preserved (small : target < 2 ^ 32) (s : RegistryState)
    (below : List RegistryFrame) :
    Preserved (registryMachine edition) (awayDiscipline target)
      (fun w frames => ExitContext w (frames ++ below)) (Untouched target s) := by
  intro w frames w' frames' taken context before
  have base := context.books.base
  cases taken with
  | entered call allowed ran =>
    have kind := RegistryWorld.enter_transition base.1.registered.guarded ran
    have after := enter_supply kind allowed.1.1 base.2
    have kept := sheet_elsewhere (enter_moves base.1 base.2 after kind) small fun _ label =>
      allowed.2 (callAction_service label)
    refine ⟨kept.trans before.sheet, (enter_archive kind allowed.2).trans before.archive, ?_⟩
    intro frame member
    rcases List.mem_append.mp member with new | old
    · exact fun here => allowed.2 (enter_frame kind new here)
    · exact before.away frame old
  | @resumed frame frames out answer allowed ran =>
    have different := before.away frame List.mem_cons_self
    have kept := sheet_elsewhere (resume_moves base.1 base.2 ran) small fun action label => by
      cases frame <;> cases label
      exact different rfl
    have others : ∀ other ∈ frames, frameService other ≠ some target :=
      fun other member => before.away other (List.mem_cons_of_mem _ member)
    cases RegistryWorld.resume_return ran with
    | create | refund => exact ⟨kept.trans before.sheet, before.archive, others⟩
    | deploy serviceId =>
      have elsewhere : target ≠ serviceId := fun same => different (same ▸ rfl)
      exact ⟨kept.trans before.sheet,
        (deployReturn_archive edition _ _ _ elsewhere).trans before.archive, others⟩

/-- Operations on other services leave the service as it is. -/
theorem Elsewhere.untouched {w w' : RegistryWorld} {below : List RegistryFrame}
    (small : target < 2 ^ 32) (context : ExitContext w below)
    (run : Elsewhere edition target w w') :
    ExitContext w' below ∧ Untouched target w.store w' [] := by
  have calls : ∀ call w, (awayDiscipline target).call call w → exitDiscipline.call call w :=
    fun _ _ allowed => allowed.1
  have known : Preserved (registryMachine edition) (awayDiscipline target) always
      fun w frames => ExitContext w (frames ++ below) :=
    ((exitContext_preserved edition).under below).restrict calls fun _ _ _ _ => trivial
  refine run.invariant (known.join (untouched_preserved small w.store below)) ⟨context, ?_⟩
  exact ⟨rfl, rfl, fun _ member => by cases member⟩

/-- A completed payment leaves the service as it was when the payment was made. -/
theorem Completes.untouched {call : RegistryCall} {w w' : RegistryWorld}
    (small : target < 2 ^ 32) (context : ExitContext w []) (allowed : exitDiscipline.call call w)
    (pays : ∀ out, w.enter edition call = .ok out → ∀ frame ∈ out.pending, frame = .refund)
    (completed : Completes edition target call w w') :
    ExitContext w' [] ∧
      ∃ out, w.enter edition call = .ok out ∧ Untouched target out.state.store w' [] := by
  cases completed with
  | atOnce ran =>
    have after := exitContext_preserved edition _ _ _ _ (.entered call allowed ran) trivial context
    exact ⟨after, _, ran, rfl, rfl, fun _ member => by cases member⟩
  | @waited paying paid frame answer ran meanwhile returned =>
    have paused := exitContext_preserved edition _ _ _ _ (.entered call allowed ran) trivial context
    obtain rfl := pays _ ran frame List.mem_cons_self
    obtain ⟨resumable, same⟩ := meanwhile.untouched small paused
    have last : (registryMachine edition).resume .refund answer paid = .ok (.done w') := returned
    have after := exitContext_preserved edition _ _ _ _ (.resumed answer trivial last) trivial
      resumable
    cases RegistryWorld.resume_return returned
    exact ⟨after, _, ran, same.sheet, same.archive, same.away⟩

end Runs

/-- The lists of a service once it is terminated. -/
def closedLists (t : ServiceSheet) (agentId : Uint32) : List Address :=
  if t.service.state.holdsDeposit = true ∧ agentId ∈ t.service.agentIds then []
  else t.lists agentId

/-- How far the service with the records of `start` has been wound up in `s`. -/
structure Departed (edition : Edition) (target : Nat) (start s : RegistryState)
    (left : List Address) : Prop where
  service : ∃ numAgentInstances state, s.mapServices target =
    { start.mapServices target with numAgentInstances, state }
  exists_still : (start.mapServices target).state ≠ .nonExistent →
    (s.mapServices target).state ≠ .nonExistent
  params : (sheet s target).params = (sheet start target).params
  operators : ∀ operator, (sheet s target).operators operator =
    if operator ∈ left then [] else (sheet start target).operators operator
  balances : ∀ operator, (sheet s target).balances operator =
    if operator ∈ left then 0 else (sheet start target).balances operator
  running : (s.mapServices target).state.holdsDeposit = true →
    (start.mapServices target).state.holdsDeposit = true ∧
      (sheet s target).lists = (sheet start target).lists ∧
      archive s target = archive start target
  ended : (s.mapServices target).state.holdsDeposit = false →
    (sheet s target).lists = closedLists (sheet start target) ∧
      archive s target =
        if (start.mapServices target).state.holdsDeposit = true then
          clearedArchive edition (archive start target)
        else archive start target

theorem recounted {first next last : Service} {num num' : Nat} {state state' : ServiceState}
    (one : next = { first with numAgentInstances := num, state })
    (two : last = { next with numAgentInstances := num', state := state' }) :
    ∃ numAgentInstances state, last = { first with numAgentInstances, state } := by
  subst one two
  exact ⟨_, _, rfl⟩

namespace Departed
variable {edition : Edition} {target : Nat} {start s s' : RegistryState} {left : List Address}

theorem refl (edition : Edition) (target : Nat) (start : RegistryState) :
    Departed edition target start start [] := by
  refine ⟨⟨_, _, rfl⟩, id, rfl, fun _ => rfl, fun _ => rfl, fun held => ⟨held, rfl, rfl⟩, ?_⟩
  intro ended
  refine ⟨?_, (if_neg (by simp [ended])).symm⟩
  funext agentId
  exact (if_neg fun closed => by simp [sheet, ended] at closed).symm

/-- The records did not change. -/
theorem same (before : Departed edition target start s left)
    (sheets : sheet s' target = sheet s target)
    (archives : archive s' target = archive s target) : Departed edition target start s' left := by
  have service : s'.mapServices target = s.mapServices target :=
    congrArg ServiceSheet.service sheets
  obtain ⟨kept, existing, params, operators, balances, running, ended⟩ := before
  exact ⟨service ▸ kept, service ▸ existing, sheets ▸ params, sheets ▸ operators, sheets ▸ balances,
    by rw [service, sheets, archives]; exact running,
    by rw [service, sheets, archives]; exact ended⟩

theorem terminate (before : Departed edition target start s left)
    (step : (sheet s target).Step (sheet s' target) .terminate)
    (archives : archive s' target = clearedArchive edition (archive s target)) :
    Departed edition target start s' left := by
  cases step with
  | terminate held after =>
    obtain ⟨kept, lists, archived⟩ := before.running held
    obtain ⟨num, state, service⟩ := before.service
    have now : s'.mapServices target = { s.mapServices target with
        state := if 0 < (s.mapServices target).numAgentInstances then .terminatedBonded
          else .preRegistration } := congrArg ServiceSheet.service after
    refine ⟨recounted service now, fun _ => ?_, ?_, ?_, ?_, ?_, ?_⟩
    · rw [now]
      simp only
      split <;> decide
    · rw [after]
      exact before.params
    · rw [after]
      exact before.operators
    · rw [after]
      exact before.balances
    · intro holds
      rw [now] at holds
      simp only at holds
      split at holds <;> cases holds
    · intro _
      rw [archives, archived, if_pos kept, after]
      refine ⟨?_, rfl⟩
      funext agentId
      have ids : (sheet s target).service.agentIds = (sheet start target).service.agentIds := by
        simp only [sheet, service]
      simp only [closedLists, ids, lists]
      refine if_congr ?_ rfl rfl
      exact ⟨fun member => ⟨kept, member⟩, fun both => both.2⟩

theorem unbond {operator : Address} (before : Departed edition target start s left)
    (book : OperatorBook (sheet s target))
    (step : (sheet s target).Step (sheet s' target) (.unbond operator))
    (archives : archive s' target = archive s target) :
    Departed edition target start s' (operator :: left) := by
  cases step with
  | unbond state bonded enough after =>
    obtain ⟨num, _, service⟩ := before.service
    have now := congrArg ServiceSheet.service after
    simp only [sheet] at now state
    have gone : (s.mapServices target).state.holdsDeposit = false := by
      rw [state]
      rfl
    have still : (s'.mapServices target).state.holdsDeposit = false := by
      rw [now]
      simp only [state]
      split <;> rfl
    refine ⟨recounted service now, fun _ => ?_, ?_, ?_, ?_, ?_, ?_⟩
    · rw [now]
      simp only [state]
      split <;> decide
    · rw [after]
      exact before.params
    · intro other
      rw [after]
      simp only [Function.update_apply, List.mem_cons, before.operators other]
      by_cases same : other = operator <;> simp [same]
    · intro other
      rw [after]
      simp only [Function.update_apply, List.mem_cons, book.cleared, before.balances other]
      by_cases same : other = operator <;> simp [same]
    · intro holds
      rw [still] at holds
      cases holds
    · intro _
      rw [archives, after]
      exact before.ended gone

end Departed

section WindingUp
variable {edition : Edition} {target : Nat}

theorem terminate_pays {w : RegistryWorld} {manager : Caller} {owner : Address}
    {out : Outcome RegistryWorld RegistryFrame}
    (ran : w.enter edition (.terminate manager owner target) = .ok out) :
    ∀ frame ∈ out.pending, frame = .refund := by
  simp only [RegistryWorld.enter, bind_eq_ok, pure_eq_ok, Prod.exists] at ran
  obtain ⟨s, refund, -, rfl⟩ := ran
  exact fun frame member => List.mem_singleton.mp member

theorem unbond_pays {w : RegistryWorld} {manager : Caller} {operator : Address}
    {out : Outcome RegistryWorld RegistryFrame}
    (ran : w.enter edition (.unbond manager operator target) = .ok out) :
    ∀ frame ∈ out.pending, frame = .refund := by
  simp only [RegistryWorld.enter, bind_eq_ok, pure_eq_ok, Prod.exists] at ran
  obtain ⟨s, refund, -, rfl⟩ := ran
  rw [RegistryWorld.refunding_pending]
  split
  · exact fun frame member => List.mem_singleton.mp member
  · exact fun frame member => by cases member

theorem unbond_archive {w : RegistryWorld} {manager : Caller} {operator : Address}
    {out : Outcome RegistryWorld RegistryFrame}
    (ran : w.enter edition (.unbond manager operator target) = .ok out) :
    archive out.state.store target = archive w.store target := by
  simp only [RegistryWorld.enter, bind_eq_ok, pure_eq_ok, Prod.exists] at ran
  obtain ⟨s, refund, ran, rfl⟩ := ran
  obtain ⟨-, -, -, -, rfl⟩ := ServiceRegistry.unbond_ok ran
  rw [archive_refunding]
  rfl

/-- One exit call on the sheet of the service. -/
theorem exit_step {w : RegistryWorld} {call : RegistryCall} {action : ServiceAction}
    {out : Outcome RegistryWorld RegistryFrame} (context : ExitContext w [])
    (allowed : exitDiscipline.call call w) (label : callAction w.store call = some (target, action))
    (ran : w.enter edition call = .ok out) :
    (sheet w.store target).Step (sheet out.state.store target) action := by
  have base := context.books.base
  have kind := RegistryWorld.enter_transition base.1.registered.guarded ran
  have moved := enter_moves base.1 base.2 (enter_supply kind allowed.1 base.2) kind
  rw [label] at moved
  exact moved.2.1

/-- Along the winding up the context is kept, and the records say how far it has come. -/
theorem Leaving.departed {start w : RegistryWorld} {left : List Address}
    (small : target < 2 ^ 32) (context : ExitContext start [])
    (leaving : Leaving edition target start left w) :
    ExitContext w [] ∧ Departed edition target start.store w.store left := by
  induction leaving with
  | start => exact ⟨context, .refl edition target start.store⟩
  | elsewhere _ run ih =>
    obtain ⟨after, same⟩ := run.untouched small ih.1
    exact ⟨after, ih.2.same same.sheet same.archive⟩
  | @terminate left w w' manager owner _ completed ih =>
    have allowed : exitDiscipline.call (.terminate manager owner target) w :=
      ⟨trivial, trivial, trivial⟩
    obtain ⟨after, out, ran, same⟩ :=
      completed.untouched small ih.1 allowed fun _ => terminate_pays
    have step := exit_step ih.1 allowed rfl ran
    simp only [RegistryWorld.enter, bind_eq_ok, pure_eq_ok, Prod.exists] at ran
    obtain ⟨s, refund, ran, rfl⟩ := ran
    have archived := (terminate_archive ran target).trans (if_pos rfl)
    exact ⟨after, (ih.2.terminate step archived).same same.sheet same.archive⟩
  | @unbond left w w' manager operator _ completed ih =>
    have allowed : exitDiscipline.call (.unbond manager operator target) w :=
      ⟨trivial, trivial, trivial⟩
    obtain ⟨after, out, ran, same⟩ := completed.untouched small ih.1 allowed fun _ => unbond_pays
    have book := (ih.1.books.books target small).operators
    have parted := ih.2.unbond book (exit_step ih.1 allowed rfl ran) (unbond_archive ran)
    exact ⟨after, parted.same same.sheet same.archive⟩

/-- What a call waits for, if anything, is that its recipient takes the payment; it returns
when that has happened, whatever else has by then. -/
def ReturnsOnceTaken (edition : Edition) (out : Outcome RegistryWorld RegistryFrame) : Prop :=
  ∀ frame ∈ out.pending, ∀ (paid : RegistryWorld) (answer : RegistryAnswer),
    answer.result = true → ∃ w', paid.resume edition frame answer = .ok (.done w')

theorem returnsOnceTaken {out : Outcome RegistryWorld RegistryFrame}
    (refunds : ∀ frame ∈ out.pending, frame = .refund) : ReturnsOnceTaken edition out := by
  intro frame member paid answer taken
  obtain rfl := refunds frame member
  exact ⟨_, RegistryWorld.refund_taken taken paid⟩

/-- The call goes through and pays `amount` to `recipient`, who takes it, out of ETH the
registry has. -/
def Pays (edition : Edition) (call : RegistryCall) (w : RegistryWorld) (recipient : Address)
    (amount : Nat) : Prop :=
  ∃ out reply, w.enter edition call = .ok out ∧ w.reply edition call = .ok reply ∧
    reply.returned = amount ∧ (0 < amount → reply.payment = some (recipient, amount)) ∧
    out.state.paid = w.paid + amount ∧ out.state.paid ≤ out.state.received ∧
    ReturnsOnceTaken edition out

theorem solvent_afterwards {w : RegistryWorld} {call : RegistryCall}
    {out : Outcome RegistryWorld RegistryFrame} (context : ExitContext w [])
    (allowed : exitDiscipline.call call w) (ran : w.enter edition call = .ok out) :
    out.state.paid ≤ out.state.received := by
  have after := exitContext_preserved edition _ _ _ _ (.entered call allowed ran) trivial context
  have solvent := after.solvent
  unfold Solvent at solvent
  omega

theorem unlocked_between {w : RegistryWorld} (context : ExitContext w []) :
    w.store.locked ≤ 1 := by
  cases context.books.base.1.lock with
  | idle free => exact le_of_eq free

/-- The owner of a service that holds a deposit can terminate it. -/
theorem owner_can_terminate {w : RegistryWorld} (context : ExitContext w [])
    (held : (w.store.mapServices target).state.holdsDeposit = true) {manager : Caller}
    (managed : manager.val = w.store.manager) :
    Pays edition (.terminate manager (w.store.erc721.owners target) target) w
      (w.store.erc721.owners target) (w.store.mapServices target).securityDeposit := by
  have registered := context.books.base.1.registered
  have alive : (w.store.mapServices target).state ≠ .nonExistent := fun none => by
    rw [none] at held
    cases held
  obtain ⟨positive, below⟩ := registered.of_state alive
  have owned := context.minted target positive below
  have goes : ∃ s, ServiceRegistry.terminate edition manager (w.store.erc721.owners target) target
      w.store = .ok (s, (w.store.mapServices target).securityDeposit) := by
    simp only [ServiceRegistry.terminate, bind_eq_ok, revertIf_eq_ok, exists_const, pure_eq_ok,
      ERC721.ownerOf_eq_ok, Prod.mk.injEq, not_lt, ne_eq, not_not, not_or]
    refine ⟨_, unlocked_between context, managed.symm, _, ⟨owned, rfl⟩, rfl, ⟨?_, ?_⟩, rfl,
      trivial⟩
    · intro state
      rw [state] at held
      cases held
    · intro state
      rw [state] at held
      cases held
  obtain ⟨s, ran⟩ := goes
  have entered : w.enter edition (.terminate manager (w.store.erc721.owners target) target) =
      .ok (.suspended { w with
        store := s
        paid := w.paid + (w.store.mapServices target).securityDeposit } .refund) := by
    simp only [RegistryWorld.enter, ran]
    rfl
  have allowed : exitDiscipline.call
      (.terminate manager (w.store.erc721.owners target) target) w := ⟨trivial, trivial, trivial⟩
  refine ⟨_, ⟨_, _, []⟩, entered, ?_, rfl, fun _ => rfl, rfl,
    solvent_afterwards context allowed entered, returnsOnceTaken (terminate_pays entered)⟩
  simp only [RegistryWorld.reply, ran]
  rfl

theorem bondOf_lt (params : Uint32 → AgentParams) (instances : List AgentInstance)
    (short : instances.length < 2 ^ 32) : bondOf params instances < 2 ^ 256 := by
  have each : ∀ bond ∈ instances.map (fun a => (params a.agentId).bond.val), bond ≤ 2 ^ 96 := by
    intro bond member
    obtain ⟨a, -, rfl⟩ := List.mem_map.mp member
    exact le_of_lt (params a.agentId).bond.isLt
  have sum := List.sum_le_card_nsmul _ _ each
  rw [List.length_map, smul_eq_mul] at sum
  unfold bondOf
  omega

/-- An operator with instances can unbond from a terminated service. -/
theorem operator_can_unbond {w : RegistryWorld} (small : target < 2 ^ 32)
    (context : ExitContext w [])
    (ended : (w.store.mapServices target).state.holdsDeposit = false) {operator : Address}
    (bonded : instancesIn w.store operator target ≠ []) {manager : Caller}
    (managed : manager.val = w.store.manager) :
    Pays edition (.unbond manager operator target) w operator
      ((sheet w.store target).balances operator) := by
  have book := (context.books.books target small).operators
  have some : (sheet w.store target).operators operator ≠ [] := fun none => bonded (by
    simp only [sheet] at none
    rw [instancesIn, none, List.map_nil])
  have state : (w.store.mapServices target).state = .terminatedBonded := by
    have busy : ¬ ((w.store.mapServices target).state = .nonExistent ∨
        (w.store.mapServices target).state = .preRegistration) :=
      fun idle => some (book.vacant idle operator).1
    cases state : (w.store.mapServices target).state <;>
      simp_all [ServiceState.holdsDeposit]
  have someone : operator ≠ 0 := by
    obtain ⟨a, member⟩ := List.exists_mem_of_ne_nil _ bonded
    have here : a ∈ enrolled w.store (operator, ⟨target, small⟩) := member
    have named : w.store.mapAgentInstanceOperators a = operator := context.roster.names _ a here
    exact named ▸ context.roster.hired _ a here
  have counted : ((sheet w.store target).operators operator).length ≤
      (w.store.mapServices target).numAgentInstances :=
    le_of_le_of_eq (le_total (fun a => ((sheet w.store target).operators a).length) operator)
      book.counted.symm
  have sum := bondOf_lt (sheet w.store target).params
    ((sheet w.store target).operators operator) (lt_of_le_of_lt counted book.fits)
  have goes : ∃ s, ServiceRegistry.unbond manager operator target w.store =
      .ok (s, (sheet w.store target).balances operator) := by
    simp only [ServiceRegistry.unbond, bind_eq_ok, revertIf_eq_ok, exists_const,
      checkedAdd_eq_ok, checkedSub_eq_ok, pure_eq_ok, Prod.mk.injEq, not_lt, ne_eq, not_not,
      Nat.zero_add]
    refine ⟨_, unlocked_between context, managed.symm, someone, state, ?_, _, ⟨?_, rfl⟩, _,
      ⟨sum, rfl⟩, rfl, book.refund_eq operator⟩
    · exact fun none => some (List.length_eq_zero_iff.mp none)
    · exact le_of_eq_of_le (book.length_mod operator) counted
  obtain ⟨s, ran⟩ := goes
  have entered : w.enter edition (.unbond manager operator target) =
      .ok (w.refunding s ((sheet w.store target).balances operator)) := by
    simp only [RegistryWorld.enter, ran]
    rfl
  have allowed : exitDiscipline.call (.unbond manager operator target) w :=
    ⟨trivial, trivial, trivial⟩
  refine ⟨_, ⟨(sheet w.store target).balances operator,
    paymentOf operator ((sheet w.store target).balances operator), []⟩, entered, ?_, rfl,
    fun positive => if_pos positive, RegistryWorld.refunding_paid w s _,
    solvent_afterwards context allowed entered, returnsOnceTaken (unbond_pays entered)⟩
  simp only [RegistryWorld.reply, ran]
  rfl

/-- The deposit is paid back and everyone who had instances at `start` has unbonded. -/
def WoundUp (target : Nat) (start w : RegistryWorld) (left : List Address) : Prop :=
  (w.store.mapServices target).state.holdsDeposit = false ∧
    ∀ operator, instancesIn start.store operator target ≠ [] → operator ∈ left

/-- Nothing is left of the registrations of a service. An account that is engaged is an
instance of some other service. -/
structure Vacated (s : RegistryState) (target : Nat) : Prop where
  state : (s.mapServices target).state = .preRegistration
  none : (s.mapServices target).numAgentInstances = 0
  instances : ∀ operator, instancesIn s operator target = []
  balances : ∀ operator,
    s.mapOperatorAndServiceIdOperatorBalances (operatorService operator target) = 0
  free : ∀ a, s.mapAgentInstanceOperators a ≠ 0 → ∃ other ≤ s.totalSupply, other ≠ target ∧
    a ∈ instancesIn s (s.mapAgentInstanceOperators a) other

theorem vacated {start w : RegistryWorld} {left : List Address} (small : target < 2 ^ 32)
    (existing : (start.store.mapServices target).state ≠ .nonExistent)
    (context : ExitContext w [])
    (departed : Departed edition target start.store w.store left)
    (complete : WoundUp target start w left) : Vacated w.store target := by
  have book := (context.books.books target small).operators
  have life := context.books.lives target small
  have empty : ∀ operator, (sheet w.store target).operators operator = [] := by
    intro operator
    rw [departed.operators operator]
    split
    · rfl
    · next stayed =>
      by_contra some
      exact stayed (complete.2 operator fun none => some (List.map_eq_nil_iff.mp none))
  have none : (w.store.mapServices target).numAgentInstances = 0 := by
    refine book.counted.trans (total_eq_zero_iff.mpr fun operator => ?_)
    rw [empty operator]
    rfl
  have listed := departed.exists_still existing
  have state : (w.store.mapServices target).state = .preRegistration := by
    have ended := complete.1
    have bonded := life.bonded
    simp only [sheet, none] at bonded
    cases state : (w.store.mapServices target).state <;>
      simp_all [ServiceState.holdsDeposit]
  have instances : ∀ operator, instancesIn w.store operator target = [] :=
    fun operator => List.map_eq_nil_iff.mpr (empty operator)
  refine ⟨state, none, instances, fun operator => (book.vacant (Or.inr state) operator).2, ?_⟩
  intro a engaged
  obtain ⟨other, below, member⟩ :=
    ((engagedOnce context.books context.roster a).engaged _ engaged).mp rfl
  refine ⟨other, below, ?_, member⟩
  rintro rfl
  rw [instances] at member
  cases member

/-- What is left of a service that is wound up does not depend on how it came about. -/
theorem Departed.orderless {start s s' : RegistryState} {left left' : List Address}
    (departed : Departed edition target start s left) (vacant : Vacated s target)
    (departed' : Departed edition target start s' left') (vacant' : Vacated s' target) :
    sheet s' target = sheet s target ∧ archive s' target = archive s target := by
  obtain ⟨num, state, service⟩ := departed.service
  obtain ⟨num', state', service'⟩ := departed'.service
  have record : s'.mapServices target = s.mapServices target := by
    have none := vacant.none
    have none' := vacant'.none
    have pre := vacant.state
    have pre' := vacant'.state
    rw [service] at none pre ⊢
    rw [service'] at none' pre' ⊢
    simp only at none none' pre pre'
    rw [none, none', pre, pre']
  have ended : ∀ {s}, Vacated s target → (s.mapServices target).state.holdsDeposit = false := by
    intro s vacant
    rw [vacant.state]
    rfl
  obtain ⟨lists, archived⟩ := departed.ended (ended vacant)
  obtain ⟨lists', archived'⟩ := departed'.ended (ended vacant')
  refine ⟨?_, archived'.trans archived.symm⟩
  refine sheet_eq record (congrFun (departed'.params.trans departed.params.symm))
    (congrFun (lists'.trans lists.symm)) (fun operator => ?_) fun operator => ?_
  · exact (List.map_eq_nil_iff.mp (vacant'.instances operator)).trans
      (List.map_eq_nil_iff.mp (vacant.instances operator)).symm
  · exact (vacant'.balances operator).trans (vacant.balances operator).symm

end WindingUp

/-- From every state of every run in which no call is suspended, every service can be wound
up. However far it has come, and whatever was done with
other services since: a deposit that is held is paid to the owner, an operator that has
not left is paid its bonds less what was slashed from it, and when everyone has left the
service is vacant, with records that do not depend on the order. -/
theorem everyone_can_leave (edition : Edition) (deployer : Address)
    {c : Config (RegistryWorld × List PaymentEvent) RegistryFrame}
    (run : Reachable (paymentMachine edition) exitDiscipline.logged
      (RegistryWorld.deployment deployer, []) c) (between : c.frames = [])
    {target : Nat} (positive : 0 < target) (created : target ≤ c.state.1.store.totalSupply)
    {left : List Address} {w : RegistryWorld}
    (leaving : Leaving edition target c.state.1 left w) :
    ((w.store.mapServices target).state.holdsDeposit = true →
      ∀ manager : Caller, manager.val = w.store.manager →
        Pays edition (.terminate manager (w.store.erc721.owners target) target) w
          (w.store.erc721.owners target) (depositPaid target c.state.2)) ∧
    ((w.store.mapServices target).state.holdsDeposit = false →
      ∀ operator, instancesIn c.state.1.store operator target ≠ [] → operator ∉ left →
        (instancesIn w.store operator target).length ≤
          (w.store.mapServices target).numAgentInstances ∧
        ∀ manager : Caller, manager.val = w.store.manager →
          Pays edition (.unbond manager operator target) w operator
            (bondsPaid operator target c.state.2 - bondsSlashed operator target c.state.2)) ∧
    (WoundUp target c.state.1 w left →
      Vacated w.store target ∧
        ∀ left' w', Leaving edition target c.state.1 left' w' →
          WoundUp target c.state.1 w' left' →
          SameRecords w.store w'.store target ∧
            archive w'.store target = archive w.store target) := by
  have calls : ∀ call w, exitDiscipline.call call w → Bounded call w :=
    fun _ _ allowed => allowed.1
  have context : Preserved (paymentMachine edition) exitDiscipline.logged always
      fun w frames => ExitContext w.1 frames := (exitContext_preserved edition).logged
  have accounts : Preserved (paymentMachine edition) exitDiscipline.logged
      (fun w frames => ExitContext w.1 frames)
      fun w _ => ∀ serviceId < 2 ^ 32, Accounted (sheet w.1.store serviceId) serviceId w.2 :=
    fun _ _ _ _ taken known => accounted_preserved calls (fun _ _ allowed => allowed.2.2) _ _ _ _
      taken known.ledger
  obtain ⟨known, accounted⟩ := run.invariant (context.join accounts)
    ⟨exitContext_deployment deployer, fun serviceId _ => accounted_deployment deployer serviceId⟩
  rw [between] at known
  have small := lt_of_le_of_lt created known.books.base.2
  have existing := known.books.base.1.registered.listed target positive created
  obtain ⟨here, departed⟩ := leaving.departed small known
  obtain ⟨num, state, service⟩ := departed.service
  refine ⟨fun held manager managed => ?_, fun ended operator bonded stayed => ?_, ?_⟩
  · have deposit : (w.store.mapServices target).securityDeposit = depositPaid target c.state.2 := by
      rw [service]
      exact (accounted target small).deposit (departed.running held).1
    rw [← deposit]
    exact owner_can_terminate here held managed
  · have kept : (sheet w.store target).operators operator =
        (sheet c.state.1.store target).operators operator :=
      (departed.operators operator).trans (if_neg stayed)
    have still : instancesIn w.store operator target ≠ [] := by
      have same : instancesIn w.store operator target =
          instancesIn c.state.1.store operator target := congrArg (List.map _) kept
      rwa [same]
    have balance : (sheet w.store target).balances operator =
        bondsPaid operator target c.state.2 - bondsSlashed operator target c.state.2 := by
      have held := (accounted target small).bonds operator
      rw [departed.balances operator, if_neg stayed]
      omega
    refine ⟨?_, fun manager managed => ?_⟩
    · have book := (here.books.books target small).operators
      have counted := le_total (fun a => ((sheet w.store target).operators a).length) operator
      rw [← book.counted] at counted
      exact (List.length_map _).trans_le counted
    · rw [← balance]
      exact operator_can_unbond small here ended still managed
  · intro complete
    have vacant := vacated small existing here departed complete
    refine ⟨vacant, fun left' w' leaving' complete' => ?_⟩
    obtain ⟨here', departed'⟩ := leaving'.departed small known
    have vacant' := vacated small existing here' departed' complete'
    obtain ⟨sheets, archives⟩ := departed.orderless vacant departed' vacant'
    refine ⟨.of_sheet sheets (congrArg Prod.fst archives) fun operator a member => ?_, archives⟩
    rw [vacant.instances operator] at member
    cases member

/-- The multisig of the service in the scripted run. -/
def slashingMultisig : Caller := ⟨9, by decide⟩

/-- Two bonds of 1, one of them slashed by the multisig: after the termination the
operator is paid the other one. -/
theorem everyone_can_leave_slashed :
    ∃ c, Reachable (paymentMachine .l2) exitDiscipline.logged (RegistryWorld.deployment 1, []) c ∧
      c.state.2 = [.activated 1 1, .bonded 4 1 2, .slashed 4 1 1] ∧
      Pays .l2 (.unbond registryManager 4 1) c.state.1 4 1 := by
  obtain ⟨c, run, seen⟩ := Machine.play_observed exitDiscipline.logged (paymentMachine .l2)
    (RegistryWorld.deployment 1, [])
    (twoSlotsScript ++ fillScript ++
      [.call (.changeMultisigPermission registryOwner 8 true),
        .call (.deploy registryManager 3 1 8), .answer ⟨9, [], true⟩,
        .call (.slash slashingMultisig [5] [1] 1),
        .call (.terminate registryManager 3 1), .answer ⟨0, [], true⟩])
    (fun c => ((c.frames, c.state.1.store.totalSupply, c.state.1.store.manager.val),
      ((c.state.1.store.mapServices 1).state, instancesIn c.state.1.store 4 1), c.state.2))
    (([], 1, 2), (.terminatedBonded, [5, 6]),
      [.activated 1 1, .bonded 4 1 2, .slashed 4 1 1]) (by decide +kernel)
  obtain ⟨place, rest⟩ := Prod.mk.inj seen
  obtain ⟨frames, place⟩ := Prod.mk.inj place
  obtain ⟨supply, manager⟩ := Prod.mk.inj place
  obtain ⟨service, history⟩ := Prod.mk.inj rest
  obtain ⟨state, instances⟩ := Prod.mk.inj service
  have created : 1 ≤ c.state.1.store.totalSupply := le_of_eq supply.symm
  have leave := (everyone_can_leave .l2 1 run frames Nat.one_pos created .start).2.1
    (by rw [state]; rfl) 4 (by rw [instances]; simp) (by simp)
  have paid := leave.2 registryManager (Fin.ext manager.symm)
  rw [history] at paid
  exact ⟨c, run, history, paid⟩

end AutonolasRegistries.Guarantees
