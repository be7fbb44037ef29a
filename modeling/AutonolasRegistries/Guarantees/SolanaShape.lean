import AutonolasRegistries.Source.SolanaEffects

/-!
# The records of the Solana registry

Whatever is signed and in whatever order: the arrays of a service stay in step with each
other and with its counter, hold only Ids of the service, and are empty before registration
opens. Nothing here looks at slots.
-/
namespace AutonolasRegistries.Guarantees
open Library Source Source.ServiceRegistrySolana

/-- A row that was not cleared. -/
def present (r : Row) : Bool := r.operator ≠ 0

/-- The rows of a service, in every state it can be in. -/
structure Kept (sv : SolanaService) (rows : List Row) : Prop where
  lists : sv.Lists rows
  configured : Configured sv
  listed : ∀ r ∈ rows, r.operator ≠ 0 → r.agentId ∈ sv.agentIds
  cleared : ∀ r ∈ rows, r.operator = 0 → r = ⟨0, 0, 0⟩
  counted : sv.numAgentInstances = rows.countP present
  whole : sv.state ≠ .terminatedBonded → ∀ r ∈ rows, r.operator ≠ 0
  vacant : sv.state = .nonExistent ∨ sv.state = .preRegistration → rows = []
  full : sv.state = .finishedRegistration ∨ sv.state = .deployed →
    sv.numAgentInstances = sv.maxNumAgentInstances

structure SolanaShape (s : SolanaState) : Prop where
  services : ∀ id, ∃ rows, Kept (s.services id) rows
  blank : ∀ id, s.totalSupply < id.val → s.services id = .empty
  existing : ∀ id, (s.services id).state = .nonExistent → s.services id = .empty

/-- What a call did to the records and to the map of engaged instances. -/
inductive SolanaStep (s s' : SolanaState) : SolanaCall → Prop where
  | create {call : SolanaCall} {id : Uint32} {sv : SolanaService}
      (fresh : id.val = s.totalSupply + 1) (configured : Configured sv)
      (state : sv.state = .preRegistration) (lists : sv.Lists [])
      (none : sv.numAgentInstances = 0) (supply : s'.totalSupply = s.totalSupply + 1)
      (services : s'.services = Function.update s.services id sv)
      (engaged : s'.mapAgentInstanceOperators = s.mapAgentInstanceOperators) :
      SolanaStep s s' call
  | update {call : SolanaCall} {id : Uint32} {sv : SolanaService}
      (before : (s.services id).state = .preRegistration) (configured : Configured sv)
      (state : sv.state = .preRegistration)
      (operators : sv.operators = (s.services id).operators)
      (agentInstances : sv.agentInstances = (s.services id).agentInstances)
      (agentIds : sv.agentIdForAgentInstances = (s.services id).agentIdForAgentInstances)
      (number : sv.numAgentInstances = (s.services id).numAgentInstances)
      (supply : s'.totalSupply = s.totalSupply)
      (services : s'.services = Function.update s.services id sv)
      (engaged : s'.mapAgentInstanceOperators = s.mapAgentInstanceOperators) :
      SolanaStep s s' call
  | relabel {call : SolanaCall} {id : Uint32} {owner multisig : Pubkey} {state : ServiceState}
      (existing : (s.services id).state ≠ .nonExistent ∨ (s.services id).serviceOwner ≠ 0)
      (moves : ((s.services id).state = .preRegistration ∧ state = .activeRegistration) ∨
        ((s.services id).state = .finishedRegistration ∧ state = .deployed) ∨
        ((s.services id).state ≠ .terminatedBonded ∧
          state = if 0 < (s.services id).numAgentInstances then .terminatedBonded
            else .preRegistration) ∨
        state = (s.services id).state)
      (supply : s'.totalSupply = s.totalSupply)
      (services : s'.services = Function.update s.services id
        { s.services id with serviceOwner := owner, multisig := multisig, state := state })
      (engaged : s'.mapAgentInstanceOperators = s.mapAgentInstanceOperators) :
      SolanaStep s s' call
  | register {accounts : List TxAccount} {transferred : Bool} {id : Uint32}
      {agentInstances : List Pubkey} {agentIds : List Uint32} {operator : Pubkey}
      {rows : List Row} (kept : Kept (s.services id) rows) (someone : operator ≠ 0)
      (lengths : agentInstances.length = agentIds.length)
      (state : (s.services id).state = .activeRegistration)
      (listed : ∀ agentId ∈ agentIds, agentId ∈ (s.services id).agentIds)
      (unused : ∀ a ∈ agentInstances, s.mapAgentInstanceOperators a = 0)
      (nodup : agentInstances.Nodup) (supply : s'.totalSupply = s.totalSupply)
      (services : s'.services = Function.update s.services id
        ((s.services id).enrolled rows operator agentInstances agentIds))
      (engaged : s'.mapAgentInstanceOperators = fun a =>
        if a ∈ agentInstances then operator else s.mapAgentInstanceOperators a) :
      SolanaStep s s' (.registerAgents accounts transferred id agentInstances agentIds)
  | unbond {accounts : List TxAccount} {transferred : Bool} {id : Uint32} {operator : Pubkey}
      {rows : List Row} (kept : Kept (s.services id) rows)
      (signed : signingOperator accounts = .ok operator) (someone : operator ≠ 0)
      (state : (s.services id).state = .terminatedBonded)
      (supply : s'.totalSupply = s.totalSupply)
      (services : s'.services = Function.update s.services id
        ((s.services id).released rows operator))
      (engaged : s'.mapAgentInstanceOperators = s.mapAgentInstanceOperators) :
      SolanaStep s s' (.unbond accounts transferred id)
  | quiet {call : SolanaCall} (supply : s'.totalSupply = s.totalSupply)
      (services : s'.services = s.services)
      (engaged : s'.mapAgentInstanceOperators = s.mapAgentInstanceOperators) :
      SolanaStep s s' call

theorem keeping_eq_ok {w w' : SolanaWorld} {run : Except SolanaRevert SolanaState} :
    w.keeping run = .ok w' ↔ ∃ s, run = .ok s ∧ ⟨s, w.received, w.paid⟩ = w' := by
  simp only [SolanaWorld.keeping, bind_eq_ok, pure_eq_ok]

theorem taking_eq_ok {w w' : SolanaWorld} {run : Except SolanaRevert (SolanaState × Nat)} :
    w.taking run = .ok w' ↔
      ∃ s amount, run = .ok (s, amount) ∧ ⟨s, w.received + amount, w.paid⟩ = w' := by
  simp only [SolanaWorld.taking, bind_eq_ok, pure_eq_ok, Prod.exists]

theorem sending_eq_ok {w w' : SolanaWorld} {run : Except SolanaRevert (SolanaState × Nat)} :
    w.sending run = .ok w' ↔
      ∃ s amount, run = .ok (s, amount) ∧ ⟨s, w.received, w.paid + amount⟩ = w' := by
  simp only [SolanaWorld.sending, bind_eq_ok, pure_eq_ok, Prod.exists]

theorem solana_step {operatorServiceIdHash : Pubkey → Uint32 → Bytes32} {call : SolanaCall}
    {w w' : SolanaWorld} (shape : SolanaShape w.store)
    (ran : w.enter operatorServiceIdHash call = .ok w') : SolanaStep w.store w'.store call := by
  cases call with
  | create =>
    obtain ⟨s, run, rfl⟩ := keeping_eq_ok.mp ran
    obtain ⟨id, sv, fresh, -, configured, state, lists, none, rfl⟩ := create_ok run
    exact .create fresh configured state lists none rfl rfl rfl
  | update =>
    obtain ⟨s, run, rfl⟩ := keeping_eq_ok.mp ran
    obtain ⟨before, sv, configured, state, -, operators, instances, ids, number, rfl⟩ :=
      update_ok run
    exact .update before configured state operators instances ids number rfl rfl rfl
  | activateRegistration =>
    obtain ⟨s, amount, run, rfl⟩ := taking_eq_ok.mp ran
    obtain ⟨state, -, rfl⟩ := activateRegistration_ok run
    exact .relabel (Or.inl (by rw [state]; decide)) (Or.inl ⟨state, rfl⟩) rfl rfl rfl
  | registerAgents _ _ id =>
    obtain ⟨s, amount, run, rfl⟩ := taking_eq_ok.mp ran
    obtain ⟨rows, kept⟩ := shape.services id
    obtain ⟨operator, -, someone, lengths, state, listed, -, unused, nodup, rfl⟩ :=
      registerAgents_ok kept.lists run
    exact .register kept someone lengths state listed unused nodup rfl rfl rfl
  | deploy =>
    obtain ⟨s, run, rfl⟩ := keeping_eq_ok.mp ran
    obtain ⟨state, rfl⟩ := deploy_ok run
    exact .relabel (Or.inl (by rw [state]; decide)) (Or.inr (Or.inl ⟨state, rfl⟩)) rfl rfl rfl
  | slash =>
    obtain ⟨s, run, rfl⟩ := keeping_eq_ok.mp ran
    obtain ⟨-, run⟩ := slash_ok run
    obtain ⟨_, _, -, rfl⟩ := slashLoop_ok run (fun _ _ => True) trivial fun _ _ _ _ _ _ => trivial
    exact .quiet rfl rfl rfl
  | terminate =>
    obtain ⟨s, amount, run, rfl⟩ := sending_eq_ok.mp ran
    obtain ⟨owned, -, bonded, -, rfl⟩ := terminate_ok run
    exact .relabel (Or.inr owned) (Or.inr (Or.inr (Or.inl ⟨bonded, rfl⟩))) rfl rfl rfl
  | unbond _ _ id =>
    obtain ⟨s, amount, run, rfl⟩ := sending_eq_ok.mp ran
    obtain ⟨rows, kept⟩ := shape.services id
    obtain ⟨operator, signed, someone, state, -, -, -, rfl⟩ := unbond_ok kept.lists run
    exact .unbond kept signed someone state rfl rfl rfl
  | drain =>
    obtain ⟨s, amount, run, rfl⟩ := sending_eq_ok.mp ran
    obtain ⟨-, rfl⟩ := drain_ok run
    exact .quiet rfl rfl rfl
  | changeOwner =>
    obtain ⟨s, run, rfl⟩ := keeping_eq_ok.mp ran
    obtain rfl := changeOwner_ok run
    exact .quiet rfl rfl rfl
  | transfer =>
    obtain ⟨s, run, rfl⟩ := keeping_eq_ok.mp ran
    obtain ⟨owned, -, rfl⟩ := transfer_ok run
    exact .relabel (Or.inr owned) (Or.inr (Or.inr (Or.inr rfl))) rfl rfl rfl

namespace Kept
variable {sv : SolanaService} {rows : List Row}

theorem empty : Kept .empty [] := by
  refine ⟨⟨rfl, rfl, rfl⟩, empty_configured, ?_, ?_, rfl, ?_, fun _ => rfl, fun _ => rfl⟩ <;> simp

/-- Other parameters, before registration opens. -/
theorem reset (configured : Configured sv) (state : sv.state = .preRegistration)
    (lists : sv.Lists []) (none : sv.numAgentInstances = 0) : Kept sv [] := by
  refine ⟨lists, configured, ?_, ?_, none, ?_, fun _ => rfl, ?_⟩
  · simp
  · simp
  · simp
  · rw [state]
    rintro (wrong | wrong) <;> cases wrong

/-- A service that is not terminated and has no instances has no rows. -/
theorem rows_nil (kept : Kept sv rows) (bonded : sv.state ≠ .terminatedBonded)
    (none : sv.numAgentInstances = 0) : rows = [] := by
  have zero := kept.counted.symm.trans none
  rw [List.countP_eq_zero] at zero
  cases rows with
  | nil => rfl
  | cons r rest =>
    have gone := zero r List.mem_cons_self
    simp only [present, ne_eq, decide_not, Bool.not_eq_true', decide_eq_false_iff_not,
      not_not] at gone
    exact absurd gone (kept.whole bonded r List.mem_cons_self)

theorem relabel (kept : Kept sv rows) {owner multisig : Pubkey} {state : ServiceState}
    (moves : (sv.state = .preRegistration ∧ state = .activeRegistration) ∨
      (sv.state = .finishedRegistration ∧ state = .deployed) ∨
      (sv.state ≠ .terminatedBonded ∧
        state = if 0 < sv.numAgentInstances then .terminatedBonded else .preRegistration) ∨
      state = sv.state) :
    Kept { sv with serviceOwner := owner, multisig := multisig, state := state } rows := by
  have configured : Configured { sv with
      serviceOwner := owner
      multisig := multisig
      state := state } :=
    ⟨kept.configured.nodup, kept.configured.positive, kept.configured.slots,
      kept.configured.bonds, kept.configured.limit⟩
  refine ⟨⟨kept.lists.operators, kept.lists.agentInstances, kept.lists.agentIds⟩, configured,
    kept.listed, kept.cleared, kept.counted, ?_, ?_, ?_⟩
  all_goals rcases moves with ⟨before, rfl⟩ | ⟨before, rfl⟩ | ⟨before, rfl⟩ | rfl
  · exact fun _ => kept.whole (by rw [before]; decide)
  · exact fun _ => kept.whole (by rw [before]; decide)
  · exact fun _ => kept.whole before
  · exact kept.whole
  · rintro (wrong | wrong) <;> cases wrong
  · rintro (wrong | wrong) <;> cases wrong
  · intro left
    refine kept.rows_nil before (Nat.eq_zero_of_not_pos fun positive => ?_)
    rw [if_pos positive] at left
    rcases left with wrong | wrong <;> cases wrong
  · exact kept.vacant
  · rintro (wrong | wrong) <;> cases wrong
  · exact fun _ => kept.full (Or.inl before)
  · intro left
    split at left <;> rcases left with wrong | wrong <;> cases wrong
  · exact kept.full

theorem register (kept : Kept sv rows) {operator : Pubkey} {agentInstances : List Pubkey}
    {agentIds : List Uint32} (someone : operator ≠ 0)
    (lengths : agentInstances.length = agentIds.length) (state : sv.state = .activeRegistration)
    (listed : ∀ agentId ∈ agentIds, agentId ∈ sv.agentIds) :
    Kept (sv.enrolled rows operator agentInstances agentIds)
      (rows ++ batchRows operator (agentInstances.zip agentIds)) := by
  have batch : ∀ r ∈ batchRows operator (agentInstances.zip agentIds),
      r.operator = operator ∧ r.agentId ∈ agentIds := by
    intro r member
    obtain ⟨entry, listed, rfl⟩ := List.mem_map.mp member
    exact ⟨rfl, (List.of_mem_zip listed).2⟩
  have added : (batchRows operator (agentInstances.zip agentIds)).countP present =
      agentInstances.length := by
    rw [List.countP_eq_length.mpr fun r member => by
      simpa only [present, ne_eq, decide_not, Bool.not_eq_true', decide_eq_false_iff_not,
        (batch r member).1] using someone]
    simp [batchRows, lengths]
  have before : ∀ r ∈ rows, r.operator ≠ 0 := kept.whole (by rw [state]; decide)
  have later : ∀ r ∈ rows ++ batchRows operator (agentInstances.zip agentIds),
      r.operator ≠ 0 ∧ r.agentId ∈ sv.agentIds := by
    intro r member
    rcases List.mem_append.mp member with member | member
    · exact ⟨before r member, kept.listed r member (before r member)⟩
    · rw [(batch r member).1]
      exact ⟨someone, listed _ (batch r member).2⟩
  have counted : sv.numAgentInstances + agentInstances.length =
      (rows ++ batchRows operator (agentInstances.zip agentIds)).countP present := by
    rw [List.countP_append, added, kept.counted]
  have configured := kept.configured
  simp only [SolanaService.enrolled, fill]
  split
  · next full =>
    refine ⟨⟨rfl, rfl, rfl⟩, ⟨configured.nodup, configured.positive, configured.slots,
      configured.bonds, configured.limit⟩, fun r member _ => (later r member).2,
      fun r member zero => absurd zero (later r member).1, counted,
      fun _ r member => (later r member).1, ?_, fun _ => full⟩
    rintro (wrong | wrong) <;> cases wrong
  · refine ⟨⟨rfl, rfl, rfl⟩, ⟨configured.nodup, configured.positive, configured.slots,
      configured.bonds, configured.limit⟩, fun r member _ => (later r member).2,
      fun r member zero => absurd zero (later r member).1, counted,
      fun _ r member => (later r member).1, ?_, ?_⟩
    · simp only [SolanaService.withInstances, state]
      rintro (wrong | wrong) <;> cases wrong
    · simp only [SolanaService.withInstances, state]
      rintro (wrong | wrong) <;> cases wrong

/-- The rows that are left, and those that leave. -/
theorem countP_clear (operator : Pubkey) (someone : operator ≠ 0) (rows : List Row) :
    (rows.map (Row.clear operator)).countP present +
      (rows.countP fun r => r.operator = operator) = rows.countP present := by
  induction rows with
  | nil => rfl
  | cons r rest ih =>
    rw [List.map_cons, List.countP_cons, List.countP_cons, List.countP_cons]
    by_cases own : r.operator = operator
    · subst own
      simp only [Row.clear, if_true, present, ne_eq, not_true_eq_false, decide_false,
        Bool.false_eq_true, if_false, decide_true, someone, not_false_eq_true] at ih ⊢
      omega
    · simp only [Row.clear, own, if_false, decide_false, Bool.false_eq_true] at ih ⊢
      omega

theorem unbond (kept : Kept sv rows) {operator : Pubkey} (someone : operator ≠ 0)
    (state : sv.state = .terminatedBonded) :
    ∃ rows', (rows' = rows.map (Row.clear operator) ∨
        rows' = [] ∧ ∀ r ∈ rows, r.operator = operator ∨ r.operator = 0) ∧
      Kept (sv.released rows operator) rows' := by
  have counted := countP_clear operator someone rows
  have configured := kept.configured
  have left : sv.numAgentInstances - (rows.countP fun r => r.operator = operator) =
      (rows.map (Row.clear operator)).countP present := by
    rw [kept.counted]
    omega
  rw [SolanaService.released, left]
  simp only [vacate]
  split
  · next none =>
    refine ⟨[], Or.inr ⟨rfl, fun r member => ?_⟩, ⟨rfl, rfl, rfl⟩,
      ⟨configured.nodup, configured.positive, configured.slots, configured.bonds,
        configured.limit⟩, by simp, by simp, none, by simp, fun _ => rfl, ?_⟩
    · have gone := List.countP_eq_zero.mp none _ (List.mem_map_of_mem member)
      by_cases own : r.operator = operator
      · exact Or.inl own
      · right
        simpa [present, Row.clear, own] using gone
    · rintro (wrong | wrong) <;> cases wrong
  · refine ⟨_, Or.inl rfl, ⟨rfl, rfl, rfl⟩, ⟨configured.nodup, configured.positive,
      configured.slots, configured.bonds, configured.limit⟩, ?_, ?_, rfl, ?_, ?_, ?_⟩
    · intro r listed present
      obtain ⟨old, member, rfl⟩ := List.mem_map.mp listed
      by_cases own : old.operator = operator
      · rw [Row.clear, if_pos own] at present
        exact absurd rfl present
      · rw [Row.clear, if_neg own] at present ⊢
        exact kept.listed old member present
    · intro r listed gone
      obtain ⟨old, member, rfl⟩ := List.mem_map.mp listed
      by_cases own : old.operator = operator
      · rw [Row.clear, if_pos own]
      · rw [Row.clear, if_neg own] at gone ⊢
        exact kept.cleared old member gone
    · simp only [SolanaService.withInstances, state]
      exact fun wrong => absurd rfl wrong
    · simp only [SolanaService.withInstances, state]
      rintro (wrong | wrong) <;> cases wrong
    · simp only [SolanaService.withInstances, state]
      rintro (wrong | wrong) <;> cases wrong

end Kept

theorem fill_exists {sv : SolanaService} (before : sv.state ≠ .nonExistent) :
    (fill sv).state ≠ .nonExistent := by
  unfold fill
  split
  · exact fun wrong => by cases wrong
  · exact before

theorem vacate_exists {sv : SolanaService} (before : sv.state ≠ .nonExistent) :
    (vacate sv).state ≠ .nonExistent := by
  unfold vacate
  split
  · exact fun wrong => by cases wrong
  · exact before

namespace SolanaShape

/-- One record of a service that existed is written. -/
theorem write {s s' : SolanaState} (shape : SolanaShape s) {id : Uint32} {sv : SolanaService}
    {rows : List Row} (existed : (s.services id).state ≠ .nonExistent) (kept : Kept sv rows)
    (exists' : sv.state ≠ .nonExistent) (supply : s'.totalSupply = s.totalSupply)
    (services : s'.services = Function.update s.services id sv) : SolanaShape s' := by
  refine ⟨fun other => ?_, fun other above => ?_, fun other none => ?_⟩
  all_goals rw [services, Function.update_apply]
  · split
    · exact ⟨rows, kept⟩
    · exact shape.services other
  · rw [supply] at above
    have blank := shape.blank other above
    split
    · next same =>
      subst same
      rw [blank] at existed
      exact absurd rfl existed
    · exact blank
  · rw [services, Function.update_apply] at none
    split
    · next same =>
      rw [if_pos same] at none
      exact absurd none exists'
    · next same =>
      rw [if_neg same] at none
      exact shape.existing other none

theorem step {s s' : SolanaState} {call : SolanaCall} (shape : SolanaShape s)
    (taken : SolanaStep s s' call) : SolanaShape s' := by
  cases taken with
  | @create _ id sv fresh configured state lists none supply services engaged =>
    refine ⟨fun other => ?_, fun other above => ?_, fun other none' => ?_⟩
    all_goals rw [services, Function.update_apply]
    · split
      · exact ⟨[], .reset configured state lists none⟩
      · exact shape.services other
    · rw [supply] at above
      have different : other ≠ id := fun same => by
        rw [same, fresh] at above
        exact lt_irrefl _ above
      rw [if_neg different]
      exact shape.blank other (by omega)
    · rw [services, Function.update_apply] at none'
      split
      · next same =>
        rw [if_pos same, state] at none'
        cases none'
      · next same =>
        rw [if_neg same] at none'
        exact shape.existing other none'
  | @update _ id sv before configured state operators instances ids number supply services =>
    obtain ⟨rows, kept⟩ := shape.services id
    obtain rfl := kept.vacant (Or.inr before)
    have lists : sv.Lists [] := by
      refine ⟨?_, ?_, ?_⟩
      · rw [operators, kept.lists.operators]
      · rw [instances, kept.lists.agentInstances]
      · rw [ids, kept.lists.agentIds]
    have none : sv.numAgentInstances = 0 := by
      rw [number, kept.counted]
      rfl
    exact shape.write (by rw [before]; decide) (.reset configured state lists none)
      (by rw [state]; decide) supply services
  | @relabel _ id owner multisig state existing moves supply services =>
    obtain ⟨rows, kept⟩ := shape.services id
    have existed : (s.services id).state ≠ .nonExistent := by
      intro none
      have blank := shape.existing id none
      rw [blank] at existing
      rcases existing with wrong | wrong <;> exact wrong rfl
    refine shape.write existed (kept.relabel moves) ?_ supply services
    rcases moves with ⟨-, rfl⟩ | ⟨-, rfl⟩ | ⟨-, rfl⟩ | rfl
    · exact fun wrong => by cases wrong
    · exact fun wrong => by cases wrong
    · dsimp only
      split <;> exact fun wrong => by cases wrong
    · exact existed
  | register kept someone lengths state listed unused nodup supply services engaged =>
    refine shape.write (by rw [state]; decide) (kept.register someone lengths state listed)
      (fill_exists ?_) supply services
    simp only [SolanaService.withInstances, state]
    decide
  | unbond kept signed someone state supply services engaged =>
    obtain ⟨rows', -, after⟩ := kept.unbond someone state
    refine shape.write (by rw [state]; decide) after (vacate_exists ?_) supply services
    simp only [SolanaService.withInstances, state]
    decide
  | quiet supply services engaged =>
    refine ⟨?_, ?_, ?_⟩
    all_goals rw [services]
    · exact shape.services
    · rw [supply]
      exact shape.blank
    · exact shape.existing

theorem deployment (owner : Pubkey) : SolanaShape (ServiceRegistrySolana.deployment owner) :=
  ⟨fun _ => ⟨[], .empty⟩, fun _ _ => rfl, fun _ _ => rfl⟩

end SolanaShape

/-- An invariant of the program that every call preserves holds in every run. -/
theorem solana_invariant {operatorServiceIdHash : Pubkey → Uint32 → Bytes32}
    {D : Discipline SolanaWorld SolanaCall Empty Empty} {P : SolanaWorld → Prop}
    (keep : ∀ w call w', D.call call w → SolanaShape w.store → P w →
      w.enter operatorServiceIdHash call = .ok w' → P w')
    {owner : Pubkey} (initial : P (SolanaWorld.deployment owner))
    {c : Config SolanaWorld Empty}
    (run : Reachable (solanaMachine operatorServiceIdHash) D (SolanaWorld.deployment owner) c) :
    SolanaShape c.state.store ∧ P c.state := by
  have preserved : Preserved (solanaMachine operatorServiceIdHash) D always
      fun w _ => SolanaShape w.store ∧ P w := by
    intro w frames w' frames' taken _ before
    cases taken with
    | entered call allowed ran =>
      simp only [solanaMachine, Except.map] at ran
      split at ran
      · cases ran
      · next after entered =>
        cases ran
        exact ⟨before.1.step (solana_step before.1 entered),
          keep w call after allowed before.1 before.2 entered⟩
    | @resumed frame => exact frame.elim
  exact run.invariant preserved ⟨SolanaShape.deployment owner, initial⟩

end AutonolasRegistries.Guarantees
