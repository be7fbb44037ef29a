import AutonolasRegistries.Guarantees.SolanaSlots

/-!
# Seated instances of the Solana registry

`unbond` clears the rows of the operator and leaves `mapAgentInstanceOperators` alone,
`ServiceRegistrySolana.sol:655-680`; the registries for the EVM free the instances there. Up
to the first instance that leaves this way the map and the arrays agree.
-/
namespace AutonolasRegistries.Guarantees
open Library Source Source.ServiceRegistrySolana

/-- The operator found for an `unbond` has no instance in the service. -/
def LosesNone (sv : SolanaService) : Except SolanaRevert Pubkey → Prop
  | .ok operator => ∀ entry ∈ sv.operators.zip sv.agentInstances, entry.1 = operator → entry.2 = 0
  | .error _ => True

def engagedDiscipline : Discipline SolanaWorld SolanaCall Empty Empty where
  call call w := match call with
    | .unbond accounts _ serviceId =>
      LosesNone (w.store.services serviceId) (signingOperator accounts)
    | _ => True
  answer _ _ _ := True

instance (sv : SolanaService) (signed : Except SolanaRevert Pubkey) : Decidable (LosesNone sv signed) :=
  match signed with
  | .ok operator => inferInstanceAs (Decidable (∀ entry ∈ sv.operators.zip sv.agentInstances,
      entry.1 = operator → entry.2 = 0))
  | .error _ => .isTrue trivial

instance (call : SolanaCall) (w : SolanaWorld) : Decidable (engagedDiscipline.call call w) :=
  match call with
  | .unbond accounts _ serviceId =>
    inferInstanceAs (Decidable (LosesNone (w.store.services serviceId) (signingOperator accounts)))
  | .create .. | .update .. | .activateRegistration .. | .registerAgents .. | .deploy ..
  | .slash .. | .terminate .. | .drain .. | .changeOwner .. | .transfer .. => .isTrue trivial

instance (frame answer : Empty) (w : SolanaWorld) :
    Decidable (engagedDiscipline.answer frame answer w) := .isTrue trivial

/-- Instance `a` is at index `j` of the arrays, with its operator. -/
def At (sv : SolanaService) (j : Nat) (a operator : Pubkey) : Prop :=
  sv.agentInstances[j]? = some a ∧ sv.operators[j]? = some operator

/-- The map of engaged instances and the arrays of all services. -/
structure Seated (s : SolanaState) : Prop where
  held : ∀ a, a ≠ 0 → s.mapAgentInstanceOperators a ≠ 0 →
    ∃ id j, At (s.services id) j a (s.mapAgentInstanceOperators a)
  entered : ∀ a, a ≠ 0 → ∀ id j operator, At (s.services id) j a operator →
    s.mapAgentInstanceOperators a = operator
  once : ∀ a, a ≠ 0 → ∀ id j operator id' j' operator', At (s.services id) j a operator →
    At (s.services id') j' a operator' → id = id' ∧ j = j'

section Rows
variable {sv : SolanaService} {rows : List Row}

theorem at_iff (lists : sv.Lists rows) {j : Nat} {a operator : Pubkey} :
    At sv j a operator ↔ ∃ r, rows[j]? = some r ∧ r.agentInstance = a ∧ r.operator = operator := by
  rw [At, lists.agentInstances, lists.operators, List.getElem?_map, List.getElem?_map]
  cases rows[j]? with
  | none => simp
  | some r => simp

/-- An instance that is no zero entry has an operator. -/
theorem Kept.operator_ne_zero (kept : Kept sv rows) {j : Nat} {a operator : Pubkey}
    (some : a ≠ 0) (found : At sv j a operator) : operator ≠ 0 := by
  obtain ⟨r, read, rfl, rfl⟩ := (at_iff kept.lists).mp found
  intro gone
  have cleared := kept.cleared r (List.mem_of_getElem? read) gone
  rw [cleared] at some
  exact some rfl

/-- An index without an entry has no instance. -/
theorem not_at_nil (none : sv.agentInstances = []) (j : Nat) (a operator : Pubkey) :
    ¬ At sv j a operator := by
  simp [At, none]

/-- The rows of a batch follow those that were there. -/
theorem at_register {operator : Pubkey} {agentInstances : List Pubkey} {agentIds : List Uint32}
    (lists : sv.Lists rows) (lengths : agentInstances.length = agentIds.length) {j : Nat}
    {a other : Pubkey} :
    At (sv.enrolled rows operator agentInstances agentIds) j a other ↔
      At sv j a other ∨
        (rows.length ≤ j ∧ agentInstances[j - rows.length]? = some a ∧ other = operator) := by
  have batch : ∀ k : Nat, (∃ r : Row,
      (batchRows operator (agentInstances.zip agentIds))[k]? = some r ∧
        r.agentInstance = a ∧ r.operator = other) ↔
      agentInstances[k]? = some a ∧ other = operator := by
    intro k
    have first : (agentInstances.zip agentIds).map Prod.fst = agentInstances :=
      List.map_fst_zip (le_of_eq lengths)
    nth_rewrite 2 [← first]
    rw [batchRows, List.getElem?_map, List.getElem?_map]
    cases (agentInstances.zip agentIds)[k]? with
    | none => simp
    | some entry =>
      simp only [Option.map_some, Option.some.injEq, exists_eq_left']
      exact and_congr_right fun _ => eq_comm
  rw [at_iff (sv.enrolled_lists rows operator agentInstances agentIds), at_iff lists]
  by_cases inside : j < rows.length
  · rw [List.getElem?_append_left inside]
    constructor
    · exact Or.inl
    · rintro (found | ⟨beyond, -⟩)
      · exact found
      · omega
  · rw [List.getElem?_append_right (not_lt.mp inside), batch]
    have outside : rows[j]? = none := List.getElem?_eq_none (not_lt.mp inside)
    rw [outside]
    constructor
    · exact fun found => Or.inr ⟨not_lt.mp inside, found⟩
    · rintro (⟨r, wrong, -⟩ | ⟨-, found⟩)
      · cases wrong
      · exact found

/-- Rows without an instance can be cleared. -/
theorem Kept.at_unbond (kept : Kept sv rows) {operator : Pubkey} (someone : operator ≠ 0)
    (state : sv.state = .terminatedBonded)
    (none : ∀ r ∈ rows, r.operator = operator → r.agentInstance = 0) {j : Nat}
    {a other : Pubkey} (some : a ≠ 0) :
    At (sv.released rows operator) j a other ↔ At sv j a other := by
  obtain ⟨rows', which, after⟩ := kept.unbond someone state
  rw [at_iff after.lists, at_iff kept.lists]
  rcases which with rfl | ⟨rfl, all⟩
  · rw [List.getElem?_map]
    cases read : rows[j]? with
    | none => simp
    | some r =>
      simp only [Option.map_some, Option.some.injEq, exists_eq_left']
      by_cases own : r.operator = operator
      · have zero := none r (List.mem_of_getElem? read) own
        rw [Row.clear, if_pos own, zero]
        exact ⟨fun found => absurd found.1.symm some, fun found => absurd found.1.symm some⟩
      · rw [Row.clear, if_neg own]
  · constructor
    · rintro ⟨r, wrong, -⟩
      cases wrong
    · rintro ⟨r, read, rfl, rfl⟩
      have member := List.mem_of_getElem? read
      rcases all r member with own | gone
      · exact absurd (none r member own) some
      · rw [kept.cleared r member gone] at some
        exact absurd rfl some

end Rows

namespace Seated
variable {s s' : SolanaState}

/-- The map and the places of the instances are as before. -/
theorem of_same (before : Seated s)
    (engaged : s'.mapAgentInstanceOperators = s.mapAgentInstanceOperators)
    (places : ∀ id j a operator, a ≠ 0 →
      (At (s'.services id) j a operator ↔ At (s.services id) j a operator)) : Seated s' := by
  refine ⟨?_, ?_, ?_⟩
  · intro a some
    rw [engaged]
    intro busy
    obtain ⟨id, j, found⟩ := before.held a some busy
    exact ⟨id, j, (places id j a _ some).mpr found⟩
  · intro a some id j operator found
    rw [engaged]
    exact before.entered a some id j operator ((places id j a _ some).mp found)
  · intro a some id j operator id' j' operator' found found'
    exact before.once a some id j operator id' j' operator' ((places id j a _ some).mp found)
      ((places id' j' a _ some).mp found')

/-- One record is written, with the instances where they were. -/
theorem of_write (before : Seated s) {changed : Uint32} {sv : SolanaService}
    (engaged : s'.mapAgentInstanceOperators = s.mapAgentInstanceOperators)
    (services : s'.services = Function.update s.services changed sv)
    (places : ∀ j a operator, a ≠ 0 →
      (At sv j a operator ↔ At (s.services changed) j a operator)) : Seated s' := by
  refine before.of_same engaged fun id j a operator some => ?_
  rw [services, Function.update_apply]
  split
  · next same =>
    rw [same]
    exact places j a operator some
  · rfl

theorem register (shape : SolanaShape s) (before : Seated s) {changed : Uint32}
    {agentInstances : List Pubkey} {agentIds : List Uint32} {operator : Pubkey}
    {rows : List Row} (kept : Kept (s.services changed) rows)
    (lengths : agentInstances.length = agentIds.length)
    (unused : ∀ a ∈ agentInstances, s.mapAgentInstanceOperators a = 0)
    (nodup : agentInstances.Nodup)
    (services : s'.services = Function.update s.services changed
      ((s.services changed).enrolled rows operator agentInstances agentIds))
    (engaged : s'.mapAgentInstanceOperators = fun a =>
      if a ∈ agentInstances then operator else s.mapAgentInstanceOperators a) : Seated s' := by
  have places : ∀ id j a other, At (s'.services id) j a other ↔ At (s.services id) j a other ∨
      (id = changed ∧ rows.length ≤ j ∧ agentInstances[j - rows.length]? = some a ∧
        other = operator) := by
    intro id j a other
    rw [services, Function.update_apply]
    split
    · next same =>
      subst same
      rw [at_register kept.lists lengths]
      simp
    · next different => simp [different]
  -- An instance that has a place is none of the batch.
  have apart : ∀ a, a ≠ 0 → ∀ id j other, At (s.services id) j a other → a ∉ agentInstances := by
    intro a some id j other found member
    obtain ⟨rows', kept'⟩ := shape.services id
    have free := unused a member
    rw [before.entered a some id j other found] at free
    exact kept'.operator_ne_zero some found free
  refine ⟨?_, ?_, ?_⟩
  · intro a some busy
    simp only [engaged] at busy ⊢
    by_cases member : a ∈ agentInstances
    · obtain ⟨k, read⟩ := List.getElem?_of_mem member
      refine ⟨changed, rows.length + k, (places _ _ _ _).mpr (Or.inr ⟨rfl, by omega, ?_, ?_⟩)⟩
      · rwa [Nat.add_sub_cancel_left]
      · rw [if_pos member]
    · rw [if_neg member] at busy ⊢
      obtain ⟨id, j, found⟩ := before.held a some busy
      exact ⟨id, j, (places _ _ _ _).mpr (Or.inl found)⟩
  · intro a some id j other found
    simp only [engaged]
    rcases (places _ _ _ _).mp found with old | ⟨-, -, read, rfl⟩
    · rw [if_neg (apart a some id j other old)]
      exact before.entered a some id j other old
    · rw [if_pos (List.mem_of_getElem? read)]
  · intro a some id j other id' j' other' found found'
    rcases (places _ _ _ _).mp found with old | ⟨rfl, low, read, -⟩ <;>
      rcases (places _ _ _ _).mp found' with old' | ⟨rfl, low', read', -⟩
    · exact before.once a some id j other id' j' other' old old'
    · exact absurd (List.mem_of_getElem? read') (apart a some id j other old)
    · exact absurd (List.mem_of_getElem? read) (apart a some id' j' other' old')
    · have inside := (List.getElem?_eq_some_iff.mp read).1
      have same := (List.getElem?_inj inside nodup).mp (read.trans read'.symm)
      exact ⟨rfl, by omega⟩

theorem step {w w' : SolanaWorld} {call : SolanaCall} (shape : SolanaShape w.store)
    (before : Seated w.store) (loses : engagedDiscipline.call call w)
    (taken : SolanaStep w.store w'.store call) : Seated w'.store := by
  cases taken with
  | @create _ id sv fresh configured state lists none supply services engaged =>
    refine before.of_write engaged services fun j a operator _ => ?_
    rw [shape.blank id (by omega)]
    exact iff_of_false (not_at_nil lists.agentInstances j a operator)
      (not_at_nil rfl j a operator)
  | @update _ id sv state configured state' operators instances ids number supply services
      engaged =>
    refine before.of_write engaged services fun j a operator _ => ?_
    rw [At, At, instances, operators]
  | relabel existing moves supply services engaged =>
    exact before.of_write engaged services fun j a operator _ => Iff.rfl
  | register kept someone lengths state listed unused nodup supply services engaged =>
    exact before.register shape kept lengths unused nodup services engaged
  | @unbond accounts _ id operator rows kept signed someone state supply services engaged =>
    have none : ∀ r ∈ rows, r.operator = operator → r.agentInstance = 0 := by
      intro r member own
      have gone : LosesNone (w.store.services id) (signingOperator accounts) := loses
      rw [signed] at gone
      refine gone (r.operator, r.agentInstance) ?_ own
      rw [kept.lists.operators, kept.lists.agentInstances, List.zip_map']
      exact List.mem_map_of_mem member
    exact before.of_write engaged services fun j a other some =>
      kept.at_unbond someone state none some
  | quiet supply services engaged =>
    refine before.of_same engaged fun id j a operator _ => ?_
    rw [services]

theorem deployment (owner : Pubkey) : Seated (ServiceRegistrySolana.deployment owner) := by
  refine ⟨fun _ _ busy => absurd rfl busy, ?_, ?_⟩
  · intro a _ id j operator found
    exact absurd found (not_at_nil rfl j a operator)
  · intro a _ id j operator _ _ _ found
    exact absurd found (not_at_nil rfl j a operator)

end Seated

/-- In every run in which no operator unbonds an instance, an account is engaged exactly when
it is an instance of a service, and then at one index of one service, with its operator. -/
theorem solana_engaged (operatorServiceIdHash : Pubkey → Uint32 → Bytes32) (owner : Pubkey)
    {c : Config SolanaWorld Empty}
    (run : Reachable (solanaMachine operatorServiceIdHash) engagedDiscipline
      (SolanaWorld.deployment owner) c) (a : Pubkey) (some : a ≠ 0) :
    (c.state.store.mapAgentInstanceOperators a ≠ 0 ↔
        ∃ id, a ∈ (c.state.store.services id).agentInstances) ∧
      (c.state.store.mapAgentInstanceOperators a ≠ 0 →
        ∃ id j, At (c.state.store.services id) j a
            (c.state.store.mapAgentInstanceOperators a) ∧
          ∀ id' j', (c.state.store.services id').agentInstances[j']? = .some a →
            id' = id ∧ j' = j) := by
  obtain ⟨shape, engaged⟩ := solana_invariant (P := fun w => Seated w.store)
    (fun w call w' loses shape before ran => before.step shape loses (solana_step shape ran))
    (Seated.deployment owner) run
  have placed : ∀ id j, (c.state.store.services id).agentInstances[j]? = .some a →
      ∃ operator, At (c.state.store.services id) j a operator := by
    intro id j read
    obtain ⟨rows, kept⟩ := shape.services id
    have read' := read
    rw [kept.lists.agentInstances, List.getElem?_map, Option.map_eq_some_iff] at read'
    obtain ⟨r, row, rfl⟩ := read'
    exact ⟨r.operator, (at_iff kept.lists).mpr ⟨r, row, rfl, rfl⟩⟩
  refine ⟨⟨fun busy => ?_, fun ⟨id, member⟩ => ?_⟩, fun busy => ?_⟩
  · obtain ⟨id, j, found⟩ := engaged.held a some busy
    exact ⟨id, List.mem_of_getElem? found.1⟩
  · obtain ⟨j, read⟩ := List.getElem?_of_mem member
    obtain ⟨operator, found⟩ := placed id j read
    obtain ⟨rows, kept⟩ := shape.services id
    rw [engaged.entered a some id j operator found]
    exact kept.operator_ne_zero some found
  · obtain ⟨id, j, found⟩ := engaged.held a some busy
    refine ⟨id, j, found, fun id' j' read => ?_⟩
    obtain ⟨operator, found'⟩ := placed id' j' read
    exact engaged.once a some id' j' operator id j _ found' found

/-- Instance 5 of operator 4. -/
theorem solana_engaged_pair :
    ∃ c, Reachable (solanaMachine plainHash) engagedDiscipline (SolanaWorld.deployment 2) c ∧
      c.state.store.mapAgentInstanceOperators 5 ≠ 0 ∧
      ∃ id, (5 : Pubkey) ∈ (c.state.store.services id).agentInstances := by
  obtain ⟨c, run, seen⟩ := Machine.play_observed engagedDiscipline (solanaMachine plainHash)
    (SolanaWorld.deployment 2) (openScript 2 ++ [pairCall])
    (fun c => c.state.store.mapAgentInstanceOperators 5) 4 (by decide +kernel)
  have busy : c.state.store.mapAgentInstanceOperators 5 ≠ 0 := by
    rw [seen]
    decide
  exact ⟨c, run, busy, (solana_engaged plainHash 2 run 5 (by decide)).1.mp busy⟩

/-- Operator 4 registers instances 5 and 6, the service is terminated, and operator 4 unbonds:
instance 5 is in no service and stays engaged. -/
theorem solana_instance_stays_engaged :
    ¬ ∀ (operatorServiceIdHash : Pubkey → Uint32 → Bytes32) (owner : Pubkey)
      (c : Config SolanaWorld Empty),
      Reachable (solanaMachine operatorServiceIdHash) .free (SolanaWorld.deployment owner) c →
      ∀ a : Pubkey, a ≠ 0 → (c.state.store.mapAgentInstanceOperators a ≠ 0 ↔
        ∃ id, a ∈ (c.state.store.services id).agentInstances) := by
  intro exact'
  obtain ⟨c, run, seen⟩ := Machine.play_observed .free (solanaMachine plainHash)
    (SolanaWorld.deployment 2) (openScript 2 ++ [pairCall,
      .call (.terminate (signedBy 3 (by decide)) true 1),
      .call (.unbond (signedBy 4 (by decide)) true 1)])
    (fun c => (c.state.store.mapAgentInstanceOperators 5, c.state.store.totalSupply,
      (c.state.store.services 0).agentInstances, (c.state.store.services 1).agentInstances))
    (4, 1, [], []) (by decide +kernel)
  simp only [Prod.mk.injEq] at seen
  obtain ⟨busy, supply, first, second⟩ := seen
  obtain ⟨shape, -⟩ := solana_invariant (P := fun _ => True)
    (fun _ _ _ _ _ _ _ => trivial) trivial run
  obtain ⟨id, member⟩ := (exact' plainHash 2 c run 5 (by decide)).mp (by rw [busy]; decide)
  have small : id = 0 ∨ id = 1 := by
    by_cases above : 1 < id.val
    · rw [shape.blank id (by omega)] at member
      cases member
    · rcases Nat.lt_or_ge id.val 1 with low | high
      · exact Or.inl (Fin.ext (Nat.lt_one_iff.mp low))
      · exact Or.inr (Fin.ext (le_antisymm (not_lt.mp above) high))
  rcases small with rfl | rfl
  · rw [first] at member
    cases member
  · rw [second] at member
    cases member

end AutonolasRegistries.Guarantees
