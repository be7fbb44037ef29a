import AutonolasRegistries.Library.Grouping
import AutonolasRegistries.Guarantees.SolanaShape

/-!
# Slots of the Solana registry

`registerAgents` looks at the free slots of all Ids of a batch before it adds the first
instance, and asks of each only that it is not full, `ServiceRegistrySolana.sol:431-440`. A
batch that names an Id more often than it has free slots goes through; the registries for
the EVM count instance by instance. With batches that fit the slot law holds.
-/
namespace AutonolasRegistries.Guarantees
open Library Source Source.ServiceRegistrySolana

/-- No Id of the service is in the batch more often than it has free slots. -/
def Fits (sv : SolanaService) (agentIds : List Uint32) : Prop :=
  ∀ entry ∈ sv.agentIds.zip sv.slots,
    sv.agentIdForAgentInstances.count entry.1 + agentIds.count entry.1 ≤ entry.2.val

def slotsDiscipline : Discipline SolanaWorld SolanaCall Empty Empty where
  call call w := match call with
    | .registerAgents _ _ serviceId _ agentIds => Fits (w.store.services serviceId) agentIds
    | _ => True
  answer _ _ _ := True

instance (call : SolanaCall) (w : SolanaWorld) : Decidable (slotsDiscipline.call call w) :=
  match call with
  | .registerAgents _ _ serviceId _ agentIds =>
    List.decidableBAll (fun entry : Uint32 × Uint32 =>
      (w.store.services serviceId).agentIdForAgentInstances.count entry.1 +
        agentIds.count entry.1 ≤ entry.2.val) _
  | .create .. | .update .. | .activateRegistration .. | .deploy .. | .slash ..
  | .terminate .. | .unbond .. | .drain .. | .changeOwner .. | .transfer .. => .isTrue trivial

instance (frame answer : Empty) (w : SolanaWorld) :
    Decidable (slotsDiscipline.answer frame answer w) := .isTrue trivial

/-- The slots of a service are not overfull. -/
def Within (sv : SolanaService) : Prop :=
  ∀ entry ∈ sv.agentIds.zip sv.slots,
    sv.agentIdForAgentInstances.count entry.1 ≤ entry.2.val

section Counting
variable {sv : SolanaService} {rows : List Row}

theorem Kept.not_zero (kept : Kept sv rows) {agentId : Uint32} (member : agentId ∈ sv.agentIds) :
    agentId ≠ 0 :=
  fun zero => kept.configured.positive (zero ▸ member)

/-- The instances of an Id are its rows that were not cleared. -/
theorem Kept.count_agentId (kept : Kept sv rows) {agentId : Uint32}
    (member : agentId ∈ sv.agentIds) :
    sv.agentIdForAgentInstances.count agentId =
      ((rows.filter present).filter fun r => r.agentId = agentId).length := by
  rw [kept.lists.agentIds, List.count, List.countP_map, List.countP_eq_length_filter,
    List.filter_filter]
  congr 1
  apply List.filter_congr
  intro r listed
  by_cases same : r.agentId = agentId
  · have some : r.operator ≠ 0 := by
      intro gone
      rw [kept.cleared r listed gone] at same
      exact kept.not_zero member same.symm
    simp [same, present, some]
  · simp [same]

/-- The instances of all Ids together. -/
theorem Kept.sum_count (kept : Kept sv rows) :
    (sv.agentIds.map fun agentId => sv.agentIdForAgentInstances.count agentId).sum =
      sv.numAgentInstances := by
  have covered : ∀ r ∈ rows.filter present, r.agentId ∈ sv.agentIds := by
    intro r member
    obtain ⟨listed, some⟩ := List.mem_filter.mp member
    exact kept.listed r listed (by simpa [present] using some)
  have groups := (groups_perm Row.agentId kept.configured.nodup covered).length_eq
  rw [List.length_flatMap] at groups
  rw [kept.counted, List.countP_eq_length_filter, ← groups]
  exact congrArg List.sum (List.map_congr_left fun agentId member => kept.count_agentId member)

/-- The same, Id by Id with its slots. -/
theorem Kept.sum_zip (kept : Kept sv rows) :
    ((sv.agentIds.zip sv.slots).map fun entry =>
        sv.agentIdForAgentInstances.count entry.1).sum = sv.numAgentInstances ∧
      ((sv.agentIds.zip sv.slots).map fun entry => entry.2.val).sum =
        sv.maxNumAgentInstances := by
  have lengths := kept.configured.slots
  have first : (sv.agentIds.zip sv.slots).map Prod.fst = sv.agentIds :=
    List.map_fst_zip (le_of_eq lengths.symm)
  have second : (sv.agentIds.zip sv.slots).map Prod.snd = sv.slots :=
    List.map_snd_zip (le_of_eq lengths)
  constructor
  · have counts := kept.sum_count
    rw [← first, List.map_map] at counts
    exact counts
  · have limit := kept.configured.limit
    rw [← second, List.map_map] at limit
    exact limit.symm

theorem Kept.number_le (kept : Kept sv rows) (within : Within sv) :
    sv.numAgentInstances ≤ sv.maxNumAgentInstances := by
  obtain ⟨number, limit⟩ := kept.sum_zip
  rw [← number, ← limit]
  exact List.sum_le_sum within

theorem Kept.exact (kept : Kept sv rows) (within : Within sv)
    (full : sv.numAgentInstances = sv.maxNumAgentInstances) :
    ∀ entry ∈ sv.agentIds.zip sv.slots,
      sv.agentIdForAgentInstances.count entry.1 = entry.2.val := by
  obtain ⟨number, limit⟩ := kept.sum_zip
  exact eq_of_sum_eq within (by rw [number, limit, full])

/-- Rows that are cleared count for no Id. -/
theorem count_clear (operator : Pubkey) (rows : List Row) {agentId : Uint32}
    (some : agentId ≠ 0) :
    ((rows.map (Row.clear operator)).map Row.agentId).count agentId ≤
      (rows.map Row.agentId).count agentId := by
  induction rows with
  | nil => exact le_refl _
  | cons r rest ih =>
    simp only [List.map_cons, List.count_cons]
    by_cases own : r.operator = operator
    · simp only [Row.clear, own, if_true, beq_iff_eq, some.symm, if_false] at ih ⊢
      omega
    · simp only [Row.clear, own, if_false] at ih ⊢
      omega

end Counting

theorem within_of_nil {sv : SolanaService} (none : sv.agentIdForAgentInstances = []) :
    Within sv := by
  intro entry _
  rw [none]
  exact Nat.zero_le _

theorem within_step {w w' : SolanaWorld} {call : SolanaCall} (shape : SolanaShape w.store)
    (before : ∀ id, Within (w.store.services id)) (fits : slotsDiscipline.call call w)
    (taken : SolanaStep w.store w'.store call) (id : Uint32) : Within (w'.store.services id) := by
  have other : ∀ {changed : Uint32} {sv : SolanaService},
      w'.store.services = Function.update w.store.services changed sv → Within sv →
      Within (w'.store.services id) := by
    intro changed sv services within
    rw [services, Function.update_apply]
    split
    · exact within
    · exact before id
  cases taken with
  | create fresh configured state lists none supply services engaged =>
    exact other services (within_of_nil lists.agentIds)
  | @update _ changed sv state configured state' operators instances ids number supply services =>
    obtain ⟨rows, kept⟩ := shape.services changed
    obtain rfl := kept.vacant (Or.inr state)
    exact other services (within_of_nil (by rw [ids, kept.lists.agentIds]; rfl))
  | @relabel _ changed owner multisig state existing moves supply services =>
    exact other services (before changed)
  | @register _ _ changed agentInstances agentIds operator rows kept someone lengths state listed
      unused nodup supply services =>
    refine other services ?_
    have room : Fits (w.store.services changed) agentIds := fits
    have batch : (batchRows operator (agentInstances.zip agentIds)).map Row.agentId = agentIds := by
      rw [batchRows, List.map_map]
      exact List.map_snd_zip (le_of_eq lengths.symm)
    intro entry member
    obtain ⟨ids, slots, -⟩ :=
      (w.store.services changed).enrolled_parameters rows operator agentInstances agentIds
    rw [ids, slots] at member
    rw [((w.store.services changed).enrolled_lists rows operator agentInstances agentIds).agentIds,
      List.map_append, batch, List.count_append, ← kept.lists.agentIds]
    exact room entry member
  | @unbond _ _ changed operator rows kept signed someone state supply services =>
    refine other services ?_
    unfold SolanaService.released vacate
    split
    · exact within_of_nil rfl
    · intro entry member
      have listed : entry.1 ∈ (w.store.services changed).agentIds := (List.of_mem_zip member).1
      refine le_trans (count_clear operator rows (kept.not_zero listed)) ?_
      rw [← kept.lists.agentIds]
      exact before changed entry member
  | quiet supply services engaged =>
    rw [services]
    exact before id

/-- In every run in which the batches fit into the free slots, no service has more instances
than slots, in total or for one of its Ids, and a service that finished registration has
exactly as many. -/
theorem solana_within_slots (operatorServiceIdHash : Pubkey → Uint32 → Bytes32) (owner : Pubkey)
    {c : Config SolanaWorld Empty}
    (run : Reachable (solanaMachine operatorServiceIdHash) slotsDiscipline
      (SolanaWorld.deployment owner) c) (serviceId : Uint32) :
    (c.state.store.services serviceId).numAgentInstances ≤
        (c.state.store.services serviceId).maxNumAgentInstances ∧
      ∀ (i : Nat) (agentId slot : Uint32), (c.state.store.services serviceId).agentIds[i]? = some agentId →
        (c.state.store.services serviceId).slots[i]? = some slot →
        (c.state.store.services serviceId).agentIdForAgentInstances.count agentId ≤ slot.val ∧
        ((c.state.store.services serviceId).state = .finishedRegistration ∨
            (c.state.store.services serviceId).state = .deployed →
          (c.state.store.services serviceId).agentIdForAgentInstances.count agentId =
            slot.val) := by
  obtain ⟨shape, within⟩ := solana_invariant (P := fun w => ∀ id, Within (w.store.services id))
    (fun w call w' fits shape before ran => within_step shape before fits (solana_step shape ran))
    (fun _ => within_of_nil rfl) run
  obtain ⟨rows, kept⟩ := shape.services serviceId
  refine ⟨kept.number_le (within serviceId), fun i agentId slot first second => ?_⟩
  have member : (agentId, slot) ∈ (c.state.store.services serviceId).agentIds.zip
      (c.state.store.services serviceId).slots :=
    List.mem_of_getElem? (List.getElem?_zip_eq_some.mpr ⟨first, second⟩)
  exact ⟨within serviceId _ member,
    fun finished => kept.exact (within serviceId) (kept.full finished) _ member⟩

section Scripts

/-- A transaction that one account signs. -/
def signedBy (key : Pubkey) (someone : key ≠ 0) : List TxAccount := [⟨key, true, fun _ => someone⟩]

/-- The hash of the examples. -/
def plainHash (operator : Pubkey) (serviceId : Uint32) : Bytes32 :=
  Fin.ofNat _ (operator.val * 2 ^ 32 + serviceId.val)

/-- Account 3 creates a service with `slots` slots for agent Id 1 and opens registration. -/
def openScript (slots : Uint32) : List (Move SolanaCall Empty) :=
  [.call (.create 3 9 [1] [slots] [5] slots),
    .call (.activateRegistration (signedBy 3 (by decide)) true 1)]

/-- Account 4 registers the two instances 5 and 6 for agent Id 1. -/
def pairCall : Move SolanaCall Empty :=
  .call (.registerAgents (signedBy 4 (by decide)) true 1 [5, 6] [1, 1])

/-- Two instances for two slots. -/
theorem solana_within_slots_pair :
    ∃ c, Reachable (solanaMachine plainHash) slotsDiscipline (SolanaWorld.deployment 2) c ∧
      (c.state.store.services 1).numAgentInstances = 2 ∧
      (c.state.store.services 1).numAgentInstances ≤
        (c.state.store.services 1).maxNumAgentInstances := by
  obtain ⟨c, run, seen⟩ := Machine.play_observed slotsDiscipline (solanaMachine plainHash)
    (SolanaWorld.deployment 2) (openScript 2 ++ [pairCall])
    (fun c => (c.state.store.services 1).numAgentInstances) 2 (by decide +kernel)
  exact ⟨c, run, seen, (solana_within_slots plainHash 2 run 1).1⟩

/-- Two instances for one slot. -/
theorem solana_batch_overfills :
    ¬ ∀ (operatorServiceIdHash : Pubkey → Uint32 → Bytes32) (owner : Pubkey)
      (c : Config SolanaWorld Empty),
      Reachable (solanaMachine operatorServiceIdHash) .free (SolanaWorld.deployment owner) c →
      ∀ serviceId, (c.state.store.services serviceId).numAgentInstances ≤
        (c.state.store.services serviceId).maxNumAgentInstances := by
  intro within
  obtain ⟨c, run, seen⟩ := Machine.play_observed .free (solanaMachine plainHash)
    (SolanaWorld.deployment 2) (openScript 1 ++ [pairCall])
    (fun c => ((c.state.store.services 1).numAgentInstances,
      (c.state.store.services 1).maxNumAgentInstances)) (2, 1) (by decide +kernel)
  obtain ⟨number, limit⟩ := Prod.mk.inj seen
  have bound := within plainHash 2 c run 1
  rw [number, limit] at bound
  exact absurd bound (by decide)

end Scripts

end AutonolasRegistries.Guarantees
