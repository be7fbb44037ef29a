import AutonolasRegistries.Guarantees.StakingLedger
import AutonolasRegistries.Guarantees.StakingSessions

/-!
# Status and custody of staked services

The set, the status a reader gets from `getStakingState`, the account that holds the
service and the account that staked it, in every run; and no array access of `_evict`
or `_unstake` goes wrong on the way.
-/
namespace AutonolasRegistries.Guarantees
open Library Source Model StakingBase

/-- An array access, or the arithmetic of an index, in the code that edits the set. -/
def SetPanic : StakingError → Prop
  | .panic .evict _ | .panic .unstakeSet _ => True
  | _ => False

theorem ruledOut_of_setPanic {reason : StakingError} (bad : SetPanic reason) :
    RuledOut reason := by
  cases reason with
  | panic site kind => cases site <;> first | exact trivial | exact bad.elim
  | _ => exact bad.elim

/-- What the contract says about its services, and what the registry and the history
say about them. -/
structure StakingStatusSound (contract : Address) (w : StakingWorld) : Prop where
  distinct : w.store.setServiceIds.Nodup
  room : w.store.setServiceIds.length ≤ w.store.params.maxNumServices
  members : ∀ id, id ∈ w.store.setServiceIds ↔ 0 < (w.store.mapServiceInfo id).tsStart ∧
    (w.store.mapServiceInfo id).inactivity ≤ w.store.maxInactivityDuration
  staked : ∀ id, id ∈ w.store.setServiceIds ↔ getStakingState w.store id = .staked
  evicted : ∀ id, (0 < (w.store.mapServiceInfo id).tsStart ∧ id ∉ w.store.setServiceIds) ↔
    getStakingState w.store id = .evicted
  custody : ∀ id, 0 < (w.store.mapServiceInfo id).tsStart → w.nft.ownerOf id = .ok contract
  staker : ∀ id, 0 < (w.store.mapServiceInfo id).tsStart →
    (sessionOf w.history id).map Session.owner = some (w.store.mapServiceInfo id).owner
  blank : ∀ id, (w.store.mapServiceInfo id).tsStart = 0 →
    w.store.mapServiceInfo id = ServiceInfo.empty

theorem statusSound_of_book {self : Address} {w : StakingWorld} (valid : self ≠ 0)
    (book : StakingBook self w) (sessions : SessionBook w) : StakingStatusSound self w := by
  have state : ∀ id, getStakingState w.store id =
      if w.store.maxInactivityDuration < (w.store.mapServiceInfo id).inactivity then .evicted
      else if 0 < (w.store.mapServiceInfo id).tsStart then .staked else .unstaked := fun _ => rfl
  -- An inactivity that is too long belongs to a record in use.
  have used : ∀ id, w.store.maxInactivityDuration < (w.store.mapServiceInfo id).inactivity →
      0 < (w.store.mapServiceInfo id).tsStart := by
    intro id late
    rw [Nat.pos_iff_ne_zero]
    intro zero
    rw [book.blank id zero] at late
    exact Nat.not_lt_zero _ late
  refine ⟨book.sound.distinct, book.room, book.members, fun id => ?_, fun id => ?_,
    fun id running => ?_, fun id running => ?_, book.blank⟩
  · rw [book.members, state]
    split
    · next late => simp [late]
    · next timely => by_cases running : 0 < (w.store.mapServiceInfo id).tsStart <;> simp [running, not_lt.mp timely]
  · rw [book.members, state]
    split
    · next late => simp [used id late, late]
    · next timely => by_cases running : 0 < (w.store.mapServiceInfo id).tsStart <;> simp [running, not_lt.mp timely]
  · exact ERC721.ownerOf_eq_ok.mpr ⟨book.held id running ▸ valid, book.held id running⟩
  · rcases sessions id with ⟨-, zero⟩ | ⟨session, known, agrees⟩
    · omega
    · rw [known, Option.map_some, agrees.owner]

/-- In every run the set, the status and the custody agree, and whatever call comes
next, it does not fail at an access of the set. -/
theorem staking_set_represented {self : Address} {start : StakingWorld}
    (fresh : start.Fresh self) {c : Config StakingWorld StakingFrame}
    (run : Reachable (stakingMachine self) (stakingDiscipline self) start c) :
    StakingStatusSound self c.state ∧
    (∀ call reason, StakingWorld.enter self call c.state = .error reason → ¬ SetPanic reason) ∧
    ∀ frame rest answer reason, c.frames = frame :: rest →
      StakingWorld.resume self frame answer c.state = .error reason → ¬ SetPanic reason := by
  obtain ⟨base, sessions⟩ :=
    staking_invariant fresh SessionBook.move (sessionBook_fresh fresh) run
  refine ⟨statusSound_of_book fresh.nonzero base.book sessions, fun call reason failed bad => ?_,
    fun frame rest answer reason top failed bad => ?_⟩
  · exact enter_ruledOut fresh run call reason failed (ruledOut_of_setPanic bad)
  · exact resume_ruledOut fresh run top answer reason failed (ruledOut_of_setPanic bad)

/-- After an eviction the contract still holds the service. -/
theorem staking_set_represented_evicted :
    ∃ c, Reachable (stakingMachine 5) (stakingDiscipline 5) sampleStaking c ∧
      getStakingState c.state.store 1 = .evicted ∧ c.state.nft.ownerOf 1 = .ok 5 ∧
      StakingStatusSound 5 c.state := by
  obtain ⟨c, run, seen⟩ := Machine.play_observed (stakingDiscipline 5) (stakingMachine 5)
    sampleStaking
    (stakeAndPass ++ [.call (.tick 150), .call (.checkpoint sampleOwner (activeAnswer 0))])
    (fun c => getStakingState c.state.store 1) .evicted (by decide +kernel)
  have sound := (staking_set_represented sampleStaking_fresh run).1
  exact ⟨c, run, seen, sound.custody 1 ((sound.evicted 1).mpr seen).1, sound⟩

section Evictions
variable {marks items : List Nat}

theorem marks_mem (marked : Marks marks items) {mark : Nat} (listed : mark ∈ marks) :
    mark = 0 ∨ mark ∈ items := by
  induction marked with
  | nil => cases listed
  | cons head tail ih =>
    rcases List.mem_cons.mp listed with rfl | listed
    · rcases head with zero | own
      · exact Or.inl zero
      · exact Or.inr (own ▸ List.mem_cons_self)
    · exact (ih listed).imp_right (List.mem_cons_of_mem _)

/-- The marks that are not zero are the marked services, in the order of the set. -/
theorem marks_filter (marked : Marks marks items) (sound : SoundSet items) :
    (marks.filter fun mark => 0 < mark) = items.filter fun serviceId => serviceId ∈ marks := by
  induction marked with
  | nil => rfl
  | @cons mark serviceId marks items head tail ih =>
    obtain ⟨once, distinct⟩ := List.nodup_cons.mp sound.distinct
    have positive := sound.positive serviceId List.mem_cons_self
    have rest := ih ⟨distinct, fun id member => sound.positive id (List.mem_cons_of_mem _ member)⟩
    -- The other services are not the first one, and none of them is zero.
    have later : (items.filter fun id => id ∈ mark :: marks) = items.filter fun id => id ∈ marks := by
      refine List.filter_congr fun id member => ?_
      have nonzero := sound.positive id (List.mem_cons_of_mem _ member)
      have other : id ≠ mark := by
        intro same
        rcases head with zero | own
        · omega
        · exact once (own ▸ same ▸ member)
      simp [other]
    rw [List.filter_cons, List.filter_cons, later, ← rest]
    rcases head with zero | own
    · have unmarked : serviceId ∉ mark :: marks := by
        intro listed
        rcases List.mem_cons.mp listed with same | listed
        · omega
        · rcases marks_mem tail listed with none | twice
          · omega
          · exact once twice
      have skipped : ¬ 0 < mark := by omega
      simp only [decide_eq_true_eq, if_neg unmarked, if_neg skipped]
    · have marked : serviceId ∈ mark :: marks := own ▸ List.mem_cons_self
      have kept : 0 < mark := by omega
      simp only [decide_eq_true_eq, if_pos marked, if_pos kept]
      rw [own]

/-- An eviction goes through whatever services are marked. It returns the marked ones in
their order and leaves a permutation of the others. -/
theorem eviction_exact (mapServiceInfo : Nat → ServiceInfo)
    (setServiceIds evictServiceIds serviceInactivity : List Nat) (distinct : setServiceIds.Nodup)
    (positive : ∀ serviceId ∈ setServiceIds, 0 < serviceId)
    (marked : List.Forall₂ (fun mark serviceId => mark = 0 ∨ mark = serviceId)
      evictServiceIds setServiceIds)
    (inactivities : serviceInactivity.length = setServiceIds.length) :
    ∃ arrays remaining,
      evict mapServiceInfo evictServiceIds serviceInactivity
        (evictServiceIds.countP fun mark => mark ≠ 0) setServiceIds = .ok (arrays, remaining) ∧
      remaining.Perm (setServiceIds.filter fun serviceId => serviceId ∉ evictServiceIds) ∧
      arrays.finalEvictedServiceIds =
        setServiceIds.filter fun serviceId => serviceId ∈ evictServiceIds := by
  have sound : SoundSet setServiceIds := ⟨distinct, positive⟩
  have marks : Marks evictServiceIds setServiceIds := marked
  have count : (evictServiceIds.countP fun mark => mark ≠ 0) =
      (evictHits evictServiceIds).length := by
    rw [← List.length_map Prod.fst, evictHits_ids, ← List.countP_eq_length_filter]
    exact List.countP_congr fun mark _ => by simp [Nat.pos_iff_ne_zero]
  have ids := marks_filter marks sound
  have perm := marks.removed_perm
  rw [ids] at perm
  rw [count, evict_eq _ _ marked.length_eq inactivities]
  refine ⟨_, _, rfl, ?_, ?_⟩
  · have halves := List.filter_append_perm (fun serviceId => decide (serviceId ∉ evictServiceIds))
      setServiceIds
    simp only [decide_not, Bool.not_not] at halves
    simp only [decide_not]
    exact (List.perm_append_right_iff _).mp (perm.trans halves.symm)
  · simp only [EvictArrays.filled, List.replicate_zero, List.append_nil]
    rw [evictHits_ids, ids]

/-- The first and the last two of five services, the last ones adjacent. -/
theorem eviction_exact_ends : ∃ arrays remaining,
    evict (fun _ => .empty) [4, 0, 0, 9, 2] [7, 0, 0, 8, 6] 3 [4, 1, 7, 9, 2] =
      .ok (arrays, remaining) ∧
    remaining.Perm [1, 7] ∧ arrays.finalEvictedServiceIds = [4, 9, 2] :=
  eviction_exact (fun _ => .empty) [4, 1, 7, 9, 2] [4, 0, 0, 9, 2] [7, 0, 0, 8, 6] (by decide)
    (by decide) (by simp) rfl

end Evictions

end AutonolasRegistries.Guarantees
