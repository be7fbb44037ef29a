import AutonolasRegistries.Source.StakingTransitions

/-!
# The set of staked services

`setServiceIds` is edited by two routines that move its last element, the status of a
service is read off two other fields, and the service itself is held by another
contract. `StakingBook` is what ties them together; it holds at every external call.
-/
namespace AutonolasRegistries.Guarantees
open Library Source StakingBase

structure StakingBook (contract : Address) (w : StakingWorld) : Prop where
  clock : 0 < w.timestamp
  checkpointed : w.store.tsCheckpoint ≤ w.timestamp
  started : ∀ id, (w.store.mapServiceInfo id).tsStart ≤ w.timestamp
  liveness : 0 < w.store.params.livenessPeriod
  sound : SoundSet w.store.setServiceIds
  room : w.store.setServiceIds.length ≤ w.store.params.maxNumServices
  members : ∀ id, id ∈ w.store.setServiceIds ↔ 0 < (w.store.mapServiceInfo id).tsStart ∧
    (w.store.mapServiceInfo id).inactivity ≤ w.store.maxInactivityDuration
  blank : ∀ id, (w.store.mapServiceInfo id).tsStart = 0 →
    w.store.mapServiceInfo id = ServiceInfo.empty
  finite : {id | 0 < (w.store.mapServiceInfo id).tsStart}.Finite
  held : ∀ id, 0 < (w.store.mapServiceInfo id).tsStart → w.nft.owners id = contract
  guarded : w.nft.Guarded
  keeps : w.nft.Keeps contract
  unborn : w.nft.owners 0 = 0

namespace StakingBook
variable {self : Address} {w : StakingWorld}

/-- What the book says about the store is kept when only the NFT changes. -/
theorem with_nft (book : StakingBook self w) (nft : ERC721) (supply : Nat)
    (held : ∀ id, 0 < (w.store.mapServiceInfo id).tsStart → nft.owners id = self)
    (guarded : nft.Guarded) (keeps : nft.Keeps self) (unborn : nft.owners 0 = 0) :
    StakingBook self { w with nft, supply } :=
  { book with held, guarded, keeps, unborn }

theorem mint (book : StakingBook self w) (valid : self ≠ 0) {nft : ERC721} {recipient : Address}
    (moved : w.nft.mint recipient (w.supply + 1) = .ok nft) :
    StakingBook self { w with nft, supply := w.supply + 1 } := by
  obtain ⟨keeps, kept⟩ := ERC721.mint_keeps book.guarded book.keeps valid moved
  refine book.with_nft nft _ (fun id staked => kept id (book.held id staked))
    (ERC721.mint_guarded book.guarded moved) keeps ?_
  obtain ⟨-, -, rfl⟩ := ERC721.mint_eq_ok.mp moved
  simpa only [Function.update_of_ne (Nat.succ_ne_zero w.supply).symm] using book.unborn

theorem approve (book : StakingBook self w) {nft : ERC721} {sender : Caller} {spender : Address}
    {id : Nat} (other : sender.val ≠ self) (moved : w.nft.approve sender spender id = .ok nft) :
    StakingBook self { w with nft } := by
  obtain ⟨guarded, owners⟩ := ERC721.approve_guarded book.guarded moved
  exact book.with_nft nft w.supply (owners ▸ book.held) guarded
    (ERC721.approve_keeps book.keeps other moved) (owners ▸ book.unborn)

theorem setApprovalForAll (book : StakingBook self w) {sender : Caller}
    (other : sender.val ≠ self) (operator : Address) (approved : Bool) :
    StakingBook self { w with nft := w.nft.setApprovalForAll sender operator approved } :=
  book.with_nft _ w.supply book.held
    (ERC721.setApprovalForAll_guarded book.guarded sender operator approved)
    (ERC721.setApprovalForAll_keeps book.keeps other operator approved) book.unborn

theorem transferFrom (book : StakingBook self w) {nft : ERC721} {sender : Caller}
    {owner recipient : Address} {id : Nat} (other : sender.val ≠ self)
    (moved : w.nft.transferFrom sender owner recipient id = .ok nft) :
    StakingBook self { w with nft } := by
  obtain ⟨guarded, minted⟩ := ERC721.transferFrom_guarded book.guarded moved
  have kept := ERC721.transferFrom_keeps book.keeps other moved
  exact book.with_nft nft w.supply (fun id staked => kept id (book.held id staked)) guarded
    (ERC721.transferFrom_approvals book.keeps moved) ((minted 0).mpr book.unborn)

/-- A service goes back after its record is gone. -/
theorem giveBack (book : StakingBook self w) (valid : self ≠ 0) {nft : ERC721}
    {serviceId : Nat} {owner : Address}
    (gone : (w.store.mapServiceInfo serviceId).tsStart = 0)
    (moved : w.nft.transferFrom self self owner serviceId = .ok nft) :
    StakingBook self { w with nft } := by
  obtain ⟨guarded, minted⟩ :=
    ERC721.transferFrom_guarded book.guarded (show w.nft.transferFrom (⟨self, valid⟩ : Caller)
      _ _ _ = .ok nft from moved)
  refine book.with_nft nft w.supply (fun id staked => ?_) guarded
    (ERC721.transferFrom_approvals book.keeps moved) ((minted 0).mpr book.unborn)
  obtain ⟨-, -, -, rfl⟩ := ERC721.transferFrom_eq_ok.mp moved
  have other : id ≠ serviceId := by
    rintro rfl
    omega
  simpa only [Function.update_of_ne other] using book.held id staked

theorem checkpoint (book : StakingBook self w) {answers : Nat → ActivityAnswer}
    {s' : StakingState} {verdicts : List Verdict} {result : CheckpointResult}
    (taken : Taken w.timestamp answers verdicts w.store s' result)
    (history : List StakingEvent) : StakingBook self { w with store := s', history } := by
  have start : ∀ id, (s'.mapServiceInfo id).tsStart = (w.store.mapServiceInfo id).tsStart := by
    intro id
    obtain ⟨_, _, record⟩ := taken.record id
    rw [record]
  have params : s'.params = w.store.params := by rw [taken.frame]
  have longest : s'.maxInactivityDuration = w.store.maxInactivityDuration := by rw [taken.frame]
  have clock : s'.tsCheckpoint = w.timestamp := by rw [taken.frame]
  have shorter := taken.remaining.length_eq
  rw [List.length_append] at shorter
  refine ⟨book.clock, clock.le, fun id => (start id).trans_le (book.started id),
    params ▸ book.liveness, taken.sound book.sound, ?_, fun id => ?_, fun id zero => ?_, ?_,
    fun id staked => book.held id (start id ▸ staked), book.guarded, book.keeps, book.unborn⟩
  · have := book.room
    rw [params]
    dsimp only
    omega
  · dsimp only
    rw [longest, start]
    by_cases member : id ∈ w.store.setServiceIds
    · obtain ⟨v, listed, rfl⟩ := taken.judged_service member
      have evicted := taken.evicted_iff book.sound listed
      have staked := ((book.members v.serviceId).mp member).1
      rw [← not_iff_not, evicted, not_and, not_le]
      exact ⟨fun late _ => late, fun late => late staked⟩
    · rw [taken.unchanged member, ← book.members id]
      exact ⟨fun stays => taken.stays_of_remaining stays, fun stays => absurd stays member⟩
  · have outside : id ∉ w.store.setServiceIds := by
      intro member
      have := ((book.members id).mp member).1
      rw [← start] at this
      exact absurd zero this.ne'
    exact (taken.unchanged outside).trans (book.blank id (start id ▸ zero))
  · simpa only [start] using book.finite

/-- A service that is not staked is not in the set and has no inactivity. -/
theorem join (book : StakingBook self w) (valid : self ≠ 0) {nft : ERC721} (sender : Caller)
    {serviceId : Nat} (multisig : Address) (nonces : List Nat) (info : Nat)
    (unstaked : (w.store.mapServiceInfo serviceId).tsStart = 0)
    (room : w.store.setServiceIds.length ≠ w.store.params.maxNumServices)
    (moved : w.nft.transferFrom self sender self serviceId = .ok nft)
    (history : List StakingEvent) :
    StakingBook self { w with
      store := { w.store with
        mapServiceInfo := Function.update w.store.mapServiceInfo serviceId
          { w.store.mapServiceInfo serviceId with
            multisig
            owner := sender
            nonces
            tsStart := w.timestamp
            rewardDistributionInfo := info }
        setServiceIds := w.store.setServiceIds ++ [serviceId] }
      nft
      history } := by
  obtain ⟨guarded, minted⟩ :=
    ERC721.transferFrom_guarded book.guarded (show w.nft.transferFrom (⟨self, valid⟩ : Caller)
      _ _ _ = .ok nft from moved)
  have keeps := ERC721.transferFrom_approvals book.keeps moved
  have outside : serviceId ∉ w.store.setServiceIds := by
    intro member
    exact absurd unstaked ((book.members serviceId).mp member).1.ne'
  have idle : (w.store.mapServiceInfo serviceId).inactivity = 0 := by
    rw [book.blank serviceId unstaked]
    rfl
  obtain ⟨owned, -, -, rfl⟩ := ERC721.transferFrom_eq_ok.mp moved
  have positive : 0 < serviceId := by
    rw [Nat.pos_iff_ne_zero]
    rintro rfl
    exact sender.property (owned.trans book.unborn)
  refine ⟨book.clock, book.checkpointed, fun id => ?_, book.liveness, ⟨?_, ?_⟩, ?_, fun id => ?_,
    fun id zero => ?_, ?_, fun id staked => ?_, guarded, keeps, (minted 0).mpr book.unborn⟩
  · by_cases same : id = serviceId
    · subst same
      simp only [Function.update_self, le_refl]
    · simpa only [Function.update_of_ne same] using book.started id
  · exact List.nodup_append.mpr ⟨book.sound.distinct, List.nodup_singleton _, by
      intro id member other single
      rw [List.mem_singleton.mp single]
      rintro rfl
      exact outside member⟩
  · intro id member
    rcases List.mem_append.mp member with member | single
    · exact book.sound.positive id member
    · exact List.mem_singleton.mp single ▸ positive
  · have := book.room
    simp only [List.length_append, List.length_singleton]
    omega
  · by_cases same : id = serviceId
    · subst same
      simp [Function.update_self, book.clock, idle]
    · simpa [Function.update_of_ne same, same] using book.members id
  · by_cases same : id = serviceId
    · subst same
      simp only [Function.update_self] at zero
      exact absurd zero book.clock.ne'
    · simp only [Function.update_of_ne same] at zero ⊢
      exact book.blank id zero
  · refine (book.finite.insert serviceId).subset fun id staked => ?_
    by_cases same : id = serviceId
    · exact .inl same
    · exact .inr (by simpa [Function.update_of_ne same] using staked)
  · by_cases same : id = serviceId
    · subst same
      simp only [Function.update_self]
    · simp only [Function.update_of_ne same] at staked ⊢
      exact book.held id staked

/-- Whether the service was found or not, exactly the others remain. -/
theorem remaining_of_left {ids items : List Nat} {serviceId : Nat} (sound : SoundSet ids)
    (left : (serviceId ∉ ids ∧ items = ids) ∨ (items ++ [serviceId]).Perm ids) :
    items.Nodup ∧ items.length ≤ ids.length ∧
      ∀ id, id ∈ items ↔ id ∈ ids ∧ id ≠ serviceId := by
  rcases left with ⟨outside, rfl⟩ | perm
  · refine ⟨sound.distinct, le_refl _, fun id => ⟨fun member => ⟨member, ?_⟩, And.left⟩⟩
    rintro rfl
    exact outside member
  · have distinct := List.nodup_append.mp (perm.nodup_iff.mpr sound.distinct)
    have shorter := perm.length_eq
    rw [List.length_append] at shorter
    refine ⟨distinct.1, by omega, fun id => ?_⟩
    rw [← perm.mem_iff, List.mem_append, List.mem_singleton]
    constructor
    · intro member
      exact ⟨.inl member, distinct.2.2 id member _ (List.mem_singleton_self _)⟩
    · rintro ⟨member | same, other⟩
      · exact member
      · exact absurd same other

theorem leave (book : StakingBook self w) (serviceId available : Nat) {items : List Nat}
    (left : (serviceId ∉ w.store.setServiceIds ∧ items = w.store.setServiceIds) ∨
      (items ++ [serviceId]).Perm w.store.setServiceIds) (history : List StakingEvent) :
    StakingBook self { w with
      store := { w.store with
        mapServiceInfo := Function.update w.store.mapServiceInfo serviceId ServiceInfo.empty
        setServiceIds := items
        availableRewards := available }
      history } := by
  obtain ⟨distinct, shorter, stays⟩ := remaining_of_left book.sound left
  refine ⟨book.clock, book.checkpointed, fun id => ?_, book.liveness, ⟨distinct, ?_⟩,
    shorter.trans book.room, fun id => ?_, fun id zero => ?_, ?_, fun id staked => ?_,
    book.guarded, book.keeps, book.unborn⟩
  · by_cases same : id = serviceId
    · subst same
      simp only [Function.update_self]
      exact Nat.zero_le _
    · simpa only [Function.update_of_ne same] using book.started id
  · exact fun id member => book.sound.positive id ((stays id).mp member).1
  · by_cases same : id = serviceId
    · subst same
      simp [stays, Function.update_self, ServiceInfo.empty]
    · simp only [Function.update_of_ne same, stays, ne_eq, same, not_false_iff, and_true]
      exact book.members id
  · by_cases same : id = serviceId
    · subst same
      simp only [Function.update_self]
    · simp only [Function.update_of_ne same] at zero ⊢
      exact book.blank id zero
  · refine book.finite.subset fun id staked => ?_
    by_cases same : id = serviceId
    · subst same
      simp [ServiceInfo.empty] at staked
    · simpa [Function.update_of_ne same] using staked
  · by_cases same : id = serviceId
    · subst same
      simp [ServiceInfo.empty] at staked
    · simp only [Function.update_of_ne same] at staked
      exact book.held id staked

/-- A claim changes no field the book looks at, but for a record that is empty anyway. -/
theorem collect (book : StakingBook self w) (serviceId : Nat) (history : List StakingEvent) :
    StakingBook self { w with
      store := { w.store with
        mapServiceInfo := Function.update w.store.mapServiceInfo serviceId
          { w.store.mapServiceInfo serviceId with reward := 0 } }
      history } := by
  have fields : ∀ id, ∃ reward, Function.update w.store.mapServiceInfo serviceId
      { w.store.mapServiceInfo serviceId with reward := 0 } id =
        { w.store.mapServiceInfo id with reward } ∧
        (w.store.mapServiceInfo id = ServiceInfo.empty → reward = 0) := by
    intro id
    by_cases same : id = serviceId
    · subst same
      exact ⟨0, Function.update_self _ _ _, fun _ => rfl⟩
    · refine ⟨(w.store.mapServiceInfo id).reward, Function.update_of_ne same _ _,
        fun empty => ?_⟩
      rw [empty]
      rfl
  have start : ∀ id, (Function.update w.store.mapServiceInfo serviceId
      { w.store.mapServiceInfo serviceId with reward := 0 } id).tsStart =
        (w.store.mapServiceInfo id).tsStart := by
    intro id
    obtain ⟨_, record, -⟩ := fields id
    rw [record]
  have inactive : ∀ id, (Function.update w.store.mapServiceInfo serviceId
      { w.store.mapServiceInfo serviceId with reward := 0 } id).inactivity =
        (w.store.mapServiceInfo id).inactivity := by
    intro id
    obtain ⟨_, record, -⟩ := fields id
    rw [record]
  refine { book with started := ?_, members := ?_, blank := ?_, finite := ?_, held := ?_ }
  · simpa only [start] using book.started
  · simpa only [start, inactive] using book.members
  · intro id zero
    obtain ⟨reward, record, none⟩ := fields id
    have empty := book.blank id (by simpa only [start] using zero)
    dsimp only
    rw [record, none empty, empty]
    rfl
  · simpa only [start] using book.finite
  · simpa only [start] using book.held

/-- Every move keeps the book. -/
theorem move (book : StakingBook self w) (valid : self ≠ 0) {w' : StakingWorld}
    (taken : StakingMove self w w') : StakingBook self w' := by
  cases taken with
  | books balance locked => exact { book with }
  | tick elapsed =>
    refine { book with clock := ?_, checkpointed := ?_, started := fun id => ?_ }
    · exact Nat.add_pos_left book.clock _
    · exact book.checkpointed.trans (Nat.le_add_right _ _)
    · exact (book.started id).trans (Nat.le_add_right _ _)
  | fund amount => exact { book with }
  | checkpoint taken => exact book.checkpoint taken _
  | join sender serviceId multisig nonces info other unstaked room moved =>
    exact book.join valid sender multisig nonces info unstaked room moved _
  | collect serviceId => exact book.collect serviceId _
  | leave serviceId returned items owned left => exact book.leave serviceId _ left _
  | settle serviceId reward payments => exact { book with }
  | giveBack serviceId owner gone moved => exact book.giveBack valid gone moved
  | mint recipient moved => exact book.mint valid moved
  | approve sender spender id other moved => exact book.approve other moved
  | setApprovalForAll sender operator approved other =>
    exact book.setApprovalForAll other operator approved
  | transferFrom sender owner recipient id other moved => exact book.transferFrom other moved

end StakingBook

end AutonolasRegistries.Guarantees
