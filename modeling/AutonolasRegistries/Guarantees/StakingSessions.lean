import AutonolasRegistries.Guarantees.StakingRuns
import AutonolasRegistries.Model.StakingSession

/-!
# Time accounting and eviction

The storage keeps one clock for all services and two counters for each. They say what
the history says: the checkpoints of a session follow each other without gaps or
overlaps, the inactivity is the length of the failed ones since the last passed one,
and a service is evicted by the first checkpoint that finds it inactive for too long.
-/
namespace AutonolasRegistries.Guarantees
open Library Source Model StakingBase

/-- The record of a service agrees with its session. -/
structure SessionMatch (s : StakingState) (serviceId : Nat) (session : Session) : Prop where
  owner : session.owner = (s.mapServiceInfo serviceId).owner
  start : session.start = (s.mapServiceInfo serviceId).tsStart
  running : 0 < (s.mapServiceInfo serviceId).tsStart
  rewards : session.credited = (s.mapServiceInfo serviceId).reward + session.claimed
  chain : ∃ till, Consecutive session.start session.intervals till ∧
    (serviceId ∈ s.setServiceIds → till = serviceCheckpoint s serviceId)
  inactivity : (s.mapServiceInfo serviceId).inactivity = trailingLength session.intervals
  timely : ∀ earlier later, session.intervals = earlier ++ later → later ≠ [] →
    trailingLength earlier ≤ s.maxInactivityDuration
  paid : session.shortfall = false →
    session.credited = s.params.rewardsPerSecond * passedLength session.intervals

/-- Every service either has no session and no record, or both agree. -/
def SessionBook (w : StakingWorld) : Prop := ∀ serviceId,
  (sessionOf w.history serviceId = none ∧ (w.store.mapServiceInfo serviceId).tsStart = 0) ∨
    ∃ session, sessionOf w.history serviceId = some session ∧
      SessionMatch w.store serviceId session

section Epochs

/-- A keyed list says nothing under a key it does not have, -/
theorem filter_key_absent {α β : Type} {l : List α} {key : α → Nat} {id : Nat}
    (absent : id ∉ l.map key) (f : α → β) :
    ((l.map fun x => (key x, f x)).filter (·.1 = id)).map Prod.snd = [] := by
  refine List.map_eq_nil_iff.mpr (List.filter_eq_nil_iff.mpr ?_)
  intro entry member
  obtain ⟨other, listed, rfl⟩ := List.mem_map.mp member
  rw [decide_eq_true_iff]
  rintro rfl
  exact absent (List.mem_map_of_mem listed)

/-- and one thing under the key of one of its entries. -/
theorem filter_key {α β : Type} {l : List α} {key : α → Nat} (distinct : (l.map key).Nodup)
    (f : α → β) {a : α} (listed : a ∈ l) :
    ((l.map fun x => (key x, f x)).filter (·.1 = key a)).map Prod.snd = [f a] := by
  induction l with
  | nil => cases listed
  | cons first rest ih =>
    obtain ⟨fresh, distinct⟩ := List.nodup_cons.mp distinct
    rcases List.mem_cons.mp listed with rfl | listed
    · rw [List.map_cons, List.filter_cons_of_pos (by simp), List.map_cons,
        filter_key_absent fresh]
    · have other : key first ≠ key a := fun same => fresh (same ▸ List.mem_map_of_mem listed)
      rw [List.map_cons, List.filter_cons_of_neg (by simpa using other)]
      exact ih distinct listed

theorem creditOf_earned {perSecond : Nat} {verdicts : List Verdict} {v : Verdict}
    (distinct : (verdicts.map (·.serviceId)).Nodup) (listed : v ∈ verdicts) :
    creditOf (earned perSecond verdicts) v.serviceId =
      if v.passed then perSecond * v.ts else 0 := by
  induction verdicts with
  | nil => cases listed
  | cons first rest ih =>
    obtain ⟨fresh, distinct⟩ := List.nodup_cons.mp distinct
    have unnamed : creditOf (earned perSecond rest) first.serviceId = 0 := by
      refine creditOf_eq_zero fun member => fresh ?_
      rw [earned, List.map_map, List.mem_map] at member
      obtain ⟨v', listed, same⟩ := member
      exact List.mem_map.mpr ⟨v', List.mem_of_mem_filter listed, same⟩
    have split : earned perSecond (first :: rest) =
        (if first.passed then [(first.serviceId, perSecond * first.ts)] else []) ++
          earned perSecond rest := by
      cases passed : first.passed <;> simp [earned, passed]
    rcases List.mem_cons.mp listed with rfl | listed
    · rw [split]
      cases passed : v.passed <;> simp [creditOf_cons, unnamed]
    · have other : first.serviceId ≠ v.serviceId := by
        intro same
        exact fresh (List.mem_map.mpr ⟨v, listed, same.symm⟩)
      rw [split, ← ih distinct listed]
      cases passed : first.passed <;> simp [creditOf_cons, other]

variable {w : StakingWorld} {answers : Nat → ActivityAnswer} {s' : StakingState}
  {verdicts : List Verdict} {result : CheckpointResult}

/-- The time a verdict is about, with its outcome. -/
def intervalOf (w : StakingWorld) (v : Verdict) : Interval where
  since := serviceCheckpoint w.store v.serviceId
  till := w.timestamp
  passed := v.passed

theorem intervalOf_length {v : Verdict} (timed : v.Timed w.store w.timestamp) :
    (intervalOf w v).length = v.ts := by
  rw [Verdict.Timed] at timed
  rw [Source.Interval.length, intervalOf, ← timed, Nat.add_sub_cancel_left]

/-- The checker passes a service in the history exactly where the verdict does. -/
theorem passes_eq {v : Verdict} {answer : ActivityAnswer} (timed : v.Timed w.store w.timestamp)
    (checked : v.Checked w.store answer) :
    StakingWorld.passes w.timestamp answer w.store v.serviceId = v.passed := by
  rw [Verdict.Timed] at timed
  rw [Verdict.Checked] at checked
  rw [StakingWorld.passes, ← timed, Nat.add_sub_cancel_left, checked]

/-- The rewards of the passed verdicts are those of the passed time. -/
theorem earned_passed (perSecond : Nat) (timed : ∀ v ∈ verdicts, v.Timed w.store w.timestamp) :
    ((earned perSecond verdicts).map Prod.snd).sum =
      perSecond * (((verdicts.map (intervalOf w)).filter (·.passed)).map
        Source.Interval.length).sum := by
  induction verdicts with
  | nil => rfl
  | cons v rest ih =>
    have rest_eq := ih fun v' listed => timed v' (List.mem_cons_of_mem _ listed)
    have length := intervalOf_length (timed v List.mem_cons_self)
    rw [earned] at rest_eq
    cases passed : v.passed with
    | true =>
      have kept : (intervalOf w v).passed = true := passed
      simp only [earned, List.filter_cons, List.map_cons, passed, kept, if_true, List.sum_cons,
        rest_eq, length, Nat.mul_add]
    | false =>
      have dropped : (intervalOf w v).passed = false := passed
      simp only [earned, List.filter_cons, List.map_cons, passed, dropped, Bool.false_eq_true,
        if_false, rest_eq]

/-- The epoch a checkpoint adds to the history: what the checker said is what the contract
went by. -/
theorem accounted_eq (taken : Taken w.timestamp answers verdicts w.store s' result) :
    StakingWorld.accounted w.timestamp answers w.store result = [.accounted {
      shortfall := decide (w.store.availableRewards <
        ((earned w.store.params.rewardsPerSecond verdicts).map Prod.snd).sum)
      intervals := verdicts.map fun v => (v.serviceId, intervalOf w v)
      rewards := result.finalRewards }] := by
  have several : result.calculated.serviceIds ≠ [] := by
    rw [taken.calculated, Calculated.ofVerdicts, taken.services]
    exact List.ne_nil_of_length_pos taken.due.1
  have intervals : w.store.setServiceIds.zipIdx.map (fun entry => (entry.1, ({
      since := serviceCheckpoint w.store entry.1
      till := w.timestamp
      passed := StakingWorld.passes w.timestamp (answers entry.2) w.store entry.1 } : Interval))) =
      verdicts.map fun v => (v.serviceId, intervalOf w v) := by
    refine List.ext_getElem? fun i => ?_
    rw [← taken.services, List.getElem?_map, List.getElem?_zipIdx, List.getElem?_map,
      List.getElem?_map]
    cases listed : verdicts[i]? with
    | none => rfl
    | some v =>
      have verdict := passes_eq (taken.timed v (List.mem_of_getElem? listed))
        (taken.checked i v listed)
      simp only [Option.map_some, Nat.zero_add, verdict, intervalOf]
  have worth := earned_passed w.store.params.rewardsPerSecond taken.timed
  simp only [StakingWorld.accounted, if_neg several, intervals, List.map_map, Function.comp_def,
    worth]

end Epochs

namespace SessionMatch
variable {self : Address} {w : StakingWorld} {answers : Nat → ActivityAnswer}
  {s' : StakingState} {verdicts : List Verdict} {result : CheckpointResult} {serviceId : Nat} {session : Session}

/-- A failed check about no time at all resets the inactivity, which was zero: the
service was staked in the same block. -/
theorem inactivity_step (before : SessionMatch w.store serviceId session)
    (book : StakingBook self w) (taken : Taken w.timestamp answers verdicts w.store s' result)
    (member : serviceId ∈ w.store.setServiceIds) {v : Verdict} (listed : v ∈ verdicts)
    (named : v.serviceId = serviceId) :
    inactivityAfter (trailingLength session.intervals) v.inactive =
      if v.passed then 0 else trailingLength session.intervals + v.ts := by
  cases passed : v.passed with
  | true => simp [inactivityAfter, Verdict.inactive, passed]
  | false =>
    by_cases some : 0 < v.ts
    · simp [inactivityAfter, Verdict.inactive, passed, some]
    · obtain ⟨till, chain, ends⟩ := before.chain
      have timed := taken.timed v listed
      have period := taken.due.2.1
      have liveness := book.liveness
      have total := chain.total
      have trailing := trailingLength_le session.intervals
      have start := before.start
      rw [ends member, serviceCheckpoint] at total
      rw [Verdict.Timed, serviceCheckpoint, named] at timed
      have none : trailingLength session.intervals = 0 := by omega
      simp [inactivityAfter, Verdict.inactive, passed, none]
      omega

/-- A checkpoint adds one interval to the session of a service it judges. -/
theorem checkpoint {v : Verdict} (before : SessionMatch w.store v.serviceId session)
    (book : StakingBook self w) (taken : Taken w.timestamp answers verdicts w.store s' result)
    (listed : v ∈ verdicts) :
    SessionMatch s' v.serviceId { session with
      intervals := session.intervals ++ [intervalOf w v]
      credited := session.credited + creditOf result.finalRewards v.serviceId
      shortfall := session.shortfall || decide (w.store.availableRewards <
        ((earned w.store.params.rewardsPerSecond verdicts).map Prod.snd).sum) } := by
  have distinct : (verdicts.map (·.serviceId)).Nodup := taken.services ▸ book.sound.distinct
  have member : v.serviceId ∈ w.store.setServiceIds :=
    taken.services ▸ List.mem_map_of_mem listed
  have timed := taken.timed v listed
  have length := intervalOf_length timed
  obtain ⟨_, _, record⟩ := taken.record v.serviceId
  have params : s'.params = w.store.params := by rw [taken.frame]
  have longest : s'.maxInactivityDuration = w.store.maxInactivityDuration := by rw [taken.frame]
  have clock : s'.tsCheckpoint = w.timestamp := by rw [taken.frame]
  obtain ⟨till, chain, ends⟩ := before.chain
  refine ⟨?_, ?_, ?_, ?_, ⟨w.timestamp, ?_, fun _ => ?_⟩, ?_, ?_, ?_⟩
  · rw [record]
    exact before.owner
  · rw [record]
    exact before.start
  · rw [record]
    exact before.running
  · have := before.rewards
    simp only [record]
    omega
  · refine chain.append (i := intervalOf w v) (ends member).symm ?_
    rw [Verdict.Timed] at timed
    exact Nat.le.intro timed
  · have := book.started v.serviceId
    rw [serviceCheckpoint, clock, record]
    exact (max_eq_left this).symm
  · rw [taken.inactivity listed, before.inactivity, trailingLength_append, length]
    exact before.inactivity_step book taken member listed rfl
  · intro earlier later split some
    rw [longest]
    obtain ⟨rest, last, rfl⟩ := (List.eq_nil_or_concat later).resolve_left some
    rw [List.concat_eq_append, ← List.append_assoc] at split
    have whole : session.intervals = earlier ++ rest := List.append_inj_left' split rfl
    by_cases none : rest = []
    · rw [none, List.append_nil] at whole
      rw [← whole, ← before.inactivity]
      exact ((book.members v.serviceId).mp member).2
    · exact before.timely earlier rest whole none
  · intro enough
    rw [Bool.or_eq_false_iff, decide_eq_false_iff_not, not_lt] at enough
    rw [params, passedLength_append, before.paid enough.1, taken.full enough.2,
      creditOf_earned distinct listed, length, Nat.mul_add]
    cases passed : v.passed <;> simp [intervalOf, passed]

/-- The other fields of a session do not depend on who else is staked. -/
theorem of_record {s : StakingState} (before : SessionMatch s serviceId session)
    (record : s'.mapServiceInfo serviceId = s.mapServiceInfo serviceId)
    (member : serviceId ∈ s'.setServiceIds → serviceId ∈ s.setServiceIds ∧
      s'.tsCheckpoint = s.tsCheckpoint)
    (params : s'.params = s.params)
    (longest : s'.maxInactivityDuration = s.maxInactivityDuration) :
    SessionMatch s' serviceId session := by
  obtain ⟨till, chain, ends⟩ := before.chain
  refine ⟨record ▸ before.owner, record ▸ before.start, record ▸ before.running,
    record ▸ before.rewards, ⟨till, chain, fun stays => ?_⟩, record ▸ before.inactivity,
    longest ▸ before.timely, params ▸ before.paid⟩
  obtain ⟨stays, clock⟩ := member stays
  rw [ends stays, serviceCheckpoint, serviceCheckpoint, record, clock]

end SessionMatch

namespace SessionBook
variable {self : Address} {w : StakingWorld}

/-- A record that does not change agrees with a session that does not change. -/
theorem keep (book : SessionBook w) {w' : StakingWorld} {serviceId : Nat}
    (session : sessionOf w'.history serviceId = sessionOf w.history serviceId)
    (record : w'.store.mapServiceInfo serviceId = w.store.mapServiceInfo serviceId)
    (member : serviceId ∈ w'.store.setServiceIds → serviceId ∈ w.store.setServiceIds ∧
      w'.store.tsCheckpoint = w.store.tsCheckpoint)
    (params : w'.store.params = w.store.params)
    (longest : w'.store.maxInactivityDuration = w.store.maxInactivityDuration) :
    (sessionOf w'.history serviceId = none ∧
        (w'.store.mapServiceInfo serviceId).tsStart = 0) ∨
      ∃ session, sessionOf w'.history serviceId = some session ∧
        SessionMatch w'.store serviceId session := by
  rw [session]
  rcases book serviceId with ⟨none, zero⟩ | ⟨session, running, before⟩
  · exact .inl ⟨none, record ▸ zero⟩
  · exact .inr ⟨session, running, before.of_record record member params longest⟩

theorem checkpoint (sessions : SessionBook w) (book : StakingBook self w)
    {answers : Nat → ActivityAnswer} {s' : StakingState} {verdicts : List Verdict}
    {result : CheckpointResult}
    (taken : Taken w.timestamp answers verdicts w.store s' result) :
    SessionBook { w with
      store := s'
      history := w.history ++ StakingWorld.accounted w.timestamp answers w.store result } := by
  intro serviceId
  have params : s'.params = w.store.params := by rw [taken.frame]
  have longest : s'.maxInactivityDuration = w.store.maxInactivityDuration := by rw [taken.frame]
  have distinct : (verdicts.map (·.serviceId)).Nodup := taken.services ▸ book.sound.distinct
  by_cases member : serviceId ∈ w.store.setServiceIds
  · rcases sessions serviceId with ⟨-, zero⟩ | ⟨session, running, before⟩
    · exact absurd zero ((book.members serviceId).mp member).1.ne'
    · obtain ⟨v, listed, rfl⟩ := taken.judged_service member
      refine .inr ⟨_, ?_, before.checkpoint book taken listed⟩
      rw [accounted_eq taken, sessionOf_append, running]
      simp only [Session.next, filter_key distinct _ listed, Option.map_some,
        List.isEmpty_cons, Bool.not_false, Bool.and_true]
  · refine sessions.keep ?_ (taken.unchanged member) ?_ params longest
    · have absent : serviceId ∉ verdicts.map (·.serviceId) := taken.services ▸ member
      rw [accounted_eq taken, sessionOf_append]
      simp only [Session.next, filter_key_absent absent, taken.credit_outside member, List.append_nil, Nat.add_zero, List.isEmpty_nil,
        Bool.not_true, Bool.and_false, Bool.or_false]
      exact Option.map_id_fun' ▸ rfl
    · exact fun stays => absurd (taken.stays_of_remaining stays) member

theorem join (sessions : SessionBook w) (book : StakingBook self w) {nft : ERC721}
    (sender : Address) {serviceId : Nat} (multisig : Address) (nonces : List Nat) (info : Nat)
    (unstaked : (w.store.mapServiceInfo serviceId).tsStart = 0) :
    SessionBook { w with
      store := { w.store with
        mapServiceInfo := Function.update w.store.mapServiceInfo serviceId
          { w.store.mapServiceInfo serviceId with
            multisig
            owner := sender
            nonces
            tsStart := w.timestamp
            rewardDistributionInfo := info }
        setServiceIds := w.store.setServiceIds ++ [serviceId] }
      nft
      history := w.history ++ [.staked serviceId sender w.timestamp] } := by
  intro id
  by_cases same : id = serviceId
  · subst same
    have blank := book.blank id unstaked
    refine .inr ⟨⟨sender, w.timestamp, [], 0, 0, false⟩, ?_, ?_⟩
    · simp [sessionOf_append, Session.next]
    · refine ⟨?_, ?_, ?_, ?_, ⟨w.timestamp, rfl, fun _ => ?_⟩, ?_, ?_, fun _ => ?_⟩
      · simp only [Function.update_self]
      · simp only [Function.update_self]
      · simpa only [Function.update_self] using book.clock
      · simp only [Function.update_self, blank]
        rfl
      · simp only [serviceCheckpoint, Function.update_self]
        exact (max_eq_right book.checkpointed).symm
      · simp only [Function.update_self, blank]
        rfl
      · intro earlier later split some
        obtain ⟨rfl, rfl⟩ := List.append_eq_nil_iff.mp split.symm
        exact absurd rfl some
      · rfl
  · refine sessions.keep ?_ (Function.update_of_ne same _ _) (fun stays => ⟨?_, rfl⟩) rfl rfl
    · rw [sessionOf_append, Session.next, if_neg (Ne.symm same)]
    · simpa [same] using stays

theorem collect (sessions : SessionBook w) (serviceId : Nat) :
    SessionBook { w with
      store := { w.store with
        mapServiceInfo := Function.update w.store.mapServiceInfo serviceId
          { w.store.mapServiceInfo serviceId with reward := 0 } }
      history := w.history ++
        [.claimed serviceId (w.store.mapServiceInfo serviceId).reward] } := by
  intro id
  by_cases same : id = serviceId
  · subst same
    rw [sessionOf_append, Session.next, if_pos rfl]
    rcases sessions id with ⟨none, zero⟩ | ⟨session, running, before⟩
    · refine .inl ⟨by rw [none]; rfl, ?_⟩
      simpa only [Function.update_self] using zero
    · rw [running]
      refine .inr ⟨_, rfl, ?_⟩
      obtain ⟨till, chain, ends⟩ := before.chain
      refine ⟨?_, ?_, ?_, ?_, ⟨till, chain, fun stays => ?_⟩, ?_, before.timely, before.paid⟩
      · simpa only [Function.update_self] using before.owner
      · simpa only [Function.update_self] using before.start
      · simpa only [Function.update_self] using before.running
      · have := before.rewards
        simp only [Function.update_self]
        omega
      · rw [ends stays]
        simp only [serviceCheckpoint, Function.update_self]
      · simpa only [Function.update_self] using before.inactivity
  · refine sessions.keep ?_ (Function.update_of_ne same _ _) (fun stays => ⟨stays, rfl⟩) rfl rfl
    rw [sessionOf_append, Session.next, if_neg (Ne.symm same)]

theorem leave (sessions : SessionBook w) (book : StakingBook self w) (serviceId available : Nat)
    {items : List Nat}
    (left : (serviceId ∉ w.store.setServiceIds ∧ items = w.store.setServiceIds) ∨
      (items ++ [serviceId]).Perm w.store.setServiceIds) :
    SessionBook { w with
      store := { w.store with
        mapServiceInfo := Function.update w.store.mapServiceInfo serviceId ServiceInfo.empty
        setServiceIds := items
        availableRewards := available }
      history := w.history ++ [.unstaked serviceId] } := by
  intro id
  by_cases same : id = serviceId
  · subst same
    refine .inl ⟨?_, ?_⟩
    · rw [sessionOf_append, Session.next, if_pos rfl]
    · simp only [Function.update_self]
      rfl
  · refine sessions.keep ?_ (Function.update_of_ne same _ _) (fun stays => ⟨?_, rfl⟩) rfl rfl
    · rw [sessionOf_append, Session.next, if_neg (Ne.symm same)]
    · exact (((StakingBook.remaining_of_left book.sound left).2.2 id).mp stays).1

theorem move (w w' : StakingWorld) (book : StakingBook self w) (taken : StakingMove self w w')
    (sessions : SessionBook w) : SessionBook w' := by
  cases taken with
  | checkpoint taken => exact sessions.checkpoint book taken
  | join sender serviceId multisig nonces info other unstaked room moved =>
    exact sessions.join book sender multisig nonces info unstaked
  | collect serviceId => exact sessions.collect serviceId
  | leave serviceId returned items owned left => exact sessions.leave book serviceId _ left
  | settle serviceId reward payments =>
    exact fun id => sessions.keep (by rw [sessionOf_append, Session.next]) rfl
      (fun stays => ⟨stays, rfl⟩) rfl rfl
  | books | fund | tick | giveBack | mint | approve | setApprovalForAll | transferFrom =>
    exact fun id => sessions.keep rfl rfl (fun stays => ⟨stays, rfl⟩) rfl rfl

end SessionBook

theorem sessionBook_fresh {self : Address} {w : StakingWorld} (fresh : w.Fresh self) :
    SessionBook w := by
  intro serviceId
  obtain ⟨_, _, _, setup⟩ := fresh.setup
  obtain ⟨-, -, -, -, records, -⟩ := initializeStaking_eq setup
  refine .inl ⟨by rw [fresh.empty]; rfl, ?_⟩
  rw [records]
  rfl

/-- The time of a staked service, as its storage and its history have it. -/
structure TimeAccounted (s : StakingState) (serviceId : Nat) (session : Session) : Prop where
  /-- The checkpoints of the session cut its time into consecutive intervals. -/
  partition : serviceId ∈ s.setServiceIds →
    Consecutive (s.mapServiceInfo serviceId).tsStart session.intervals
      (max s.tsCheckpoint (s.mapServiceInfo serviceId).tsStart)
  /-- What the session was credited is in the record or was claimed. -/
  credited : session.credited = (s.mapServiceInfo serviceId).reward + session.claimed
  /-- Without a shortfall, every passed second is paid once. -/
  paid : session.shortfall = false →
    session.credited = s.params.rewardsPerSecond * passedLength session.intervals
  /-- The inactivity counts the failed time since the last passed interval. -/
  inactivity : (s.mapServiceInfo serviceId).inactivity = trailingLength session.intervals
  /-- The service is in the set as long as that time is not too long. -/
  staked : serviceId ∈ s.setServiceIds ↔
    trailingLength session.intervals ≤ s.maxInactivityDuration
  /-- It was not too long at any earlier checkpoint. -/
  first : ∀ earlier later, session.intervals = earlier ++ later → later ≠ [] →
    trailingLength earlier ≤ s.maxInactivityDuration

/-- In every run, a service has a session exactly while its record is in use, and the
record keeps the time of the session, as the answers of the activity checker passed or
failed it. -/
theorem staking_time_accounting {self : Address} {start : StakingWorld}
    (fresh : start.Fresh self) {c : Config StakingWorld StakingFrame}
    (run : Reachable (stakingMachine self) (stakingDiscipline self) start c) (serviceId : Nat) :
    (sessionOf c.state.history serviceId = none ↔
      (c.state.store.mapServiceInfo serviceId).tsStart = 0) ∧
    ∀ session, sessionOf c.state.history serviceId = some session →
      session.start = (c.state.store.mapServiceInfo serviceId).tsStart ∧
      TimeAccounted c.state.store serviceId session := by
  obtain ⟨base, sessions⟩ :=
    staking_invariant fresh SessionBook.move (sessionBook_fresh fresh) run
  rcases sessions serviceId with ⟨none, zero⟩ | ⟨session, running, before⟩
  · refine ⟨⟨fun _ => zero, fun _ => none⟩, fun session running => ?_⟩
    rw [none] at running
    cases running
  · have busy := before.running
    refine ⟨⟨fun none => ?_, fun zero => ?_⟩, fun session' running' => ?_⟩
    · rw [running] at none
      cases none
    · omega
    · rw [running] at running'
      cases running'
      have members := base.book.members serviceId
      rw [before.inactivity] at members
      obtain ⟨till, chain, ends⟩ := before.chain
      refine ⟨before.start, fun stays => ?_, before.rewards, before.paid, before.inactivity,
        ⟨fun stays => (members.mp stays).2, fun short => members.mpr ⟨busy, short⟩⟩,
        before.timely⟩
      rw [ends stays, before.start] at chain
      exact chain

/-- A passed interval, then a failed one that is too long. -/
theorem staking_time_accounting_evicted :
    ∃ c session, Reachable (stakingMachine 5) (stakingDiscipline 5) sampleStaking c ∧
      sessionOf c.state.history 1 = some session ∧
      session.intervals = [⟨1000, 1150, true⟩, ⟨1150, 1300, false⟩] ∧
      session.start = (c.state.store.mapServiceInfo 1).tsStart ∧
      TimeAccounted c.state.store 1 session := by
  let session : Session :=
    ⟨21, 1000, [⟨1000, 1150, true⟩, ⟨1150, 1300, false⟩], 1500, 0, false⟩
  obtain ⟨c, run, seen⟩ := Machine.play_observed (stakingDiscipline 5) (stakingMachine 5)
    sampleStaking
    (stakeAndPass ++ [.call (.tick 150), .call (.checkpoint sampleOwner (activeAnswer 0))])
    (fun c => sessionOf c.state.history 1) (some session) (by decide +kernel)
  exact ⟨c, session, run, seen, rfl,
    (staking_time_accounting sampleStaking_fresh run 1).2 session seen⟩

end AutonolasRegistries.Guarantees
