import AutonolasRegistries.Guarantees.StakingRuns
import AutonolasRegistries.Source.FactoryEffects

/-!
# What the staking factory vouches for

A proxy of the factory is created, may be switched off and on by its deployer, and may be
removed by the owner of the factory. The events about it are its whole life: it was
initialised once and created once with a verifier's consent, and once removed it is never
back, since its address is taken. What the verifier saw at the creation is what the proxy
reports ever after.
-/
namespace AutonolasRegistries.Guarantees
open Library Source

/-- The events about one proxy. -/
def eventsOf (proxy : Address) (history : List FactoryEvent) : List FactoryEvent :=
  history.filter fun event => event.proxy = proxy

/-- The life of a proxy: it is not there yet, the factory vouches for it, or it was
removed. -/
inductive Life (w : FactoryWorld) (proxy : Address) : Prop where
  | unborn (none : w.instances proxy = none) (quiet : eventsOf proxy w.history = [])
      (record : w.factory.mapInstanceParams proxy = .empty)
  | vouched {i snapshot : StakingInstance} {v : VerifierState} {implementation : Address}
      {deployer : Caller} (found : w.instances proxy = some i)
      (same : i.store.terms = snapshot.store.terms) (ready : snapshot.store.SetUp)
      (passed : StakingVerifier.verifyInstance v (some snapshot) implementation = .ok true)
      (events : eventsOf proxy w.history = [.initialised proxy,
        .created proxy implementation deployer (some v) snapshot])
      (record : (w.factory.mapInstanceParams proxy).deployer = deployer)
  | removed {i : StakingInstance} (found : w.instances proxy = some i) (ready : i.store.SetUp)
      (gone : .removed proxy ∈ w.history)
      (record : w.factory.mapInstanceParams proxy = .empty)

/-- The verifiers are verifiers, and every proxy has its life. -/
structure FactoryBook (w : FactoryWorld) : Prop where
  reached : ∀ a v, w.verifiers a = some v → StakingVerifier.Reached v
  current : w.factory.verifier = 0 ∨ (w.verifiers w.factory.verifier).isSome
  life : ∀ proxy, Life w proxy
  gone : ∀ proxy, .removed proxy ∈ w.history → w.factory.mapInstanceParams proxy = .empty

/-- The verifier is a `StakingVerifier` when a proxy is created, and otherwise one or
zero. -/
def verifierDiscipline : Discipline FactoryWorld FactoryCall InstanceFrame Unit where
  call call w :=
    match call with
    | .createStakingInstance _ _ _ _ => w.factory.verifier ≠ 0
    | .changeVerifier _ newVerifier => newVerifier = 0 ∨ (w.verifiers newVerifier).isSome
    | _ => True
  answer _ _ _ := True

instance (call : FactoryCall) (w : FactoryWorld) :
    Decidable (verifierDiscipline.call call w) :=
  match call with
  | .createStakingInstance _ _ _ _ => inferInstanceAs (Decidable (_ ≠ _))
  | .changeVerifier _ _ => inferInstanceAs (Decidable (_ ∨ _))
  | .setInstanceStatus _ _ _ | .removeInstance _ _ | .changeOwner _ _
  | .deployVerifier _ _ _ _ _ _ _ _ _ | .verifier _ _ _ | .staking _ _ _ | .tick _
  | .nft _ _ => .isTrue trivial

instance (frame : InstanceFrame) (answer : Unit) (w : FactoryWorld) :
    Decidable (verifierDiscipline.answer frame answer w) := .isTrue trivial

section Lives
variable {w w' : FactoryWorld} {proxy : Address}

theorem eventsOf_append (history later : List FactoryEvent) :
    eventsOf proxy (history ++ later) = eventsOf proxy history ++ eventsOf proxy later :=
  List.filter_append ..

theorem eventsOf_own {later : List FactoryEvent} (own : ∀ event ∈ later, event.proxy = proxy) :
    eventsOf proxy later = later :=
  List.filter_eq_self.mpr fun event member => decide_eq_true (own event member)

theorem eventsOf_other {later : List FactoryEvent}
    (other : ∀ event ∈ later, event.proxy ≠ proxy) : eventsOf proxy later = [] :=
  List.filter_eq_nil_iff.mpr fun event member => by simpa using other event member

/-- A life goes on where nothing is written about the proxy. -/
theorem Life.still (life : Life w proxy)
    (record : w'.factory.mapInstanceParams proxy = w.factory.mapInstanceParams proxy)
    (events : eventsOf proxy w'.history = eventsOf proxy w.history)
    (history : w.history ⊆ w'.history)
    (instances : (w'.instances proxy).map (StakingState.terms ∘ StakingInstance.store) =
      (w.instances proxy).map (StakingState.terms ∘ StakingInstance.store)) :
    Life w' proxy := by
  cases life with
  | unborn none quiet empty =>
    rw [none] at instances
    exact .unborn (Option.map_eq_none_iff.mp instances) (events.trans quiet) (record.trans empty)
  | vouched found same ready passed written deployer =>
    rw [found] at instances
    obtain ⟨i', found', terms⟩ := Option.map_eq_some_iff.mp instances
    exact .vouched found' (Eq.trans terms same) ready passed (events.trans written)
      (by rw [record, deployer])
  | removed found ready gone empty =>
    rw [found] at instances
    obtain ⟨i', found', terms⟩ := Option.map_eq_some_iff.mp instances
    exact .removed found' (ready.of_terms terms) (history gone) (record.trans empty)

/-- A proxy that is there is initialised. -/
theorem Life.ready (life : Life w proxy) {i : StakingInstance}
    (found : w.instances proxy = some i) : i.store.SetUp := by
  cases life with
  | unborn none =>
    rw [none] at found
    cases found
  | vouched known same ready =>
    rw [known] at found
    cases found
    exact ready.of_terms same
  | removed known ready =>
    rw [known] at found
    cases found
    exact ready

theorem FactoryBook.undisturbed (book : FactoryBook w) (kept : Undisturbed w w') :
    FactoryBook w' := by
  refine ⟨?_, ?_, fun proxy => ?_, ?_⟩
  · rw [kept.verifiers]
    exact book.reached
  · rw [kept.factory, kept.verifiers]
    exact book.current
  · exact (book.life proxy).still (by rw [kept.factory]) (by rw [kept.history])
      (by rw [kept.history]; exact List.Subset.refl _) (kept.instances proxy)
  · rw [kept.factory, kept.history]
    exact book.gone

/-- A proxy of the factory is not initialised again. -/
theorem FactoryBook.initialised_once (book : FactoryBook w) : ¬ Initialised w proxy w' := by
  intro again
  obtain ⟨i, found, blank⟩ := again.before
  exact ((book.life proxy).ready found).registry blank

/-- Writing the verifiers only. -/
theorem FactoryBook.verifying {a : Address} {v : VerifierState} (book : FactoryBook w)
    (reached : StakingVerifier.Reached v) :
    FactoryBook { w with verifiers := Function.update w.verifiers a (some v) } := by
  refine ⟨fun other u found => ?_, ?_, fun proxy => ?_, book.gone⟩
  · by_cases here : other = a
    · rw [here] at found
      simp only [Function.update_self, Option.some.injEq] at found
      exact found ▸ reached
    · simp only [Function.update_of_ne here] at found
      exact book.reached other u found
  · refine book.current.imp_right fun known => ?_
    by_cases here : w.factory.verifier = a
    · simp [here]
    · simpa only [Function.update_of_ne here] using known
  · exact (book.life proxy).still rfl rfl (List.Subset.refl _) rfl

/-- Writing the record of one proxy, and events about it. -/
theorem FactoryBook.written {later : List FactoryEvent} (book : FactoryBook w)
    (verifiers : w'.verifiers = w.verifiers)
    (verifier : w'.factory.verifier = w.factory.verifier)
    (others : ∀ other, other ≠ proxy →
      w'.factory.mapInstanceParams other = w.factory.mapInstanceParams other)
    (instances : ∀ other, other ≠ proxy → w'.instances other = w.instances other)
    (history : w'.history = w.history ++ later)
    (own : ∀ event ∈ later, event.proxy = proxy) (life : Life w' proxy)
    (gone : .removed proxy ∈ w'.history → w'.factory.mapInstanceParams proxy = .empty) :
    FactoryBook w' := by
  refine ⟨?_, ?_, fun other => ?_, fun other removed => ?_⟩
  · rw [verifiers]
    exact book.reached
  · rw [verifiers, verifier]
    exact book.current
  · by_cases here : other = proxy
    · rw [here]
      exact life
    · refine (book.life other).still (others other here) ?_ ?_ (by rw [instances other here])
      · have none : eventsOf other later = [] :=
          eventsOf_other fun event member same => here (same.symm.trans (own event member))
        rw [history, eventsOf_append, none, List.append_nil]
      · rw [history]
        exact List.subset_append_left _ _
  · by_cases here : other = proxy
    · rw [here] at removed ⊢
      exact gone removed
    · rw [others other here]
      rw [history] at removed
      rcases List.mem_append.mp removed with old | new
      · exact book.gone other old
      · exact absurd (own _ new) here

/-- A proxy with a record is one the factory vouches for. -/
theorem FactoryBook.vouched (book : FactoryBook w)
    (record : w.factory.mapInstanceParams proxy ≠ .empty) :
    ∃ (i snapshot : StakingInstance) (v : VerifierState) (implementation : Address)
      (deployer : Caller), w.instances proxy = some i ∧
      i.store.terms = snapshot.store.terms ∧ snapshot.store.SetUp ∧
      StakingVerifier.verifyInstance v (some snapshot) implementation = .ok true ∧
      eventsOf proxy w.history = [.initialised proxy,
        .created proxy implementation deployer (some v) snapshot] ∧
      (w.factory.mapInstanceParams proxy).deployer = deployer := by
  cases book.life proxy with
  | unborn none quiet empty => exact absurd empty record
  | vouched found same ready passed events deployer =>
    exact ⟨_, _, _, _, _, found, same, ready, passed, events, deployer⟩
  | removed found ready gone empty => exact absurd empty record

theorem FactoryBook.status {sender : Caller} {isEnabled : Bool} (book : FactoryBook w)
    (ran : StakingFactory.setInstanceStatus sender proxy isEnabled w = .ok w') :
    FactoryBook w' := by
  simp only [StakingFactory.setInstanceStatus, bind_eq_ok, revertIf_eq_ok, exists_const,
    pure_eq_ok, ne_eq, not_not] at ran
  obtain ⟨own, rfl⟩ := ran
  have record : w.factory.mapInstanceParams proxy ≠ .empty := by
    intro empty
    rw [empty] at own
    exact sender.2 own
  obtain ⟨i, snapshot, v, implementation, deployer, found, same, ready, passed, events, known⟩ :=
    book.vouched record
  refine book.written rfl rfl (fun other different => Function.update_of_ne different _ _)
    (fun _ _ => rfl) (List.append_nil _).symm (by simp) ?_ fun gone => ?_
  · refine .vouched found same ready passed events ?_
    simp only [Function.update_self]
    exact known
  · exact absurd (book.gone proxy gone) record

theorem FactoryBook.remove {sender : Caller} (book : FactoryBook w)
    (ran : StakingFactory.removeInstance sender proxy w = .ok w') : FactoryBook w' := by
  simp only [StakingFactory.removeInstance, bind_eq_ok, revertIf_eq_ok, exists_const,
    pure_eq_ok] at ran
  obtain ⟨-, some, rfl⟩ := ran
  have record : w.factory.mapInstanceParams proxy ≠ .empty := by
    intro empty
    rw [empty] at some
    exact some rfl
  obtain ⟨i, snapshot, v, implementation, deployer, found, same, ready, -⟩ := book.vouched record
  have empty : Function.update w.factory.mapInstanceParams proxy InstanceParams.empty proxy =
      .empty := Function.update_self ..
  refine book.written rfl rfl
    (fun other different => Function.update_of_ne different _ _) (fun _ _ => rfl) rfl ?_ ?_ ?_
  · intro event member
    rw [List.mem_singleton.mp member]
    rfl
  · refine .removed found (ready.of_terms same) ?_ empty
    exact List.mem_append_right _ (List.mem_singleton_self _)
  · exact fun _ => empty

theorem FactoryBook.create {self sender : Caller} {code : Address → Option StakingKind}
    {implementation address : Address} {payload : InitPayload} (book : FactoryBook w)
    (ran : StakingFactory.createStakingInstance self code sender implementation payload address
      w = .ok w') (set : w.factory.verifier ≠ 0) : FactoryBook w' := by
  obtain ⟨v, snapshot, free, passed, ready, factory, verifiers, history, found, others⟩ :=
    createStakingInstance_ok ran set book.reached
  have quiet : eventsOf address w.history = [] := by
    cases book.life address with
    | unborn none quiet empty => exact quiet
    | vouched found =>
      rw [free] at found
      cases found
    | removed found =>
      rw [free] at found
      cases found
  have own : ∀ event ∈ [FactoryEvent.initialised address,
      .created address implementation sender (some v) snapshot], event.proxy = address := by
    intro event member
    simp only [List.mem_cons, List.not_mem_nil, or_false] at member
    rcases member with rfl | rfl <;> rfl
  refine book.written verifiers (by rw [factory]) ?_ others history own ?_ fun gone => ?_
  · intro other different
    rw [factory]
    exact Function.update_of_ne different _ _
  · refine @Life.vouched _ _ _ _ _ _ sender found rfl ready passed ?_ ?_
    · rw [history, eventsOf_append, quiet, eventsOf_own own, List.nil_append]
    · rw [factory]
      simp only [Function.update_self]
  · have member : FactoryEvent.removed address ∈ eventsOf address w'.history :=
      List.mem_filter.mpr ⟨gone, decide_eq_true rfl⟩
    rw [history, eventsOf_append, quiet, eventsOf_own own] at member
    simp at member

end Lives

section Runs
variable {self : Caller} {code : Address → Option StakingKind} {w w' : FactoryWorld}

theorem done_eq_ok {run : Except FactoryError FactoryWorld}
    {out : Outcome FactoryWorld InstanceFrame} (ran : FactoryWorld.done run = .ok out) :
    ∃ w', run = .ok w' ∧ out = .done w' := by
  simp only [FactoryWorld.done, bind_eq_ok, pure_eq_ok] at ran
  obtain ⟨w', began, rfl⟩ := ran
  exact ⟨w', began, rfl⟩

/-- One call keeps the book, and only adds to the history. -/
theorem FactoryBook.entered {call : FactoryCall} {out : Outcome FactoryWorld InstanceFrame}
    (book : FactoryBook w) (allowed : verifierDiscipline.call call w)
    (ran : w.enter self code call = .ok out) :
    FactoryBook out.state ∧ w.history <+: out.state.history := by
  cases call with
  | createStakingInstance sender implementation payload address =>
    obtain ⟨w', began, rfl⟩ := done_eq_ok ran
    refine ⟨book.create began allowed, ?_⟩
    obtain ⟨v, snapshot, -, -, -, -, -, history, -⟩ :=
      createStakingInstance_ok began allowed book.reached
    exact ⟨_, history.symm⟩
  | setInstanceStatus sender proxy isEnabled =>
    obtain ⟨w', began, rfl⟩ := done_eq_ok ran
    refine ⟨book.status began, ?_⟩
    simp only [StakingFactory.setInstanceStatus, bind_eq_ok, revertIf_eq_ok, exists_const,
      pure_eq_ok] at began
    obtain ⟨-, rfl⟩ := began
    exact List.prefix_refl _
  | removeInstance sender proxy =>
    obtain ⟨w', began, rfl⟩ := done_eq_ok ran
    refine ⟨book.remove began, ?_⟩
    simp only [StakingFactory.removeInstance, bind_eq_ok, revertIf_eq_ok, exists_const,
      pure_eq_ok] at began
    obtain ⟨-, -, rfl⟩ := began
    exact List.prefix_append _ _
  | changeOwner sender newOwner =>
    obtain ⟨w', began, rfl⟩ := done_eq_ok ran
    simp only [StakingFactory.changeOwner, bind_eq_ok, revertIf_eq_ok, exists_const,
      pure_eq_ok] at began
    obtain ⟨-, -, rfl⟩ := began
    exact ⟨⟨book.reached, book.current,
      fun proxy => (book.life proxy).still rfl rfl (List.Subset.refl _) rfl, book.gone⟩,
      List.prefix_refl _⟩
  | changeVerifier sender newVerifier =>
    obtain ⟨w', began, rfl⟩ := done_eq_ok ran
    simp only [StakingFactory.changeVerifier, bind_eq_ok, revertIf_eq_ok, exists_const,
      pure_eq_ok] at began
    obtain ⟨-, rfl⟩ := began
    exact ⟨⟨book.reached, allowed,
      fun proxy => (book.life proxy).still rfl rfl (List.Subset.refl _) rfl, book.gone⟩,
      List.prefix_refl _⟩
  | deployVerifier =>
    simp only [FactoryWorld.enter, bind_eq_ok, revertIf_eq_ok, exists_const, pure_eq_ok] at ran
    obtain ⟨-, v, deployed, rfl⟩ := ran
    exact ⟨book.verifying (.deployed deployed), List.prefix_refl _⟩
  | verifier sender address call =>
    simp only [FactoryWorld.enter] at ran
    split at ran
    · cases ran
    · next v found =>
      simp only [bind_eq_ok, pure_eq_ok] at ran
      obtain ⟨v', called, rfl⟩ := ran
      exact ⟨book.verifying (.called (book.reached _ _ found) called), List.prefix_refl _⟩
  | staking sender proxy call =>
    rcases callInstance_cases ran with ⟨again, -⟩ | kept
    · exact absurd again book.initialised_once
    · exact ⟨book.undisturbed kept, by rw [kept.history]⟩
  | tick elapsed | nft nft supply =>
    cases ran
    exact ⟨book.undisturbed ⟨rfl, rfl, rfl, fun _ => rfl⟩, List.prefix_refl _⟩

end Runs

end AutonolasRegistries.Guarantees
