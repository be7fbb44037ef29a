import AutonolasRegistries.Source.Safe

/-!
# A Safe over a list

A Safe whose owner list is walked from the sentinel, entry by entry. It behaves as the
recovery module expects of its Safes.
-/
namespace AutonolasRegistries.Model
open Source

namespace LinkedSafe

/-- Replaces the owner that `prevOwner` points to, if that is `owner`. `current` is
the entry before the rest of the list. -/
def relink (prevOwner owner : Address) (replacement : List Address) :
    Address → List Address → Option (List Address)
  | _, [] => none
  | current, next :: rest =>
    if current = prevOwner then
      if next = owner then some (replacement ++ rest) else none
    else (relink prevOwner owner replacement next rest).map (next :: ·)

/-- `changeThreshold`, when it differs from the current one. -/
def changeThreshold (threshold : Nat) (safe : Safe) : Option Safe :=
  if safe.threshold = threshold then some safe
  else if threshold ≤ safe.owners.length ∧ 1 ≤ threshold then some { safe with threshold }
  else none

def perform (this : Address) (safe : Safe) : SafeCall → Option Safe
  | .addOwnerWithThreshold owner threshold =>
    if owner = 0 ∨ owner = Safe.sentinel ∨ owner = this ∨ owner ∈ safe.owners then none
    else changeThreshold threshold { safe with owners := owner :: safe.owners }
  | .removeOwner prevOwner owner threshold =>
    if safe.owners.length - 1 < threshold ∨ owner = 0 ∨ owner = Safe.sentinel then none
    else (relink prevOwner owner [] Safe.sentinel safe.owners).bind fun owners =>
      changeThreshold threshold { safe with owners }
  | .swapOwner prevOwner oldOwner newOwner =>
    if newOwner = 0 ∨ newOwner = Safe.sentinel ∨ newOwner = this ∨ newOwner ∈ safe.owners ∨
      oldOwner = 0 ∨ oldOwner = Safe.sentinel then none
    else (relink prevOwner oldOwner [newOwner] Safe.sentinel safe.owners).map fun owners =>
      { safe with owners }

def execTransactionFromModule (this sender : Address) (batch : List SafeCall) (safe : Safe) :
    Option (Safe × Bool) :=
  if sender = Safe.sentinel ∨ sender ∉ safe.modules then none
  else match batch.foldlM (perform this) safe with
    | some after => some (after, true)
    | none => some (safe, false)

end LinkedSafe

def linkedSafe : SafeCode := ⟨LinkedSafe.perform, LinkedSafe.execTransactionFromModule⟩

namespace LinkedSafe
variable {this prevOwner owner : Address} {replacement : List Address} {safe after : Safe}
  {threshold : Nat}

/-- The walk finds the one place where `prevOwner` stands. -/
theorem relink_eq_some {current : Address} {owners linked : List Address}
    (nodup : (current :: owners).Nodup) :
    relink prevOwner owner replacement current owners = some linked ↔
      ∃ front back, current :: owners = front ++ prevOwner :: owner :: back ∧
        current :: linked = front ++ prevOwner :: (replacement ++ back) := by
  induction owners generalizing current linked with
  | nil =>
    refine iff_of_false (by simp [relink]) ?_
    rintro ⟨front, back, whole, -⟩
    have := congrArg List.length whole
    simp only [List.length_cons, List.length_nil, List.length_append] at this
    omega
  | cons next rest ih =>
    obtain ⟨fresh, nodup⟩ := List.nodup_cons.mp nodup
    rw [relink]
    split
    · next here =>
      subst here
      constructor
      · intro done
        split at done
        · next same =>
          subst same
          exact ⟨[], rest, rfl, congrArg (current :: ·) (Option.some.inj done).symm⟩
        · cases done
      · rintro ⟨front, back, whole, relinked⟩
        cases front with
        | nil =>
          obtain ⟨-, rfl, rfl⟩ : True ∧ next = owner ∧ rest = back := by simpa using whole
          rw [if_pos rfl, List.tail_eq_of_cons_eq relinked]
        | cons first front =>
          have tail := List.tail_eq_of_cons_eq whole
          exact absurd (tail ▸ by simp) fresh
    · next elsewhere =>
      rw [Option.map_eq_some_iff]
      constructor
      · rintro ⟨linked, done, rfl⟩
        obtain ⟨front, back, whole, relinked⟩ := (ih nodup).mp done
        exact ⟨current :: front, back, by rw [whole]; rfl, by rw [relinked]; rfl⟩
      · rintro ⟨front, back, whole, relinked⟩
        cases front with
        | nil => exact absurd (List.head_eq_of_cons_eq whole) elsewhere
        | cons first front =>
          have tail := List.tail_eq_of_cons_eq whole
          have after := List.tail_eq_of_cons_eq relinked
          obtain ⟨rest', rfl⟩ : ∃ rest', linked = next :: rest' := by
            cases front with
            | nil =>
              obtain ⟨rfl, -⟩ := List.cons.inj tail
              exact ⟨_, after⟩
            | cons second front =>
              obtain ⟨rfl, -⟩ := List.cons.inj tail
              exact ⟨_, after⟩
          exact ⟨rest', (ih nodup).mpr ⟨front, back, tail, after⟩, rfl⟩

theorem relink_sentinel {linked : List Address} (valid : safe.Valid this) :
    relink prevOwner owner replacement Safe.sentinel safe.owners = some linked ↔
      Safe.Relinked prevOwner owner replacement safe.owners linked :=
  relink_eq_some (List.nodup_cons.mpr
    ⟨fun member => (valid.proper _ member).2.1 rfl, valid.nodup⟩)

theorem changeThreshold_eq_some
    (kept : safe.threshold = threshold → 1 ≤ threshold ∧ threshold ≤ safe.owners.length) :
    changeThreshold threshold safe = some after ↔
      1 ≤ threshold ∧ threshold ≤ safe.owners.length ∧ after = { safe with threshold } := by
  unfold changeThreshold
  split
  · next same =>
    subst same
    simp only [Option.some.injEq, kept rfl, true_and]
    exact eq_comm
  · split
    · next allowed => simp only [Option.some.injEq, allowed, true_and, eq_comm]
    · next refused =>
      refine iff_of_false (by simp) ?_
      rintro ⟨positive, reachable, -⟩
      exact refused ⟨reachable, positive⟩

theorem addOwner_iff (valid : safe.Valid this) :
    perform this safe (.addOwnerWithThreshold owner threshold) = some after ↔
      safe.Admits this owner ∧ 1 ≤ threshold ∧ threshold ≤ safe.owners.length + 1 ∧
        after = { safe with owners := owner :: safe.owners, threshold := threshold } := by
  rw [perform]
  split
  · next refused =>
    refine iff_of_false (by simp) ?_
    rintro ⟨⟨nonzero, notSentinel, other, fresh⟩, -⟩
    tauto
  · next allowed =>
    simp only [not_or] at allowed
    have admits : safe.Admits this owner := allowed
    rw [changeThreshold_eq_some]
    · simp only [admits, List.length_cons, true_and]
    · intro same
      change safe.threshold = threshold at same
      rw [← same]
      exact ⟨valid.positive, Nat.le_succ_of_le valid.reachable⟩

theorem removeOwner_iff (valid : safe.Valid this) :
    perform this safe (.removeOwner prevOwner owner threshold) = some after ↔
      1 ≤ threshold ∧ threshold ≤ safe.owners.length - 1 ∧
        ∃ owners, Safe.Relinked prevOwner owner [] safe.owners owners ∧
          after = { safe with owners := owners, threshold := threshold } := by
  rw [perform]
  split
  · next refused =>
    refine iff_of_false (by simp) ?_
    rintro ⟨-, enough, owners, relinked, -⟩
    obtain ⟨nonzero, notSentinel, -⟩ := valid.proper owner relinked.owner_mem
    rcases refused with few | zero | same
    · omega
    · exact nonzero zero
    · exact notSentinel same
  · next allowed =>
    simp only [not_or, Nat.not_lt] at allowed
    obtain ⟨enough, -⟩ := allowed
    simp only [Option.bind_eq_some_iff, relink_sentinel valid, enough, true_and]
    constructor
    · rintro ⟨owners, relinked, changed⟩
      have size : owners.length = safe.owners.length - 1 := Nat.eq_sub_of_add_eq relinked.length
      rw [changeThreshold_eq_some] at changed
      · exact ⟨changed.1, owners, relinked, changed.2.2⟩
      · intro same
        change safe.threshold = threshold at same
        exact ⟨same ▸ valid.positive, by rw [size]; exact enough⟩
    · rintro ⟨positive, owners, relinked, rfl⟩
      have size : owners.length = safe.owners.length - 1 := Nat.eq_sub_of_add_eq relinked.length
      have fits : 1 ≤ threshold ∧ threshold ≤ owners.length :=
        ⟨positive, by rw [size]; exact enough⟩
      refine ⟨owners, relinked, ?_⟩
      rw [changeThreshold_eq_some fun _ => fits]
      exact ⟨fits.1, fits.2, rfl⟩

theorem swapOwner_iff {oldOwner newOwner : Address} (valid : safe.Valid this) :
    perform this safe (.swapOwner prevOwner oldOwner newOwner) = some after ↔
      safe.Admits this newOwner ∧
        ∃ owners, Safe.Relinked prevOwner oldOwner [newOwner] safe.owners owners ∧
          after = { safe with owners := owners } := by
  rw [perform]
  split
  · next refused =>
    refine iff_of_false (by simp) ?_
    rintro ⟨⟨nonzero, notSentinel, other, fresh⟩, owners, relinked, -⟩
    have old := valid.proper oldOwner relinked.owner_mem
    tauto
  · next allowed =>
    simp only [not_or] at allowed
    obtain ⟨nonzero, notSentinel, other, fresh, -⟩ := allowed
    have admits : safe.Admits this newOwner := ⟨nonzero, notSentinel, other, fresh⟩
    simp only [Option.map_eq_some_iff, relink_sentinel valid, admits, true_and]
    exact exists_congr fun owners => and_congr_right fun _ => eq_comm

end LinkedSafe

theorem linkedSafe_management : OwnerManagement linkedSafe where
  refused refused := if_pos refused
  executed enabled done := by
    change List.foldlM (LinkedSafe.perform _) _ _ = _ at done
    change LinkedSafe.execTransactionFromModule _ _ _ _ = _
    rw [LinkedSafe.execTransactionFromModule, if_neg (by tauto), done]
  failed enabled undone := by
    change List.foldlM (LinkedSafe.perform _) _ _ = _ at undone
    change LinkedSafe.execTransactionFromModule _ _ _ _ = _
    rw [LinkedSafe.execTransactionFromModule, if_neg (by tauto), undone]
  addOwner := LinkedSafe.addOwner_iff
  removeOwner := LinkedSafe.removeOwner_iff
  swapOwner := LinkedSafe.swapOwner_iff

end AutonolasRegistries.Model
