import Mathlib.Data.List.Perm.Subperm
import Mathlib.Data.List.Nodup
import AutonolasRegistries.Source.UnitRegistry

/-!
# The merge of component lists

`_calculateSubComponents` takes the lists of all units at once: it keeps one index into
each list, moves each index past the last component written and writes the smallest
component it then sees. On ascending lists the result is their union, ascending and
without repetitions. `UnitRegistry.sol:200-265`.
-/
namespace AutonolasRegistries.Source
open Library

namespace UnitRegistry

theorem seek_ok (list : List Uint32) (least : Uint32) (fuel start : Nat)
    (rest : start + fuel = list.length) :
    ∃ stop, seek list list.length least fuel start = .ok stop ∧ start ≤ stop ∧
      stop ≤ list.length ∧
      (∀ j, start ≤ j → j < stop → ∀ x, list[j]? = some x → x ≤ least) ∧
      ∀ x, list[stop]? = some x → least < x := by
  induction fuel generalizing start with
  | zero =>
    refine ⟨start, rfl, le_refl _, by omega, fun j low high => by omega, fun x here => ?_⟩
    rw [List.getElem?_eq_none (by omega)] at here
    cases here
  | succ fuel ih =>
    have inside : start < list.length := by omega
    have here : list[start]? = some list[start] := List.getElem?_eq_getElem inside
    simp only [seek, if_pos inside, readAt, here, ok_bind]
    by_cases above : least < list[start]
    · refine ⟨start, by rw [if_pos above]; rfl, le_refl _, le_of_lt inside,
        fun j low high => by omega, fun x found => ?_⟩
      rw [here] at found
      cases found
      exact above
    · obtain ⟨stop, ran, low, high, passed, front⟩ := ih (start + 1) (by omega)
      refine ⟨stop, by rw [if_neg above]; exact ran, by omega, high, ?_, front⟩
      intro j first last x found
      by_cases same : j = start
      · subst same
        rw [here] at found
        cases found
        exact not_lt.mp above
      · exact passed j (by omega) last x found

/-- Each index is within its list and everything before it has been written. -/
structure Fronts (lists : List (List Uint32)) (least : Uint32) (processed : List Nat) :
    Prop where
  sizes : processed.length = lists.length
  within : ∀ (i : Nat) (l : List Uint32) (p : Nat), lists[i]? = some l → processed[i]? = some p → p ≤ l.length
  passed : ∀ (i : Nat) (l : List Uint32) (p : Nat), lists[i]? = some l → processed[i]? = some p →
    ∀ j < p, ∀ x, l[j]? = some x → x ≤ least

theorem Fronts.set {lists : List (List Uint32)} {least : Uint32} {processed : List Nat}
    (before : Fronts lists least processed) {i stop : Nat} {l : List Uint32}
    (list : lists[i]? = some l) (within : stop ≤ l.length)
    (passed : ∀ j < stop, ∀ x, l[j]? = some x → x ≤ least) :
    Fronts lists least (processed.set i stop) := by
  have inside : i < processed.length := by
    rw [before.sizes]
    exact (List.getElem?_eq_some_iff.mp list).1
  refine ⟨(List.length_set).trans before.sizes, fun k l' p here there => ?_,
    fun k l' p here there => ?_⟩
  · by_cases same : i = k
    · subst same
      rw [List.getElem?_set_self inside] at there
      rw [list] at here
      cases here
      cases there
      exact within
    · rw [List.getElem?_set_ne same] at there
      exact before.within k l' p here there
  · by_cases same : i = k
    · subst same
      rw [List.getElem?_set_self inside] at there
      rw [list] at here
      cases here
      cases there
      exact passed
    · rw [List.getElem?_set_ne same] at there
      exact before.passed k l' p here there

/-- What a pass over the units below `i` has found. -/
structure Scanned (lists : List (List Uint32)) (least : Uint32) (i : Nat) (scan : Scan) :
    Prop where
  fronts : Fronts lists least scan.processedComponents
  above : ∀ j < i, ∀ (l : List Uint32) (p : Nat) x, lists[j]? = some l →
    scan.processedComponents[j]? = some p → l[p]? = some x → least < x ∧ scan.tryMinComponent ≤ x
  counted : scan.numComponentsCheck ≤ i
  missed : scan.numComponentsCheck = 0 → scan.tryMinComponent = 4294967295 ∧
    ∀ j < i, ∀ (l : List Uint32) (p : Nat), lists[j]? = some l →
      scan.processedComponents[j]? = some p → l[p]? = none
  found : 0 < scan.numComponentsCheck → scan.minIdxComponent < i ∧
    ∃ (l : List Uint32) (p : Nat), lists[scan.minIdxComponent]? = some l ∧
      scan.processedComponents[scan.minIdxComponent]? = some p ∧
      l[p]? = some scan.tryMinComponent

/-- The lists a merge is about: their Ids leave out the largest one, which marks that
no component was found. -/
structure Mergeable (lists : List (List Uint32)) : Prop where
  units : lists.length < 2 ^ 32
  short : ∀ l ∈ lists, l.length < 2 ^ 32
  ascending : ∀ l ∈ lists, l.Pairwise (· < ·)
  positive : ∀ l ∈ lists, ∀ x ∈ l, 0 < x
  below : ∀ l ∈ lists, ∀ x ∈ l, x < 4294967295

section Pass
variable {lists : List (List Uint32)} {least : Uint32} {i : Nat} {scan : Scan}

/-- The lists before `i` are not touched by a write at `i`. -/
theorem set_before {processed : List Nat} {j stop : Nat} (before : j < i) :
    (processed.set i stop)[j]? = processed[j]? :=
  List.getElem?_set_ne (by omega)

/-- Unit `i` has no component above the last one. -/
theorem Scanned.exhausted (before : Scanned lists least i scan) {l : List Uint32} {stop : Nat}
    (list : lists[i]? = some l) (inside : i < scan.processedComponents.length)
    (fronts : Fronts lists least (scan.processedComponents.set i stop))
    (finished : l[stop]? = none) :
    Scanned lists least (i + 1)
      { scan with processedComponents := scan.processedComponents.set i stop } := by
  have last : ∀ j < i + 1, ∀ (l' : List Uint32) (p : Nat), lists[j]? = some l' →
      (scan.processedComponents.set i stop)[j]? = some p →
      (j < i ∧ scan.processedComponents[j]? = some p) ∨ (j = i ∧ l'[p]? = none) := by
    intro j below l' p here there
    by_cases same : j = i
    · subst same
      rw [List.getElem?_set_self inside] at there
      rw [list] at here
      cases here
      cases there
      exact Or.inr ⟨rfl, finished⟩
    · have earlier : j < i := by omega
      exact Or.inl ⟨earlier, set_before earlier ▸ there⟩
  refine ⟨fronts, ?_, Nat.le_succ_of_le before.counted, fun zero => ⟨(before.missed zero).1, ?_⟩,
    fun some => ?_⟩
  · intro j below l' p x here there front
    rcases last j below l' p here there with ⟨earlier, old⟩ | ⟨-, ended⟩
    · exact before.above j earlier l' p x here old front
    · rw [ended] at front
      cases front
  · intro j below l' p here there
    rcases last j below l' p here there with ⟨earlier, old⟩ | ⟨-, ended⟩
    · exact (before.missed zero).2 j earlier l' p here old
    · exact ended
  · obtain ⟨earlier, l', p, here, there, least⟩ := before.found some
    exact ⟨Nat.lt_succ_of_lt earlier, l', p, here, (set_before earlier).trans there, least⟩

/-- Unit `i` has one. -/
theorem Scanned.considered (before : Scanned lists least i scan) (mergeable : Mergeable lists)
    {l : List Uint32} {stop : Nat} {x : Uint32} (list : lists[i]? = some l)
    (inside : i < scan.processedComponents.length)
    (fronts : Fronts lists least (scan.processedComponents.set i stop))
    (front : l[stop]? = some x) (above : least < x) :
    ∃ next, consider x i
        { scan with processedComponents := scan.processedComponents.set i stop } = .ok next ∧
      Scanned lists least (i + 1) next := by
  have counted := before.counted
  have room : scan.numComponentsCheck + 1 < 2 ^ 32 := by
    have := (List.getElem?_eq_some_iff.mp list).1
    have := mergeable.units
    omega
  have smaller : x < 4294967295 :=
    mergeable.below l (List.mem_of_getElem? list) x (List.mem_of_getElem? front)
  have last : ∀ j < i + 1, ∀ (l' : List Uint32) (p : Nat) y, lists[j]? = some l' →
      (scan.processedComponents.set i stop)[j]? = some p → l'[p]? = some y →
      (j < i ∧ scan.processedComponents[j]? = some p) ∨ y = x := by
    intro j below l' p y here there seen
    by_cases same : j = i
    · subst same
      rw [List.getElem?_set_self inside] at there
      rw [list] at here
      cases here
      cases there
      rw [front] at seen
      exact Or.inr (Option.some.inj seen).symm
    · have earlier : j < i := by omega
      exact Or.inl ⟨earlier, set_before earlier ▸ there⟩
  simp only [consider, bind_eq_ok, checkedAdd_eq_ok, pure_eq_ok]
  by_cases less : x < scan.tryMinComponent
  · simp only [if_pos less]
    refine ⟨_, ⟨_, ⟨room, rfl⟩, rfl⟩, fronts, ?_, by simp only; omega, (fun zero => by cases zero),
      fun _ => ⟨Nat.lt_succ_self i, l, stop, list, List.getElem?_set_self inside, front⟩⟩
    intro j below l' p y here there seen
    rcases last j below l' p y here there seen with ⟨earlier, old⟩ | rfl
    · obtain ⟨high, low⟩ := before.above j earlier l' p y here old seen
      exact ⟨high, le_of_lt (lt_of_lt_of_le less low)⟩
    · exact ⟨above, le_refl _⟩
  · simp only [if_neg less]
    have some : 0 < scan.numComponentsCheck := by
      by_contra none
      rw [(before.missed (by omega)).1] at less
      exact less smaller
    obtain ⟨earlier, l', p, here, there, found⟩ := before.found some
    refine ⟨_, ⟨_, ⟨room, rfl⟩, rfl⟩, fronts, ?_, by simp only; omega, (fun zero => by cases zero),
      fun _ => ⟨Nat.lt_succ_of_lt earlier, l', p, here, (set_before earlier).trans there, found⟩⟩
    intro j below l' p y here there seen
    rcases last j below l' p y here there seen with ⟨earlier, old⟩ | rfl
    · exact before.above j earlier l' p y here old seen
    · exact ⟨above, not_lt.mp less⟩

theorem scanBody_ok (mergeable : Mergeable lists) (inside : i < lists.length)
    (before : Scanned lists least i scan) :
    ∃ next, scanBody lists (lists.map List.length) least i scan = .ok next ∧
      Scanned lists least (i + 1) next := by
  have held : i < scan.processedComponents.length := before.fronts.sizes ▸ inside
  have list : lists[i]? = some lists[i] := List.getElem?_eq_getElem inside
  have num : (lists.map List.length)[i]? = some lists[i].length := by
    rw [List.getElem?_map, list]
    rfl
  have index : scan.processedComponents[i]? = some scan.processedComponents[i] :=
    List.getElem?_eq_getElem held
  have start := before.fronts.within i _ _ list index
  obtain ⟨stop, sought, low, high, passed, front⟩ := seek_ok lists[i] least
    (lists[i].length - scan.processedComponents[i]) scan.processedComponents[i] (by omega)
  have fronts : Fronts lists least (scan.processedComponents.set i stop) := by
    refine before.fronts.set list high fun j below x here => ?_
    by_cases earlier : j < scan.processedComponents[i]
    · exact before.fronts.passed i _ _ list index j earlier x here
    · exact passed j (not_lt.mp earlier) below x here
  simp only [scanBody, readAt, list, num, index, ok_bind, sought, writeAt, if_pos held]
  by_cases more : stop < lists[i].length
  · have seen : lists[i][stop]? = some lists[i][stop] := List.getElem?_eq_getElem more
    obtain ⟨next, ran, after⟩ :=
      before.considered mergeable list held fronts seen (front _ seen)
    refine ⟨next, ?_, after⟩
    rw [if_pos more, seen]
    exact ran
  · refine ⟨_, by rw [if_neg more]; rfl, before.exhausted list held fronts ?_⟩
    exact List.getElem?_eq_none (not_lt.mp more)

/-- One pass over all units. -/
theorem scan_ok (mergeable : Mergeable lists) {processed : List Nat}
    (fronts : Fronts lists least processed) :
    ∃ scan, loop (scanBody lists (lists.map List.length) least) (List.range lists.length)
        ⟨processed, 4294967295, 0, 0⟩ = .ok scan ∧
      Scanned lists least lists.length scan := by
  refine loop_range (Scanned lists least)
    (fun i inside scan before => scanBody_ok mergeable inside before) ?_
  exact ⟨fronts, fun j none => absurd none (Nat.not_lt_zero j), le_refl _,
    fun _ => ⟨rfl, fun j none => absurd none (Nat.not_lt_zero j)⟩,
    fun some => absurd some (lt_irrefl 0)⟩

end Pass

/-- The components written so far are those of all lists up to the last one written. -/
structure Merged (lists : List (List Uint32)) (st : Merge) : Prop where
  fronts : Fronts lists st.minComponent st.processedComponents
  room : st.allComponents.length = lists.flatten.length
  within : st.counter ≤ lists.flatten.length
  ascending : (st.allComponents.take st.counter).Pairwise (· < ·)
  members : ∀ x, x ∈ st.allComponents.take st.counter ↔
    x ∈ lists.flatten ∧ x ≤ st.minComponent

section Outer
variable {lists : List (List Uint32)}

/-- The first component after an index is the smallest one after it. -/
theorem front_least {l : List Uint32} (ascending : l.Pairwise (· < ·)) {p j : Nat} {x y : Uint32}
    (front : l[p]? = some x) (later : l[j]? = some y) (order : p ≤ j) : x ≤ y := by
  obtain ⟨inside, rfl⟩ := List.getElem?_eq_some_iff.mp front
  obtain ⟨inside', rfl⟩ := List.getElem?_eq_some_iff.mp later
  rcases Nat.eq_or_lt_of_le order with rfl | order
  · exact le_refl _
  · exact le_of_lt (List.pairwise_iff_getElem.mp ascending p j inside inside' order)

/-- After a pass, everything above the last component is at least the smallest found. -/
theorem Scanned.least_above (mergeable : Mergeable lists) {least : Uint32} {scan : Scan}
    (scanned : Scanned lists least lists.length scan) {x : Uint32} (member : x ∈ lists.flatten)
    (above : least < x) : 0 < scan.numComponentsCheck ∧ scan.tryMinComponent ≤ x := by
  obtain ⟨l, list, here⟩ := List.mem_flatten.mp member
  obtain ⟨i, inside, rfl⟩ := List.getElem_of_mem list
  obtain ⟨j, within, rfl⟩ := List.getElem_of_mem here
  have held : i < scan.processedComponents.length := scanned.fronts.sizes ▸ inside
  have at' : lists[i]? = some lists[i] := List.getElem?_eq_getElem inside
  have index : scan.processedComponents[i]? = some scan.processedComponents[i] :=
    List.getElem?_eq_getElem held
  have place : lists[i][j]? = some lists[i][j] := List.getElem?_eq_getElem within
  have order : scan.processedComponents[i] ≤ j := by
    by_contra earlier
    exact absurd (scanned.fronts.passed i _ _ at' index j (not_le.mp earlier) _ place)
      (not_le.mpr above)
  have front : lists[i][scan.processedComponents[i]]? =
      some (lists[i].get ⟨scan.processedComponents[i], lt_of_le_of_lt order within⟩) :=
    List.getElem?_eq_getElem _
  have first := (scanned.above i inside _ _ _ at' index front).2
  refine ⟨?_, le_trans first (front_least (mergeable.ascending _ list) front place order)⟩
  by_contra zero
  have missed := (scanned.missed (by omega)).2 i inside _ _ at' index
  rw [front] at missed
  cases missed

/-- The list is complete once no component is left above the last one, -/
theorem Merged.complete {st : Merge} (merged : Merged lists st)
    (all : ∀ x ∈ lists.flatten, x ≤ st.minComponent) :
    ∀ x, x ∈ st.allComponents.take st.counter ↔ x ∈ lists.flatten := by
  intro x
  rw [merged.members x]
  exact ⟨fun both => both.1, fun member => ⟨member, all x member⟩⟩

/-- and also when the array is full: it has no repetitions. -/
theorem Merged.full {st : Merge} (merged : Merged lists st)
    (full : st.counter = lists.flatten.length) :
    ∀ x, x ∈ st.allComponents.take st.counter ↔ x ∈ lists.flatten := by
  have unique : (st.allComponents.take st.counter).Nodup :=
    merged.ascending.imp fun less => ne_of_lt less
  have inside : st.allComponents.take st.counter ⊆ lists.flatten :=
    fun x member => ((merged.members x).mp member).1
  have size : lists.flatten.length ≤ (st.allComponents.take st.counter).length := by
    rw [List.length_take, merged.room]
    omega
  have same := (List.subperm_of_subset unique inside).perm_of_length_le size
  exact fun x => same.mem_iff

/-- Writing the smallest component found. -/
theorem Merged.write (mergeable : Mergeable lists) {st : Merge} {scan : Scan}
    (merged : Merged lists st) (scanned : Scanned lists st.minComponent lists.length scan)
    (free : st.counter < lists.flatten.length) {l : List Uint32} {p : Nat}
    (list : lists[scan.minIdxComponent]? = some l)
    (index : scan.processedComponents[scan.minIdxComponent]? = some p)
    (front : l[p]? = some scan.tryMinComponent) :
    Merged lists
      ⟨scan.processedComponents.set scan.minIdxComponent (p + 1), scan.tryMinComponent,
        st.allComponents.set st.counter scan.tryMinComponent, st.counter + 1⟩ := by
  have above : st.minComponent < scan.tryMinComponent :=
    (scanned.above _ (List.getElem?_eq_some_iff.mp list).1 l p _ list index front).1
  have inside : p < l.length := (List.getElem?_eq_some_iff.mp front).1
  have written : (st.allComponents.set st.counter scan.tryMinComponent).take (st.counter + 1) =
      st.allComponents.take st.counter ++ [scan.tryMinComponent] := by
    have held : st.counter < st.allComponents.length := merged.room ▸ free
    rw [List.take_add_one, List.getElem?_set_self held, List.take_set_of_le (le_refl _)]
    rfl
  have fronts : Fronts lists scan.tryMinComponent scan.processedComponents :=
    ⟨scanned.fronts.sizes, scanned.fronts.within, fun i l p here there j earlier x found =>
      le_trans (scanned.fronts.passed i l p here there j earlier x found) (le_of_lt above)⟩
  refine ⟨fronts.set list inside fun j earlier x found => ?_, ?_, free, ?_, fun x => ?_⟩
  · rcases Nat.lt_succ_iff_lt_or_eq.mp earlier with earlier | rfl
    · exact fronts.passed _ l p list index j earlier x found
    · rw [front] at found
      cases found
      exact le_refl _
  · exact List.length_set.trans merged.room
  · rw [written]
    refine List.pairwise_append.mpr ⟨merged.ascending, List.pairwise_singleton _ _, ?_⟩
    intro x member y last
    rw [List.mem_singleton.mp last]
    exact lt_of_le_of_lt ((merged.members x).mp member).2 above
  · have found : scan.tryMinComponent ∈ lists.flatten :=
      List.mem_flatten.mpr ⟨l, List.mem_of_getElem? list, List.mem_of_getElem? front⟩
    rw [written, List.mem_append, merged.members x, List.mem_singleton]
    constructor
    · rintro (⟨member, below⟩ | rfl)
      · exact ⟨member, le_trans below (le_of_lt above)⟩
      · exact ⟨found, le_refl _⟩
    · rintro ⟨member, below⟩
      by_cases earlier : x ≤ st.minComponent
      · exact Or.inl ⟨member, earlier⟩
      · have least := (scanned.least_above mergeable member (not_le.mp earlier)).2
        exact Or.inr (le_antisymm below least)

theorem mergeLoop_ok (mergeable : Mergeable lists) (remaining : Nat) (st : Merge)
    (merged : Merged lists st) (total : st.counter + remaining = lists.flatten.length) :
    ∃ final, mergeLoop lists (lists.map List.length) lists.length remaining st = .ok final ∧
      (final.allComponents.take final.counter).Pairwise (· < ·) ∧
      ∀ x, x ∈ final.allComponents.take final.counter ↔ x ∈ lists.flatten := by
  induction remaining generalizing st with
  | zero => exact ⟨st, rfl, merged.ascending, merged.full total⟩
  | succ remaining ih =>
    obtain ⟨scan, ran, scanned⟩ := scan_ok mergeable merged.fronts
    simp only [mergeLoop, ran, ok_bind]
    by_cases more : 0 < scan.numComponentsCheck
    · obtain ⟨-, l, p, list, index, front⟩ := scanned.found more
      have next := merged.write mergeable scanned (by omega) list index front
      obtain ⟨final, run, ascending, members⟩ := ih _ next (by simp only; omega)
      have held : st.counter < st.allComponents.length := by
        rw [merged.room]
        omega
      have short : p + 1 < 2 ^ 32 :=
        lt_of_le_of_lt (List.getElem?_eq_some_iff.mp front).1
          (mergeable.short l (List.mem_of_getElem? list))
      have place := (List.getElem?_eq_some_iff.mp index).1
      refine ⟨final, ?_, ascending, members⟩
      simp only [if_pos more, writeAt, if_pos held, readAt, index, checkedAdd, if_pos short,
        if_pos place, ok_bind]
      exact run
    · have all : ∀ x ∈ lists.flatten, x ≤ st.minComponent := by
        intro x member
        by_contra above
        exact more (scanned.least_above mergeable member (not_le.mp above)).1
      refine ⟨{ st with
        processedComponents := scan.processedComponents
        minComponent := scan.tryMinComponent }, ?_, merged.ascending, merged.complete all⟩
      rw [if_neg more]
      rfl

end Outer

/-- The lists of the given units. -/
def listsOf (getSubComponents : Uint32 → List Uint32) (unitIds : List Uint32) :
    List (List Uint32) := unitIds.map getSubComponents

theorem numComponents_sum {lists : List (List Uint32)} (start : Nat) {total : Nat}
    (summed : loop (fun num total => checkedAdd 32 (Revert.panic .arithmetic) total num)
      (lists.map List.length) start = .ok total) :
    total = start + lists.flatten.length := by
  induction lists generalizing start with
  | nil =>
    cases summed
    rfl
  | cons l rest ih =>
    obtain ⟨next, ran, summed⟩ := loop_cons_eq_ok.mp summed
    obtain ⟨-, rfl⟩ := checkedAdd_eq_ok.mp ran
    rw [ih _ summed, List.flatten_cons, List.length_append]
    omega

/-- The sum is only refused when it does not fit. -/
theorem numComponents_fits {lists : List (List Uint32)} {start : Nat}
    (fits : start + lists.flatten.length < 2 ^ 32) :
    loop (fun num total => checkedAdd 32 (Revert.panic .arithmetic) total num)
      (lists.map List.length) start = .ok (start + lists.flatten.length) := by
  induction lists generalizing start with
  | nil => rfl
  | cons l rest ih =>
    rw [List.flatten_cons, List.length_append] at fits ⊢
    refine loop_cons_eq_ok.mpr ⟨start + l.length, checkedAdd_eq_ok.mpr ⟨by omega, rfl⟩, ?_⟩
    rw [← Nat.add_assoc]
    exact ih (by omega)

section Calculated
variable {getSubComponents : Uint32 → List Uint32} {unitIds : List Uint32}

theorem Mergeable.units_mod (mergeable : Mergeable (listsOf getSubComponents unitIds)) :
    unitIds.length % 2 ^ 32 = unitIds.length := by
  refine Nat.mod_eq_of_lt ?_
  have := mergeable.units
  rwa [listsOf, List.length_map] at this

theorem Mergeable.lengths (mergeable : Mergeable (listsOf getSubComponents unitIds)) :
    ((unitIds.map getSubComponents).map fun list => list.length % 2 ^ 32) =
      (listsOf getSubComponents unitIds).map List.length :=
  List.map_congr_left fun l member => Nat.mod_eq_of_lt (mergeable.short l member)

theorem Merged.start (mergeable : Mergeable (listsOf getSubComponents unitIds)) :
    Merged (listsOf getSubComponents unitIds)
      ⟨List.replicate unitIds.length 0, 0,
        List.replicate (listsOf getSubComponents unitIds).flatten.length 0, 0⟩ := by
  refine ⟨⟨?_, ?_, ?_⟩, ?_, Nat.zero_le _, ?_, fun x => ?_⟩
  · simp [listsOf]
  · intro i l p _ there
    obtain rfl := List.eq_of_mem_replicate (List.mem_of_getElem? there)
    exact Nat.zero_le _
  · intro i l p _ there j earlier
    obtain rfl := List.eq_of_mem_replicate (List.mem_of_getElem? there)
    omega
  · simp
  · simp
  · simp only [List.take_zero, List.not_mem_nil, false_iff, not_and, not_le]
    intro member
    obtain ⟨l, list, here⟩ := List.mem_flatten.mp member
    exact mergeable.positive l list x here

/-- A merge of ascending lists whose lengths can be added up returns their union,
ascending. -/
theorem calculateSubComponents_merged {total : Nat}
    (mergeable : Mergeable (listsOf getSubComponents unitIds))
    (summed : loop (fun num total => checkedAdd 32 (Revert.panic .arithmetic) total num)
      ((listsOf getSubComponents unitIds).map List.length) 0 = .ok total) :
    ∃ result, calculateSubComponents getSubComponents unitIds = .ok result ∧
      result.Pairwise (· < ·) ∧
      ∀ x, x ∈ result ↔ ∃ unitId ∈ unitIds, x ∈ getSubComponents unitId := by
  have size := numComponents_sum 0 summed
  rw [Nat.zero_add] at size
  subst size
  obtain ⟨final, merged, ascending, members⟩ := mergeLoop_ok mergeable _ _
    (Merged.start mergeable) (Nat.zero_add _)
  have same : (listsOf getSubComponents unitIds).length = unitIds.length := List.length_map _
  rw [same] at merged
  refine ⟨_, ?_, ascending, fun x => (members x).trans ?_⟩
  · simp only [calculateSubComponents, mergeable.units_mod, List.take_length, mergeable.lengths,
      summed, ok_bind]
    change (mergeLoop (listsOf getSubComponents unitIds) _ _ _ _ >>= _) = _
    rw [merged]
    rfl
  · simp only [listsOf, List.mem_flatten, List.mem_map]
    constructor
    · rintro ⟨l, ⟨unitId, listed, rfl⟩, here⟩
      exact ⟨unitId, listed, here⟩
    · rintro ⟨unitId, listed, here⟩
      exact ⟨_, ⟨unitId, listed, rfl⟩, here⟩

/-- A merge that goes through. -/
theorem calculateSubComponents_ok {result : List Uint32}
    (mergeable : Mergeable (listsOf getSubComponents unitIds))
    (ran : calculateSubComponents getSubComponents unitIds = .ok result) :
    result.Pairwise (· < ·) ∧
      ∀ x, x ∈ result ↔ ∃ unitId ∈ unitIds, x ∈ getSubComponents unitId := by
  have parts := ran
  simp only [calculateSubComponents, mergeable.units_mod, List.take_length, mergeable.lengths,
    bind_eq_ok] at parts
  obtain ⟨total, summed, -⟩ := parts
  obtain ⟨merged, returned, exact⟩ := calculateSubComponents_merged mergeable summed
  obtain rfl : result = merged := Except.ok.inj (ran.symm.trans returned)
  exact exact

end Calculated

end UnitRegistry
end AutonolasRegistries.Source
