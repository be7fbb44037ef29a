import Mathlib.Data.Nat.Bitwise
import Mathlib.Tactic.Ring
import AutonolasRegistries.Library.ByteFields

/-!
# Arithmetic on the bytes of a word

A word is a row of byte lanes. While no lane overflows, adding and scaling words adds
and scales each lane. Nibbles get into lanes of their own by halving: each stage keeps
the upper half of every block in its place and moves the lower half down.
-/
namespace AutonolasRegistries.Library

section Lanes
variable {α : Type} {items : List α}

/-- Addition without a carry. -/
theorem lanes_add {f g sum : α → Byte}
    (each : ∀ item ∈ items, (f item).val + (g item).val = (sum item).val) :
    ofBytes (items.map f) + ofBytes (items.map g) = ofBytes (items.map sum) := by
  induction items using List.reverseRecOn with
  | nil => rfl
  | append_singleton items item ih =>
    have rest := ih fun other member => each other (List.mem_append_left _ member)
    have last := each item (by simp)
    simp only [List.map_append, List.map_cons, List.map_nil, ofBytes_snoc]
    omega

/-- Multiplication without a carry. -/
theorem lanes_mul {f product : α → Byte} {factor : Nat}
    (each : ∀ item ∈ items, (f item).val * factor = (product item).val) :
    ofBytes (items.map f) * factor = ofBytes (items.map product) := by
  induction items using List.reverseRecOn with
  | nil => simp [ofBytes]
  | append_singleton items item ih =>
    have rest := ih fun other member => each other (List.mem_append_left _ member)
    have last := each item (by simp)
    simp only [List.map_append, List.map_cons, List.map_nil, ofBytes_snoc]
    rw [Nat.add_mul, last, ← rest]
    ring

/-- Shifting by a nibble moves one into each lane from the lane above; the mask takes it
out again. -/
theorem lanes_high {f high : α → Byte}
    (each : ∀ item ∈ items, (f item).val / 16 = (high item).val) :
    ofBytes (items.map f) >>> 4 &&& ofBytes (items.map fun _ => 15) =
      ofBytes (items.map high) := by
  induction items using List.reverseRecOn with
  | nil => exact Nat.and_zero _
  | append_singleton items item ih =>
    have rest := ih fun other member => each other (List.mem_append_left _ member)
    have last := each item (by simp)
    have small := (f item).isLt
    simp only [List.map_append, List.map_cons, List.map_nil, ofBytes_snoc]
    rw [← rest, ← last]
    generalize ofBytes (items.map f) = word
    generalize ofBytes (items.map fun _ => (15 : Byte)) = mask
    have upper : ((word * 256 + (f item).val) >>> 4 &&& (mask * 256 + 15)) / 2 ^ 8 =
        word >>> 4 &&& mask := by
      rw [Nat.and_div_two_pow]
      simp only [Nat.shiftRight_eq_div_pow]
      congr 1 <;> omega
    have lower : ((word * 256 + (f item).val) >>> 4 &&& (mask * 256 + 15)) % 2 ^ 8 =
        (f item).val / 16 := by
      have masked : (mask * 256 + 15) % 2 ^ 8 = 2 ^ 4 - 1 := by omega
      rw [Nat.and_mod_two_pow, masked, Nat.and_two_pow_sub_one_eq_mod, Nat.shiftRight_eq_div_pow]
      omega
    have fifteen : ((15 : Byte) : Nat) = 15 := rfl
    rw [fifteen]
    omega

end Lanes

section Nibbles

/-- The nibbles of a number, one in each byte. -/
def nibbles : Nat → Nat → List Byte
  | 0, _ => []
  | width + 1, n => nibbles width (n / 16) ++ [Fin.ofNat 256 (n % 16)]

@[simp] theorem length_nibbles (width n : Nat) : (nibbles width n).length = width := by
  induction width generalizing n with
  | zero => rfl
  | succ width ih => rw [nibbles, List.length_append, ih, List.length_singleton]

theorem nibbles_lt {width n : Nat} : ∀ nibble ∈ nibbles width n, nibble.val < 16 := by
  induction width generalizing n with
  | zero =>
    intro nibble member
    cases member
  | succ width ih =>
    intro nibble member
    rcases List.mem_append.mp member with front | last
    · exact ih nibble front
    · rw [List.mem_singleton.mp last, Fin.val_ofNat]
      omega

/-- Each byte has two nibbles, the high one first. -/
theorem nibbles_toBytes (width n : Nat) :
    nibbles (2 * width) n =
      (toBytes width n).flatMap fun byte =>
        [Fin.ofNat 256 (byte.val / 16), Fin.ofNat 256 (byte.val % 16)] := by
  induction width generalizing n with
  | zero => rfl
  | succ width ih =>
    have high : n / 16 % 16 = n % 256 / 16 := by omega
    have low : n % 16 = n % 256 % 16 := by omega
    rw [Nat.mul_succ, nibbles, nibbles, Nat.div_div_eq_div_mul, ih, toBytes, List.flatMap_append,
      List.append_assoc, high, low]
    rfl

theorem nibbles_testBit (width n j : Nat) :
    (ofBytes (nibbles width n)).testBit j =
      (decide (j < 8 * width ∧ j % 8 < 4) && n.testBit (4 * (j / 8) + j % 8)) := by
  induction width generalizing n j with
  | zero => simp [nibbles, ofBytes]
  | succ width ih =>
    have nibble : (Fin.ofNat 256 (n % 16)).val = n % 2 ^ 4 := by
      rw [Fin.val_ofNat]
      omega
    have small : n % 2 ^ 4 < 2 ^ 8 := by omega
    have lanes : ofBytes (nibbles width (n / 16)) * 256 + n % 2 ^ 4 =
        2 ^ 8 * ofBytes (nibbles width (n / 16)) + n % 2 ^ 4 := by omega
    rw [nibbles, ofBytes_snoc, nibble, lanes, Nat.testBit_two_pow_mul_add _ small]
    by_cases first : j < 8
    · have lane : j / 8 = 0 := by omega
      have bit : j % 8 = j := by omega
      rw [if_pos first, Nat.testBit_mod_two_pow, lane, bit, Nat.mul_zero, Nat.zero_add]
      congr 1
      exact decide_eq_decide.mpr (by omega)
    · have shifted : n / 16 = n >>> 4 := (Nat.shiftRight_eq_div_pow n 4).symm
      have bit : 4 + (4 * ((j - 8) / 8) + (j - 8) % 8) = 4 * (j / 8) + j % 8 := by omega
      rw [if_neg first, ih, shifted, Nat.testBit_shiftRight, bit]
      congr 1
      exact decide_eq_decide.mpr (by omega)

end Nibbles

section Halving

/-- The source cut into parts of the given width, each in the upper half of a block of
twice the width. -/
def Spread (size width source spread : Nat) : Prop :=
  ∀ j, spread.testBit j =
    (decide (j < size ∧ width ≤ j % (2 * width)) &&
      source.testBit (width * (j / (2 * width)) + (j % (2 * width) - width)))

/-- The bits of a mask in each block of four times the width. -/
def BlockMask (size width first last mask : Nat) : Prop :=
  ∀ j, mask.testBit j =
    decide (j < size ∧ first * width ≤ j % (4 * width) ∧ j % (4 * width) < last * width)

/-- Blocks fill the word, so a bit and its neighbour in the same block are both inside
or both outside. -/
theorem same_block_inside {size block j k : Nat} (positive : 0 < block) (blocks : block ∣ size)
    (same : k / block = j / block) : k < size ↔ j < size := by
  obtain ⟨count, rfl⟩ := blocks
  rw [Nat.mul_comm, ← Nat.div_lt_iff_lt_mul positive, ← Nat.div_lt_iff_lt_mul positive, same]

/-- One stage: the upper half of each part keeps its place, the lower half moves down by
its own width. -/
theorem Spread.halve {size width source spread keep move : Nat} (positive : 0 < width)
    (blocks : 4 * width ∣ size) (kept : BlockMask size width 3 4 keep)
    (moved : BlockMask size width 2 3 move) (before : Spread size (2 * width) source spread) :
    Spread size width source (spread &&& keep ||| (spread &&& move) >>> width) := by
  intro j
  have double : 2 * (2 * width) = 4 * width := by omega
  have whole := Nat.div_add_mod j (4 * width)
  have short := Nat.mod_lt j (show 0 < 4 * width by omega)
  have product : 4 * width * (j / (4 * width)) = 4 * (width * (j / (4 * width))) :=
    Nat.mul_assoc 4 width _
  have even : 2 * width * (2 * (j / (4 * width))) = 4 * (width * (j / (4 * width))) := by ring
  have odd : 2 * width * (2 * (j / (4 * width)) + 1) =
      4 * (width * (j / (4 * width))) + 2 * width := by ring
  have target : width * (2 * (j / (4 * width))) = 2 * (width * (j / (4 * width))) := by ring
  have target' : width * (2 * (j / (4 * width)) + 1) =
      2 * (width * (j / (4 * width))) + width := by ring
  have source' : 2 * width * (j / (4 * width)) = 2 * (width * (j / (4 * width))) :=
    Nat.mul_assoc 2 width _
  have lower : j % (4 * width) < 2 * width →
      j / (2 * width) = 2 * (j / (4 * width)) ∧ j % (2 * width) = j % (4 * width) := fun low =>
    (Nat.div_mod_unique (by omega)).mpr ⟨by omega, low⟩
  have upper : 2 * width ≤ j % (4 * width) →
      j / (2 * width) = 2 * (j / (4 * width)) + 1 ∧
        j % (2 * width) = j % (4 * width) - 2 * width := fun high =>
    (Nat.div_mod_unique (by omega)).mpr ⟨by omega, by omega⟩
  have near : j % (4 * width) < 3 * width →
      (width + j) / (4 * width) = j / (4 * width) ∧
        (width + j) % (4 * width) = j % (4 * width) + width := fun low =>
    (Nat.div_mod_unique (by omega)).mpr ⟨by omega, by omega⟩
  simp only [Nat.testBit_or, Nat.testBit_and, Nat.testBit_shiftRight, kept j, moved (width + j)]
  rcases Nat.lt_or_ge (j % (4 * width)) (2 * width) with low | high
  · obtain ⟨block, bit⟩ := lower low
    obtain ⟨sameBlock, next⟩ := near (by omega)
    have inside := same_block_inside (show 0 < 4 * width by omega) blocks sameBlock
    rw [before (width + j), double, sameBlock, next, block, bit, target, source']
    have place : 2 * (width * (j / (4 * width))) + (j % (4 * width) + width - 2 * width) =
        2 * (width * (j / (4 * width))) + (j % (4 * width) - width) := by omega
    rw [place]
    have notKept : ¬ 3 * width ≤ j % (4 * width) := by omega
    have notPast : j % (4 * width) + width < 3 * width := by omega
    have same : 2 * width ≤ j % (4 * width) + width ↔ width ≤ j % (4 * width) := by omega
    simp [inside, notKept, notPast, same, Bool.and_comm]
  · obtain ⟨block, bit⟩ := upper high
    -- the neighbour is in the kept part, or already in the next block
    have notMoved : ¬ (2 * width ≤ (width + j) % (4 * width) ∧
        (width + j) % (4 * width) < 3 * width) := by
      rcases Nat.lt_or_ge (j % (4 * width)) (3 * width) with third | fourth
      · rw [(near third).2]
        omega
      · have next : (width + j) % (4 * width) = j % (4 * width) + width - 4 * width := by
          have wraps : width + j =
              (j % (4 * width) + width - 4 * width) + 4 * width * (j / (4 * width) + 1) := by
            rw [Nat.mul_succ]
            omega
          rw [wraps, Nat.add_mul_mod_self_left, Nat.mod_eq_of_lt (by omega)]
        rw [next]
        omega
    rw [before j, double, block, bit, target', source']
    have place : 2 * (width * (j / (4 * width))) + width +
        (j % (4 * width) - 2 * width - width) =
          2 * (width * (j / (4 * width))) + (j % (4 * width) - 2 * width) ∨
        ¬ 3 * width ≤ j % (4 * width) := by omega
    have same : width ≤ j % (4 * width) - 2 * width ↔ 3 * width ≤ j % (4 * width) := by omega
    rcases place with place | notKept
    · rw [place]
      by_cases inside : j < size
      · simp [inside, notMoved, high, short, same, Bool.and_comm]
      · simp [inside, notMoved]
    · simp [notMoved, notKept, same]

/-- The last stage: the two nibbles of each byte go down into lanes of their own. -/
theorem Spread.lanes {count source spread high low : Nat}
    (highs : BlockMask (16 * count) 4 3 4 high) (lows : BlockMask (16 * count) 4 2 3 low)
    (before : Spread (16 * count) 8 source spread) :
    (spread &&& high) >>> 4 ||| (spread &&& low) >>> 8 =
      ofBytes (nibbles (2 * count) source) := by
  refine Nat.eq_of_testBit_eq fun j => ?_
  simp only [Nat.testBit_or, Nat.testBit_and, Nat.testBit_shiftRight, highs (4 + j),
    lows (8 + j), before (4 + j), before (8 + j), nibbles_testBit]
  by_cases lane : j % 8 < 4 ∧ j < 16 * count
  · obtain ⟨nibble, inside⟩ := lane
    rcases Nat.lt_or_ge (j % 16) 8 with second | first
    · have bit : 8 * ((8 + j) / 16) + ((8 + j) % 16 - 8) = 4 * (j / 8) + j % 8 := by omega
      have unmoved : ¬ 12 ≤ (4 + j) % 16 := by omega
      have moved : 8 + j < 16 * count ∧ 8 ≤ (8 + j) % 16 ∧ (8 + j) % 16 < 12 := by omega
      have lanes : j < 8 * (2 * count) := by omega
      simp [bit, unmoved, moved, nibble, lanes]
    · have bit : 8 * ((4 + j) / 16) + ((4 + j) % 16 - 8) = 4 * (j / 8) + j % 8 := by omega
      have unmoved : ¬ 8 ≤ (8 + j) % 16 := by omega
      have moved : 4 + j < 16 * count ∧ 12 ≤ (4 + j) % 16 ∧ (4 + j) % 16 < 16 := by omega
      have inBlock : 8 ≤ (4 + j) % 16 := by omega
      have lanes : j < 8 * (2 * count) := by omega
      simp [bit, unmoved, moved, nibble, lanes, inBlock]
  · have unmoved : ¬ (4 + j < 16 * count ∧ 3 * 4 ≤ (4 + j) % (4 * 4) ∧
        (4 + j) % (4 * 4) < 4 * 4) := by omega
    have unmoved' : ¬ (8 + j < 16 * count ∧ 2 * 4 ≤ (8 + j) % (4 * 4) ∧
        (8 + j) % (4 * 4) < 3 * 4) := by omega
    have empty : ¬ (j < 8 * (2 * count) ∧ j % 8 < 4) := by omega
    rw [decide_eq_false unmoved, decide_eq_false unmoved', decide_eq_false empty, Bool.and_false,
      Bool.and_false, Bool.or_false, Bool.false_and]

end Halving

end AutonolasRegistries.Library
