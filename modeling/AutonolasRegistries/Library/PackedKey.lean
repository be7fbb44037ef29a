import Mathlib.Data.Nat.Bitwise
import Mathlib.Tactic.Common

/-!
# Packed keys

Two numbers in one word: the low one in the first `width` bits, the high one
shifted above it. The packing is injective as long as the low part fits.
-/
namespace AutonolasRegistries.Library

def pack (width low high : Nat) : Nat := low ||| high <<< width

theorem pack_eq (width low high : Nat) (fits : low < 2 ^ width) :
    pack width low high = high * 2 ^ width + low := by
  rw [pack, Nat.or_comm, ← Nat.shiftLeft_add_eq_or_of_lt fits, Nat.shiftLeft_eq]

theorem pack_low (width low high : Nat) (fits : low < 2 ^ width) :
    pack width low high % 2 ^ width = low := by
  rw [pack_eq width low high fits, Nat.mul_add_mod_self_right, Nat.mod_eq_of_lt fits]

theorem pack_high (width low high : Nat) (fits : low < 2 ^ width) :
    pack width low high / 2 ^ width = high := by
  rw [pack_eq width low high fits, Nat.mul_comm, Nat.mul_add_div (Nat.two_pow_pos width),
    Nat.div_eq_of_lt fits, Nat.add_zero]

theorem pack_injective {width low high low' high' : Nat} (fits : low < 2 ^ width)
    (fits' : low' < 2 ^ width) (same : pack width low high = pack width low' high') :
    low = low' ∧ high = high' := by
  refine ⟨?_, ?_⟩
  · rw [← pack_low width low high fits, same, pack_low width low' high' fits']
  · rw [← pack_high width low high fits, same, pack_high width low' high' fits']

/-- A packed pair fits in the sum of the widths. -/
theorem pack_lt (upper : Nat) {width low high : Nat} (fits : low < 2 ^ width)
    (fitsHigh : high < 2 ^ upper) : pack width low high < 2 ^ (width + upper) := by
  rw [pack_eq width low high fits]
  calc high * 2 ^ width + low < high * 2 ^ width + 2 ^ width := Nat.add_lt_add_left fits _
    _ = (high + 1) * 2 ^ width := by rw [Nat.add_mul, Nat.one_mul]
    _ ≤ 2 ^ upper * 2 ^ width := Nat.mul_le_mul_right _ fitsHigh
    _ = 2 ^ (width + upper) := by rw [Nat.mul_comm, Nat.pow_add]

end AutonolasRegistries.Library
