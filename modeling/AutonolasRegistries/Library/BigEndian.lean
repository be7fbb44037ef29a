import Mathlib.Algebra.Ring.Nat
import Mathlib.Data.Nat.Basic
import Mathlib.Data.Fin.Basic
import Mathlib.Data.List.Basic
import Mathlib.Tactic.Common

/-!
# Numbers as big-endian byte strings

The encoding has a fixed width, and decoding reads a string of any width.
-/
namespace AutonolasRegistries.Library

abbrev Byte := Fin 256

instance byte_neZero : NeZero 256 := ⟨by decide⟩

def toBytes : Nat → Nat → List Byte
  | 0, _ => []
  | width + 1, n => toBytes width (n / 256) ++ [Fin.ofNat 256 n]

def ofBytes (bytes : List Byte) : Nat :=
  bytes.foldl (fun n byte => n * 256 + byte.val) 0

@[simp] theorem length_toBytes (width n : Nat) : (toBytes width n).length = width := by
  induction width generalizing n with
  | zero => rfl
  | succ width ih => rw [toBytes, List.length_append, ih, List.length_singleton]

theorem ofBytes_toBytes (width n : Nat) : ofBytes (toBytes width n) = n % 256 ^ width := by
  induction width generalizing n with
  | zero =>
    rw [Nat.pow_zero, Nat.mod_one]
    rfl
  | succ width ih =>
    have split : ofBytes (toBytes width (n / 256) ++ [Fin.ofNat 256 n]) =
        ofBytes (toBytes width (n / 256)) * 256 + n % 256 := by
      simp only [ofBytes, List.foldl_append, List.foldl_cons, List.foldl_nil, Fin.val_ofNat]
    rw [toBytes, split, ih, Nat.pow_succ', Nat.mod_mul]
    omega

end AutonolasRegistries.Library
