import Mathlib.Data.List.Induction
import AutonolasRegistries.Library.BigEndian

/-!
# Fixed-width fields of a byte string

A packed string is a row of big-endian fields. Encoding and decoding one field are
inverse to each other, and a word read across a field's border ends in that field.
-/
namespace AutonolasRegistries.Library

theorem ofBytes_snoc (bytes : List Byte) (byte : Byte) :
    ofBytes (bytes ++ [byte]) = ofBytes bytes * 256 + byte.val := by
  simp only [ofBytes, List.foldl_append, List.foldl_cons, List.foldl_nil]

theorem ofBytes_append (front field : List Byte) :
    ofBytes (front ++ field) = ofBytes front * 256 ^ field.length + ofBytes field := by
  induction field using List.reverseRecOn with
  | nil => simp [ofBytes]
  | append_singleton field byte ih =>
    rw [← List.append_assoc, ofBytes_snoc, ih, ofBytes_snoc, List.length_append,
      List.length_singleton, Nat.pow_succ, Nat.add_mul, Nat.mul_assoc, Nat.add_assoc]

theorem ofBytes_lt (bytes : List Byte) : ofBytes bytes < 256 ^ bytes.length := by
  induction bytes using List.reverseRecOn with
  | nil => simp [ofBytes]
  | append_singleton bytes byte ih =>
    rw [ofBytes_snoc, List.length_append, List.length_singleton, Nat.pow_succ]
    have small := byte.isLt
    omega

/-- The last bytes of a string are its value modulo their width. -/
theorem ofBytes_append_mod (front field : List Byte) :
    ofBytes (front ++ field) % 256 ^ field.length = ofBytes field := by
  rw [ofBytes_append, Nat.mul_comm, Nat.mul_add_mod, Nat.mod_eq_of_lt (ofBytes_lt field)]

theorem toBytes_ofBytes (bytes : List Byte) : toBytes bytes.length (ofBytes bytes) = bytes := by
  induction bytes using List.reverseRecOn with
  | nil => rfl
  | append_singleton bytes byte ih =>
    have small := byte.isLt
    have front : (ofBytes bytes * 256 + byte.val) / 256 = ofBytes bytes := by omega
    have last : Fin.ofNat 256 (ofBytes bytes * 256 + byte.val) = byte := by
      refine Fin.ext ?_
      rw [Fin.val_ofNat]
      omega
    rw [ofBytes_snoc, List.length_append, List.length_singleton, toBytes, front, last, ih]

theorem toBytes_injective {width n m : Nat} (nSmall : n < 256 ^ width) (mSmall : m < 256 ^ width)
    (same : toBytes width n = toBytes width m) : n = m := by
  have values := congrArg ofBytes same
  rwa [ofBytes_toBytes, ofBytes_toBytes, Nat.mod_eq_of_lt nSmall, Nat.mod_eq_of_lt mSmall]
    at values

/-- A field keeps what fits into it. -/
theorem toBytes_mod (width n : Nat) : toBytes width (n % 256 ^ width) = toBytes width n := by
  have again := toBytes_ofBytes (toBytes width n)
  rwa [length_toBytes, ofBytes_toBytes] at again

/-- A wide field is two narrow ones. -/
theorem toBytes_add (front width n : Nat) :
    toBytes (front + width) n = toBytes front (n / 256 ^ width) ++ toBytes width n := by
  induction width generalizing n with
  | zero => simp [toBytes]
  | succ width ih =>
    rw [← Nat.add_assoc, toBytes, ih, toBytes, Nat.div_div_eq_div_mul, Nat.pow_succ',
      List.append_assoc]

/-- The first field of a string and what follows it. -/
theorem field_append_rest {bytes : List Byte} {width : Nat} (long : width ≤ bytes.length) :
    toBytes width (ofBytes (bytes.take width)) ++ bytes.drop width = bytes := by
  have exactly : (bytes.take width).length = width := List.length_take_of_le long
  calc toBytes width (ofBytes (bytes.take width)) ++ bytes.drop width
      = toBytes (bytes.take width).length (ofBytes (bytes.take width)) ++ bytes.drop width := by
        rw [exactly]
    _ = bytes.take width ++ bytes.drop width := by rw [toBytes_ofBytes]
    _ = bytes := List.take_append_drop width bytes

/-- A word read from a string: its low bytes are the field that ends where the word
ends, whatever stands in front of that field. -/
theorem window_mod {bytes : List Byte} {start word width : Nat} (narrow : width ≤ word)
    (long : start + word ≤ bytes.length) :
    ofBytes ((bytes.drop start).take word) % 256 ^ width =
      ofBytes ((bytes.drop (start + (word - width))).take width) := by
  have split : (bytes.drop start).take word =
      (bytes.drop start).take (word - width) ++
        (bytes.drop (start + (word - width))).take width := by
    have whole : word = (word - width) + width := by omega
    conv_lhs => rw [whole, List.take_add, List.drop_drop]
  have exactly : ((bytes.drop (start + (word - width))).take width).length = width := by
    rw [List.length_take, List.length_drop]
    omega
  have low := ofBytes_append_mod ((bytes.drop start).take (word - width))
    ((bytes.drop (start + (word - width))).take width)
  rw [exactly] at low
  rw [split, low]

end AutonolasRegistries.Library
