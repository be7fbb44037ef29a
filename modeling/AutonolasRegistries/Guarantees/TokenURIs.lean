import AutonolasRegistries.Source.GenericRegistry

/-!
# Token URIs

The suffix of a token URI is the unit hash in lowercase base 16: the five stages put
each nibble into a byte of its own, and the sums turn each byte into its digit without
a carry between bytes.
-/
namespace AutonolasRegistries.Guarantees
open Library Source GenericRegistry

/-- The lowercase digit of a nibble. -/
def hexDigit (nibble : Nat) : Byte := (textBytes "0123456789abcdef").getD nibble 0

/-- A byte string as base-16 text, the high nibble first. -/
def hexText (bytes : List Byte) : List Byte :=
  bytes.flatMap fun byte => [hexDigit (byte.val / 16), hexDigit (byte.val % 16)]

/-- The value of a lowercase digit. -/
def hexValue (digit : Byte) : Option Nat :=
  if 48 ≤ digit.val ∧ digit.val ≤ 57 then some (digit.val - 48)
  else if 97 ≤ digit.val ∧ digit.val ≤ 102 then some (digit.val - 87)
  else none

def decodeHex : List Byte → Option (List Byte)
  | [] => some []
  | [_] => none
  | high :: low :: rest => do
    let upper ← hexValue high
    let lower ← hexValue low
    let bytes ← decodeHex rest
    return Fin.ofNat 256 (16 * upper + lower) :: bytes

section Text

theorem hexValue_hexDigit {nibble : Nat} (small : nibble < 16) :
    hexValue (hexDigit nibble) = some nibble := by
  have every : ∀ n : Fin 16, hexValue (hexDigit n.val) = some n.val := by decide
  exact every ⟨nibble, small⟩

theorem decodeHex_hexText (bytes : List Byte) : decodeHex (hexText bytes) = some bytes := by
  induction bytes with
  | nil => rfl
  | cons byte rest ih =>
    have small := byte.isLt
    have whole : Fin.ofNat 256 (16 * (byte.val / 16) + byte.val % 16) = byte := by
      refine Fin.ext ?_
      rw [Fin.val_ofNat]
      omega
    change decodeHex (hexDigit (byte.val / 16) :: hexDigit (byte.val % 16) :: hexText rest) = _
    rw [decodeHex, hexValue_hexDigit (by omega), hexValue_hexDigit (by omega), ih]
    simp only [Option.bind_eq_bind, Option.bind_some, whole]
    rfl

theorem hexText_append (front back : List Byte) :
    hexText (front ++ back) = hexText front ++ hexText back := List.flatMap_append

theorem hexText_length (bytes : List Byte) : (hexText bytes).length = 2 * bytes.length := by
  induction bytes with
  | nil => rfl
  | cons byte rest ih =>
    change (hexDigit _ :: hexDigit _ :: hexText rest).length = _
    simp only [List.length_cons, ih]
    omega

/-- Where the two digits of a byte stand. -/
theorem hexText_digits {bytes : List Byte} {k : Nat} {byte : Byte} (at_k : bytes[k]? = some byte) :
    (hexText bytes)[2 * k]? = some (hexDigit (byte.val / 16)) ∧
      (hexText bytes)[2 * k + 1]? = some (hexDigit (byte.val % 16)) := by
  induction bytes generalizing k with
  | nil => cases at_k
  | cons first rest ih =>
    change (hexDigit (first.val / 16) :: hexDigit (first.val % 16) :: hexText rest)[2 * k]? = _ ∧
      (hexDigit (first.val / 16) :: hexDigit (first.val % 16) :: hexText rest)[2 * k + 1]? = _
    cases k with
    | zero =>
      cases at_k
      exact ⟨rfl, rfl⟩
    | succ k => exact ih at_k

/-- The text of a number is the row of the digits of its nibbles. -/
theorem hexText_nibbles (width n : Nat) :
    hexText (toBytes width n) = (nibbles (2 * width) n).map fun nibble => hexDigit nibble.val := by
  rw [nibbles_toBytes, List.map_flatMap, hexText]
  refine List.flatMap_congr fun byte _ => ?_
  have small := byte.isLt
  simp only [List.map_cons, List.map_nil, Fin.val_ofNat,
    Nat.mod_eq_of_lt (show byte.val / 16 < 256 by omega),
    Nat.mod_eq_of_lt (show byte.val % 16 < 256 by omega)]

end Text

section Network

theorem blockMask_of_bits {size width first last mask : Nat} (bound : mask < 2 ^ size)
    (bits : ∀ j : Fin size, mask.testBit j.val =
      decide (first * width ≤ j.val % (4 * width) ∧ j.val % (4 * width) < last * width)) :
    BlockMask size width first last mask := by
  intro j
  by_cases inside : j < size
  · rw [bits ⟨j, inside⟩]
    exact decide_eq_decide.mpr (by simp only [inside, true_and])
  · have outside : ¬ (j < size ∧ first * width ≤ j % (4 * width) ∧
        j % (4 * width) < last * width) := fun h => inside h.1
    rw [decide_eq_false outside]
    exact Nat.testBit_lt_two_pow (Nat.lt_of_lt_of_le bound
      (Nat.pow_le_pow_right (by decide) (Nat.le_of_not_lt inside)))

/-- A half word in the upper half of the word. -/
theorem bytes32_spread (data : Bytes16) : Spread 256 128 data.val (bytes32 data) := by
  intro j
  obtain ⟨value, bound⟩ := data
  change (value <<< 128).testBit j = _
  rw [Nat.testBit_shiftLeft]
  by_cases inside : j < 256
  · by_cases upper : 128 ≤ j
    · have bit : 128 * (j / (2 * 128)) + (j % (2 * 128) - 128) = j - 128 := by omega
      have place : j < 256 ∧ 128 ≤ j % (2 * 128) := by omega
      rw [bit, decide_eq_true place, decide_eq_true upper]
    · have lower : ¬ (j < 256 ∧ 128 ≤ j % (2 * 128)) := by omega
      rw [decide_eq_false lower, decide_eq_false upper, Bool.false_and, Bool.false_and]
  · have small : value < 2 ^ (j - 128) :=
      Nat.lt_of_lt_of_le bound (Nat.pow_le_pow_right (by decide) (by omega))
    have outside : ¬ (j < 256 ∧ 128 ≤ j % (2 * 128)) := by omega
    rw [decide_eq_false outside, Nat.testBit_lt_two_pow small, Bool.and_false, Bool.false_and]

/-- The stages put the nibbles of the half word into the bytes of the word. -/
theorem spreadNibbles_eq (data : Bytes16) :
    spreadNibbles (bytes32 data) = ofBytes (nibbles 32 data.val) := by
  have halves := (bytes32_spread data).halve (by decide) (by decide)
    (@blockMask_of_bits 256 64 3 4
      0xFFFFFFFFFFFFFFFF000000000000000000000000000000000000000000000000 (by decide)
      (by decide +kernel))
    (@blockMask_of_bits 256 64 2 3
      0x0000000000000000FFFFFFFFFFFFFFFF00000000000000000000000000000000 (by decide)
      (by decide +kernel))
  have quarters := Spread.halve (by decide) (by decide)
    (@blockMask_of_bits 256 32 3 4
      0xFFFFFFFF000000000000000000000000FFFFFFFF000000000000000000000000 (by decide)
      (by decide +kernel))
    (@blockMask_of_bits 256 32 2 3
      0x00000000FFFFFFFF000000000000000000000000FFFFFFFF0000000000000000 (by decide)
      (by decide +kernel)) halves
  have eighths := Spread.halve (by decide) (by decide)
    (@blockMask_of_bits 256 16 3 4
      0xFFFF000000000000FFFF000000000000FFFF000000000000FFFF000000000000 (by decide)
      (by decide +kernel))
    (@blockMask_of_bits 256 16 2 3
      0x0000FFFF000000000000FFFF000000000000FFFF000000000000FFFF00000000 (by decide)
      (by decide +kernel)) quarters
  have bytes := Spread.halve (by decide) (by decide)
    (@blockMask_of_bits 256 8 3 4
      0xFF000000FF000000FF000000FF000000FF000000FF000000FF000000FF000000 (by decide)
      (by decide +kernel))
    (@blockMask_of_bits 256 8 2 3
      0x00FF000000FF000000FF000000FF000000FF000000FF000000FF000000FF0000 (by decide)
      (by decide +kernel)) eighths
  exact @Spread.lanes 16 _ _ _ _
    (@blockMask_of_bits 256 4 3 4
      0xF000F000F000F000F000F000F000F000F000F000F000F000F000F000F000F000 (by decide)
      (by decide +kernel))
    (@blockMask_of_bits 256 4 2 3
      0x0F000F000F000F000F000F000F000F000F000F000F000F000F000F000F000F00 (by decide)
      (by decide +kernel)) bytes

end Network

section Digits

theorem lanes_fit {bytes : List Byte} (full : bytes.length = 32) : ofBytes bytes < 2 ^ 256 := by
  have bound := ofBytes_lt bytes
  rw [full] at bound
  exact bound

/-- A byte for each nibble; the value is that of the sum as long as it fits a byte. -/
theorem laneByte_val {n : Nat} (small : n < 256) : (Fin.ofNat 256 n).val = n := by
  rw [Fin.val_ofNat]
  exact Nat.mod_eq_of_lt small

/-- The carry trick: a nibble from ten on gets past sixteen with six added, and the
letters begin 39 behind the digit nine. -/
theorem hexDigit_eq {nibble : Nat} (small : nibble < 16) :
    48 + nibble + (nibble + 6) / 16 * 39 = (hexDigit nibble).val := by
  have every : ∀ n : Fin 16, 48 + n.val + (n.val + 6) / 16 * 39 = (hexDigit n.val).val := by
    decide
  exact every ⟨nibble, small⟩

/-- No sum or product overflows, and the result is the row of the digits. -/
theorem toHex16_eq (data : Bytes16) :
    toHex16 data = .ok (ofBytes ((nibbles 32 data.val).map fun nibble => hexDigit nibble.val)) := by
  have full : (nibbles 32 data.val).length = 32 := length_nibbles 32 data.val
  have small := @nibbles_lt 32 data.val
  have spread := spreadNibbles_eq data
  rw [← List.map_id (nibbles 32 data.val)] at spread
  generalize nibbles 32 data.val = row at full small spread ⊢
  have constant : ∀ byte : Byte, ofBytes (List.replicate 32 byte) =
      ofBytes (row.map fun _ => byte) := by
    intro byte
    rw [List.map_const', full]
  have fits : ∀ f : Byte → Byte, ofBytes (row.map f) < 2 ^ 256 := by
    intro f
    exact lanes_fit (by rw [List.length_map, full])
  have zeros := @lanes_add _ row (fun _ => 48) id (fun nibble => Fin.ofNat 256 (48 + nibble.val))
    fun nibble member => by
      have bound := small nibble member
      exact (@laneByte_val (48 + nibble.val) (by omega)).symm
  have carries := @lanes_add _ row id (fun _ => 6) (fun nibble => Fin.ofNat 256 (nibble.val + 6))
    fun nibble member => by
      have bound := small nibble member
      exact (@laneByte_val (nibble.val + 6) (by omega)).symm
  have letters := @lanes_high _ row (fun nibble => Fin.ofNat 256 (nibble.val + 6))
    (fun nibble => Fin.ofNat 256 ((nibble.val + 6) / 16)) fun nibble member => by
      have bound := small nibble member
      rw [laneByte_val (by omega), laneByte_val (by omega)]
  have gap := @lanes_mul _ row (fun nibble => Fin.ofNat 256 ((nibble.val + 6) / 16))
    (fun nibble => Fin.ofNat 256 ((nibble.val + 6) / 16 * 39)) 39 fun nibble member => by
      have bound := small nibble member
      rw [laneByte_val (by omega), laneByte_val (by omega)]
  have digits := @lanes_add _ row (fun nibble => Fin.ofNat 256 (48 + nibble.val))
    (fun nibble => Fin.ofNat 256 ((nibble.val + 6) / 16 * 39)) (fun nibble => hexDigit nibble.val)
    fun nibble member => by
      have bound := small nibble member
      rw [laneByte_val (by omega), laneByte_val (by omega), hexDigit_eq bound]
  rw [← constant 48] at zeros
  rw [← constant 6] at carries
  rw [← constant 15] at letters
  have ascii : ofBytes (List.replicate 32 48) =
      0x3030303030303030303030303030303030303030303030303030303030303030 := by decide +kernel
  have sixes : ofBytes (List.replicate 32 6) =
      0x0606060606060606060606060606060606060606060606060606060606060606 := by decide +kernel
  have mask : ofBytes (List.replicate 32 15) =
      0x0F0F0F0F0F0F0F0F0F0F0F0F0F0F0F0F0F0F0F0F0F0F0F0F0F0F0F0F0F0F0F0F := by decide +kernel
  rw [ascii] at zeros
  rw [sixes] at carries
  rw [mask] at letters
  simp only [toHex16, spread, bind_eq_ok, checkedAdd_eq_ok, checkedMul_eq_ok]
  exact ⟨_, ⟨zeros ▸ fits _, zeros⟩, _, ⟨carries ▸ fits _, carries⟩, _,
    ⟨by rw [letters, gap]; exact fits _, by rw [letters, gap]⟩, digits ▸ fits _, digits⟩

end Digits

section URI

/-- A half of the hash as text. -/
theorem toHex16_text (data : Bytes16) :
    ∃ result, toHex16 data = .ok result ∧ toBytes 32 result = hexText (toBytes 16 data.val) := by
  have row := hexText_nibbles 16 data.val
  have full : ((nibbles 32 data.val).map fun nibble => hexDigit nibble.val).length = 32 := by
    rw [List.length_map, length_nibbles]
  refine ⟨_, toHex16_eq data, ?_⟩
  rw [row]
  have back := toBytes_ofBytes ((nibbles 32 data.val).map fun nibble => hexDigit nibble.val)
  rw [full] at back
  exact back

theorem bytes16_val (h : Bytes32) : (bytes16 h).val = h.val / 256 ^ 16 := by
  have bound := h.isLt
  have powers : 2 ^ 128 = 256 ^ 16 := by decide
  rw [bytes16, Fin.val_ofNat, Nat.shiftRight_eq_div_pow, Nat.mod_eq_of_lt (by omega), powers]

theorem bytes16_shiftLeft_val (h : Bytes32) :
    (bytes16 (shiftLeft128 h)).val = h.val % 256 ^ 16 := by
  rw [bytes16_val, shiftLeft128, Fin.val_ofNat, Nat.shiftLeft_eq]
  omega

/-- The two halves together are the text of the hash. -/
theorem toHex16_halves (h : Bytes32) :
    ∃ left right, toHex16 (bytes16 h) = .ok left ∧
      toHex16 (bytes16 (shiftLeft128 h)) = .ok right ∧
      toBytes 32 left ++ toBytes 32 right = hexText (toBytes 32 h.val) := by
  obtain ⟨left, ran, text⟩ := toHex16_text (bytes16 h)
  obtain ⟨right, ran', text'⟩ := toHex16_text (bytes16 (shiftLeft128 h))
  rw [bytes16_val] at text
  rw [bytes16_shiftLeft_val, toBytes_mod] at text'
  have halves := toBytes_add 16 16 h.val
  exact ⟨left, right, ran, ran', by rw [text, text', ← hexText_append, ← halves]⟩

theorem tokenURI_eq (baseURI : List Byte) (h : Bytes32) :
    tokenURI baseURI h = .ok (baseURI ++ cidPrefix ++ hexText (toBytes 32 h.val)) := by
  obtain ⟨left, right, ran, ran', text⟩ := toHex16_halves h
  simp only [tokenURI, ran, ran', ok_bind, List.append_assoc, text]
  rfl

theorem hash_decoded (h : Bytes32) :
    (decodeHex (hexText (toBytes 32 h.val))).map ofBytes = some h.val := by
  rw [decodeHex_hexText, Option.map_some, ofBytes_toBytes]
  exact congrArg some (Nat.mod_eq_of_lt h.isLt)

/-- The last 64 characters of a URI are the text of the hash, whatever the base URI. -/
theorem uri_suffix (baseURI : List Byte) (h : Bytes32) :
    (baseURI ++ cidPrefix ++ hexText (toBytes 32 h.val)).drop
      ((baseURI ++ cidPrefix ++ hexText (toBytes 32 h.val)).length - 64) =
        hexText (toBytes 32 h.val) := by
  have long : (hexText (toBytes 32 h.val)).length = 64 := by rw [hexText_length, length_toBytes]
  rw [List.length_append, long, Nat.add_sub_cancel, List.drop_left]

/-- The hex encoding of a token URI is exact. Encoding never overflows; the two halves of
a hash give 64 characters, two lowercase digits for each byte with the high nibble first;
the characters behind the CID prefix decode to the stored hash, for units and services;
and URIs of different hashes differ, also under different base URIs. -/
theorem token_uri_exact :
    (∀ data : Bytes16, ∃ result, toHex16 data = .ok result) ∧
    (∀ h : Bytes32, ∃ left right text, toHex16 (bytes16 h) = .ok left ∧
      toHex16 (bytes16 (shiftLeft128 h)) = .ok right ∧
      text = toBytes 32 left ++ toBytes 32 right ∧ text.length = 64 ∧
      ∀ k byte, (toBytes 32 h.val)[k]? = some byte →
        text[2 * k]? = some (hexDigit (byte.val / 16)) ∧
        text[2 * k + 1]? = some (hexDigit (byte.val % 16))) ∧
    (∀ baseURI unitId (s : UnitState), ∃ uri, UnitRegistry.tokenURI baseURI unitId s = .ok uri ∧
      uri.take (baseURI.length + 9) = baseURI ++ cidPrefix ∧
      (decodeHex (uri.drop (baseURI.length + 9))).map ofBytes =
        some (s.mapUnits unitId).unitHash.val) ∧
    (∀ baseURI serviceId (s : RegistryState), ∃ uri,
      ServiceRegistry.tokenURI baseURI serviceId s = .ok uri ∧
      uri.take (baseURI.length + 9) = baseURI ++ cidPrefix ∧
      (decodeHex (uri.drop (baseURI.length + 9))).map ofBytes =
        some (s.mapServices serviceId).configHash.val) ∧
    (∀ baseURI baseURI' (h h' : Bytes32), h ≠ h' → tokenURI baseURI h ≠ tokenURI baseURI' h') := by
  have stored : ∀ baseURI (h : Bytes32), ∃ uri, tokenURI baseURI h = .ok uri ∧
      uri.take (baseURI.length + 9) = baseURI ++ cidPrefix ∧
      (decodeHex (uri.drop (baseURI.length + 9))).map ofBytes = some h.val := by
    intro baseURI h
    have front : (baseURI ++ cidPrefix).length = baseURI.length + 9 := List.length_append
    refine ⟨_, tokenURI_eq baseURI h, List.take_left' front, ?_⟩
    rw [List.drop_left' front, hash_decoded]
  refine ⟨fun data => ⟨_, toHex16_eq data⟩, fun h => ?_, fun baseURI unitId s => stored _ _,
    fun baseURI serviceId s => stored _ _, ?_⟩
  · obtain ⟨left, right, ran, ran', text⟩ := toHex16_halves h
    refine ⟨left, right, _, ran, ran', rfl, ?_, fun k byte at_k => ?_⟩
    · rw [text, hexText_length, length_toBytes]
    · rw [text]
      exact hexText_digits at_k
  · intro baseURI baseURI' h h' different same
    rw [tokenURI_eq, tokenURI_eq] at same
    have texts := congrArg (fun uri : List Byte => uri.drop (uri.length - 64)) (Except.ok.inj same)
    simp only [uri_suffix] at texts
    have values := hash_decoded h
    rw [texts, hash_decoded] at values
    exact different (Fin.ext (Option.some.inj values).symm)

/-- The first byte of this hash is `0x9a`, and the URI of its neighbour is another one. -/
theorem token_uri_exact_digits :
    (toBytes 32 (0x9a * 256 ^ 31))[0]? = some 0x9a ∧
    (∃ left right text, toHex16 (bytes16 (Fin.ofNat _ (0x9a * 256 ^ 31))) = .ok left ∧
      toHex16 (bytes16 (shiftLeft128 (Fin.ofNat _ (0x9a * 256 ^ 31)))) = .ok right ∧
      text = toBytes 32 left ++ toBytes 32 right ∧
      text[0]? = some 57 ∧ text[1]? = some 97) ∧
    tokenURI [] (Fin.ofNat _ (0x9a * 256 ^ 31)) ≠ tokenURI [] 0 := by
  have first : (toBytes 32 (0x9a * 256 ^ 31))[0]? = some 0x9a := by decide +kernel
  obtain ⟨left, right, text, ran, ran', whole, -, digits⟩ :=
    token_uri_exact.2.1 (Fin.ofNat _ (0x9a * 256 ^ 31))
  obtain ⟨high, low⟩ := digits 0 0x9a first
  exact ⟨first, ⟨left, right, text, ran, ran', whole, high, low⟩,
    token_uri_exact.2.2.2.2 [] [] _ _ (by decide +kernel)⟩

end URI

end AutonolasRegistries.Guarantees
