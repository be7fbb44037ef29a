import AutonolasRegistries.Source.GnosisSafeMultisig

/-!
# The packed data of a Safe

The parser of the creation data against the packing of its seven values: what is packed
is read back exactly, what is read packs to the data, and nothing but a length between
one and 143 is refused.
-/
namespace AutonolasRegistries.Guarantees
open Library Source GnosisSafeMultisig

section Payload
variable {data : List Byte}

/-- One iteration puts the next byte in front of the zeros that are left. -/
theorem copyByte_extends {i : Nat} (fits : data.length < 2 ^ 256)
    (inside : i < (data.drop 144).length) :
    copyByte data i ((data.drop 144).take i ++ List.replicate ((data.drop 144).length - i) 0) =
      .ok ((data.drop 144).take (i + 1) ++
        List.replicate ((data.drop 144).length - (i + 1)) 0) := by
  have bound : i + 144 < data.length := by
    rw [List.length_drop] at inside
    omega
  have taken : ((data.drop 144).take i).length = i := List.length_take_of_le (by omega)
  have source : data[i + 144]? = some ((data.drop 144)[i]) := by
    rw [List.getElem_drop, List.getElem?_eq_getElem bound]
    simp only [Nat.add_comm]
  have zeros : List.replicate ((data.drop 144).length - i) (0 : Byte) =
      0 :: List.replicate ((data.drop 144).length - (i + 1)) 0 := by
    rw [← List.replicate_succ]
    congr 1
    omega
  simp only [copyByte, bind_eq_ok, checkedAdd_eq_ok, readAt_eq_ok, writeAt_eq_ok, defaultDataLength]
  refine ⟨i + 144, ⟨by omega, rfl⟩, _, source, ?_, ?_⟩
  · rw [List.length_append, taken, List.length_replicate]
    omega
  · rw [zeros, List.set_append_right _ _ (by omega), taken, Nat.sub_self, List.set_cons_zero,
      ← List.take_append_getElem inside, List.append_assoc, List.singleton_append]

theorem copyPayload_eq (fits : data.length < 2 ^ 256) (long : 144 ≤ data.length) :
    copyPayload data = .ok (data.drop 144) := by
  by_cases more : 144 < data.length
  · have start : List.replicate (data.drop 144).length (0 : Byte) =
        (data.drop 144).take 0 ++ List.replicate ((data.drop 144).length - 0) 0 := by simp
    obtain ⟨payload, run, copied⟩ := loop_range
      (fun i payload => payload = (data.drop 144).take i ++
        List.replicate ((data.drop 144).length - i) (0 : Byte))
      (fun i inside payload before => ⟨_, before ▸ copyByte_extends fits inside, rfl⟩) start
    rw [List.take_length, Nat.sub_self, List.replicate_zero, List.append_nil] at copied
    rw [List.length_drop, copied] at run
    rw [copyPayload, defaultDataLength, if_pos more]
    exact bind_eq_ok.mpr ⟨_, checkedSub_eq_ok.mpr ⟨long, rfl⟩, run⟩
  · have nothing : data.drop 144 = [] := List.drop_of_length_le (by omega)
    rw [copyPayload, defaultDataLength, if_neg more, nothing]

end Payload

section Loads
variable {data : ByteArrayValue}

theorem memory_length : data.memory.length = 32 + data.val.length := by
  rw [ByteArrayValue.memory, List.length_append, length_toBytes]

/-- Behind the length word lie the bytes. -/
theorem memory_drop (k : Nat) : data.memory.drop (32 + k) = data.val.drop k := by
  rw [ByteArrayValue.memory, ← List.drop_drop, List.drop_left' (length_toBytes 32 _)]

theorem address_loaded {k : Nat} (long : k + 20 ≤ data.val.length) :
    (wordAddress (mload data.memory (20 + k))).val = ofBytes ((data.val.drop k).take 20) := by
  have window := @window_mod data.memory (20 + k) 32 20 (by omega) (by rw [memory_length]; omega)
  have moved : 20 + k + (32 - 20) = 32 + k := by omega
  rw [moved, memory_drop] at window
  have width : 2 ^ 160 = 256 ^ 20 := by decide
  rw [← window, wordAddress, Fin.val_ofNat, mload, Fin.val_ofNat,
    Nat.mod_mod_of_dvd _ (Nat.pow_dvd_pow 2 (by decide)), width]

theorem word_loaded {k : Nat} (long : k + 32 ≤ data.val.length) :
    (mload data.memory (32 + k)).val = ofBytes ((data.val.drop k).take 32) := by
  have exactly : ((data.val.drop k).take 32).length = 32 := by
    rw [List.length_take, List.length_drop]
    omega
  have small := ofBytes_lt ((data.val.drop k).take 32)
  rw [exactly] at small
  rw [mload, memory_drop, Fin.val_ofNat]
  exact Nat.mod_eq_of_lt small

/-- What the parser returns on data that is long enough. -/
theorem parseData_long (long : 144 ≤ data.val.length) :
    parseData data = .ok
      { toAccount := wordAddress (mload data.memory 20)
        fallbackHandler := wordAddress (mload data.memory 40)
        paymentToken := wordAddress (mload data.memory 60)
        paymentReceiver := wordAddress (mload data.memory 80)
        payment := mload data.memory 112
        nonce := mload data.memory 144
        payload := data.val.drop 144 } := by
  have payload := copyPayload_eq data.property long
  have enough : ¬ data.val.length < defaultDataLength := Nat.not_lt.mpr long
  simp only [parseData, if_pos (show 0 < data.val.length by omega), bind_eq_ok, revertIf_eq_ok,
    exists_const, pure_eq_ok]
  exact ⟨enough, _, payload, rfl⟩

theorem parseData_short (some : 0 < data.val.length) (short : data.val.length < 144) :
    parseData data = .error (.incorrectDataLength 144 data.val.length) := by
  have refused : data.val.length < defaultDataLength := short
  simp only [parseData, if_pos some, revertIf, if_pos refused]
  rfl

theorem parseData_empty (empty : data.val = []) : parseData data = .ok SafeData.zero := by
  simp only [parseData, empty, List.length_nil, if_neg (Nat.lt_irrefl 0)]

/-- Data that was accepted and is not empty has its full length. -/
theorem parseData_accepted {values : SafeData} (nonempty : data.val ≠ [])
    (accepted : parseData data = .ok values) : 144 ≤ data.val.length := by
  have some : 0 < data.val.length := List.length_pos_of_ne_nil nonempty
  refine Nat.le_of_not_lt fun short => ?_
  rw [parseData_short some short] at accepted
  cases accepted

/-- What is read packs to the data it was read from. -/
theorem parseData_packs {values : SafeData} (nonempty : data.val ≠ [])
    (accepted : parseData data = .ok values) : values.packed = data.val := by
  have long := parseData_accepted nonempty accepted
  rw [parseData_long long] at accepted
  have first := @address_loaded data 0 (by omega)
  have second := @address_loaded data 20 (by omega)
  have third := @address_loaded data 40 (by omega)
  have fourth := @address_loaded data 60 (by omega)
  have fifth := @word_loaded data 80 (by omega)
  have sixth := @word_loaded data 112 (by omega)
  have rest : ∀ k width, k + width ≤ data.val.length →
      toBytes width (ofBytes ((data.val.drop k).take width)) ++ data.val.drop (k + width) =
        data.val.drop k := by
    intro k width bound
    rw [← List.drop_drop]
    exact field_append_rest (by rw [List.length_drop]; omega)
  rw [← Except.ok.inj accepted]
  simp only [SafeData.packed, first, second, third, fourth, fifth, sixth]
  rw [rest 112 32 (by omega), rest 80 32 (by omega), rest 60 20 (by omega), rest 40 20 (by omega),
    rest 20 20 (by omega), rest 0 20 (by omega), List.drop_zero]

end Loads

/-- Packing loses nothing: the first six fields have fixed widths. -/
theorem packed_injective : Function.Injective SafeData.packed := by
  intro values values' same
  have address : ∀ {a b : Address} {rest rest' : List Byte},
      toBytes 20 a.val ++ rest = toBytes 20 b.val ++ rest' → a = b ∧ rest = rest' := by
    intro a b rest rest' equal
    obtain ⟨field, rest⟩ := List.append_inj equal (by simp only [length_toBytes])
    exact ⟨Fin.ext (toBytes_injective a.isLt b.isLt field), rest⟩
  have word : ∀ {a b : Word} {rest rest' : List Byte},
      toBytes 32 a.val ++ rest = toBytes 32 b.val ++ rest' → a = b ∧ rest = rest' := by
    intro a b rest rest' equal
    obtain ⟨field, rest⟩ := List.append_inj equal (by simp only [length_toBytes])
    exact ⟨Fin.ext (toBytes_injective a.isLt b.isLt field), rest⟩
  obtain ⟨toAccount, same⟩ := address same
  obtain ⟨fallbackHandler, same⟩ := address same
  obtain ⟨paymentToken, same⟩ := address same
  obtain ⟨paymentReceiver, same⟩ := address same
  obtain ⟨payment, same⟩ := word same
  obtain ⟨nonce, payload⟩ := word same
  exact SafeData.ext toAccount fallbackHandler paymentToken paymentReceiver payment nonce payload

theorem packed_length (values : SafeData) : values.packed.length = 144 + values.payload.length := by
  simp only [SafeData.packed, List.length_append, length_toBytes]
  omega

/-- The packed values are read back. -/
theorem parseData_packed {values : SafeData} {data : ByteArrayValue}
    (packed : data.val = values.packed) : parseData data = .ok values := by
  have long : 144 ≤ data.val.length := by
    rw [packed, packed_length]
    omega
  have nonempty : data.val ≠ [] := List.ne_nil_of_length_pos (by omega)
  have parsed := parseData_long long
  have packs := parseData_packs nonempty parsed
  rw [parsed, packed_injective (packs.trans packed)]

/-- The call the factory gets for packed data has the packed values in it. -/
theorem create_packed {createProxyWithNonce : Address → List Byte → Word → Option Address}
    {gnosisSafe multisig : Address} {owners : List Address} {threshold : Word}
    {data : ByteArrayValue} {values : SafeData} (packed : data.val = values.packed) :
    create createProxyWithNonce gnosisSafe owners threshold data = .ok multisig ↔
      createProxyWithNonce gnosisSafe (safeParams owners threshold values) values.nonce =
        some multisig := by
  rw [create, parseData_packed packed, ok_bind]
  split <;> simp_all

/-- The creation data of a Safe makes the round trip: the packing of any seven values is
read back as these values, empty data as zeros; exactly the lengths from 1 to 143 are
refused; and accepted data that is not empty is the packing of what was read, so that no
two of them are read alike. -/
theorem creation_data_round_trip :
    (∀ (values : SafeData) (data : ByteArrayValue), data.val = values.packed →
      parseData data = .ok values) ∧
    (∀ data : ByteArrayValue, data.val = [] →
      parseData data = .ok ⟨0, 0, 0, 0, 0, 0, []⟩) ∧
    (∀ data : ByteArrayValue, (∃ reason, parseData data = .error reason) ↔
      1 ≤ data.val.length ∧ data.val.length ≤ 143) ∧
    (∀ data data' : ByteArrayValue, data.val ≠ [] → data'.val ≠ [] → ∀ values,
      parseData data = .ok values → parseData data' = .ok values → data = data') ∧
    (∀ data : ByteArrayValue, data.val ≠ [] → ∀ values, parseData data = .ok values →
      values.packed = data.val) := by
  refine ⟨fun _ _ => parseData_packed, fun _ => parseData_empty, fun data => ⟨?_, ?_⟩, ?_,
    fun _ nonempty _ => parseData_packs nonempty⟩
  · rintro ⟨reason, refused⟩
    have some : data.val ≠ [] := by
      intro empty
      rw [parseData_empty empty] at refused
      cases refused
    refine ⟨List.length_pos_of_ne_nil some, Nat.le_of_not_lt fun long => ?_⟩
    rw [parseData_long long] at refused
    cases refused
  · rintro ⟨some, short⟩
    exact ⟨_, parseData_short some (by omega)⟩
  · intro data data' nonempty nonempty' values accepted accepted'
    exact Subtype.ext ((parseData_packs nonempty accepted).symm.trans
      (parseData_packs nonempty' accepted'))

/-- Four addresses, a payment, a nonce and three bytes of payload. -/
def creationSample : SafeData := ⟨1, 1461501637330902918203684832716283019655932542975, 3, 0, 5,
  115792089237316195423570985008687907853269984665640564039457584007913129639935, [7, 0, 255]⟩

def creationBytes : ByteArrayValue := ⟨creationSample.packed, by decide +kernel⟩

theorem creation_data_round_trip_payload :
    creationBytes.val.length = 147 ∧ parseData creationBytes = .ok creationSample ∧
    creationSample.packed = creationBytes.val := by
  have parsed := creation_data_round_trip.1 creationSample creationBytes rfl
  have nonempty : creationBytes.val ≠ [] := by decide +kernel
  exact ⟨by decide +kernel, parsed,
    creation_data_round_trip.2.2.2.2 creationBytes nonempty creationSample parsed⟩

end AutonolasRegistries.Guarantees
