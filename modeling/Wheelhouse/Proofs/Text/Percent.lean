import Wheelhouse.Text.Percent

/-!
A text that has been percent encoded is read back, also between texts without percent signs. Apart from
the percent signs only plain characters stand in it.
-/

set_option autoImplicit false

namespace Wheelhouse.Text

theorem toList_eq (bytes : ByteArray) : bytes.toList = bytes.data.toList := by
  have loop (i : Nat) (r : List UInt8) :
      ByteArray.toList.loop bytes i r = r.reverse ++ bytes.data.toList.drop i := by
    fun_induction ByteArray.toList.loop bytes i r with
    | case1 i r inside ih =>
      have bound : i < bytes.data.toList.length := inside
      have here : bytes.get! i = bytes.data.toList[i] := getElem!_pos bytes.data i inside
      rw [ih, List.reverse_cons, List.append_assoc, List.singleton_append, List.drop_eq_getElem_cons bound, here]
    | case2 i r outside =>
      rw [List.drop_eq_nil_of_le (Nat.le_of_not_lt outside), List.append_nil]
  rw [ByteArray.toList, loop, List.reverse_nil, List.nil_append, List.drop_zero]

theorem charBytes_eq (c : Char) : charBytes c = String.utf8EncodeChar c := by
  rw [charBytes, encode, String.toUTF8_eq_toByteArray, String.toByteArray_singleton, List.utf8Encode_singleton,
    toList_eq, List.data_toByteArray]

theorem toList_encode (s : String) : (encode s).toList = s.toList.flatMap charBytes := by
  have each : charBytes = String.utf8EncodeChar := funext charBytes_eq
  rw [encode, String.toUTF8_eq_toByteArray, ← String.utf8Encode_toList, List.utf8Encode, toList_eq,
    List.data_toByteArray, each]

theorem charBytes_of_lt {c : Char} (low : c.toNat < 128) : charBytes c = [UInt8.ofNat c.toNat] := by
  have small : c.val.toNat ≤ 127 := by
    change c.toNat ≤ 127
    omega
  rw [charBytes_eq]
  exact if_pos small

theorem upperHexDigit_spec : ∀ n < 16,
    Number.digitValue? (upperHexDigit n) = some n ∧ isPlain (upperHexDigit n) = true := by
  decide

theorem percentBytes?_cons {c : Char} (other : c ≠ '%') (rest : List Char) :
    percentBytes? (c :: rest) = (percentBytes? rest).map fun bytes => charBytes c ++ bytes := by
  rw [percentBytes?]
  · exact fun _ _ _ same _ => other same
  · exact other

theorem percentBytes?_append {cs : List Char} (bare : '%' ∉ cs) (rest : List Char) :
    percentBytes? (cs ++ rest) = (percentBytes? rest).map fun bytes => cs.flatMap charBytes ++ bytes := by
  induction cs with
  | nil => simp
  | cons c cs ih =>
    have other : c ≠ '%' := fun same => bare (same ▸ List.mem_cons_self)
    rw [List.cons_append, percentBytes?_cons other, ih fun inside => bare (List.mem_cons_of_mem _ inside),
      Option.map_map, List.flatMap_cons]
    simp only [Function.comp_def, List.append_assoc]

theorem percentBytes?_encodeByte (b : UInt8) (rest : List Char) :
    percentBytes? (encodeByte b ++ rest) = (percentBytes? rest).map fun bytes => b :: bytes := by
  have bound : b.toNat < 256 := b.toNat_lt
  unfold encodeByte
  simp only
  split
  · rename_i plain
    simp only [Bool.and_eq_true, decide_eq_true_eq] at plain
    have number : (Char.ofNat b.toNat).toNat = b.toNat := by
      rw [Char.ofNat, dif_pos (.inl (by omega))]
      rfl
    have other : Char.ofNat b.toNat ≠ '%' := by
      intro same
      rw [same] at plain
      exact absurd plain.2 (by decide)
    rw [List.singleton_append, percentBytes?_cons other, charBytes_of_lt (by omega), number, UInt8.ofNat_toNat]
    rfl
  · have high := (upperHexDigit_spec (b.toNat / 16) (by omega)).1
    have low := (upperHexDigit_spec (b.toNat % 16) (by omega)).1
    have whole : UInt8.ofNat (b.toNat / 16 * 16 + b.toNat % 16) = b := by
      rw [Nat.div_add_mod', UInt8.ofNat_toNat]
    simp only [escapeByte, List.cons_append, List.nil_append, percentBytes?, high, low, whole]

theorem percentBytes?_flatMap_encodeByte (bytes : List UInt8) (rest : List Char) :
    percentBytes? (bytes.flatMap encodeByte ++ rest) = (percentBytes? rest).map fun more => bytes ++ more := by
  induction bytes with
  | nil => simp
  | cons b bytes ih =>
    rw [List.flatMap_cons, List.append_assoc, percentBytes?_encodeByte, ih, Option.map_map]
    rfl

theorem decode?_toList_encode (s : String) : decode? ⟨(encode s).toList.toArray⟩ = some s := by
  rw [toList_eq, Array.toArray_toList]
  exact fromUTF8?_encode s

-- A percent encoded text is read back, with what stands around it.
theorem percentDecode?_percentEncode (before s after : String) (bare : '%' ∉ before.toList)
    (bare' : '%' ∉ after.toList) :
    percentDecode? (before ++ percentEncode s ++ after) = some (before ++ s ++ after) := by
  have rear : percentBytes? after.toList = some (after.toList.flatMap charBytes) := by
    have whole := percentBytes?_append bare' []
    rw [List.append_nil] at whole
    rw [whole]
    simp [percentBytes?]
  rw [percentDecode?, String.toList_append, String.toList_append, List.append_assoc, percentBytes?_append bare,
    percentEncode, String.toList_ofList, percentBytes?_flatMap_encodeByte, rear, toList_encode]
  have bytes : before.toList.flatMap charBytes ++ (s.toList.flatMap charBytes ++ after.toList.flatMap charBytes) =
      (encode (before ++ s ++ after)).toList := by
    rw [toList_encode, String.toList_append, String.toList_append, List.flatMap_append, List.flatMap_append,
      List.append_assoc]
  rw [Option.map_some, Option.map_some, Option.bind_some, bytes, decode?_toList_encode]

theorem isPlain_of_mem_percentEncode {s : String} {c : Char} (inside : c ∈ (percentEncode s).toList)
    (other : c ≠ '%') : isPlain c = true := by
  rw [percentEncode, String.toList_ofList, List.mem_flatMap] at inside
  obtain ⟨b, _, inside⟩ := inside
  have bound : b.toNat < 256 := b.toNat_lt
  unfold encodeByte at inside
  simp only at inside
  split at inside
  · rename_i plain
    simp only [Bool.and_eq_true] at plain
    rw [List.mem_singleton.1 inside]
    exact plain.2
  · simp only [escapeByte, List.mem_cons, List.not_mem_nil, or_false] at inside
    rcases inside with rfl | rfl | rfl
    · exact absurd rfl other
    · exact (upperHexDigit_spec _ (by omega)).2
    · exact (upperHexDigit_spec _ (by omega)).2

theorem not_mem_percentEncode {c : Char} (odd : isPlain c = false) (other : c ≠ '%') (s : String) :
    c ∉ (percentEncode s).toList := by
  intro inside
  rw [isPlain_of_mem_percentEncode inside other] at odd
  cases odd

end Wheelhouse.Text
