import HttpService.Text.Utf8

/-!
# Text as bytes

The bytes of a text are read as this text. Those of a text in ASCII are its characters, one for one.
-/

namespace HttpService.Text

theorem ofUtf8?_utf8 (s : String) : ofUtf8? (utf8 s) = some s := by
  have bytes : (⟨s.toUTF8.data.toList.toArray⟩ : ByteArray) = s.toByteArray := rfl
  unfold ofUtf8? utf8 String.fromUTF8?
  simp only [bytes, s.isValidUTF8]
  rfl

theorem length_utf8 (s : String) : (utf8 s).length = s.utf8ByteSize :=
  s.size_toByteArray

/-! ## ASCII -/

theorem toNat_toUInt8 {c : Char} (ascii : c.toNat < 128) : c.toUInt8.toNat = c.toNat :=
  Nat.mod_eq_of_lt (Nat.lt_trans ascii (by decide))

theorem utf8Encode_ascii {cs : List Char} (ascii : ∀ c ∈ cs, c.toNat < 128) :
    cs.utf8Encode = (cs.map Char.toUInt8).toByteArray := by
  induction cs with
  | nil => rfl
  | cons c rest ih =>
      obtain ⟨first, later⟩ := List.forall_mem_cons.mp ascii
      have narrow : c.utf8Size = 1 := by
        rw [Char.utf8Size_eq_one_iff, UInt32.le_iff_toNat_le]
        exact Nat.le_of_lt_succ first
      rw [List.utf8Encode_cons, List.utf8Encode_singleton,
        String.utf8EncodeChar_eq_singleton narrow, ih later, ← List.toByteArray_append]
      rfl

theorem utf8_ascii {s : String} (ascii : ∀ c ∈ s.toList, c.toNat < 128) :
    utf8 s = s.toList.map Char.toUInt8 := by
  have bytes : s.toUTF8 = (s.toList.map Char.toUInt8).toByteArray := by
    rw [← utf8Encode_ascii ascii, ← String.toByteArray_ofList, String.ofList_toList]
    rfl
  rw [utf8, bytes, List.toList_data_toByteArray]

theorem markBroken_ascii (mark : List Char) {cs : List Char} (ascii : ∀ c ∈ cs, c.toNat < 128) :
    markBroken mark (cs.map Char.toUInt8) = cs := by
  induction cs with
  | nil => rw [List.map_nil, markBroken]
  | cons c rest ih =>
      obtain ⟨first, later⟩ := List.forall_mem_cons.mp ascii
      have byte := toNat_toUInt8 first
      have low : c.toUInt8 < 0x80 := UInt8.lt_iff_toNat_lt.mpr (byte.symm ▸ first)
      have lead : lead? c.toUInt8 = some { count := 0, bits := c.toNat } := by
        simp only [lead?, low, ↓reduceIte, byte]
      rw [List.map_cons, markBroken, lead]
      simp only [continueChar, Option.elim, Char.ofNat_toNat, ih later, List.cons_append,
        List.nil_append]

theorem lossyUtf8_ascii {s : String} (ascii : ∀ c ∈ s.toList, c.toNat < 128) :
    lossyUtf8 (s.toList.map Char.toUInt8) = s := by
  rw [lossyUtf8, markBroken_ascii _ ascii, String.ofList_toList]

end HttpService.Text
