import WikiSync.Text.Hex

/-!
# Texts and Their Bytes

The bytes of a text are those of its characters, one after the other, and the text is the
only one that they spell. A character of ASCII is one byte.

## Theorems

* `Text.utf8_append`, `Text.utf8_eq_flatMap`: The bytes of the parts of a text.
* `Text.ofUtf8?_utf8`: The text that they spell.
* `Text.utf8EncodeChar_ofNat`: The characters of ASCII.
-/

namespace WikiSync.Text

theorem utf8_append (s t : String) : utf8 (s ++ t) = utf8 s ++ utf8 t := by
  simp only [utf8, String.toUTF8_eq_toByteArray, String.toByteArray_append, ByteArray.data_append,
    Array.toList_append]

theorem ofUtf8?_utf8 (s : String) : ofUtf8? (utf8 s) = some s :=
  dif_pos s.isValidUTF8

theorem utf8_eq_flatMap (s : String) : utf8 s = s.toList.flatMap String.utf8EncodeChar := by
  have h := @String.toByteArray_ofList s.toList
  rw [String.ofList_toList] at h
  rw [utf8, String.toUTF8_eq_toByteArray, h, List.utf8Encode, List.data_toByteArray]

/-- Below the surrogates every number is that of a character. -/
theorem toNat_ofNat {n : Nat} (h : n < 0xD800) : (Char.ofNat n).toNat = n := by
  have hvalid : n.isValidChar := Or.inl h
  rw [Char.ofNat, dif_pos hvalid]
  rfl

/-- A character of ASCII is one byte. -/
theorem utf8EncodeChar_ofNat {n : Nat} (h : n < 128) :
    String.utf8EncodeChar (Char.ofNat n) = [UInt8.ofNat n] := by
  have hvalue : (Char.ofNat n).val.toNat = n := toNat_ofNat (by omega)
  have hsmall : n ≤ 127 := by omega
  simp only [String.utf8EncodeChar, hvalue, hsmall, if_true]

end WikiSync.Text
