import WikiSync.Proofs.Text.Utf8
import WikiSync.Web.Percent

/-!
# Reading Percent Encoding

What a percent-encoded text stands for. A reader goes from left to right and takes every
percent sign with two digits behind it for a byte. All other characters stand for
themselves, and the bytes have to spell a text.

A part of an address is made of unreserved characters and escapes only. None of the
characters that cut an address into parts is among them, and neither is the plus sign,
which some readers take for a blank. So a part stays whole wherever it is put, and it is
read the same by all readers.

## Main definitions

* `decode?`: What a text stands for.
* `Escaped`: Texts of unreserved characters and escapes.
* `Spells`: A part of an address with the text that it stands for.

## Theorems

* `Escaped.cases_of_mem`: The characters of such texts.
* `spells_encode`: An encoded text stands for the text.
* `Spells.unique`: A part stands for one text only.
-/

namespace WikiSync.Percent

/-- The bytes that a text stands for, with its escapes read. A percent sign that does not
start an escape stands for itself. -/
def decodeBytes : List Char → Bytes
  | '%' :: high :: low :: cs =>
    match Text.hexDigit? high, Text.hexDigit? low with
    | some h, some l => UInt8.ofNat (16 * h + l) :: decodeBytes cs
    | _, _ => 37 :: decodeBytes (high :: low :: cs)
  | c :: cs => String.utf8EncodeChar c ++ decodeBytes cs
  | [] => []

/-- The text that a percent-encoded one stands for, if the bytes spell a text. -/
def decode? (cs : List Char) : Option String :=
  Text.ofUtf8? (decodeBytes cs)

/-- The characters without a meaning of their own in an address. -/
def isUnreserved (c : Char) : Bool :=
  c.isAlphanum || c == '-' || c == '_' || c == '.' || c == '~'

/-- A text of unreserved characters and escapes. -/
inductive Escaped : List Char → Prop
  | nil : Escaped []
  | plain {c : Char} {cs : List Char} (hc : isUnreserved c = true) (hcs : Escaped cs) :
      Escaped (c :: cs)
  | escape {high low : Char} {cs : List Char} (hhigh : (Text.hexDigit? high).isSome)
      (hlow : (Text.hexDigit? low).isSome) (hcs : Escaped cs) : Escaped ('%' :: high :: low :: cs)

/-- A part of an address with the text that it stands for. -/
structure Spells (part : List Char) (text : String) : Prop where
  escaped : Escaped part
  decoded : decode? part = some text

/-- A part stands for one text only. -/
theorem Spells.unique {part : List Char} {s t : String} (hs : Spells part s)
    (ht : Spells part t) : s = t :=
  Option.some.inj (hs.decoded.symm.trans ht.decoded)

/-! ### Characters -/

theorem isAlphanum_iff {c : Char} : c.isAlphanum = true ↔
    (('A' ≤ c ∧ c ≤ 'Z') ∨ ('a' ≤ c ∧ c ≤ 'z')) ∨ ('0' ≤ c ∧ c ≤ '9') := by
  delta Char.isAlphanum Char.isAlpha Char.isUpper Char.isLower Char.isDigit
  simp only [Bool.or_eq_true, Bool.and_eq_true, decide_eq_true_eq]
  rfl

theorem lt_of_isUnreserved {c : Char} (h : isUnreserved c = true) : c.toNat < 128 := by
  unfold isUnreserved at h
  simp only [Bool.or_eq_true, beq_iff_eq] at h
  rcases h with (((h | rfl) | rfl) | rfl) | rfl
  · have hlast : c ≤ 'z' := by
      rcases isAlphanum_iff.1 h with (⟨-, hc⟩ | ⟨-, hc⟩) | ⟨-, hc⟩
      · exact Char.le_trans hc (by decide)
      · exact hc
      · exact Char.le_trans hc (by decide)
    exact Nat.lt_of_le_of_lt (UInt32.le_iff_toNat_le.1 hlast) (by decide)
  all_goals decide

theorem isUnreserved_of_hexDigit? {c : Char} (h : (Text.hexDigit? c).isSome) :
    isUnreserved c = true := by
  have halphanum : c.isAlphanum = true := by
    unfold Text.hexDigit? at h
    split at h
    · next hdigit => exact Bool.or_eq_true_iff.2 (Or.inr hdigit)
    · rw [isAlphanum_iff]
      split at h
      · next hlower =>
        rw [Bool.and_eq_true, decide_eq_true_eq, decide_eq_true_eq] at hlower
        exact Or.inl (Or.inr ⟨hlower.1, Char.le_trans hlower.2 (by decide)⟩)
      · split at h
        · next hupper =>
          rw [Bool.and_eq_true, decide_eq_true_eq, decide_eq_true_eq] at hupper
          exact Or.inl (Or.inl ⟨hupper.1, Char.le_trans hupper.2 (by decide)⟩)
        · cases h
  simp only [isUnreserved, halphanum, Bool.true_or]

/-- A percent sign is the only character of an escaped text that is reserved. -/
theorem Escaped.cases_of_mem {cs : List Char} (h : Escaped cs) {c : Char} (hc : c ∈ cs) :
    isUnreserved c = true ∨ c = '%' := by
  induction h with
  | nil => cases hc
  | plain hplain _ ih =>
    rcases List.mem_cons.1 hc with rfl | hc
    · exact Or.inl hplain
    · exact ih hc
  | escape hhigh hlow _ ih =>
    simp only [List.mem_cons] at hc
    rcases hc with rfl | rfl | rfl | hc
    · exact Or.inr rfl
    · exact Or.inl (isUnreserved_of_hexDigit? hhigh)
    · exact Or.inl (isUnreserved_of_hexDigit? hlow)
    · exact ih hc

/-- A reserved character other than the percent sign is not in an escaped text. -/
theorem Escaped.not_mem {cs : List Char} (h : Escaped cs) {c : Char}
    (hreserved : isUnreserved c = false) (hpercent : c ≠ '%') : c ∉ cs := by
  intro hc
  rcases h.cases_of_mem hc with hplain | heq
  · rw [hreserved] at hplain
    cases hplain
  · exact hpercent heq

/-! ### Encoded texts -/

theorem hexDigit?_upperDigit {n : Nat} (h : n < 16) : Text.hexDigit? (upperDigit n) = some n := by
  have hall : ∀ m : Fin 16, Text.hexDigit? (upperDigit m) = some m.val := by decide
  exact hall ⟨n, h⟩

theorem isPlain_eq (b : UInt8) : isPlain b = isUnreserved (Char.ofNat b.toNat) := rfl

theorem decodeBytes_cons {c : Char} (h : c ≠ '%') (cs : List Char) :
    decodeBytes (c :: cs) = String.utf8EncodeChar c ++ decodeBytes cs := by
  rw [decodeBytes]
  exact fun _ _ _ heq => absurd heq h

/-- The written form of a byte stands for the byte, whatever follows it. -/
theorem decodeBytes_encodeByte (b : UInt8) (cs : List Char) :
    decodeBytes (encodeByte b ++ cs) = b :: decodeBytes cs := by
  unfold encodeByte
  split
  · next hplain =>
    rw [isPlain_eq] at hplain
    have hlt : b.toNat < 128 := by
      have hbyte := b.toNat_lt
      have hchar := lt_of_isUnreserved hplain
      rwa [Text.toNat_ofNat (by omega)] at hchar
    have hpercent : Char.ofNat b.toNat ≠ '%' := by
      intro heq
      rw [heq] at hplain
      exact absurd hplain (by decide)
    rw [List.singleton_append, decodeBytes_cons hpercent, Text.utf8EncodeChar_ofNat hlt,
      UInt8.ofNat_toNat, List.singleton_append]
  · have hlt := b.toNat_lt
    have hhigh : b.toNat / 16 < 16 := by omega
    have hlow : b.toNat % 16 < 16 := by omega
    simp only [List.cons_append, List.nil_append, decodeBytes, hexDigit?_upperDigit hhigh,
      hexDigit?_upperDigit hlow, Nat.div_add_mod, UInt8.ofNat_toNat]

theorem escaped_encodeByte (b : UInt8) {cs : List Char} (h : Escaped cs) :
    Escaped (encodeByte b ++ cs) := by
  unfold encodeByte
  split
  · next hplain => exact .plain hplain h
  · have hlt := b.toNat_lt
    refine .escape ?_ ?_ h
    · rw [hexDigit?_upperDigit (by omega)]
      rfl
    · rw [hexDigit?_upperDigit (by omega)]
      rfl

/-- An encoded text stands for the text. -/
theorem spells_encode (s : String) : Spells (encode s).toList s := by
  have hbytes (bytes : Bytes) : Escaped (bytes.flatMap encodeByte) ∧
      decodeBytes (bytes.flatMap encodeByte) = bytes := by
    induction bytes with
    | nil => exact ⟨.nil, rfl⟩
    | cons b bytes ih =>
      rw [List.flatMap_cons, decodeBytes_encodeByte, ih.2]
      exact ⟨escaped_encodeByte b ih.1, rfl⟩
  rcases hbytes (Text.utf8 s) with ⟨hescaped, hdecoded⟩
  rw [encode, String.toList_ofList]
  exact ⟨hescaped, by rw [decode?, hdecoded, Text.ofUtf8?_utf8]⟩

end WikiSync.Percent
