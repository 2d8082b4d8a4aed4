import WikiSync.Text.Ascii

/-!
# Bytes and Hexadecimal Text

Bytes are lists of eight-bit words. Their hexadecimal form has two lower-case
digits a byte.

## Main definitions

* `Bytes`: A list of bytes.
* `utf8`, `ofUtf8?`: The bytes of a text, and back.
* `notUtf8`: Why bytes spell no text.
* `toHex`: The hexadecimal form of bytes.
-/

namespace WikiSync

/-- A list of bytes. -/
abbrev Bytes := List UInt8

namespace Text

/-- The bytes of a text in UTF-8. -/
def utf8 (s : String) : Bytes :=
  s.toUTF8.data.toList

/-- The text that bytes spell in UTF-8, if they spell one. -/
def ofUtf8? (bytes : Bytes) : Option String :=
  String.fromUTF8? ⟨bytes.toArray⟩

/-- The reason why bytes that spell no text cannot be read as one. -/
def notUtf8 : String := "stream did not contain valid UTF-8"

/-- The digit of a number below 36, letters in lower case. -/
def lowerDigit (n : Nat) : Char :=
  if n < 10 then Char.ofNat ('0'.toNat + n) else Char.ofNat ('a'.toNat + (n - 10))

/-- The hexadecimal form of bytes. -/
def toHex (bytes : Bytes) : String :=
  String.ofList (bytes.flatMap fun b => [lowerDigit (b.toNat / 16), lowerDigit (b.toNat % 16)])

end Text

end WikiSync
