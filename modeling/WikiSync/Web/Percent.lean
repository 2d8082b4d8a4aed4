import WikiSync.Text.Hex

/-!
# Percent Encoding

A text as one part of an address: the bytes of everything but letters, digits
and four marks are written as a percent sign and two digits.
-/

namespace WikiSync.Percent

/-- A byte that stands for itself. -/
def isPlain (b : UInt8) : Bool :=
  let c := Char.ofNat b.toNat
  c.isAlphanum || c == '-' || c == '_' || c == '.' || c == '~'

/-- The digit of a number below 16, letters in upper case. -/
def upperDigit (n : Nat) : Char :=
  if n < 10 then Char.ofNat ('0'.toNat + n) else Char.ofNat ('A'.toNat + (n - 10))

/-- The written form of a byte. -/
def encodeByte (b : UInt8) : List Char :=
  if isPlain b then [Char.ofNat b.toNat]
  else ['%', upperDigit (b.toNat / 16), upperDigit (b.toNat % 16)]

/-- A text as one part of an address. -/
def encode (s : String) : String :=
  String.ofList ((Text.utf8 s).flatMap encodeByte)

end WikiSync.Percent
