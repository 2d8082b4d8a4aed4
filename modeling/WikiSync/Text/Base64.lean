import WikiSync.Text.Hex

/-!
# Base64

Bytes as text over 64 characters: three bytes become four characters, and
equals signs fill up what is missing at the end.
-/

namespace WikiSync.Text

/-- The character for a number below 64. -/
def base64Digit (n : Nat) : Char :=
  if n < 26 then Char.ofNat ('A'.toNat + n)
  else if n < 52 then Char.ofNat ('a'.toNat + (n - 26))
  else if n < 62 then Char.ofNat ('0'.toNat + (n - 52))
  else if n = 62 then '+'
  else '/'

/-- The characters for bytes. -/
def base64Chars : Bytes → List Char
  | [] => []
  | [a] =>
    let n := a.toNat * 0x10000
    [base64Digit (n / 0x40000), base64Digit (n / 0x1000 % 64), '=', '=']
  | [a, b] =>
    let n := a.toNat * 0x10000 + b.toNat * 0x100
    [base64Digit (n / 0x40000), base64Digit (n / 0x1000 % 64), base64Digit (n / 0x40 % 64), '=']
  | a :: b :: c :: rest =>
    let n := a.toNat * 0x10000 + b.toNat * 0x100 + c.toNat
    base64Digit (n / 0x40000) :: base64Digit (n / 0x1000 % 64) :: base64Digit (n / 0x40 % 64) ::
      base64Digit (n % 64) :: base64Chars rest

/-- The text for bytes. -/
def toBase64 (bytes : Bytes) : String :=
  String.ofList (base64Chars bytes)

end WikiSync.Text
