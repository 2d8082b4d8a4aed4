import WikiSync.Text.Ascii

/-!
# Escapes

What stands behind the backslash of an escape: a letter that stands for a
character, or a letter and hexadecimal digits that give the number of one. The
letters of the first sort differ from format to format.

## Main definitions

* `escapeDigits?`: The number of digits behind a letter.
* `escape?`: Reads an escape, with the letters of a format.
-/

namespace WikiSync.Text

/-- The number of hexadecimal digits that follow a letter after a backslash. -/
def escapeDigits? : Char → Option Nat
  | 'x' => some 2
  | 'u' => some 4
  | 'U' => some 8
  | _ => none

/-- The character that an escape stands for, and its length, where the letters
of `escapes` stand for characters. The text starts after the backslash. -/
def escape? (escapes : List (Char × Char)) : List Char → Option (Char × Nat)
  | [] => none
  | c :: rest =>
    match escapes.lookup c, escapeDigits? c with
    | some shown, _ => some (shown, 1)
    | none, some n =>
      let digits := rest.take n
      let value := hexValue digits
      if digits.length = n && digits.all (fun d => (hexDigit? d).isSome) && value.isValidChar then
        some (Char.ofNat value, n + 1)
      else none
    | none, none => none

end WikiSync.Text
