import WikiSync.Number.Binary64
import WikiSync.Text.Ascii
import WikiSync.Toml.Value

/-!
# TOML Scalars

Numbers, truth values and points in time. Underscores may stand between
digits. A decimal integer has no zeros in front; hexadecimal, octal and binary
ones have no sign. A point in time is a date, a time, or both, with an offset
if it has both; its parts have to exist in the calendar.

## Main definitions

* `integer?`, `real?`, `isDateTime`: Recognise a scalar.
* `scalar?`: The value of a scalar.
-/

namespace WikiSync.Toml

open Text (hexDigit? decimalValue sign)

/-- The digits of a number without the underscores between them. The first
and the last character are digits, and so are the neighbours of each
underscore. -/
def digits? (isDigit : Char → Bool) : List Char → Option (List Char)
  | [] => none
  | [c] => if isDigit c then some [c] else none
  | c :: '_' :: rest =>
    if isDigit c then (digits? isDigit rest).map (c :: ·) else none
  | c :: rest => if isDigit c then (digits? isDigit rest).map (c :: ·) else none

/-- The digits of a decimal integer without a sign. -/
def wholeDigits? (cs : List Char) : Option (List Char) := do
  let ds ← digits? Char.isDigit cs
  if ds.length > 1 && ds.head? == some '0' then none else some ds

/-- The number that digits spell in a base up to 16. -/
def based? (base : Nat) (cs : List Char) : Option Nat := do
  let isDigit (c : Char) := match hexDigit? c with
    | some d => d < base
    | none => false
  let ds ← digits? isDigit cs
  some (ds.foldl (fun n c => base * n + (hexDigit? c).getD 0) 0)

/-- The integer that a text spells. -/
def integer? (cs : List Char) : Option Int :=
  match cs with
  | '0' :: 'x' :: rest => (based? 16 rest).map Int.ofNat
  | '0' :: 'o' :: rest => (based? 8 rest).map Int.ofNat
  | '0' :: 'b' :: rest => (based? 2 rest).map Int.ofNat
  | _ =>
    let (negative, rest) := sign cs
    (wholeDigits? rest).map fun ds =>
      let n : Int := decimalValue ds
      if negative then -n else n

/-- The exponent of a number with its mark, which may be left out. -/
def exponent? : List Char → Option Int
  | [] => some 0
  | c :: rest =>
    if c == 'e' || c == 'E' then
      let (negative, rest) := sign rest
      (digits? Char.isDigit rest).map fun ds =>
        let n : Int := decimalValue ds
        if negative then -n else n
    else none

/-- Whether a text spells a number with a point or an exponent, and then
whether the number is finite. -/
def real? (cs : List Char) : Option Bool := do
  let (negative, rest) := sign cs
  if rest = "inf".toList || rest = "nan".toList then some true
  else
    let (whole, rest) := rest.span fun c => c.isDigit || c == '_'
    let ds ← wholeDigits? whole
    let (part, rest) ← match rest with
      | '.' :: rest =>
        let (part, rest) := rest.span fun c => c.isDigit || c == '_'
        (digits? Char.isDigit part).map fun p => (p, rest)
      | _ => some ([], rest)
    if part.isEmpty && rest.isEmpty then none
    else
      let e ← exponent? rest
      some (Binary64.ofDecimal? negative (decimalValue (ds ++ part)) (e - part.length)).isSome

/-- The number that the first `n` characters spell, all of them digits, and
what follows. -/
def fixed? (n : Nat) (cs : List Char) : Option (Nat × List Char) :=
  let ds := cs.take n
  if ds.length = n && ds.all Char.isDigit then some (decimalValue ds, cs.drop n) else none

/-- Whether a year has a 29th of February. -/
def isLeap (year : Nat) : Bool :=
  year % 4 = 0 && (year % 100 != 0 || year % 400 = 0)

/-- The number of days in a month. -/
def daysIn (year month : Nat) : Nat :=
  if month = 2 then if isLeap year then 29 else 28
  else if [4, 6, 9, 11].contains month then 30
  else 31

/-- What follows a character. -/
def after? (p : Char → Bool) : List Char → Option (List Char)
  | c :: rest => if p c then some rest else none
  | [] => none

/-- What follows a date. -/
def date? (cs : List Char) : Option (List Char) := do
  let (year, cs) ← fixed? 4 cs
  let cs ← after? (· == '-') cs
  let (month, cs) ← fixed? 2 cs
  let cs ← after? (· == '-') cs
  let (day, cs) ← fixed? 2 cs
  if 1 ≤ month && month ≤ 12 && 1 ≤ day && day ≤ daysIn year month then some cs else none

/-- What follows the fraction of a second, if there is one. -/
def fraction? : List Char → Option (List Char)
  | '.' :: rest =>
    if (rest.takeWhile Char.isDigit).isEmpty then none else some (rest.dropWhile Char.isDigit)
  | cs => some cs

/-- What follows the seconds of a time, which may be left out. -/
def seconds? : List Char → Option (List Char)
  | ':' :: rest => do
    let (second, rest) ← fixed? 2 rest
    if second ≤ 60 then fraction? rest else none
  | cs => some cs

/-- What follows a time. -/
def time? (cs : List Char) : Option (List Char) := do
  let (hour, cs) ← fixed? 2 cs
  let cs ← after? (· == ':') cs
  let (minute, cs) ← fixed? 2 cs
  if hour ≤ 23 && minute ≤ 59 then seconds? cs else none

/-- Whether a text is an offset from universal time, or empty. -/
def isOffset (cs : List Char) : Bool :=
  match cs with
  | [] => true
  | [c] => c == 'Z' || c == 'z'
  | c :: rest =>
    (c == '+' || c == '-') && match fixed? 2 rest with
      | some (hour, ':' :: rest) =>
        match fixed? 2 rest with
        | some (minute, []) => hour ≤ 23 && minute ≤ 59
        | _ => false
      | _ => false

/-- Whether a text is a point in time. -/
def isDateTime (cs : List Char) : Bool :=
  match date? cs with
  | some [] => true
  | some (c :: rest) =>
    (c == 'T' || c == 't' || c == ' ') && match time? rest with
      | some rest => isOffset rest
      | none => false
  | none => time? cs == some []

/-- The value of a scalar without quotes. -/
def scalar? (cs : List Char) : Option TomlValue :=
  if cs = "true".toList then some (.bool true)
  else if cs = "false".toList then some (.bool false)
  else match integer? cs, real? cs with
    | some n, _ => some (.integer n)
    | none, some finite => some (.real finite)
    | none, none => if isDateTime cs then some .dateTime else none

end WikiSync.Toml
