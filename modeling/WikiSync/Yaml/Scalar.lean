import WikiSync.Number.Word
import WikiSync.Text.Ascii
import WikiSync.Text.Hex
import WikiSync.Yaml.Value

/-!
# YAML Scalars

What the text of a scalar means. A plain scalar may be a null, a truth value
or a number; a quoted one is a text. A tag can ask for one of these.

Integers are decimal, hexadecimal, octal or binary. Digits behind a leading
zero are no number. An integer has to fit into 64 bits; one that fits into 128
bits only is an error, and a still larger one is read as a number with an
exponent, if it is decimal.

## Main definitions

* `integer?`, `real?`: The numbers that a text spells.
* `plainValue?`: The value of a plain scalar.
* `taggedScalar?`: The value of a scalar with a tag.
-/

namespace WikiSync.Yaml

open Text (hexDigit? decimalValue sign)

/-- The number that digits spell in a base up to 16. -/
def digitsValue? (base : Nat) (cs : List Char) : Option Nat :=
  let digit? (c : Char) := (hexDigit? c).filter (· < base)
  if cs.isEmpty then none
  else cs.foldlM (fun n c => (digit? c).map (base * n + ·)) 0

/-- The bases that integers are written in, with the mark of each. -/
def bases : List (List Char × Nat) :=
  [(['0', 'x'], 16), (['0', 'o'], 8), (['0', 'b'], 2)]

/-- Whether a text without a sign is digits behind a leading zero. -/
def isPadded (cs : List Char) : Bool :=
  match cs with
  | '0' :: rest => !rest.isEmpty && rest.all Char.isDigit
  | _ => false

/-- The number that a text without a sign spells. -/
def natural? (cs : List Char) : Option Nat :=
  match bases.findSome? fun (mark, base) =>
      if mark.isPrefixOf cs then digitsValue? base (cs.drop mark.length) else none with
  | some n => some n
  | none => if isPadded cs then none else digitsValue? 10 cs

/-- The integer that a text spells, if it fits into 128 bits. -/
def integer? (cs : List Char) : Option Int := do
  let (negative, digits) := sign cs
  let n ← natural? digits
  if negative then if n ≤ wordSize 127 then some (-n) else none
  else if n < wordSize 128 then some n else none

/-- Whether an integer fits into 64 bits, with a sign or without one. -/
def fitsWord (n : Int) : Bool :=
  -wordSize 63 ≤ n && n < wordSize 64

/-- The exponent of a number: its sign and digits. -/
def exponent? (cs : List Char) : Option Int :=
  match cs with
  | [] => some 0
  | e :: rest =>
    if e == 'e' || e == 'E' then
      let (negative, digits) := sign rest
      if digits.isEmpty || !digits.all Char.isDigit then none
      else
        let n : Int := decimalValue digits
        some (if negative then -n else n)
    else none

/-- The finite number that a decimal text without a sign spells. -/
def decimal? (negative : Bool) (cs : List Char) : Option Binary64 := do
  let (whole, rest) := cs.span Char.isDigit
  let (part, rest) := match rest with
    | '.' :: rest => rest.span Char.isDigit
    | _ => ([], rest)
  if whole.isEmpty && part.isEmpty then none
  else
    let e ← exponent? rest
    Binary64.ofDecimal? negative (decimalValue (whole ++ part)) (e - part.length)

/-- The number with a point or an exponent that a text spells. -/
def real? (text : String) : Option Real :=
  let (negative, digits) := sign text.toList
  if [".inf", ".Inf", ".INF"].contains (String.ofList digits) then some (.infinite negative)
  else if [".nan", ".NaN", ".NAN"].contains text then some .notANumber
  else (decimal? negative digits).map .finite

/-- Whether a text spells a null. -/
def isNull (text : String) : Bool :=
  ["null", "Null", "NULL", "~"].contains text

/-- The truth value that a text spells. -/
def bool? (text : String) : Option Bool :=
  if ["true", "True", "TRUE"].contains text then some true
  else if ["false", "False", "FALSE"].contains text then some false
  else none

/-- The value of a plain scalar. -/
def plainValue? (text : String) : Option Value :=
  if text.isEmpty || isNull text then some .null
  else match bool? text, integer? text.toList with
    | some b, _ => some (.bool b)
    | none, some n => if fitsWord n then some (.integer n) else none
    | none, none =>
      if isPadded (sign text.toList).2 then some (.string text)
      else match real? text with
        | some x => some (.real x)
        | none => some (.string text)

/-- The value of a scalar with a tag. The tags for null, truth values and
numbers want a scalar that spells one; with any other tag a scalar is a
text. -/
def taggedScalar? (tag : Bytes) (text : String) : Option Value :=
  let is (name : String) := tag = Text.utf8 ("tag:yaml.org,2002:" ++ name)
  if is "bool" then (bool? text).map .bool
  else if is "int" then (integer? text.toList).bind fun n =>
    if fitsWord n then some (.integer n) else none
  else if is "float" then (real? text).map .real
  else if is "null" then if isNull text then some .null else none
  else some (.string text)

end WikiSync.Yaml
