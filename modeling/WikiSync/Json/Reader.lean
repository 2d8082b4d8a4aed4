import WikiSync.Json.Value
import WikiSync.Text.Ascii

/-!
# Reading JSON

Reads a text that is one JSON value and nothing else but blanks.

## Main definitions

* `stringBody?`, `number?`: Read the parts of a value.
* `read?`: Reads a text.
-/

namespace WikiSync.JsonValue

open Text (hexDigit? hexValue decimalValue)

/-- A blank between two marks. -/
def isBlank (c : Char) : Bool :=
  c == ' ' || c == '\n' || c == '\t' || c == '\r'

/-- A text without the blanks in front. -/
def skipBlanks (cs : List Char) : List Char :=
  cs.dropWhile isBlank

/-- One unit of a string: a character or half of a surrogate pair. -/
inductive Unit16 where
  | char (c : Char)
  | high (n : Nat)
  | low (n : Nat)
deriving DecidableEq, Repr

/-- The unit with a number. -/
def Unit16.ofNat (n : Nat) : Unit16 :=
  if 0xD800 ≤ n && n < 0xDC00 then .high n
  else if 0xDC00 ≤ n && n < 0xE000 then .low n
  else .char (Char.ofNat n)

/-- The text that units spell. The two halves of a pair make one character,
and no half stands alone. -/
def spell? : List Unit16 → Option (List Char)
  | [] => some []
  | .char c :: rest => (spell? rest).map (c :: ·)
  | .high h :: .low l :: rest =>
    (spell? rest).map (Char.ofNat (0x10000 + (h - 0xD800) * 0x400 + (l - 0xDC00)) :: ·)
  | _ => none

/-- The characters that a letter after a backslash stands for. -/
def escapes : List (Char × Char) :=
  [('"', '"'), ('\\', '\\'), ('/', '/'), ('b', '\x08'), ('f', '\x0c'), ('n', '\n'),
    ('r', '\r'), ('t', '\t')]

/-- The units of a string up to its closing quote, and what follows. -/
def stringBody? : List Char → Option (List Unit16 × List Char)
  | [] => none
  | '"' :: rest => some ([], rest)
  | '\\' :: 'u' :: a :: b :: c :: d :: rest =>
    if [a, b, c, d].all fun x => (hexDigit? x).isSome then
      (stringBody? rest).map fun (us, rest) => (Unit16.ofNat (hexValue [a, b, c, d]) :: us, rest)
    else none
  | '\\' :: c :: rest =>
    match escapes.lookup c with
    | some shown => (stringBody? rest).map fun (us, rest) => (.char shown :: us, rest)
    | none => none
  | c :: rest =>
    if c.toNat < 0x20 || c == '\\' then none
    else (stringBody? rest).map fun (us, rest) => (.char c :: us, rest)

/-- A string after its opening quote, and what follows. -/
def string? (cs : List Char) : Option (Option String × List Char) :=
  (stringBody? cs).map fun (us, rest) => ((spell? us).map String.ofList, rest)

/-- The digits in front, at least one of them. -/
def digits? (cs : List Char) : Option (List Char × List Char) :=
  match cs.span Char.isDigit with
  | ([], _) => none
  | found => some found

/-- The digits after a point, if there is one. -/
def fraction? : List Char → Option (List Char × List Char)
  | '.' :: rest => digits? rest
  | cs => some ([], cs)

/-- The sign and the digits of an exponent, none of them if there is none. -/
def exponent? : List Char → Option ((Bool × List Char) × List Char)
  | c :: rest =>
    if c == 'e' || c == 'E' then
      let (negative, rest) := match rest with
        | '-' :: rest => (true, rest)
        | '+' :: rest => (false, rest)
        | _ => (false, rest)
      (digits? rest).map fun (ds, rest) => ((negative, ds), rest)
    else some ((false, []), c :: rest)
  | [] => some ((false, []), [])

/-- A number and what follows. -/
def number? (cs : List Char) : Option (JsonNumber × List Char) := do
  let (negative, cs) := match cs with
    | '-' :: rest => (true, rest)
    | _ => (false, cs)
  let (whole, rest) ← digits? cs
  if whole.length > 1 && whole.head? == some '0' then none
  else
    let (part, rest) ← fraction? rest
    let ((below, power), rest) ← exponent? rest
    let power' : Int := decimalValue power
    let exponent := (if below then -power' else power') - part.length
    some (⟨negative, decimalValue (whole ++ part), exponent, part.isEmpty && power.isEmpty⟩, rest)

mutual

/-- A value at the front, and what follows. -/
def value? : Nat → List Char → Option (JsonValue × List Char)
  | 0, _ => none
  | fuel + 1, cs =>
    match skipBlanks cs with
    | 'n' :: 'u' :: 'l' :: 'l' :: rest => some (null, rest)
    | 't' :: 'r' :: 'u' :: 'e' :: rest => some (bool true, rest)
    | 'f' :: 'a' :: 'l' :: 's' :: 'e' :: rest => some (bool false, rest)
    | '"' :: rest => (string? rest).map fun (s, rest) => (string s, rest)
    | '[' :: rest =>
      match skipBlanks rest with
      | ']' :: rest => some (array [], rest)
      | rest => (items? fuel rest).map fun (vs, rest) => (array vs, rest)
    | '{' :: rest =>
      match skipBlanks rest with
      | '}' :: rest => some (object [], rest)
      | rest => (entries? fuel rest).map fun (es, rest) => (object es, rest)
    | rest => (number? rest).map fun (n, rest) => (number n, rest)

/-- The items of an array up to its closing bracket, and what follows. -/
def items? : Nat → List Char → Option (List JsonValue × List Char)
  | 0, _ => none
  | fuel + 1, cs => do
    let (v, rest) ← value? fuel cs
    match skipBlanks rest with
    | ']' :: rest => some ([v], rest)
    | ',' :: rest => (items? fuel rest).map fun (vs, rest) => (v :: vs, rest)
    | _ => none

/-- The entries of an object up to its closing brace, and what follows. -/
def entries? : Nat → List Char → Option (List (Option String × JsonValue) × List Char)
  | 0, _ => none
  | fuel + 1, cs =>
    match skipBlanks cs with
    | '"' :: rest => do
      let (key, rest) ← string? rest
      match skipBlanks rest with
      | ':' :: rest =>
        let (v, rest) ← value? fuel rest
        match skipBlanks rest with
        | '}' :: rest => some ([(key, v)], rest)
        | ',' :: rest => (entries? fuel rest).map fun (es, rest) => ((key, v) :: es, rest)
        | _ => none
      | _ => none
    | _ => none

end

/-- Reads a text that is one value. -/
def read? (text : String) : Option JsonValue := do
  let cs := text.toList
  let (v, rest) ← value? (cs.length + 1) cs
  if (skipBlanks rest).isEmpty then some v else none

end WikiSync.JsonValue
