import WikiSync.Text.Ascii

/-!
# Places in YAML Text

A place in a text with its line and its column. YAML gives meaning to columns
and to line breaks, of which it has six: a carriage return and a line feed
together or each alone, a next line, a line separator and a paragraph
separator.

## Main definitions

* `isAllowed`: The characters a text may hold.
* `isBreak`, `isBlankOrBreak`: Classes of characters.
* `Place`: A place in a text.
* `Place.skip`, `Place.spanWhile`, `Place.takeBreak?`: Ways to go on.
-/

namespace WikiSync.Yaml

open Text (isLineBlank)

/-- The characters a text may hold: no control characters but tabs and line
breaks. -/
def isAllowed (c : Char) : Bool :=
  let n := c.toNat
  n == 0x09 || n == 0x0A || n == 0x0D || (0x20 ≤ n && n ≤ 0x7E) || n == 0x85 ||
    (0xA0 ≤ n && n ≤ 0xFFFD) || 0x10000 ≤ n

/-- A character that breaks a line. -/
def isBreak (c : Char) : Bool :=
  c == '\n' || c == '\r' || c == '\u0085' || c == '\u2028' || c == '\u2029'

/-- A blank or a line break. -/
def isBlankOrBreak (c : Char) : Bool :=
  isLineBlank c || isBreak c

/-- Whether a word cannot go on here: at a blank, a break or the end. -/
def endsWord (cs : List Char) : Bool :=
  match cs with
  | [] => true
  | c :: _ => isBlankOrBreak c

/-- A place in a text. -/
structure Place where
  /-- The text from here on. -/
  rest : List Char
  /-- Characters passed since the start of the text. -/
  index : Nat
  line : Nat
  column : Nat

namespace Place

/-- The start of a text. -/
def ofText (cs : List Char) : Place :=
  ⟨cs, 0, 0, 0⟩

/-- Moves past `n` characters of the line. -/
def skip (p : Place) (n : Nat) : Place :=
  { p with rest := p.rest.drop n, index := p.index + n, column := p.column + n }

/-- The characters of the line that satisfy `f`, and the place after them. -/
def spanWhile (f : Char → Bool) (p : Place) : List Char × Place :=
  let taken := p.rest.takeWhile f
  (taken, p.skip taken.length)

/-- The place after the characters of the line that satisfy `f`. -/
def skipWhile (f : Char → Bool) (p : Place) : Place :=
  (p.spanWhile f).2

/-- The line break at a place, and the place after it. The two separators
stand for themselves, every other break for a line feed. -/
def takeBreak? (p : Place) : Option (Char × Place) :=
  match p.rest with
  | '\r' :: '\n' :: rest => some ('\n', ⟨rest, p.index + 2, p.line + 1, 0⟩)
  | c :: rest =>
    if isBreak c then
      let shown := if c == '\u2028' || c == '\u2029' then c else '\n'
      some (shown, ⟨rest, p.index + 1, p.line + 1, 0⟩)
    else none
  | [] => none

/-- The place after the line break, if there is one. -/
def skipBreak (p : Place) : Place :=
  match p.takeBreak? with
  | some (_, q) => q
  | none => p

/-- The place after a comment. -/
def skipComment (p : Place) : Place :=
  if p.rest.head? == some '#' then p.skipWhile fun c => !isBreak c else p

/-- Whether the line ends here. -/
def atLineEnd (p : Place) : Bool :=
  match p.rest with
  | [] => true
  | c :: _ => isBreak c

/-- The place after blanks, a comment and the line break, if nothing else is
left of the line. -/
def finishLine? (p : Place) : Option Place :=
  let p := (p.skipWhile isLineBlank).skipComment
  if p.atLineEnd then some p.skipBreak else none

/-- Whether a line starts here with a mark that ends a document. -/
def atDocumentMark (p : Place) : Bool :=
  p.column == 0 &&
    match p.rest with
    | '-' :: '-' :: '-' :: after | '.' :: '.' :: '.' :: after => endsWord after
    | _ => false

end Place

end WikiSync.Yaml
