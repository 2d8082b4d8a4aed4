import WikiSync.Text.Ascii

/-!
# Line Cursors

Where a line is read from while its indentation and its container markers are
taken off. Indentation is counted in columns, tab stops standing at every
fourth column, and a construct may need only a part of a tab. `Cursor.spare`
holds the columns of a tab that has been read but not yet used up.

A line ends at a line feed, a carriage return or both in that order. Verbatim
text (code, HTML, metadata) is cut at line feeds alone, by `physicalLine`.

## Main definitions

* `Cursor`: A place inside a line.
* `Cursor.indent`: Takes columns of indentation.
* `lineEnding?`, `blankLine?`, `physicalLine`: The ends of lines.
-/

namespace WikiSync.Markdown

open Text

/-- A place inside a line. -/
structure Cursor where
  /-- The text from here to the end of the document. -/
  rest : List Char
  /-- Columns passed since the start of the line. -/
  column : Nat
  /-- Columns of a tab that were read and not used. -/
  spare : Nat

/-- The line ending at the front and what follows it. The end of the text
counts as an empty one. -/
def lineEnding? : List Char → Option (List Char × List Char)
  | [] => some ([], [])
  | '\r' :: '\n' :: rest => some (['\r', '\n'], rest)
  | '\r' :: rest => some (['\r'], rest)
  | '\n' :: rest => some (['\n'], rest)
  | _ => none

/-- What follows the line, if nothing but blanks is left of it. -/
def blankLine? (cs : List Char) : Option (List Char) :=
  (lineEnding? (cs.dropWhile isInlineBlank)).map (·.2)

/-- Drops the rest of the line if it is blank. -/
def skipBlankLine (cs : List Char) : List Char :=
  (blankLine? cs).getD cs

/-- The line up to its ending, and the ending with what follows it. -/
def spanLine (cs : List Char) : List Char × List Char :=
  cs.span fun c => c != '\n' && c != '\r'

/-- The text up to and including the next line feed, and what follows it. -/
def physicalLine (cs : List Char) : List Char × List Char :=
  match cs.span (· != '\n') with
  | (line, '\n' :: rest) => (line ++ ['\n'], rest)
  | (line, rest) => (line, rest)

/-- A physical line as verbatim text shows it: a carriage return before its
last character, which is a line feed unless the document ends here, is left
out. At the end of the document that character may be any of ASCII. -/
def verbatimLine (line : List Char) : List Char :=
  match line.reverse with
  | c :: '\r' :: before => if c.toNat < 128 then before.reverse ++ [c] else line
  | _ => line

namespace Cursor

/-- The start of a line. -/
def ofLine (cs : List Char) : Cursor :=
  ⟨cs, 0, 0⟩

/-- Whether no character of the line is left. -/
def atLineEnd (p : Cursor) : Bool :=
  (lineEnding? p.rest).isSome

/-- Takes one column of indentation. -/
def step? (p : Cursor) : Option Cursor :=
  if p.spare > 0 then some { p with spare := p.spare - 1 }
  else match p.rest with
    | ' ' :: rest => some ⟨rest, p.column + 1, 0⟩
    | '\t' :: rest =>
      let width := 4 - p.column % 4
      some ⟨rest, p.column + width, width - 1⟩
    | _ => none

/-- Takes columns of indentation, at most `n`, and counts them. -/
def indent (p : Cursor) : Nat → Nat × Cursor
  | 0 => (0, p)
  | n + 1 =>
    match p.step? with
    | none => (0, p)
    | some q =>
      let (k, r) := q.indent n
      (k + 1, r)

/-- Moves past `n` characters that take a column each. -/
def advance (p : Cursor) (n : Nat) : Cursor :=
  { p with rest := p.rest.drop n, column := p.column + n }

/-- The columns of a tab that are left, as spaces. -/
def spareSpaces (p : Cursor) : List Char :=
  List.replicate p.spare ' '

end Cursor

end WikiSync.Markdown
