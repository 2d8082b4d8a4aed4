/-!
# Glyphs

The text of a paragraph, a heading or a table cell, as inline syntax reads it.
Most of it is plain characters. Two places need more than a character: a line
ending, after which the markers of the enclosing quotes and lists have been
taken off the next line, and a pipe inside a table cell, which is written with
a backslash that belongs to the table and not to the text.

Both keep what was written, because some constructs show their source
verbatim. `Glyph.toChar` is what inline syntax sees, `Glyph.source` is what
was written.

## Main definitions

* `Glyph`: One unit of inline text.
* `Glyph.toChar`, `Glyph.source`: Its two readings.
-/

namespace WikiSync.Markdown

/-- One unit of inline text. -/
inductive Glyph where
  /-- A character that stands for itself. -/
  | plain (c : Char)
  /-- The end of a line: how it was spelled, and what the containers took off
  the line that follows. -/
  | lineEnd (ending skipped : List Char)
  /-- A pipe written `\|` inside a table cell. -/
  | cellPipe
deriving DecidableEq, Repr

namespace Glyph

/-- The character that inline syntax sees. -/
def toChar : Glyph → Char
  | plain c => c
  | lineEnd _ _ => '\n'
  | cellPipe => '|'

/-- What was written. -/
def source : Glyph → List Char
  | plain c => [c]
  | lineEnd ending skipped => ending ++ skipped
  | cellPipe => ['\\', '|']

/-- What was written, without the markers of the enclosing containers. -/
def ownSource : Glyph → List Char
  | lineEnd ending _ => ending
  | g => g.source

/-- Plain characters as glyphs. -/
def ofChars (cs : List Char) : List Glyph :=
  cs.map plain

/-- Whether the glyph ends a line. -/
def isLineEnd : Glyph → Bool
  | lineEnd _ _ => true
  | _ => false

end Glyph

/-- The length of the run of `c` at the front, and what follows it. -/
def takeRun (c : Char) : List Glyph → Nat × List Glyph
  | [] => (0, [])
  | g :: gs =>
    if g = .plain c then
      let (n, rest) := takeRun c gs
      (n + 1, rest)
    else (0, g :: gs)

end WikiSync.Markdown
