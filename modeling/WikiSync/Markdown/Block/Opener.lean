import WikiSync.Markdown.Block
import WikiSync.Markdown.Cursor

/-!
# Block Openers

The lines that start a block, each recognised from its text alone. Every
function here looks at the text after the indentation, up to three columns,
that a block may have.

## Main definitions

* `thematicBreak?`, `atxLevel?`, `underline?`: Rules and headings.
* `fence?`, `closesFence?`: Fenced code.
* `ListMarker`, `listMarker?`, `taskMarker?`: Lists.
* `delimiterRow?`, `headerCells`: Tables.
* `opensMetadata`, `closesMetadata?`: Metadata blocks.
-/

namespace WikiSync.Markdown

open Text

/-- The length of the run of `c` at the front, and what follows it. -/
def spanRun (c : Char) (cs : List Char) : Nat × List Char :=
  let (run, rest) := cs.span (· == c)
  (run.length, rest)

/-- What follows a thematic break: a line of at least three of the same mark,
blanks apart. -/
def thematicBreak? (cs : List Char) : Option (List Char) :=
  match cs with
  | mark :: _ =>
    if mark == '*' || mark == '-' || mark == '_' then
      let (line, rest) := spanLine cs
      if line.all (fun c => c == mark || c == ' ' || c == '\t') && 3 ≤ line.count mark then
        (lineEnding? rest).map (·.2)
      else none
    else none
  | [] => none

/-- The level of a heading that starts with number signs. -/
def atxLevel? (cs : List Char) : Option Nat :=
  let (level, rest) := spanRun '#' cs
  let closed := match rest with
    | [] => true
    | c :: _ => isAsciiBlank c
  if 1 ≤ level && level ≤ 6 && closed then some level else none

/-- The level of the heading that a line underlines, and what follows it. -/
def underline? (cs : List Char) : Option (Nat × List Char) :=
  let under (mark : Char) (level : Nat) :=
    (blankLine? (spanRun mark cs).2).map fun rest => (level, rest)
  match cs with
  | '=' :: _ => under '=' 1
  | '-' :: _ => under '-' 2
  | _ => none

/-- The mark and the length of a code fence. After backticks no further
backtick may stand on the line. -/
def fence? (cs : List Char) : Option (Char × Nat) :=
  match cs with
  | mark :: _ =>
    if mark == '`' || mark == '~' then
      let (n, rest) := spanRun mark cs
      if n < 3 then none
      else if mark == '`' && (physicalLine rest).1.contains '`' then none
      else some (mark, n)
    else none
  | [] => none

/-- What follows a fence that closes a block opened by `n` marks. The end of
the document closes it too. -/
def closesFence? (mark : Char) (n : Nat) (cs : List Char) : Option (List Char) :=
  if cs.isEmpty then some []
  else
    let (k, rest) := spanRun mark cs
    let rest := rest.dropWhile (· == ' ')
    if k < n then none else if (lineEnding? rest).isSome then some rest else none

/-- The marker of a list item. -/
structure ListMarker where
  /-- A bullet, or the mark after the number. -/
  delimiter : Char
  number : Option Nat
  /-- Columns from the start of the enclosing content to that of the item. -/
  indent : Nat

/-- Takes the blanks after a marker that takes `width` columns. An item whose
text starts further right, or that starts with a blank line, has its content
one column after the marker. -/
def finishMarker? (delimiter : Char) (number : Option Nat) (width : Nat) (p : Cursor) :
    Option (ListMarker × Cursor) :=
  let (k, q) := p.indent 1
  if k = 1 ∨ q.atLineEnd then
    let narrow : ListMarker := ⟨delimiter, number, width + 1⟩
    if (blankLine? q.rest).isSome then some (narrow, q)
    else
      let (more, r) := q.indent 4
      if more < 4 then some (⟨delimiter, number, width + 1 + more⟩, r) else some (narrow, q)
  else none

/-- The marker of a list item at a cursor that stands `outer` columns into the
enclosing content. A bullet that starts a thematic break is none. A number has
at most nine digits. -/
def listMarker? (outer : Nat) (p : Cursor) : Option (ListMarker × Cursor) :=
  match p.rest with
  | [] => none
  | c :: _ =>
    if c == '-' || c == '+' || c == '*' then
      if (thematicBreak? p.rest).isSome then none
      else finishMarker? c none (outer + 1) (p.advance 1)
    else
      let digits := p.rest.takeWhile Char.isDigit
      let n := digits.length
      if 1 ≤ n && n ≤ 9 then
        match p.rest.drop n with
        | d :: _ =>
          if d == '.' || d == ')' then
            finishMarker? d (some (decimalValue digits)) (outer + n + 1) (p.advance (n + 1))
          else none
        | [] => none
      else none

/-- The check box at the start of an item, and the cursor after it. -/
def taskMarker? (p : Cursor) : Option (Bool × Cursor) :=
  let q := (p.indent 3).2
  match q.rest with
  | '[' :: c :: ']' :: d :: _ =>
    if !isAsciiBlank d then none
    else if isInlineBlank c then some (false, q.advance 3)
    else if c == 'x' || c == 'X' then some (true, q.advance 3)
    else none
  | _ => none

/-- Whether a line of a paragraph starts a list. Inside the same containers a
list may cut a paragraph short only if it is a bullet list or starts at 1, and
is not empty. -/
def startsList (sameContainers : Bool) (cs : List Char) : Bool :=
  let item (number : Option Nat) (rest : List Char) :=
    let separated := match rest with
      | [] => true
      | c :: _ => isAsciiBlank c && c != '\x0b' && c != '\x0c'
    let empty := match blankLine? rest with
      | some next => (blankLine? next).isSome
      | none => false
    separated && (!sameContainers || ((number == none || number == some 1) && !empty))
  match cs with
  | [] => false
  | c :: rest =>
    if c == '-' || c == '+' || c == '*' then item none rest
    else
      let digits := cs.takeWhile Char.isDigit
      match cs.drop digits.length with
      | d :: rest =>
        1 ≤ digits.length && digits.length ≤ 9 && (d == '.' || d == ')') &&
          item (some (decimalValue digits)) rest
      | [] => false

/-- The state of a delimiter row: finished columns, latest first, and the
column being read. -/
structure DelimiterScan where
  columns : List ColumnAlign
  current : ColumnAlign
  started : Bool
  dashed : Bool
  anyPipe : Bool
  anyDash : Bool

/-- Reads one character of a delimiter row. A colon before the dashes aligns
left, one after them right, both center. -/
def DelimiterScan.step (s : DelimiterScan) (c : Char) : Option DelimiterScan :=
  if c == ' ' then some s
  else if c == ':' then
    let current := match s.started, s.current with
      | false, .unset => .left
      | true, .left => .center
      | true, .unset => .right
      | _, a => a
    some { s with current, started := true }
  else if c == '-' then some { s with started := true, dashed := true, anyDash := true }
  else if c == '|' then
    if s.dashed then
      some ⟨s.current :: s.columns, .unset, false, false, true, s.anyDash⟩
    else none
  else none

/-- The columns that a delimiter row declares and what follows it, `p` being
the start of the row. A row has at least one pipe and at least one dash. -/
def delimiterRow? (p : Cursor) : Option (List ColumnAlign × List Char) :=
  let (k, q) := p.indent 4
  if k > 3 then none
  else
    let (line, rest) := spanLine q.rest
    let (lead, line) := match line with
      | '|' :: more => (true, more)
      | _ => (false, line)
    (line.foldlM DelimiterScan.step ⟨[], .unset, false, false, lead, false⟩).bind fun s =>
      let columns := (if s.started then s.current :: s.columns else s.columns).reverse
      if s.anyPipe && s.anyDash then (lineEnding? rest).map fun e => (columns, e.2) else none

/-- Cuts a line at its pipes, those that a backslash escapes apart. A backslash
goes with the punctuation after it, so a pipe after two of them does cut. -/
def pipeCuts : List Char → List (List Char)
  | [] => [[]]
  | '\\' :: c :: rest =>
    if isAsciiPunctuation c then
      match pipeCuts rest with
      | part :: parts => ('\\' :: c :: part) :: parts
      | [] => [['\\', c]]
    else
      match pipeCuts (c :: rest) with
      | part :: parts => ('\\' :: part) :: parts
      | [] => [['\\']]
  | '|' :: rest => [] :: pipeCuts rest
  | c :: rest =>
    match pipeCuts rest with
    | part :: parts => (c :: part) :: parts
    | [] => [[c]]

/-- How many cells a header row has: the parts between its pipes, without a
blank one before the first pipe and a blank one after the last. -/
def headerCells (line : List Char) : Nat :=
  let line := line.dropWhile isInlineBlank
  let parts := pipeCuts line
  let leading := if line.head? = some '|' then 1 else 0
  let trailing := match parts.getLast? with
    | some part => if part.all isInlineBlank then 1 else 0
    | none => 0
  parts.length - leading - trailing

/-- Whether a line has a pipe that cuts it. -/
def hasPipe (line : List Char) : Bool :=
  (pipeCuts line).length > 1

/-- What follows the three marks that close a metadata block. -/
def closesMetadata? (cs : List Char) : Option (List Char) :=
  let closed (mark : Char) :=
    match spanRun mark cs with
    | (3, rest) =>
      let rest := rest.dropWhile (· == ' ')
      if (lineEnding? rest).isSome then some rest else none
    | _ => none
  match cs with
  | '-' :: _ => closed '-'
  | '.' :: _ => closed '.'
  | _ => none

/-- Whether one of the following lines, of which there are at most `fuel`,
closes a metadata block. -/
def metadataCloses : Nat → List Char → Bool
  | 0, _ => false
  | _, [] => false
  | fuel + 1, cs => (closesMetadata? cs).isSome || metadataCloses fuel (physicalLine cs).2

/-- Whether a metadata block starts here: three dashes alone on a line, then a
line that is neither blank nor a closing one, and a closing one later on. -/
def opensMetadata (cs : List Char) : Bool :=
  match spanRun '-' cs with
  | (3, rest) =>
    let (line, body) := physicalLine rest
    line.all (fun c => isAsciiBlank c && c != '\x0b') && !body.isEmpty &&
      (closesMetadata? body).isNone && (blankLine? body).isNone &&
      metadataCloses body.length (physicalLine body).2
  | _ => false

end WikiSync.Markdown
