import WikiSync.Markdown.Block.Container

/-!
# Reading Blocks

Cuts a document into blocks. Each step takes the containers off one line,
closes those the line has left, opens those it starts, and reads the one block
that is left, which may go on for many lines. The text that a block leaves
over starts with a new line.

What follows a line of a paragraph is decided in one place, `nextLine`: it
goes on, or it is underlined, or it stops. Definitions are read from the same
lines that a paragraph would have.

## Main definitions

* `nextLine`: How a paragraph goes on.
* `readBlock`: Reads one block.
* `readBlocks`: Reads a document.
-/

namespace WikiSync.Markdown

open Text

/-- Whether a line that could go on with a paragraph starts a table: it starts
with a pipe, and the next line is a delimiter row with as many columns. -/
def startsTable (containers : List Container) (cs : List Char) : Bool :=
  match cs with
  | '|' :: _ =>
    let (line, rest) := spanLine cs
    match lineEnding? rest with
    | some (_ :: _, next) =>
      match (matchAll? containers next).bind delimiterRow? with
      | some (columns, _) => columns.length == headerCells line
      | none => false
    | _ => false
  | _ => false

/-- Whether a line cuts a paragraph, or a table, short. -/
def interruptsText (sameContainers : Bool) (cs : List Char) : Bool :=
  (lineEnding? cs).isSome || (thematicBreak? cs).isSome || (atxLevel? cs).isSome ||
    (fence? cs).isSome || cs.head? == some '>' || startsList sameContainers cs ||
    match cs with
    | '<' :: rest => (htmlCloser? rest).isSome || startsBlockTag rest
    | _ => false

/-- How a paragraph goes on. -/
inductive NextLine where
  /-- With a line of text: what the containers took off it, and the rest. -/
  | text (skipped rest : List Char)
  /-- It is a heading, underlined by the line. -/
  | underlined (level : Nat) (rest : List Char)
  | stops

/-- How a paragraph inside `containers` goes on with the line at the front. -/
def nextLine (containers : List Container) (cs : List Char) : NextLine :=
  let (n, p) := matchContainers containers (.ofLine cs)
  let same := n == containers.length
  let (k, q) := p.indent 4
  let text :=
    if (lineEnding? (q.rest.dropWhile fun c => c == ' ' || c == '\t')).isSome then .stops
    else
      let line := (spanLine cs).1
      .text (line.take (line.length - (spanLine p.rest).1.length)) p.rest
  if k < 4 then
    match if same then underline? q.rest else none with
    | some (level, rest) => .underlined level rest
    | none =>
      if interruptsText same q.rest || startsTable containers q.rest then .stops else text
  else text

/-- A line of a paragraph: its glyphs, whether it ends with the document
instead of a line ending, and the text that follows. -/
structure TextLine where
  glyphs : List Glyph
  unended : Bool
  after : List Char

/-- The lines of a paragraph, the heading level if it is underlined, and the
text that follows. `front` stands before the glyphs of the first line, which
starts at `cs`. -/
def textLines (containers : List Container) :
    Nat → List Glyph → List Char → List TextLine × Option Nat × List Char
  | 0, _, cs => ([], none, cs)
  | fuel + 1, front, cs =>
    let (line, rest) := spanLine cs
    let (ending, after) := (lineEnding? rest).getD ([], rest)
    let here : TextLine := ⟨front ++ Glyph.ofChars line, ending.isEmpty, after⟩
    match nextLine containers after with
    | .stops => ([here], none, after)
    | .underlined level rest => ([here], some level, rest)
    | .text skipped next =>
      let (lines, level, rest) := textLines containers fuel [.lineEnd ending skipped] next
      (here :: lines, level, rest)

/-- The text of a paragraph without the blanks that do not show at its end. A
single blank in front of a line ending shows. -/
def paragraphText (lines : List TextLine) : List Glyph :=
  let glyphs := lines.flatMap (·.glyphs)
  let unended := (lines.getLast?.map (·.unended)).getD true
  let blanks := (glyphs.reverse.takeWhile fun g => isInlineBlank g.toChar).length
  if blanks = 1 && !unended then glyphs else glyphs.take (glyphs.length - blanks)

/-- The text of a heading that a line underlines: its lines without the blanks
at the end. -/
def headingText (lines : List TextLine) : List Glyph :=
  ((lines.flatMap (·.glyphs)).reverse.dropWhile fun g => isInlineBlank g.toChar).reverse

/-- The cells of a table row, at most `columns` of them, missing ones being
empty. -/
def tableRow (columns : Nat) (line : List Char) : List (List Glyph) :=
  let line := match line with
    | '|' :: rest => rest
    | _ => line
  let parts := rowParts line
  let parts := match parts.getLast? with
    | some part => if part.all blank then parts.dropLast else parts
    | none => parts
  let cells := parts.map fun part =>
    ((part.dropWhile blank).reverse.dropWhile blank).reverse
  (cells ++ List.replicate columns []).take columns
where
  blank (g : Glyph) : Bool := isInlineBlank g.toChar
  rowParts : List Char → List (List Glyph)
    | [] => [[]]
    | '\\' :: '|' :: rest => grow .cellPipe (rowParts rest)
    | '|' :: rest => [] :: rowParts rest
    | c :: rest => grow (.plain c) (rowParts rest)
  grow (g : Glyph) : List (List Glyph) → List (List Glyph)
    | part :: parts => (g :: part) :: parts
    | [] => [[g]]

/-- Whether a line of a table holds a cell, be it a blank one: there is
something else than blanks after its first pipe. -/
def holdsCell (line : List Char) : Bool :=
  let line := match line with
    | '|' :: rest => rest
    | _ => line
  line.any fun c => !isInlineBlank c

/-- The columns of a table whose header is the first line of a paragraph, and
what follows its delimiter row. -/
def tableStart? (containers : List Container) (line rest : List Char) :
    Option (List ColumnAlign × List Char) :=
  if hasPipe line then
    match lineEnding? rest with
    | some (_ :: _, next) =>
      ((matchAll? containers next).bind delimiterRow?).filter fun (columns, _) =>
        columns.length == headerCells line
    | _ => none
  else none

/-- The rows of a table, and what follows them. A list ends a table, whatever
number it starts at, and so does a line that holds a pipe and no cell. -/
def tableRows (containers : List Container) (columns : Nat) :
    Nat → List Char → List (List (List Glyph)) × List Char
  | 0, cs => ([], cs)
  | fuel + 1, cs =>
    match matchAll? containers cs with
    | none => ([], cs)
    | some p =>
      let row := p.rest.dropWhile fun c => c == ' ' || c == '\t'
      let (line, rest) := spanLine row
      if interruptsText false row || !holdsCell line then ([], cs)
      else
        let after := ((lineEnding? rest).map (·.2)).getD []
        let (rows, rest) := tableRows containers columns fuel after
        (tableRow columns line :: rows, rest)

/-- Reads a paragraph, or the heading or the table that it turns out to be. A
check box in front of a table is lost. -/
def readParagraph (s : Reading) (task : Option Bool) (cs : List Char) : Reading × List Char :=
  let containers := s.containers
  let marked := match task with
    | some checked => s.add (.taskMarker checked)
    | none => s
  let (line, rest) := spanLine cs
  match tableStart? containers line rest with
  | some (columns, body) =>
    let (rows, after) := tableRows containers columns.length body.length body
    (s.add (.table columns (tableRow columns.length line) rows), after)
  | none =>
    let (lines, level, rest) := textLines containers cs.length.succ [] cs
    match level with
    | some level => (marked.add (.heading level (headingText lines)), rest)
    | none => (marked.add (.paragraph (paragraphText lines)), rest)

/-- Reads a definition, if one starts here. -/
def readDefinition? (s : Reading) (cs : List Char) : Option (Reading × List Char) :=
  match cs with
  | '[' :: _ =>
    let (lines, _, _) := textLines s.containers cs.length.succ [] cs
    let glyphs := lines.flatMap (·.glyphs)
    (definition? glyphs).map fun ((label, target), rest) =>
      let ends (gs : List Glyph) := (gs.filter Glyph.isLineEnd).length
      let taken := if rest.isEmpty then lines.length else ends glyphs - ends rest
      let after := match lines[taken - 1]? with
        | some line => line.after
        | none => []
      ({ s with definitions := (label, target) :: s.definitions }, after)
  | _ => none

/-- The lines of an indented code block, latest first, each with whether it is
blank, and what follows them. The first line starts at `cs`. -/
def indentedLines (containers : List Container) :
    Nat → Cursor → Bool → List (List Char × Bool) → List (List Char × Bool) × List Char
  | 0, p, _, acc => (acc, p.rest)
  | fuel + 1, p, blank, acc =>
    let (line, next) := physicalLine p.rest
    let acc := (p.spareSpaces ++ verbatimLine line, blank) :: acc
    match matchAll? containers next with
    | none => (acc, next)
    | some q =>
      let (k, q) := q.indent 4
      if (k < 4 && !q.atLineEnd) || q.rest.isEmpty then (acc, next)
      else indentedLines containers fuel q (blankLine? q.rest).isSome acc

/-- Reads an indented code block. Blank lines at its end are no part of it. -/
def readIndented (s : Reading) (p : Cursor) : Reading × List Char :=
  let (lines, rest) := indentedLines s.containers p.rest.length.succ p false []
  let text := ((lines.dropWhile (·.2)).map (·.1)).reverse.flatten
  let blank := (lines.head?.map (·.2)).getD false
  ({ s.add (.code none (String.ofList text)) with afterBlank := blank }, rest)

/-- The text of a fenced code block and what follows it. -/
def fencedText (containers : List Container) (indent : Nat) (mark : Char) (n : Nat) :
    Nat → List Char → List Char × List Char
  | 0, cs => ([], cs)
  | fuel + 1, cs =>
    match matchAll? containers cs with
    | none => ([], cs)
    | some p =>
      let q := (p.indent indent).2
      let (k, r) := q.indent (4 - indent)
      match if k < 4 - indent then closesFence? mark n r.rest else none with
      | some rest => ([], skipBlankLine rest)
      | none =>
        let (line, next) := physicalLine q.rest
        let (text, rest) := fencedText containers indent mark n fuel next
        (q.spareSpaces ++ verbatimLine line ++ text, rest)

/-- Reads a fenced code block, `cs` being what follows its opening marks. -/
def readFenced (s : Reading) (indent : Nat) (mark : Char) (n : Nat) (cs : List Char) :
    Reading × List Char :=
  let (line, next) := physicalLine cs
  let info := dropEndWhile isAsciiBlank (line.dropWhile isInlineBlank)
  let (text, rest) := fencedText s.containers indent mark n next.length.succ next
  (s.add (.code (some (unescape (Glyph.ofChars info))) (String.ofList text)), rest)

/-- Whether a text holds a mark. -/
def holds (mark : List Char) : List Char → Bool
  | [] => mark.isEmpty
  | c :: cs => mark.isPrefixOf (c :: cs) || holds mark cs

/-- The lines of an HTML block and what follows them. With a closer the block
ends after the line that holds it, otherwise before the next blank line. -/
def htmlLines (containers : List Container) (closer : Option String) :
    Nat → Nat → List Char → List HtmlLine × List Char
  | 0, _, cs => ([], cs)
  | fuel + 1, indentation, cs =>
    let (line, next) := physicalLine cs
    let here : HtmlLine := ⟨indentation, String.ofList (verbatimLine line)⟩
    match matchAll? containers next with
    | none => ([here], next)
    | some p =>
      let ends := match closer with
        | some mark => holds mark.toList line || p.rest.isEmpty
        | none => (blankLine? p.rest).isSome
      if ends then ([here], next)
      else
        let (lines, rest) := htmlLines containers closer fuel p.spare p.rest
        (here :: lines, rest)

/-- The text of a metadata block and what follows it. A blank line after the
block goes with it. -/
def metadataText (containers : List Container) : Nat → List Char → List Char × List Char
  | 0, cs => ([], cs)
  | fuel + 1, cs =>
    match matchAll? containers cs with
    | none => ([], skipBlankLine cs)
    | some p =>
      match closesMetadata? cs with
      | some rest => ([], skipBlankLine rest)
      | none =>
        if cs.isEmpty then ([], [])
        else
          let (line, next) := physicalLine p.rest
          let (text, rest) := metadataText containers fuel next
          (p.spareSpaces ++ verbatimLine line ++ text, rest)

/-- Reads a heading that starts with `level` number signs, `cs` being what
follows them. A run of number signs at the end is no part of it. -/
def readHeading (s : Reading) (level : Nat) (cs : List Char) : Reading × List Char :=
  let (line, rest) := spanLine cs
  let after := ((lineEnding? rest).map (·.2)).getD []
  let line := dropEndWhile (· == ' ') (line.dropWhile isInlineBlank)
  let bare := dropEndWhile (· == '#') line
  let line :=
    if bare.isEmpty then []
    else if bare.getLast? = some ' ' then dropEndWhile (· == ' ') bare
    else line
  (s.add (.heading level (Glyph.ofChars line)), after)

/-- What the start of a line leads to: a block that is already complete, or
the place where the block inside the new containers starts. -/
inductive LineStart where
  | complete (s : Reading) (rest : List Char)
  | content (s : Reading) (p : Cursor)

/-- Opens the containers that start on a line, at most `fuel` of them. -/
def openContainers : Nat → Reading → Cursor → LineStart
  | 0, s, p => .content s p
  | fuel + 1, s, p =>
    let (outer, q) := p.indent 4
    if outer = 4 then .content s p
    else match listMarker? outer q with
      | some (m, r) =>
        let s := (s.continueList m).push (.item m.indent)
        match blankLine? r.rest with
        | some rest => .complete { s with emptyItem := true } rest
        | none =>
          match taskMarker? r with
          | some (checked, r) =>
            match blankLine? r.rest with
            | some rest => .complete { s.add (.taskMarker checked) with emptyItem := true } rest
            | none =>
              let (s, rest) := readParagraph s (some checked) (r.rest.dropWhile isInlineBlank)
              .complete s rest
          | none => openContainers fuel s r
      | none =>
        match quoteMarker? q with
        | some r => openContainers fuel (s.finishList.push .quote) r
        | none => .content s p

/-- Reads the block at a place inside all containers. -/
def readLeaf (s : Reading) (p : Cursor) : Reading × List Char :=
  match blankLine? p.rest with
  | some rest => (s.noteBlank, rest)
  | none =>
    let s := s.finishList
    let (indent, q) := p.indent 4
    let cs := q.rest
    let html (closer : Option String) :=
      let (lines, rest) := htmlLines s.containers closer cs.length.succ (max p.spare indent) cs
      (s.add (.html lines), rest)
    if indent = 4 then readIndented s q
    else if indent = 0 && opensMetadata cs then
      let (text, rest) := metadataText s.containers cs.length.succ (physicalLine cs).2
      (s.add (.metadata (String.ofList text)), rest)
    else match htmlStart? cs with
    | some closer => html closer
    | none =>
      match thematicBreak? cs with
      | some rest => (s.add .rule, rest)
      | none =>
        match atxLevel? cs with
        | some level => readHeading s level (cs.drop level)
        | none =>
          match fence? cs with
          | some (mark, n) => readFenced s indent mark n (cs.drop n)
          | none => (readDefinition? s cs).getD (readParagraph s none cs)
where
  htmlStart? (cs : List Char) : Option (Option String) :=
    match cs with
    | '<' :: rest =>
      match htmlCloser? rest with
      | some closer => some (some closer)
      | none => if startsBlockTag rest || startsLoneTag rest then some none else none
    | _ => none

/-- Reads one block from the start of a line. -/
def readBlock (s : Reading) (cs : List Char) : Reading × List Char :=
  let (n, p) := matchContainers s.containers (.ofLine cs)
  match openContainers cs.length.succ (s.popTo n) p with
  | .complete s rest => (s, rest)
  | .content s p => readLeaf s p

/-- Reads blocks to the end of the document, at most `fuel` of them. -/
def readBlocks : Nat → Reading → List Char → Reading
  | 0, s, _ => s
  | _, s, [] => s
  | fuel + 1, s, c :: cs =>
    let (s, rest) := readBlock s (c :: cs)
    readBlocks fuel s rest

end WikiSync.Markdown
