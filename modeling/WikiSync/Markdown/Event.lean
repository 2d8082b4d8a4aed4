import WikiSync.Markdown.Block.Reader
import WikiSync.Markdown.Inline.Reader

/-!
# Events

A document as a flat sequence of events, the form in which it is handed on.
Containers are bracketed by a start and an end; everything else is one event.
The paragraphs of a tight list are not bracketed, so their content stands
directly in the list item.

Nothing in the type says that starts and ends match. A reader of events has to
cope with any sequence of them.

## Main definitions

* `Tag`: What a bracketed container is.
* `Event`: One event.
* `readEvents`: The events of a document.
-/

namespace WikiSync.Markdown

/-- What a container is. -/
inductive Tag where
  | paragraph
  | heading (level : Nat)
  | blockQuote
  /-- A code block, with the words after its fence if it has one. -/
  | codeBlock (info : Option String)
  /-- A list, with its first number if it is ordered. -/
  | list (start : Option Nat)
  | item
  | table (columns : List ColumnAlign)
  | tableHead
  | tableRow
  | tableCell
  | emphasis
  | strong
  | strikethrough
  /-- A link; `mail` marks a mail address between angle brackets. -/
  | link (mail : Bool) (url title : String)
  | image (url title : String)
  | metadata
  /-- Any other container, such as a block of HTML. -/
  | other
deriving DecidableEq, Repr

/-- One event. -/
inductive Event where
  | enter (tag : Tag)
  | leave
  | text (value : String)
  | code (value : String)
  | html (value : String)
  | inlineHtml (value : String)
  | softBreak
  | hardBreak
  | rule
  | taskMarker (checked : Bool)
  /-- Any other event, such as a reference to a footnote. -/
  | other
deriving DecidableEq, Repr

/-- The events of a container, given those of its content. -/
def Event.bracket (tag : Tag) (content : List Event) : List Event :=
  .enter tag :: content ++ [.leave]

mutual

/-- The events of a piece of inline content. -/
def Inline.events : Inline → List Event
  | .text value => [.text value]
  | .code value => [.code value]
  | .html value => [.inlineHtml value]
  | .softBreak => [.softBreak]
  | .hardBreak => [.hardBreak]
  | .emphasis content => Event.bracket .emphasis (Inline.eventsAll content)
  | .strong content => Event.bracket .strong (Inline.eventsAll content)
  | .strikethrough content => Event.bracket .strikethrough (Inline.eventsAll content)
  | .link mail url title content => Event.bracket (.link mail url title) (Inline.eventsAll content)
  | .image url title content => Event.bracket (.image url title) (Inline.eventsAll content)

/-- The events of inline content. -/
def Inline.eventsAll : List Inline → List Event
  | [] => []
  | i :: is => i.events ++ Inline.eventsAll is

end

/-- The events of a text. -/
def textEvents (refs : References) (gs : List Glyph) : List Event :=
  Inline.eventsAll (readInline refs gs)

/-- The events of a line of HTML. Its indentation counts as text. -/
def HtmlLine.events (l : HtmlLine) : List Event :=
  if l.indentation = 0 then [.html l.text]
  else [.text (String.ofList (List.replicate l.indentation ' ')), .html l.text]

/-- The events of the cells of a table row. -/
def rowEvents (refs : References) (cells : List (List Glyph)) : List Event :=
  cells.flatMap fun cell => Event.bracket .tableCell (textEvents refs cell)

mutual

/-- The events of a block; `bare` holds directly inside the items of a tight
list. -/
def Block.events (refs : References) (bare : Bool) : Block → List Event
  | .paragraph text =>
    if bare then textEvents refs text else Event.bracket .paragraph (textEvents refs text)
  | .heading level text => Event.bracket (.heading level) (textEvents refs text)
  | .quote content => Event.bracket .blockQuote (Block.eventsAll refs false content)
  | .list start tight items => Event.bracket (.list start) (Block.eventsAll refs tight items)
  | .item content => Event.bracket .item (Block.eventsAll refs bare content)
  | .taskMarker checked => [.taskMarker checked]
  | .code info text => Event.bracket (.codeBlock info) (if text.isEmpty then [] else [.text text])
  | .html lines => Event.bracket .other (lines.flatMap HtmlLine.events)
  | .table columns header rows =>
    Event.bracket (.table columns)
      (Event.bracket .tableHead (rowEvents refs header) ++
        rows.flatMap fun row => Event.bracket .tableRow (rowEvents refs row))
  | .rule => [.rule]
  | .metadata text => Event.bracket .metadata (if text.isEmpty then [] else [.text text])

/-- The events of blocks. -/
def Block.eventsAll (refs : References) (bare : Bool) : List Block → List Event
  | [] => []
  | b :: bs => b.events refs bare ++ Block.eventsAll refs bare bs

end

/-- The events of a document. -/
def readEvents (text : String) : List Event :=
  let cs := text.toList
  let reading := readBlocks cs.length .start cs
  Block.eventsAll reading.references false reading.finish

end WikiSync.Markdown
