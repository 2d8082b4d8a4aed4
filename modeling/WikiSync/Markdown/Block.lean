import WikiSync.Markdown.Glyph

/-!
# Blocks

The blocks of a document, before the inline syntax inside them is read. It
cannot be read earlier, because a label may be defined anywhere in the
document.

## Main definitions

* `ColumnAlign`: The alignment of a table column.
* `Block`: A block.
-/

namespace WikiSync.Markdown

/-- The alignment that a table declares for a column. -/
inductive ColumnAlign where
  | unset
  | left
  | center
  | right
deriving DecidableEq, Repr

/-- A line of an HTML block: the columns of indentation in front of it, where
they are not part of its text, and the text. -/
structure HtmlLine where
  indentation : Nat
  text : String

/-- A block. The text of a heading, a paragraph or a table cell is kept as
glyphs. -/
inductive Block where
  | paragraph (text : List Glyph)
  | heading (level : Nat) (text : List Glyph)
  | quote (content : List Block)
  /-- A list; an ordered one has the number of its first item. In a tight
  list, paragraphs directly inside an item are shown as bare text. -/
  | list (start : Option Nat) (tight : Bool) (items : List Block)
  | item (content : List Block)
  /-- The check box of the item it stands in. -/
  | taskMarker (checked : Bool)
  /-- A code block; a fenced one has the words after its fence. -/
  | code (info : Option String) (text : String)
  | html (lines : List HtmlLine)
  | table (columns : List ColumnAlign) (header : List (List Glyph))
      (rows : List (List (List Glyph)))
  | rule
  /-- A metadata block, without its fences. -/
  | metadata (text : String)

end WikiSync.Markdown
