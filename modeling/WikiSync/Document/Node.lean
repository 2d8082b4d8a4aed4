/-!
# Document Trees

A document as a tree of nodes, the form that is converted to wiki markup.
Containers hold their children in document order; leaves carry their literal
content. Nothing keeps a container from holding any kind of child, so whoever
reads a tree has to make sense of every shape.

## Main definitions

* `Node`: A node of the tree.
* `Kind`: What a node is, apart from its content.
* `Node.children?`: The children of a container.
* `Node.plainText`: The literal text below a node.
* `Node.walk`: A node and everything below it, in document order.
-/

namespace WikiSync

/-- The alignment of a table column. -/
inductive Align where
  | left
  | center
  | right
deriving DecidableEq, Repr

/-- The word that a style sheet uses for an alignment. -/
def Align.css : Align → String
  | left => "left"
  | center => "center"
  | right => "right"

/-- What a node is, apart from its content. -/
inductive Kind where
  | root
  | paragraph
  | heading
  | text
  | emphasis
  | strong
  | strikethrough
  | inlineCode
  | code
  | list
  | listItem
  | table
  | tableRow
  | tableCell
  | link
  | image
  | blockquote
  | break
  | thematicBreak
  | html
deriving DecidableEq, Repr

/-- A node of a document tree. -/
inductive Node where
  | root (children : List Node)
  | paragraph (children : List Node)
  | heading (depth : Nat) (children : List Node)
  | text (value : String)
  | emphasis (children : List Node)
  | strong (children : List Node)
  | strikethrough (children : List Node)
  | inlineCode (value : String)
  | code (lang : Option String) (value : String)
  | list (ordered : Bool) (start : Option Nat) (children : List Node)
  /-- A list item; a task has the state of its check box. -/
  | listItem (checked : Option Bool) (children : List Node)
  /-- A table; column `i` is aligned by entry `i`, if there is one. -/
  | table (align : List (Option Align)) (children : List Node)
  | tableRow (children : List Node)
  | tableCell (children : List Node)
  | link (url : String) (title : Option String) (children : List Node)
  | image (url : String) (alt : String) (title : Option String)
  | blockquote (children : List Node)
  | break
  | thematicBreak
  /-- Raw HTML; `inline` marks a fragment inside a paragraph. -/
  | html (value : String) (inline : Bool)
deriving Inhabited, Repr

namespace Kind

/-- Every kind, in the order in which they are listed. -/
def all : List Kind :=
  [root, paragraph, heading, text, emphasis, strong, strikethrough, inlineCode, code, list,
    listItem, table, tableRow, tableCell, link, image, blockquote, .break, thematicBreak, html]

/-- The name of a kind in messages. -/
def name : Kind → String
  | root => "Root"
  | paragraph => "Paragraph"
  | heading => "Heading"
  | text => "Text"
  | emphasis => "Emphasis"
  | strong => "Strong"
  | strikethrough => "Strikethrough"
  | inlineCode => "InlineCode"
  | code => "Code"
  | list => "List"
  | listItem => "ListItem"
  | table => "Table"
  | tableRow => "TableRow"
  | tableCell => "TableCell"
  | link => "Link"
  | image => "Image"
  | blockquote => "Blockquote"
  | .break => "Break"
  | thematicBreak => "ThematicBreak"
  | html => "Html"

end Kind

namespace Node

/-- What a node is. -/
def kind : Node → Kind
  | root _ => .root
  | paragraph _ => .paragraph
  | heading _ _ => .heading
  | text _ => .text
  | emphasis _ => .emphasis
  | strong _ => .strong
  | strikethrough _ => .strikethrough
  | inlineCode _ => .inlineCode
  | code _ _ => .code
  | list _ _ _ => .list
  | listItem _ _ => .listItem
  | table _ _ => .table
  | tableRow _ => .tableRow
  | tableCell _ => .tableCell
  | link _ _ _ => .link
  | image _ _ _ => .image
  | blockquote _ => .blockquote
  | .break => .break
  | thematicBreak => .thematicBreak
  | html _ _ => .html

/-- The children of a container; a leaf has none to speak of. -/
def children? : Node → Option (List Node)
  | root cs | paragraph cs | heading _ cs | emphasis cs | strong cs | strikethrough cs
  | list _ _ cs | listItem _ cs | table _ cs | tableRow cs | tableCell cs | link _ _ cs
  | blockquote cs => some cs
  | text _ | inlineCode _ | code _ _ | image _ _ _ | .break | thematicBreak | html _ _ => none

/-- The children of a node, none for a leaf. -/
def children (n : Node) : List Node :=
  n.children?.getD []

/-- The children of a node are smaller than the node. -/
theorem sizeOf_lt_of_mem_children {c n : Node} (h : c ∈ n.children) : sizeOf c < sizeOf n := by
  have key (cs : List Node) (hc : c ∈ cs) : sizeOf c < sizeOf cs := List.sizeOf_lt_of_mem hc
  cases n <;> simp only [children, children?, Option.getD_some, Option.getD_none,
    List.not_mem_nil] at h
  all_goals
    have := key _ h
    simp
    omega

/-- The literal text that a leaf contributes to `plainText`. -/
def ownText : Node → String
  | text value | inlineCode value | code _ value => value
  | image _ alt _ => alt
  | _ => ""

/-- The literal text of a node and everything below it, in document order. -/
def plainText (n : Node) : String :=
  n.ownText ++ String.join (n.children.attach.map fun ⟨c, _⟩ => c.plainText)
termination_by sizeOf n
decreasing_by exact sizeOf_lt_of_mem_children ‹_›

/-- A node and everything below it, in document order. -/
def walk (n : Node) : List Node :=
  n :: n.children.attach.flatMap fun ⟨c, _⟩ => c.walk
termination_by sizeOf n
decreasing_by exact sizeOf_lt_of_mem_children ‹_›

end Node

end WikiSync
