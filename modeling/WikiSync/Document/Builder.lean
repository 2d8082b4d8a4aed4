import WikiSync.Document.Node
import WikiSync.Markdown.Event
import WikiSync.Text.Blank

/-!
# Building Trees from Events

Folds a sequence of events into a document tree, together with the source of
its metadata block. Every sequence of events yields a tree, balanced or not:
an end without a start is passed over, and what is still open at the end is
closed.

On the way the content is brought into the shape that the rest of the library
expects:

- neighbouring texts are one text, and a soft break is a newline in it;
- neighbouring pieces of HTML of the same sort are one piece;
- inline content directly inside a list item is wrapped in a paragraph;
- the text alternative of an image is its flattened content;
- a code block does not end with the newline of its last line;
- a check box belongs to the innermost list item that is open.

Containers that the tree has no node for leave their children to the container
around them.

## Main definitions

* `Shell`: A container without its children.
* `Frame`: A container that is open, with what it holds so far.
* `Builder`: The state between two events.
* `Builder.handle`, `Builder.finish`: The fold.
* `treeOfEvents`: The tree and the metadata of a sequence of events.
-/

namespace WikiSync

open Markdown (Event Tag ColumnAlign)

/-- A container without its children. -/
inductive Shell where
  | paragraph
  | heading (depth : Nat)
  | emphasis
  | strong
  | strikethrough
  | list (start : Option Nat)
  | listItem (checked : Option Bool)
  | table (align : List (Option Align))
  | tableRow
  | tableCell
  | link (url : String) (title : Option String)
  | blockquote

/-- Whether a node is inline content. -/
def Node.isInline : Node → Bool
  | text _ | emphasis _ | strong _ | strikethrough _ | inlineCode _ | link _ _ _
  | image _ _ _ | .break => true
  | html _ inline => inline
  | _ => false

/-- A paragraph around a run of inline content, if there is any. -/
def wrapRun (run : List Node) : List Node :=
  if run.isEmpty then [] else [.paragraph run]

/-- Wraps each run of inline content in a paragraph; `run` is the one being
read. -/
def wrapInlineRunsFrom (run : List Node) : List Node → List Node
  | [] => wrapRun run
  | n :: ns =>
    if n.isInline then wrapInlineRunsFrom (run ++ [n]) ns
    else wrapRun run ++ n :: wrapInlineRunsFrom [] ns

/-- Wraps each run of inline content in a paragraph. -/
def wrapInlineRuns (nodes : List Node) : List Node :=
  wrapInlineRunsFrom [] nodes

/-- The node that a container becomes when it closes. -/
def Shell.fill (s : Shell) (children : List Node) : Node :=
  match s with
  | paragraph => .paragraph children
  | heading depth => .heading depth children
  | emphasis => .emphasis children
  | strong => .strong children
  | strikethrough => .strikethrough children
  | list start => .list start.isSome start children
  | listItem checked => .listItem checked (wrapInlineRuns children)
  | table align => .table align children
  | tableRow => .tableRow children
  | tableCell => .tableCell children
  | link url title => .link url title children
  | blockquote => .blockquote children

/-- A container that is open. Children are kept latest first. -/
inductive Frame where
  | container (shell : Shell) (children : List Node)
  | code (lang : Option String) (value : String)
  | image (url : String) (title : Option String) (alt : String)
  /-- A container that leaves its children to the one around it. -/
  | splice (children : List Node)
  | metadata (source : String)

/-- The state between two events: the open containers, innermost first, the
children of the root, latest first, and the last metadata block. -/
structure Builder where
  frames : List Frame
  children : List Node
  metadata : Option String

/-- Adds a node after its siblings, which are kept latest first, merging it
into the one before it if both are text or both are HTML of the same sort. -/
def appendMerged (siblings : List Node) (n : Node) : List Node :=
  match n, siblings with
  | .text value, .text before :: rest => .text (before ++ value) :: rest
  | .html value inline, .html before inline' :: rest =>
    if inline = inline' then .html (before ++ value) inline :: rest else n :: siblings
  | _, _ => n :: siblings

/-- A text that may be absent. -/
def nonEmpty? (s : String) : Option String :=
  if s.isEmpty then none else some s

/-- The alignment of a column, if it declares one. -/
def alignOfColumn : ColumnAlign → Option Align
  | .unset => none
  | .left => some .left
  | .center => some .center
  | .right => some .right

/-- A text without the newline at its end. -/
def dropFinalNewline (s : String) : String :=
  if s.endsWith "\n" then String.ofList s.toList.dropLast else s

/-- The frame that a container opens. The language of a code block is the
first word after its fence. -/
def Frame.ofTag : Tag → Frame
  | .paragraph => .container .paragraph []
  | .heading level => .container (.heading level) []
  | .blockQuote => .container .blockquote []
  | .codeBlock info => .code (info.bind Text.firstWord?) ""
  | .list start => .container (.list start) []
  | .item => .container (.listItem none) []
  | .table columns => .container (.table (columns.map alignOfColumn)) []
  | .tableHead | .tableRow => .container .tableRow []
  | .tableCell => .container .tableCell []
  | .emphasis => .container .emphasis []
  | .strong => .container .strong []
  | .strikethrough => .container .strikethrough []
  | .link mail url title =>
    .container (.link (if mail then "mailto:" ++ url else url) (nonEmpty? title)) []
  | .image url title => .image url (nonEmpty? title) ""
  | .metadata => .metadata ""
  | .other => .splice []

namespace Builder

/-- Nothing read yet. -/
def start : Builder :=
  ⟨[], [], none⟩

/-- Adds a finished node to the innermost open container. An image keeps its
text only; code and metadata take no nodes. -/
def push (b : Builder) (n : Node) : Builder :=
  match b.frames with
  | [] => { b with children := appendMerged b.children n }
  | .container shell children :: rest =>
    { b with frames := .container shell (appendMerged children n) :: rest }
  | .splice children :: rest => { b with frames := .splice (appendMerged children n) :: rest }
  | .image url title alt :: rest =>
    { b with frames := .image url title (alt ++ n.plainText) :: rest }
  | .code _ _ :: _ | .metadata _ :: _ => b

/-- Adds text. -/
def text (b : Builder) (value : String) : Builder :=
  match b.frames with
  | .code lang before :: rest => { b with frames := .code lang (before ++ value) :: rest }
  | .image url title alt :: rest => { b with frames := .image url title (alt ++ value) :: rest }
  | .metadata source :: rest => { b with frames := .metadata (source ++ value) :: rest }
  | _ => b.push (.text value)

/-- Opens a container. -/
def enter (b : Builder) (tag : Tag) : Builder :=
  { b with frames := .ofTag tag :: b.frames }

/-- Closes the innermost container, if one is open. -/
def leave (b : Builder) : Builder :=
  match b.frames with
  | [] => b
  | f :: rest =>
    let outer := { b with frames := rest }
    match f with
    | .container shell children => outer.push (shell.fill children.reverse)
    | .code lang value => outer.push (.code lang (dropFinalNewline value))
    | .image url title alt => outer.push (.image url alt title)
    | .splice children => children.reverse.foldl push outer
    | .metadata source => { outer with metadata := some source }

/-- Sets the check box of the innermost list item among the open containers. -/
def markTask (checked : Bool) : List Frame → List Frame
  | [] => []
  | .container (.listItem _) children :: rest =>
    .container (.listItem (some checked)) children :: rest
  | f :: rest => f :: markTask checked rest

/-- Takes in one event. -/
def handle (b : Builder) : Event → Builder
  | .enter tag => b.enter tag
  | .leave => b.leave
  | .text value => b.text value
  | .code value => b.push (.inlineCode value)
  | .html value => b.push (.html value false)
  | .inlineHtml value => b.push (.html value true)
  | .softBreak => b.text "\n"
  | .hardBreak => b.push .break
  | .rule => b.push .thematicBreak
  | .taskMarker checked => { b with frames := markTask checked b.frames }
  | .other => b

/-- Closes what is still open: the tree and the source of the last metadata
block. -/
def finish (b : Builder) : Node × Option String :=
  let closed := (List.range b.frames.length).foldl (fun b _ => b.leave) b
  (.root closed.children.reverse, closed.metadata)

end Builder

/-- The tree and the metadata of a sequence of events. -/
def treeOfEvents (events : List Event) : Node × Option String :=
  (events.foldl Builder.handle .start).finish

end WikiSync
