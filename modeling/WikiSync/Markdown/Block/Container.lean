import WikiSync.Markdown.Block.Opener
import WikiSync.Markdown.Link

/-!
# Containers

The quotes and list items that are open while a document is read. Each line
has to show the marker of a quote or the indentation of an item to stay inside
it; what is left after that is judged on its own. A paragraph may also go on
without the markers, as long as nothing in the line starts another block.

`Reading` is the state between two blocks: the open containers with what they
hold so far, and two notes that decide whether a list is tight. It also holds
the definitions met so far.

## Main definitions

* `Container`: A quote, a list or a list item.
* `matchContainers`: How many containers a line stays inside.
* `Reading`: The state between two blocks.
* `Reading.finishList`, `Reading.continueList`: What a new block does to the
  lists that are open.
-/

namespace WikiSync.Markdown

/-- A block that holds blocks. -/
inductive Container where
  | quote
  | list (start : Option Nat) (delimiter : Char) (tight : Bool)
  | item (indent : Nat)
deriving DecidableEq

/-- Takes the marker of a quote: an angle bracket and one column after it. -/
def quoteMarker? (p : Cursor) : Option Cursor :=
  match p.rest with
  | '>' :: _ => some ((p.advance 1).indent 1).2
  | _ => none

/-- Takes what a line shows to stay inside a container. A line with nothing
left on it stays inside an item whatever its indentation. -/
def Container.continue? (c : Container) (p : Cursor) : Option Cursor :=
  match c with
  | .quote => quoteMarker? (p.indent 3).2
  | .list .. => some p
  | .item indent =>
    let (k, q) := p.indent indent
    if k = indent ∨ q.atLineEnd then some q else none

/-- How many of the containers, outermost first, a line stays inside, and
where the line goes on. -/
def matchContainers : List Container → Cursor → Nat × Cursor
  | [], p => (0, p)
  | c :: cs, p =>
    match c.continue? p with
    | none => (0, p)
    | some q =>
      let (n, r) := matchContainers cs q
      (n + 1, r)

/-- Where a line goes on that stays inside all containers. -/
def matchAll? (containers : List Container) (line : List Char) : Option Cursor :=
  let (n, p) := matchContainers containers (.ofLine line)
  if n = containers.length then some p else none

/-- An open container and the blocks it holds so far, latest first. -/
structure Open where
  container : Container
  content : List Block

/-- The block that a container becomes when it closes. -/
def Open.toBlock (o : Open) : Block :=
  match o.container with
  | .quote => .quote o.content.reverse
  | .list start _ tight => .list start tight o.content.reverse
  | .item _ => .item o.content.reverse

/-- The state between two blocks. -/
structure Reading where
  /-- The open containers, innermost first. -/
  frames : List Open
  /-- The finished blocks at the top, latest first. -/
  blocks : List Block
  /-- Whether the line before was blank and stood in something other than a
  quote. -/
  afterBlank : Bool
  /-- Whether the last item started with a blank line and is still empty. -/
  emptyItem : Bool
  /-- The definitions, latest first. -/
  definitions : List (Label × Target)

namespace Reading

/-- Nothing read yet. -/
def start : Reading :=
  ⟨[], [], false, false, []⟩

/-- The open containers, outermost first. -/
def containers (s : Reading) : List Container :=
  (s.frames.map (·.container)).reverse

/-- Adds a block to the innermost container. -/
def add (s : Reading) (b : Block) : Reading :=
  match s.frames with
  | [] => { s with blocks := b :: s.blocks }
  | f :: rest => { s with frames := { f with content := b :: f.content } :: rest }

/-- Opens a container. -/
def push (s : Reading) (c : Container) : Reading :=
  { s with frames := ⟨c, []⟩ :: s.frames }

/-- Closes the innermost container. -/
def pop (s : Reading) : Reading :=
  match s.frames with
  | [] => s
  | f :: rest =>
    let s := ({ s with frames := rest }).add f.toBlock
    match f.container with
    | .list _ _ true => { s with emptyItem := false }
    | _ => s

/-- Closes containers until at most `n` are open. -/
def popTo (s : Reading) (n : Nat) : Reading :=
  (List.range (s.frames.length - n)).foldl (fun s _ => s.pop) s

/-- Gives up on an item that is still empty after a blank line. -/
def finishEmptyItem (s : Reading) : Reading :=
  let s :=
    match s.frames with
    | ⟨.item _, _⟩ :: _ => if s.emptyItem && s.afterBlank then s.pop else s
    | _ => s
  { s with emptyItem := false }

/-- Makes a list loose. -/
def loosen (o : Open) : Open :=
  match o.container with
  | .list start delimiter _ => { o with container := .list start delimiter false }
  | _ => o

/-- Makes ready for a block that is no list item: a list that is open right
here ends, and a blank line inside an item loosens its list. -/
def finishList (s : Reading) : Reading :=
  let s := s.finishEmptyItem
  let s :=
    match s.frames with
    | ⟨.list .., _⟩ :: _ => s.pop
    | _ => s
  if s.afterBlank then
    let frames := match s.frames with
      | f :: g :: rest => f :: loosen g :: rest
      | frames => frames
    { s with frames, afterBlank := false }
  else s

/-- Makes ready for a list item: goes on with the list that is open right
here, if its items are marked in the same way, or opens a new one. A blank line
between two items loosens their list. -/
def continueList (s : Reading) (m : ListMarker) : Reading :=
  let s := s.finishEmptyItem
  let fresh (s : Reading) : Reading :=
    { s.push (.list m.number m.delimiter true) with afterBlank := false }
  match s.frames with
  | f :: rest =>
    match f.container with
    | .list _ delimiter _ =>
      if delimiter = m.delimiter then
        if s.afterBlank then { s with frames := loosen f :: rest, afterBlank := false } else s
      else fresh s.finishList
    | _ => fresh s.finishList
  | [] => fresh s

/-- Takes note of a blank line. An item that started with one and is still
empty can hold nothing more, so its indentation no longer counts. -/
def noteBlank (s : Reading) : Reading :=
  match s.frames with
  | [] => s
  | ⟨.quote, _⟩ :: _ => s
  | ⟨.item indent, content⟩ :: rest =>
    let indent := if s.emptyItem then 0 else indent
    { s with frames := ⟨.item indent, content⟩ :: rest, afterBlank := true }
  | _ => { s with afterBlank := true }

/-- The definitions, the first one of a label in front. -/
def references (s : Reading) : References :=
  s.definitions.reverse

/-- Closes everything. -/
def finish (s : Reading) : List Block :=
  (s.popTo 0).blocks.reverse

end Reading

end WikiSync.Markdown
