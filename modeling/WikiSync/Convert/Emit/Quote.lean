import WikiSync.Convert.Emit.Block
import WikiSync.Storage.Macro
import WikiSync.Text.Blank

/-!
# Emitting Quotes

A quote whose first paragraph starts with a tag such as `[!NOTE]` is a callout
and becomes a macro. The tag and the white space after it are taken off. A text
that is then empty is dropped, and so is a paragraph.

## Main definitions

* `calloutTags`: The tags and the macros they become.
* `stripTag?`: Takes a tag off a text.
* `callout?`: The macro of a quote and what it holds.
* `quote`: The renderer.
-/

namespace WikiSync.Emit

/-- The tags of callouts and the macros they become. -/
def calloutTags : List (String × String) :=
  [("NOTE", "info"), ("WARNING", "warning"), ("TIP", "tip"), ("IMPORTANT", "note"),
    ("CAUTION", "warning")]

/-- Takes a tag, in any letter case, off the front of a text, together with
the white space after it. -/
def stripTag? (text tag : String) : Option (List Char) :=
  match text.toList with
  | '[' :: '!' :: rest =>
    if (rest.take tag.length).map Char.toUpper = tag.toList then
      match rest.drop tag.length with
      | ']' :: after => some (after.dropWhile Text.isBlankChar)
      | _ => none
    else none
  | _ => none

/-- The macro of the tag that a text starts with, and the text without it. -/
def calloutText? (text : String) : Option (String × String) :=
  calloutTags.findSome? fun (tag, name) =>
    (stripTag? text tag).map fun rest => (name, String.ofList rest)

/-- Puts a text in front of inline content, unless it is empty. -/
def prependText (text : String) (inline : List Node) : List Node :=
  if text.isEmpty then inline else .text text :: inline

/-- Puts a paragraph in front of content, unless it is empty. -/
def prependParagraph (inline content : List Node) : List Node :=
  if inline.isEmpty then content else .paragraph inline :: content

/-- The macro of a quote that is a callout, and what it holds. -/
def callout? (content : List Node) : Option (String × List Node) :=
  match content with
  | .paragraph (.text value :: more) :: rest =>
    (calloutText? value).map fun (name, stripped) =>
      (name, prependParagraph (prependText stripped more) rest)
  | _ => none

theorem size_text (value : String) : (Node.text value).size = 1 := by
  rw [Node.size_eq]
  rfl

theorem size_paragraph (inline : List Node) :
    (Node.paragraph inline).size = 1 + Node.totalSize inline :=
  Node.size_eq _

theorem totalSize_prependText (text : String) (inline : List Node) :
    Node.totalSize (prependText text inline) ≤ 1 + Node.totalSize inline := by
  rw [prependText]
  split
  · omega
  · exact Nat.le_of_eq (by rw [Node.totalSize_cons, size_text])

theorem totalSize_prependParagraph (inline content : List Node) :
    Node.totalSize (prependParagraph inline content) ≤
      1 + Node.totalSize inline + Node.totalSize content := by
  rw [prependParagraph]
  split
  · omega
  · exact Nat.le_of_eq (by rw [Node.totalSize_cons, size_paragraph])

/-- What a callout holds is no larger than the quote's own content. -/
theorem size_le_of_mem_callout {content inner : List Node} {name : String} {n : Node}
    (h : callout? content = some (name, inner)) (hn : n ∈ inner) :
    n.size ≤ Node.totalSize content := by
  unfold callout? at h
  split at h
  · next value more rest =>
    obtain ⟨⟨name', stripped⟩, -, hinner⟩ := Option.map_eq_some_iff.1 h
    simp only [Prod.mk.injEq] at hinner
    obtain ⟨-, rfl⟩ := hinner
    have hsize := Node.size_le_totalSize hn
    have hparagraph := totalSize_prependParagraph (prependText stripped more) rest
    have htext := totalSize_prependText stripped more
    rw [Node.totalSize_cons, size_paragraph, Node.totalSize_cons, size_text]
    omega
  · cases h

/-- Renders a quote. -/
def quote : Renderer := fun n ctx below =>
  match h : callout? n.children with
  | some (name, inner) => do
    let body ← below.convertAll inner fun m hm => by
      have := size_le_of_mem_callout h hm
      rw [Node.size_eq n]
      omega
    pure (Storage.structuredMacro name [] (some body))
  | none => wrapped "blockquote" n ctx below

end WikiSync.Emit
