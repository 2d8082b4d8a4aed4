import WikiSync.Document.Parse
import WikiSync.Proofs.Document.EventText

/-!
# The Text of Documents

What is asked of events, that code and metadata hold text and nothing else, is kept by
the events of every document. So the tree of a document has the text of its events,
whatever the document is.

A code block and a metadata block are written as a start, at most one text, and an end.
All else opens no such block, or closes those it opens. This is what passes from
content to containers and from one block to the next (`ClosesVerbatim`), where the
condition itself would not: what may follow a start depends on what is put behind it.

## Main definitions

* `Markdown.ClosesVerbatim`: Events that close the verbatim blocks they open.

## Theorems

* `Markdown.ClosesVerbatim.append`, `Markdown.ClosesVerbatim.bracket`: Putting events
  together.
* `Markdown.Inline.closesVerbatim_events`, `Markdown.Block.closesVerbatim_events`: What
  a document consists of.
* `Markdown.verbatimHoldsText_readEvents`: The events of a document.
* `Document.plainText_read`: The text of a document.
-/

namespace WikiSync

open Markdown (Event Tag)

namespace Markdown

/-- Events that close the verbatim blocks they open. -/
def ClosesVerbatim (es : List Event) : Prop :=
  ∀ rest, VerbatimHoldsText rest → VerbatimHoldsText (es ++ rest)

theorem closesVerbatim_nil : ClosesVerbatim [] :=
  fun _ h => h

theorem ClosesVerbatim.append {es fs : List Event} (hes : ClosesVerbatim es)
    (hfs : ClosesVerbatim fs) : ClosesVerbatim (es ++ fs) := by
  intro rest h
  rw [List.append_assoc]
  exact hes _ (hfs rest h)

theorem closesVerbatim_flatMap {α : Type} {f : α → List Event} {xs : List α}
    (h : ∀ x ∈ xs, ClosesVerbatim (f x)) : ClosesVerbatim (xs.flatMap f) := by
  induction xs with
  | nil => exact closesVerbatim_nil
  | cons x xs ih =>
    rw [List.forall_mem_cons] at h
    rw [List.flatMap_cons]
    exact h.1.append (ih h.2)

theorem closesVerbatim_singleton {e : Event} (h : ∀ tag, e ≠ .enter tag) : ClosesVerbatim [e] := by
  intro rest hrest
  cases e with
  | enter tag => exact absurd rfl (h tag)
  | leave | text _ | code _ | html _ | inlineHtml _ | softBreak | hardBreak | rule | taskMarker _
  | other => exact hrest

theorem ClosesVerbatim.bracket {tag : Tag} (htag : tag.isVerbatim = false) {content : List Event}
    (h : ClosesVerbatim content) : ClosesVerbatim (Event.bracket tag content) := by
  intro rest hrest
  have hend : ClosesVerbatim [.leave] := closesVerbatim_singleton nofun
  rw [Event.bracket, List.cons_append, List.cons_append]
  -- What is asked of the start is asked of verbatim blocks only.
  exact ⟨fun hverbatim => absurd (htag.symm.trans hverbatim) Bool.false_ne_true,
    (h.append hend) rest hrest⟩

/-- A verbatim block with its text. -/
theorem closesVerbatim_verbatim (tag : Tag) (text : String) :
    ClosesVerbatim (Event.bracket tag (if text.isEmpty then [] else [.text text])) := by
  intro rest hrest
  rw [Event.bracket, List.append_assoc, List.cons_append]
  split
  · exact ⟨fun _ e he => (Option.some.inj he).symm, hrest⟩
  · exact ⟨fun _ e he => (Option.some.inj he).symm, hrest⟩

/-! ### Inline content -/

mutual

theorem Inline.closesVerbatim_events (i : Inline) : ClosesVerbatim i.events := by
  cases i with
  | text | code | html | softBreak | hardBreak =>
    rw [Inline.events]
    exact closesVerbatim_singleton nofun
  | emphasis content | strong content | strikethrough content | link _ _ _ content
  | image _ _ content =>
    rw [Inline.events]
    exact (Inline.closesVerbatim_eventsAll content).bracket rfl

theorem Inline.closesVerbatim_eventsAll (is : List Inline) :
    ClosesVerbatim (Inline.eventsAll is) := by
  cases is with
  | nil =>
    rw [Inline.eventsAll]
    exact closesVerbatim_nil
  | cons i is =>
    rw [Inline.eventsAll]
    exact (Inline.closesVerbatim_events i).append (Inline.closesVerbatim_eventsAll is)

end

/-! ### Blocks -/

theorem closesVerbatim_rowEvents (refs : References) (cells : List (List Glyph)) :
    ClosesVerbatim (rowEvents refs cells) :=
  closesVerbatim_flatMap fun _ _ => (Inline.closesVerbatim_eventsAll _).bracket rfl

theorem HtmlLine.closesVerbatim_events (l : HtmlLine) : ClosesVerbatim l.events := by
  unfold HtmlLine.events
  split
  · exact closesVerbatim_singleton nofun
  · exact (closesVerbatim_singleton (e := .text _) nofun).append (closesVerbatim_singleton nofun)

mutual

theorem Block.closesVerbatim_events (refs : References) (bare : Bool) (b : Block) :
    ClosesVerbatim (b.events refs bare) := by
  cases b with
  | paragraph text =>
    rw [Block.events]
    split
    · exact Inline.closesVerbatim_eventsAll _
    · exact (Inline.closesVerbatim_eventsAll _).bracket rfl
  | heading level text =>
    rw [Block.events]
    exact (Inline.closesVerbatim_eventsAll _).bracket rfl
  | quote content =>
    rw [Block.events]
    exact (Block.closesVerbatim_eventsAll refs false content).bracket rfl
  | list start tight items =>
    rw [Block.events]
    exact (Block.closesVerbatim_eventsAll refs tight items).bracket rfl
  | item content =>
    rw [Block.events]
    exact (Block.closesVerbatim_eventsAll refs bare content).bracket rfl
  | taskMarker checked | rule =>
    rw [Block.events]
    exact closesVerbatim_singleton nofun
  | code info text =>
    rw [Block.events]
    exact closesVerbatim_verbatim _ text
  | metadata text =>
    rw [Block.events]
    exact closesVerbatim_verbatim _ text
  | html lines =>
    rw [Block.events]
    exact (closesVerbatim_flatMap fun l _ => l.closesVerbatim_events).bracket rfl
  | table columns header rows =>
    rw [Block.events]
    have hheader := (closesVerbatim_rowEvents refs header).bracket
      (rfl : Tag.tableHead.isVerbatim = false)
    have hrow := fun row => (closesVerbatim_rowEvents refs row).bracket
      (rfl : Tag.tableRow.isVerbatim = false)
    exact (hheader.append (closesVerbatim_flatMap fun row _ => hrow row)).bracket rfl

theorem Block.closesVerbatim_eventsAll (refs : References) (bare : Bool) (bs : List Block) :
    ClosesVerbatim (Block.eventsAll refs bare bs) := by
  cases bs with
  | nil =>
    rw [Block.eventsAll]
    exact closesVerbatim_nil
  | cons b bs =>
    rw [Block.eventsAll]
    exact (Block.closesVerbatim_events refs bare b).append
      (Block.closesVerbatim_eventsAll refs bare bs)

end

/-- The events of a document keep to what is asked of events. -/
theorem verbatimHoldsText_readEvents (text : String) : VerbatimHoldsText (readEvents text) := by
  unfold readEvents
  have hall := fun refs blocks => Block.closesVerbatim_eventsAll refs false blocks [] trivial
  simp only [List.append_nil] at hall
  exact hall _ _

end Markdown

/-! ### Documents -/

/-- So a document has the text of its events. -/
theorem Document.plainText_read (text : String) (path : Option String) :
    (read text path).tree.plainText = textOfEvents (Markdown.readEvents text) := by
  have htree := Builder.keeps_start.plainText_foldl (Markdown.verbatimHoldsText_readEvents text)
  rwa [Builder.content_start, String.empty_append] at htree

end WikiSync
