import Mathlib.Data.List.Basic
import WikiSync.Proofs.Document.Walk
import WikiSync.Proofs.Page.Render
import WikiSync.Proofs.Sync.Asks

/-!
# Titles

Four things may name a document: its front matter, its first main heading, its file,
and in the end the word for what has no name. Each of the first three can be missing. A
blank title in the front matter and an empty name of the file count as missing too. An
empty heading does not: the first main heading names the document even if it has no
text, and then the title is empty.

This is the only way to an empty title. The front matter gives no empty text. A number
is written with at least one digit. A heading may be without text in many ways, as it
may hold images, raw HTML and more, but it comes down to one: the text of a tree is that
of its nodes in document order (`Node.toList_plainText`), so no node adds any.

An empty title matters because pages are looked up and created by title. A reconcile
names a page by the title of its document and by no other, whatever the store answers.

## Main definitions

* `Document.mainHeading?`: The first main heading.
* `Document.Titled`: A document whose title follows the rule.
* `Document.givenTitle`: The first thing that gives a title that is not empty.
* `StoreCall.title?`: The title that a call names.

## Theorems

* `Node.toList_plainText`, `Node.plainText_eq_empty_iff`: The text of a tree.
* `FrontMatter.scalarText_ne_empty`: The front matter gives no empty text.
* `Document.Titled.title_cases`: The rule for titles, case by case.
* `Document.Titled.title_eq_empty_iff`, `Document.Titled.title_ne_empty_iff`: Empty titles,
  and others.
* `SyncTarget.asks_title`: The title that a reconcile names.
* `Document.title_of_read`: The title of a document, up to the store.
* `Document.not_every_title_given`: An empty title.
-/

namespace WikiSync

/-! ### The text of a tree -/

namespace Node

/-- The text of a tree is that of its nodes in document order. -/
theorem toList_plainText (n : Node) :
    n.plainText.toList = n.walk.flatMap fun m => m.ownText.toList := by
  induction n using size_induction with
  | step n ih =>
    have hchildren : (n.children.map plainText).flatMap String.toList =
        n.children.flatMap fun c => c.walk.flatMap fun m => m.ownText.toList := by
      rw [List.flatMap_map]
      exact List.flatMap_congr fun c hc => ih c (size_lt_of_mem hc)
    rw [plainText_eq, walk_eq, String.toList_append, String.toList_join, hchildren,
      List.flatMap_cons, List.flatMap_assoc]

/-- A tree without text is one whose nodes have none. -/
theorem plainText_eq_empty_iff (n : Node) :
    n.plainText = "" ↔ n.Everywhere fun m => m.ownText = "" := by
  rw [← String.toList_eq_nil_iff, toList_plainText, List.flatMap_eq_nil_iff]
  exact forall₂_congr fun m _ => String.toList_eq_nil_iff

end Node

/-! ### The front matter -/

namespace Binary64

theorem layout_ne_empty (digits : Nat) (e : Int) : layout digits e ≠ "" := by
  have hdigits : Nat.toDigits 10 digits ≠ [] := Nat.toDigits_ne_nil
  unfold layout
  rw [ne_eq, String.ofList_eq_empty_iff]
  -- The digits, or a point or an exponent beside them, stand in every form.
  split
  · simp [hdigits]
  · split
    · simp
    · split
      · simp
      · split
        · simp
        · simp
        · next hnone => exact absurd hnone hdigits

theorem text_ne_empty (x : Binary64) : x.text ≠ "" := by
  unfold text
  rw [ne_eq, String.append_eq_empty_iff, not_and]
  exact fun _ => layout_ne_empty _ _

end Binary64

namespace FrontMatter

/-- No number is written without a digit, and a blank text is none. -/
theorem scalarText_ne_empty {v : Yaml.Value} {text : String} (h : scalarText? v = some text) :
    text ≠ "" := by
  unfold scalarText? at h
  split at h
  · next s =>
    split at h
    · cases h
    · next hblank =>
      cases h
      rintro rfl
      exact hblank rfl
  · next n =>
    cases h
    rw [Int.toString_eq_repr, Int.repr_eq_if]
    split
    · exact Nat.repr_ne_empty
    · rw [ne_eq, String.append_eq_empty_iff, not_and]
      exact fun _ => Nat.repr_ne_empty
  · next x =>
    cases h
    rcases x with x | negative | _
    · exact x.text_ne_empty
    · rcases negative with _ | _ <;> decide
    · decide
  · cases h

theorem title_ne_empty {source title : String} (h : (ofYaml source).title = some title) :
    title ≠ "" := by
  unfold ofYaml at h
  split at h
  · rcases Option.bind_eq_some_iff.1 h with ⟨v, -, hv⟩
    exact scalarText_ne_empty hv
  · cases h

end FrontMatter

/-! ### The title of a document -/

namespace Document

/-- The first main heading of a document. -/
def mainHeading? (d : Document) : Option Node :=
  d.tree.children.find? isMainHeading

/-- What may name a document, the first thing first. -/
def titleSources (d : Document) (path : Option String) : List (Option String) :=
  [d.frontMatter.title, d.mainHeading?.map Node.plainText, path.bind Path.stem?, some untitled]

/-- The first thing that gives a title that is not empty. -/
def givenTitle (d : Document) (path : Option String) : Option String :=
  (d.titleSources path).findSome? (Option.filter (· != ""))

/-- The title that a file gives, if nothing else does. -/
theorem findSome?_file (path : Option String) :
    [path.bind Path.stem?, some untitled].findSome? (Option.filter (· != "")) =
      some ((fileTitle? path).getD untitled) := by
  have hfile : (path.bind Path.stem?).filter (· != "") = fileTitle? path := rfl
  rw [List.findSome?_cons, hfile]
  rcases fileTitle? path with _ | title
  · rfl
  · rfl

theorem fileTitle_ne_empty (path : Option String) : (fileTitle? path).getD untitled ≠ "" := by
  rcases htitle : fileTitle? path with _ | title
  · decide
  · have hsome := (Option.filter_eq_some_iff.1 htitle).2
    exact bne_iff_ne.1 hsome

theorem givenTitle_ne_empty (d : Document) (path : Option String) :
    d.givenTitle path ≠ some "" := by
  intro h
  rcases List.exists_of_findSome?_eq_some h with ⟨source, -, hsource⟩
  exact absurd (Option.filter_eq_some_iff.1 hsource).2 (by decide)

/-- A document whose title follows the rule, with front matter that gives no empty
title. -/
structure Titled (d : Document) (path : Option String) : Prop where
  rule : d.title = titleOf d.frontMatter d.tree path
  given : ∀ title, d.frontMatter.title = some title → title ≠ ""

/-- Every document that is read is one. -/
theorem titled_read (text : String) (path : Option String) : (read text path).Titled path := by
  unfold read
  rcases treeOfEvents (Markdown.readEvents text) with ⟨tree, metadata⟩
  refine ⟨rfl, fun title htitle => ?_⟩
  rcases metadata with _ | source
  · cases htitle
  · exact FrontMatter.title_ne_empty htitle

namespace Titled

variable {d : Document} {path : Option String}

/-- What names a document: its front matter, or else its first main heading, or else its
file. -/
theorem title_cases (h : d.Titled path) :
    (∃ title, d.frontMatter.title = some title ∧ d.title = title ∧ title ≠ "") ∨
      (∃ heading, d.frontMatter.title = none ∧ d.mainHeading? = some heading ∧
        d.title = heading.plainText) ∨
      d.frontMatter.title = none ∧ d.mainHeading? = none ∧
        d.title = (fileTitle? path).getD untitled := by
  have hrule := h.rule
  unfold titleOf at hrule
  unfold mainHeading?
  rcases htitle : d.frontMatter.title with _ | title
  · rcases hheading : d.tree.children.find? isMainHeading with _ | heading
    · rw [htitle, hheading] at hrule
      exact Or.inr (Or.inr ⟨rfl, rfl, hrule⟩)
    · rw [htitle, hheading] at hrule
      exact Or.inr (Or.inl ⟨heading, rfl, rfl, hrule⟩)
  · rw [htitle] at hrule
    exact Or.inl ⟨title, rfl, hrule, h.given title htitle⟩

/-- Only a heading gives an empty title. -/
theorem title_eq_empty_iff (h : d.Titled path) :
    d.title = "" ↔ d.frontMatter.title = none ∧
      ∃ heading, d.mainHeading? = some heading ∧ heading.Everywhere fun m => m.ownText = "" := by
  rcases h.title_cases with ⟨title, hfront, htitle, hsome⟩ | ⟨heading, hfront, hheading, htitle⟩ |
    ⟨hfront, hheading, htitle⟩
  · simp only [hfront, htitle, hsome, reduceCtorEq, false_and]
  · simp only [hfront, hheading, htitle, heading.plainText_eq_empty_iff, Option.some.injEq,
      exists_eq_left', true_and]
  · simp only [hheading, htitle, fileTitle_ne_empty, reduceCtorEq, false_and, exists_false,
      and_false]

/-- Any other title is the first one that is not empty. -/
theorem title_ne_empty_iff (h : d.Titled path) :
    d.title ≠ "" ↔ d.givenTitle path = some d.title := by
  constructor
  · intro hne
    unfold givenTitle titleSources
    -- What comes before the source of the title is missing.
    rcases h.title_cases with ⟨title, hfront, htitle, hsome⟩ |
      ⟨heading, hfront, hheading, htitle⟩ | ⟨hfront, hheading, htitle⟩
    · simp [hfront, htitle, hsome]
    · have hsome : heading.plainText ≠ "" := htitle ▸ hne
      simp [hfront, hheading, htitle, hsome]
    · rw [hfront, hheading, htitle]
      exact findSome?_file path
  · intro hgiven hnone
    rw [hnone] at hgiven
    exact d.givenTitle_ne_empty path hgiven

end Titled

end Document

/-! ### Titles that a store is told -/

/-- The title that a call names. -/
def StoreCall.title? : StoreCall → Option String
  | findPage _ title | createPage _ title _ _ | updatePage _ title _ _ => some title
  | getPage _ | listAttachments _ | upload _ _ | replace _ _ _ => none

/-- A reconcile names no title but that of its page. -/
theorem SyncTarget.asks_title (t : SyncTarget) (file : String) (page : RenderedPage) :
    (t.reconcile file page).run.Asks fun c : StoreCall =>
      ∀ title ∈ c.title?, title = page.title := by
  refine t.asks_reconcile file page ?_ (fun found => ?_) ?_ ?_ ?_
  · unfold lookup
    rcases page.frontMatter.pageId with _ | pageId
    · exact fun title htitle => (Option.some.inj htitle).symm
    · exact fun title htitle => nomatch htitle
  · rcases found with _ | remote
    · exact fun title htitle => (Option.some.inj htitle).symm
    · exact fun title htitle => (Option.some.inj htitle).symm
  · exact fun _ title htitle => nomatch htitle
  · exact fun _ _ _ title htitle => nomatch htitle
  · exact fun _ _ title htitle => nomatch htitle

/-- A page has the title of its document. -/
theorem title_renderDocument {σ : Type} {m : Machine Diagram.Backend σ} {backend : String}
    {document : Document} {ctx : Context} {s : σ} {page : RenderedPage}
    (h : ((renderDocument backend document ctx).run m s).value = .ok page) :
    page.title = document.title := by
  rw [(run_renderDocument backend document ctx s).2] at h
  rcases hattach : ((Diagram.attach backend document.tree ctx).run m s).value with e | ctx'
  · rw [hattach] at h
    cases h
  · rw [hattach] at h
    unfold Converter.pageOutcome at h
    simp only at h
    split at h
    · cases h
      rfl
    · cases h

namespace Document

/-- The title of a document that is read, whatever its text and its file. It is empty
exactly if the front matter names no title and the first main heading, which is there,
has no text: no node in it has any of its own. Any other title is the first one that is
not empty of the title in the front matter, the text of the first main heading, the
name of the file and `Untitled`. When the page of the document is synced to a store,
this is the only title under which a page is looked up, created or updated, whatever the
store answers. -/
theorem title_of_read (text : String) (path : Option String) :
    let d := read text path
    (d.title = "" ↔ d.frontMatter.title = none ∧
      ∃ heading, d.mainHeading? = some heading ∧ ∀ m ∈ heading.walk, m.ownText = "") ∧
    (d.title ≠ "" ↔ d.givenTitle path = some d.title) ∧
    ∀ {σ τ : Type} (m : Machine Diagram.Backend σ) (n : Machine Store τ) (s : σ) (w : τ)
      (backend : String) (options : ConvertOptions) (page : RenderedPage),
      ((renderPage backend options text path).run m s).value = .ok page →
        ∀ (t : SyncTarget) (file : String),
          ∀ q ∈ ((t.reconcile file page).run.run n w).asked,
            ∀ title, q.title? = some title → title = d.title := by
  intro d
  have htitled := titled_read text path
  refine ⟨htitled.title_eq_empty_iff, htitled.title_ne_empty_iff, ?_⟩
  intro σ τ m n s w backend options page hpage t file q hq title htitle
  rw [(t.asks_title file page).asked n w q hq title htitle]
  exact title_renderDocument hpage

/-- A backend that is not there. -/
def noBackend : Machine Diagram.Backend Unit where
  answer
    | .available, s => (false, s)
    | .render _, s => (.error (.io "down"), s)

/-- A document with a heading that holds an image without a description. -/
def logo : String := "# ![](logo.png)\n\nBody"

/-- Its title is empty, although its file has a name. Its page is looked up and created
under the empty title. -/
theorem title_of_read_logo :
    ∃ page, ((renderPage "kroki" ⟨true, false⟩ logo (some "guide.md")).run noBackend ()).value =
        .ok page ∧
      let calls := ((SyncTarget.docs.reconcile "guide.md" page).run.run MemoryStore.machine
        .empty).asked
      calls.filterMap StoreCall.title? = ["", ""] ∧
      ∀ q ∈ calls, ∀ title, q.title? = some title → title = "" := by
  have htitle : (read logo (some "guide.md")).title = "" := by decide +kernel
  have hrun : (((renderPage "kroki" ⟨true, false⟩ logo (some "guide.md")).run noBackend
      ()).value.toOption.any fun page =>
        ((SyncTarget.docs.reconcile "guide.md" page).run.run MemoryStore.machine
          .empty).asked.filterMap StoreCall.title? == ["", ""]) = true := by decide +kernel
  rcases hvalue : ((renderPage "kroki" ⟨true, false⟩ logo (some "guide.md")).run noBackend
    ()).value with e | page
  · rw [hvalue] at hrun
    cases hrun
  · rw [hvalue] at hrun
    refine ⟨page, rfl, beq_iff_eq.1 hrun, ?_⟩
    have hcalls := (title_of_read logo (some "guide.md")).2.2 noBackend MemoryStore.machine ()
      .empty "kroki" ⟨true, false⟩ page hvalue SyncTarget.docs "guide.md"
    rw [htitle] at hcalls
    exact hcalls

/-- A document does not always get a title. A heading without text is one, and the file
is not asked. -/
theorem not_every_title_given :
    ¬ ∀ (text : String) (path : Option String), (read text path).title ≠ "" := by
  intro h
  exact h "#" (some "guide.md") (by decide +kernel)

end Document

end WikiSync
