import WikiSync.Page.Render
import WikiSync.Proofs.Data.SortedMap
import WikiSync.Proofs.Script.Asks

/-!
# Runs of Rendering

What the rendering of a page does besides converting its tree. Only the
diagrams ask anything, so a page is rendered by the run that attaches them,
followed by a conversion that asks nothing.

A page keeps its attachments by file name. Syncing relies on that: two
attachments with the same file name would be uploaded twice. Nothing in the
type of a page says so, but an image is always attached under its own name,
and a page is rendered from a context that starts without attachments.

## Main definitions

* `ByFilename`: Attachments go by their own file names.

## Theorems

* `run_renderDocument`: Rendering is attaching diagrams and then converting.
* `byFilename_renderPage`: The attachments of a page go by their file names.
-/

namespace WikiSync

variable {σ : Type} {m : Machine Diagram.Backend σ}

/-! ### Runs -/

/-- What becomes of a document when its tree is converted. -/
def Converter.pageOutcome (c : Converter) (document : Document) (ctx : Context) :
    Except PageError RenderedPage :=
  match (c.convert ctx document.tree).outcome with
  | .ok markup => .ok ⟨document.title, ctx.frontMatter, markup, ctx.attachments⟩
  | .error e => .error (.convert e)

/-- Converting asks nothing. -/
theorem Converter.run_page (c : Converter) (document : Document) (ctx : Context) (s : σ) :
    ((c.page document ctx).run m s).value = c.pageOutcome document ctx ∧
      ((c.page document ctx).run m s).asked = [] := by
  unfold Converter.page Converter.pageOutcome
  rw [Script.run_bind, Script.run_logAll]
  rcases (c.convert ctx document.tree).outcome with e | markup
  · exact ⟨rfl, rfl⟩
  · exact ⟨rfl, rfl⟩

theorem Converter.asks_page (c : Converter) (document : Document) (ctx : Context) :
    (c.page document ctx).Asks fun _ => False := by
  refine Script.asks_bind (Script.asks_logAll _) fun _ => ?_
  rcases (c.convert ctx document.tree).outcome with e | markup
  · trivial
  · trivial

/-- Converts a document after its diagrams have been attached in some way. -/
def pageAfter (attached : Script Diagram.Backend (Except Diagram.Unavailable Context))
    (document : Document) : Script Diagram.Backend (Except PageError RenderedPage) := do
  match ← attached with
  | .ok ctx => Converter.storage.page document ctx
  | .error e => pure (.error (.diagrams e))

theorem run_pageAfter (attached : Script Diagram.Backend (Except Diagram.Unavailable Context))
    (document : Document) (s : σ) :
    let r := attached.run m s
    ((pageAfter attached document).run m s).asked = r.asked ∧
      ((pageAfter attached document).run m s).value =
        match r.value with
        | .ok ctx => Converter.storage.pageOutcome document ctx
        | .error e => .error (.diagrams e) := by
  intro r
  unfold pageAfter
  rw [Script.run_bind]
  change (r.follow _).asked = _ ∧ (r.follow _).value = _
  rcases hvalue : r.value with e | ctx'
  · refine ⟨?_, rfl⟩
    change r.asked ++ [] = r.asked
    rw [List.append_nil]
  · rcases Converter.run_page (m := m) .storage document ctx' r.state with ⟨hpage, hasked⟩
    refine ⟨?_, hpage⟩
    change r.asked ++ ((Converter.storage.page document ctx').run m r.state).asked = r.asked
    rw [hasked, List.append_nil]

/-- Rendering is attaching diagrams and then converting. -/
theorem run_renderDocument (backend : String) (document : Document) (ctx : Context) (s : σ) :
    let r := (Diagram.attach backend document.tree ctx).run m s
    ((renderDocument backend document ctx).run m s).asked = r.asked ∧
      ((renderDocument backend document ctx).run m s).value =
        match r.value with
        | .ok ctx => Converter.storage.pageOutcome document ctx
        | .error e => .error (.diagrams e) :=
  run_pageAfter (Diagram.attach backend document.tree ctx) document s

/-! ### Attachments by file name -/

/-- Attachments go by their own file names. -/
def ByFilename (attachments : SortedMap Attachment) : Prop :=
  ∀ e ∈ attachments.entries, e.1 = e.2.filename

namespace ByFilename

variable {attachments : SortedMap Attachment}

/-- File names that are keys do not repeat. -/
theorem nodup (h : ByFilename attachments) :
    (attachments.entries.map (·.2.filename)).Nodup := by
  have hkeys : attachments.entries.map (·.2.filename) = attachments.entries.map (·.1) :=
    List.map_congr_left fun e he => (h e he).symm
  rw [hkeys, List.nodup_iff_pairwise_ne, List.pairwise_map]
  exact attachments.pairwise_ne

theorem empty : ByFilename .empty :=
  fun _ he => absurd he List.not_mem_nil

theorem insert (h : ByFilename attachments) (a : Attachment) :
    ByFilename (attachments.insert a.filename a) := by
  intro e he
  rcases SortedMap.mem_insertEntry he with rfl | he
  · rfl
  · exact h e he

theorem attachImages {ctx : Context} (h : ByFilename ctx.attachments)
    (results : List Diagram.Rendered) :
    ByFilename (results.foldl Diagram.attachImage ctx).attachments := by
  induction results generalizing ctx with
  | nil => exact h
  | cons r results ih =>
    rcases r with ⟨d, e | data⟩
    · exact ih h
    · exact ih (h.insert _)

/-- Whatever a backend answers, images are attached by their file names. -/
theorem run_attach {ctx : Context} (h : ByFilename ctx.attachments) (backend : String)
    (tree : Node) (s : σ) (ctx' : Context)
    (hvalue : ((Diagram.attach backend tree ctx).run m s).value = .ok ctx') :
    ByFilename ctx'.attachments := by
  unfold Diagram.attach at hvalue
  simp only at hvalue
  split at hvalue
  · cases hvalue
    exact h
  · -- Neither the question nor the log changes the context.
    rw [Script.run_bind] at hvalue
    change ((ite _ _ _ : Script Diagram.Backend _).run m _).value = _ at hvalue
    split at hvalue
    · cases hvalue
    · rw [Script.run_bind, Script.run_log, Script.run_bind] at hvalue
      change ((Script.logAll _ >>= _ : Script Diagram.Backend _).run m _).value = _ at hvalue
      rw [Script.run_bind, Script.run_logAll] at hvalue
      cases hvalue
      exact h.attachImages _

end ByFilename

theorem byFilename_renderDocument (backend : String) (document : Document) {ctx : Context}
    (h : ByFilename ctx.attachments) (s : σ) (page : RenderedPage)
    (hvalue : ((renderDocument backend document ctx).run m s).value = .ok page) :
    ByFilename page.attachments := by
  rw [(run_renderDocument backend document ctx s).2] at hvalue
  rcases hattach : ((Diagram.attach backend document.tree ctx).run m s).value with e | ctx'
  · rw [hattach] at hvalue
    cases hvalue
  · rw [hattach] at hvalue
    unfold Converter.pageOutcome at hvalue
    simp only at hvalue
    split at hvalue
    · cases hvalue
      exact h.run_attach backend document.tree s ctx' hattach
    · cases hvalue

/-- The attachments of every page that is rendered go by their file names. -/
theorem byFilename_renderPage (backend : String) (options : ConvertOptions) (text : String)
    (path : Option String) (s : σ) (page : RenderedPage)
    (hvalue : ((renderPage backend options text path).run m s).value = .ok page) :
    ByFilename page.attachments :=
  byFilename_renderDocument backend (Document.read text path) ByFilename.empty s page hvalue

end WikiSync
