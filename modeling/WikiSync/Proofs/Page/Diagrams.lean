import WikiSync.Proofs.Convert.Diagrams
import WikiSync.Proofs.Diagram.Attach
import WikiSync.Proofs.Page.Render

/-!
# The Diagrams of a Page

What a page makes of the diagrams of its document, from the first question to
the backend to the markup. The walk that collects the diagrams and the
conversion that shows them meet here: on a well-shaped tree both come upon the
same diagrams, so every image is shown and nothing is shown without an image.

A page shows its diagrams in the places of a template. The same template is
the conversion of the document after its diagrams have been put aside for
other nodes, so what stands outside of the gaps cannot depend on the source of
any diagram.

## Main definitions

* `ShowsImages`: Markup with one image for each diagram, in its place.
* `Illustrated`: A page with the images of its diagrams.

## Theorems

* `pageOutcome_idle`, `pageOutcome_attached`: Converting the tree.
* `renderDocument_diagrams`: The whole run.
-/

namespace WikiSync

open Diagram (Backend RenderError RendersBy Distinguishes attached renderedTexts)

/-- Markup that shows each diagram of a tree as one image, in the place of the
diagram. The markup around these places is the one that the conversion writes
if anything else stands in the tree for the diagrams. -/
def ShowsImages (tree : Node) (markup : String) : Prop :=
  ∃ t : Template, t.gaps = tree.diagrams.length ∧
    markup = t.fill (tree.diagrams.map fun text => Emit.diagramMarkup (Diagram.filename text)) ∧
    ∀ ctx mark,
      (Converter.storage.convert ctx
        (tree.withDiagrams fun text => .html (mark text) false)).outcome =
          .ok (t.fill (tree.diagrams.map mark))

/-- A page with the images of the diagrams of a tree. They are its attachments,
it shows them where the diagrams were, and it refers to each attachment and to
no file that is missing. -/
structure Illustrated (image : String → Except RenderError Bytes) (tree : Node)
    (page : RenderedPage) : Prop where
  attachments : ∀ name a, page.attachments.get? name = some a ↔
    ∃ text ∈ tree.diagrams, ∃ data, image text = .ok data ∧ name = Diagram.filename text ∧
      a = ⟨Diagram.filename text, data, Diagram.contentType⟩
  shown : ShowsImages tree page.markup
  referred : ∀ name a, page.attachments.get? name = some a →
    (Emit.diagramMarkup name).toList <:+: page.markup.toList
  present : ∀ text ∈ tree.diagrams, page.attachments.contains (Diagram.filename text) = true

theorem ShowsImages.infix {tree : Node} {markup : String} (h : ShowsImages tree markup)
    {text : String} (htext : text ∈ tree.diagrams) :
    (Emit.diagramMarkup (Diagram.filename text)).toList <:+: markup.toList := by
  rcases h with ⟨t, hgaps, rfl, -⟩
  refine Template.infix_fill t _ ?_ _ (List.mem_map_of_mem htext)
  rw [List.length_map, hgaps]

/-! ### Converting the tree -/

/-- A well-shaped tree is a template with a gap for each of its diagrams. -/
theorem exists_template_diagrams {tree : Node} (hshape : tree.WellShaped) :
    ∃ t : Template, t.gaps = tree.diagrams.length ∧
      (∀ ctx, (Converter.storage.convert ctx tree).outcome =
        (tree.diagrams.mapM fun text => (Emit.diagram ctx text).outcome).map t.fill) ∧
      ∀ ctx mark,
        (Converter.storage.convert ctx
          (tree.withDiagrams fun text => .html (mark text) false)).outcome =
            .ok (t.fill (tree.diagrams.map mark)) := by
  have htemplate := exists_template tree
  rw [Node.reached_eq_diagrams tree hshape] at htemplate
  exact htemplate

/-- A diagram is shown if it has an image, where diagrams are shown. -/
theorem outcome_diagram {ctx : Context} (h : ctx.options.diagrams = true) (text : String) :
    (Emit.diagram ctx text).outcome =
      if ctx.hasAttachment (Diagram.filename text) then
        .ok (Emit.diagramMarkup (Diagram.filename text))
      else .error (.missingDiagram (Diagram.filename text)) := by
  unfold Emit.diagram
  simp only [h, Bool.not_true, Bool.false_eq_true, if_false]
  split
  · rfl
  · rfl

/-- Where diagrams are not shown there is always a page, and the same holds
without diagrams. -/
theorem pageOutcome_idle {document : Document} {ctx : Context}
    (hshape : document.tree.WellShaped)
    (h : ctx.options.diagrams = false ∨ document.tree.diagrams = []) :
    ∃ page, Converter.storage.pageOutcome document ctx = .ok page ∧
      page.attachments = ctx.attachments := by
  rcases exists_template_diagrams hshape with ⟨t, -, hmarkup, -⟩
  -- Every diagram has some markup, or there is none to have it.
  have hall : ∃ pieces, document.tree.diagrams.mapM
      (fun text => (Emit.diagram ctx text).outcome) = .ok pieces := by
    rcases h with hdisabled | hnone
    · refine ⟨_, mapM_eq_ok (g := fun text => Storage.plainTextMacro "code"
        [("language", "text"), ("title", "Mermaid")] (some text)) fun text _ => ?_⟩
      unfold Emit.diagram
      rw [hdisabled]
      rfl
    · rw [hnone]
      exact ⟨[], rfl⟩
  rcases hall with ⟨pieces, hpieces⟩
  unfold Converter.pageOutcome
  rw [hmarkup ctx, hpieces]
  exact ⟨_, rfl, rfl⟩

section Attached

variable {image : String → Except RenderError Bytes} {document : Document} {ctx : Context}
  (hdistinct : Distinguishes document.tree) (hctx : ctx.attachments = .empty)
  (henabled : ctx.options.diagrams = true)

include hdistinct hctx henabled

/-- With the images of a document attached, a diagram is shown exactly if it
could be rendered. -/
theorem outcome_diagram_attached {text : String} (htext : text ∈ document.tree.diagrams) :
    ((∃ data, image text = .ok data) →
        (Emit.diagram (attached image document.tree ctx) text).outcome =
          .ok (Emit.diagramMarkup (Diagram.filename text))) ∧
      ∀ piece, (Emit.diagram (attached image document.tree ctx) text).outcome = .ok piece →
        ∃ data, image text = .ok data := by
  have hoptions : (attached image document.tree ctx).options.diagrams = true := by
    rw [Diagram.options_attached, henabled]
  rw [outcome_diagram hoptions, ← Diagram.hasAttachment_attached hdistinct hctx htext]
  refine ⟨fun hhas => if_pos hhas, fun piece hpiece => ?_⟩
  by_cases hhas : (attached image document.tree ctx).hasAttachment (Diagram.filename text) = true
  · exact hhas
  · rw [if_neg hhas] at hpiece
    cases hpiece

/-- With the images of its diagrams a document becomes an illustrated page,
unless one of them is missing. -/
theorem pageOutcome_attached (hshape : document.tree.WellShaped) :
    ((∃ page, Converter.storage.pageOutcome document (attached image document.tree ctx) =
        .ok page) ↔ ∀ text ∈ document.tree.diagrams, ∃ data, image text = .ok data) ∧
      ∀ page, Converter.storage.pageOutcome document (attached image document.tree ctx) =
        .ok page → Illustrated image document.tree page := by
  rcases exists_template_diagrams hshape with ⟨t, hgaps, hmarkup, hraw⟩
  -- With all images, the gaps are filled with references to them.
  have hshown : (∀ text ∈ document.tree.diagrams, ∃ data, image text = .ok data) →
      (Converter.storage.convert (attached image document.tree ctx) document.tree).outcome =
        .ok (t.fill (document.tree.diagrams.map fun text =>
          Emit.diagramMarkup (Diagram.filename text))) := by
    intro hall
    rw [hmarkup, mapM_eq_ok fun text htext =>
      (outcome_diagram_attached hdistinct hctx henabled htext).1 (hall text htext)]
    rfl
  -- Without one of them, its gap cannot be filled and there is no page.
  have hall : ∀ page, Converter.storage.pageOutcome document (attached image document.tree ctx) =
      .ok page → ∀ text ∈ document.tree.diagrams, ∃ data, image text = .ok data := by
    intro page hpage text htext
    unfold Converter.pageOutcome at hpage
    rw [hmarkup] at hpage
    rcases hpieces : document.tree.diagrams.mapM (fun text =>
        (Emit.diagram (attached image document.tree ctx) text).outcome) with e | pieces
    · rw [hpieces] at hpage
      cases hpage
    · rcases exists_of_mapM hpieces text htext with ⟨piece, hpiece⟩
      exact (outcome_diagram_attached hdistinct hctx henabled htext).2 piece hpiece
  refine ⟨⟨fun ⟨page, hpage⟩ => hall page hpage, fun hdata => ?_⟩, fun page hpage => ?_⟩
  · unfold Converter.pageOutcome
    rw [hshown hdata]
    exact ⟨_, rfl⟩
  · have hdata := hall page hpage
    unfold Converter.pageOutcome at hpage
    rw [hshown hdata] at hpage
    cases hpage
    have hshows : ShowsImages document.tree (t.fill (document.tree.diagrams.map fun text =>
        Emit.diagramMarkup (Diagram.filename text))) := ⟨t, hgaps, rfl, hraw⟩
    have hget : ∀ name a, (attached image document.tree ctx).attachments.get? name = some a ↔ _ :=
      Diagram.get?_attached hdistinct hctx
    refine ⟨hget, hshows, fun name a ha => ?_, fun text htext => ?_⟩
    · rcases (hget name a).1 ha with ⟨text, htext, data, -, rfl, -⟩
      exact hshows.infix htext
    · exact (Diagram.hasAttachment_attached hdistinct hctx htext).2 (hdata text htext)

end Attached

/-! ### The whole run -/

/-- A document is rendered by a backend whose images depend on the source
alone. If there is nothing to show, the backend is not asked for anything. If
it is not available, that is the error, and it is asked for no image.
Otherwise it is asked for the image of each source once, and there is a page
exactly if there is every image. That page shows the images in the places of
the diagrams and has no other attachments. -/
theorem renderDocument_diagrams {σ : Type} {m : Machine Backend σ}
    {image : String → Except RenderError Bytes} (hm : RendersBy m image) (backend : String)
    (document : Document) (ctx : Context) (hshape : document.tree.WellShaped)
    (hdistinct : Distinguishes document.tree) (hctx : ctx.attachments = .empty) (s : σ) :
    let r := (renderDocument backend document ctx).run m s
    let idle := ctx.options.diagrams = false ∨ document.tree.diagrams = []
    (idle → r.asked = [] ∧ ∃ page, r.value = .ok page ∧ page.attachments = .empty) ∧
      (¬ idle → (m.answer .available s).1 = false →
        r.asked = [.available] ∧ r.value = .error (.diagrams ⟨backend⟩)) ∧
      (¬ idle → (m.answer .available s).1 = true →
        (∃ texts : List String, texts.Nodup ∧
          (∀ text, text ∈ texts ↔ text ∈ document.tree.diagrams) ∧
          r.asked = .available :: texts.map .render) ∧
        ((∃ page, r.value = .ok page) ↔
          ∀ text ∈ document.tree.diagrams, ∃ data, image text = .ok data) ∧
        ∀ page, r.value = .ok page → Illustrated image document.tree page) := by
  intro r idle
  rcases run_renderDocument (m := m) backend document ctx s with ⟨hasked, hvalue⟩
  change r.asked = _ at hasked
  change r.value = _ at hvalue
  refine ⟨fun hidle => ?_, fun hbusy havailable => ?_, fun hbusy havailable => ?_⟩
  · rw [Diagram.attach_idle backend _ ctx hidle] at hasked hvalue
    rcases pageOutcome_idle hshape hidle with ⟨page, hpage, hattachments⟩
    exact ⟨hasked, page, hvalue.trans hpage, hattachments.trans hctx⟩
  · rcases not_or.1 hbusy with ⟨henabled, hsome⟩
    rw [Bool.not_eq_false] at henabled
    rcases Diagram.run_attach_unavailable backend _ ctx s henabled hsome havailable with
      ⟨herror, hquestions⟩
    rw [herror] at hvalue
    exact ⟨hasked.trans hquestions, hvalue⟩
  · rcases not_or.1 hbusy with ⟨henabled, hsome⟩
    rw [Bool.not_eq_false] at henabled
    rcases Diagram.run_attach_available backend _ ctx s henabled hsome hm havailable with
      ⟨hattached, hquestions⟩
    rw [hattached] at hvalue
    change r.value = Converter.storage.pageOutcome document
      (attached image document.tree ctx) at hvalue
    rw [hvalue]
    refine ⟨?_, pageOutcome_attached hdistinct hctx henabled hshape⟩
    exact ⟨renderedTexts document.tree, Diagram.nodup_renderedTexts _,
      fun _ => Diagram.mem_renderedTexts hdistinct, hasked.trans hquestions⟩

/-- A task and a paragraph below it, both with the same diagram. -/
def repeatedDiagram : Node :=
  .root [
    .list false none [.listItem (some true) [.code (some "mermaid") "graph TD"]],
    .paragraph [.text "See above."],
    .code (some "mermaid") "graph TD"]

/-- A backend that gives the same image for every source. -/
def steadyBackend : Machine Backend Unit where
  answer
    | .available, _ => (true, ())
    | .render _, _ => (.ok [137, 80, 78, 71], ())

/-- The backend is asked for the image once, and it is shown twice. -/
theorem renderDocument_repeatedDiagram :
    let ctx := Context.ofFrontMatter ⟨true, false⟩ .empty
    let r := (renderDocument "steady" ⟨.empty, repeatedDiagram, "Guide"⟩ ctx).run steadyBackend ()
    RendersBy steadyBackend (fun _ => .ok [137, 80, 78, 71]) ∧
      repeatedDiagram.WellShaped ∧ Distinguishes repeatedDiagram ∧ ctx.attachments = .empty ∧
      r.asked = [.available, .render "graph TD"] ∧
      ∃ page, r.value = .ok page ∧
        Illustrated (fun _ => .ok [137, 80, 78, 71]) repeatedDiagram page := by
  intro ctx r
  have hdiagrams : repeatedDiagram.diagrams = ["graph TD", "graph TD"] := by
    simp [repeatedDiagram, Node.diagrams_eq, Node.children, Node.children?, Node.diagram?,
      Diagram.ofNode?, Diagram.language]
  have hshape : repeatedDiagram.WellShaped := by
    unfold Node.WellShaped Node.Everywhere
    simp [repeatedDiagram, Node.walk_eq, Node.Shaped, Node.children, Node.children?, Node.kind]
  have hdistinct : Distinguishes repeatedDiagram := by
    intro a ha b hb _
    rw [hdiagrams] at ha hb
    simp only [List.mem_cons, List.not_mem_nil, or_false, or_self] at ha hb
    rw [ha, hb]
  have hbusy : ¬ (ctx.options.diagrams = false ∨ repeatedDiagram.diagrams = []) := by
    rw [hdiagrams]
    rintro (h | h)
    · cases h
    · cases h
  have hm : RendersBy steadyBackend (fun _ => .ok [137, 80, 78, 71]) := fun _ _ => rfl
  rcases (renderDocument_diagrams hm "steady" ⟨.empty, repeatedDiagram, "Guide"⟩ ctx hshape
    hdistinct rfl ()).2.2 hbusy rfl with ⟨⟨texts, hnodup, hmem, hasked⟩, hok, hpage⟩
  -- A list without repetition in which one text occurs and no other.
  have htexts : texts = ["graph TD"] := by
    have honly : ∀ text, text ∈ texts ↔ text = "graph TD" := by
      intro text
      rw [hmem]
      change text ∈ repeatedDiagram.diagrams ↔ _
      rw [hdiagrams, List.mem_cons, List.mem_singleton, or_self]
    rcases texts with _ | ⟨first, _ | ⟨second, rest⟩⟩
    · exact absurd ((honly "graph TD").2 rfl) List.not_mem_nil
    · rw [(honly first).1 List.mem_cons_self]
    · have hfirst := (honly first).1 List.mem_cons_self
      have hsecond := (honly second).1 (List.mem_cons_of_mem _ List.mem_cons_self)
      rw [hfirst, hsecond] at hnodup
      exact absurd List.mem_cons_self (List.nodup_cons.1 hnodup).1
  rw [htexts] at hasked
  rcases hok.2 fun _ _ => ⟨_, rfl⟩ with ⟨page, hvalue⟩
  exact ⟨hm, hshape, hdistinct, rfl, hasked, page, hvalue, hpage page hvalue⟩

end WikiSync
