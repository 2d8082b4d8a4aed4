import WikiSync.Diagram.Attach
import WikiSync.Proofs.Data.SortedMap
import WikiSync.Proofs.Document.Diagrams
import WikiSync.Proofs.Script.Run

/-!
# Runs of Attaching Diagrams

What a diagram backend is asked for a document, and which attachments come of
its answers. The backend is an arbitrary machine whose images depend on the
source alone. It may change as it likes otherwise, and it is asked at most
once whether it is available.

Diagrams are told apart by the file names of their images, and only the first
with a file name is rendered. So the sources that are rendered are those of
the document, each once, as long as different sources have different file
names. That is the hypothesis `Distinguishes`; the names are digests, so it
cannot be proved.

## Main definitions

* `RendersBy`: The images of a backend depend on the source alone.
* `Distinguishes`: Different sources have different file names.
* `rendered`: What becomes of the diagrams of a document.
* `attached`: A context with the images.

## Theorems

* `mem_renderedTexts`, `nodup_renderedTexts`: The sources that are rendered.
* `run_attach_unavailable`, `run_attach_available`: The runs.
* `get?_attached`: The attachments.
* `hasAttachment_attached`: A diagram has an image if it could be rendered.
-/

namespace WikiSync.Diagram

/-! ### The sources that are rendered -/

/-- A source with the file name of its image. -/
def Source.of (text : String) : Source :=
  ⟨Diagram.filename text, text⟩

theorem ofNode?_eq (n : Node) : ofNode? n = n.diagram?.map Source.of := by
  rcases hdiagram : n.diagram? with _ | text
  · rw [Node.diagram?, Option.map_eq_none_iff] at hdiagram
    exact hdiagram
  · rw [Node.diagram?_eq_some hdiagram]
    simp only [ofNode?, if_true, Option.map_some, Source.of]

theorem sources_eq (tree : Node) : sources tree = distinct [] (tree.diagrams.map Source.of) := by
  have hall : tree.walk.filterMap ofNode? = tree.diagrams.map Source.of := by
    rw [Node.diagrams, List.map_filterMap]
    exact congrArg (fun f => tree.walk.filterMap f) (funext ofNode?_eq)
  rw [sources, hall]

theorem distinct_sublist (seen : List String) (ds : List Source) :
    (distinct seen ds).Sublist ds := by
  induction ds generalizing seen with
  | nil => exact List.Sublist.slnil
  | cons d ds ih =>
    rw [distinct]
    split
    · exact (ih seen).cons d
    · exact (ih (d.filename :: seen)).cons_cons d

/-- No file name comes twice, and none that has come before. -/
theorem nodup_distinct (seen : List String) (ds : List Source) :
    ((distinct seen ds).map (·.filename)).Nodup ∧
      ∀ d ∈ distinct seen ds, d.filename ∉ seen := by
  induction ds generalizing seen with
  | nil => exact ⟨List.nodup_nil, fun d hd => absurd hd List.not_mem_nil⟩
  | cons d ds ih =>
    rw [distinct]
    split
    · exact ih seen
    · -- The name is new. It is seen from here on, so it does not come again.
      next hnew =>
      rcases ih (d.filename :: seen) with ⟨hnodup, hfresh⟩
      have hd : d.filename ∉ seen := fun h => hnew (List.contains_iff_mem.2 h)
      refine ⟨?_, fun e he => ?_⟩
      · rw [List.map_cons, List.nodup_cons]
        refine ⟨fun hmem => ?_, hnodup⟩
        rcases List.mem_map.1 hmem with ⟨e, he, heq⟩
        exact hfresh e he (heq ▸ List.mem_cons_self)
      · rcases List.mem_cons.1 he with rfl | he
        · exact hd
        · exact fun h => hfresh e he (List.mem_cons_of_mem _ h)

/-- Every file name is there, if it has not come before. -/
theorem filename_mem_distinct (seen : List String) (ds : List Source) :
    ∀ d ∈ ds, d.filename ∈ seen ∨ ∃ e ∈ distinct seen ds, e.filename = d.filename := by
  induction ds generalizing seen with
  | nil => exact fun d hd => absurd hd List.not_mem_nil
  | cons first ds ih =>
    intro d hd
    rw [distinct]
    split
    · -- The first source is passed over because its name has come before.
      next hold =>
      rcases List.mem_cons.1 hd with rfl | hd
      · exact Or.inl (List.contains_iff_mem.1 hold)
      · exact ih seen d hd
    · rcases List.mem_cons.1 hd with rfl | hd
      · exact Or.inr ⟨d, List.mem_cons_self, rfl⟩
      · rcases ih (first.filename :: seen) d hd with hmem | ⟨e, he, heq⟩
        · rcases List.mem_cons.1 hmem with heq | hmem
          · exact Or.inr ⟨first, List.mem_cons_self, heq.symm⟩
          · exact Or.inl hmem
        · exact Or.inr ⟨e, List.mem_cons_of_mem _ he, heq⟩

/-- Different sources of a tree have images with different file names. -/
def Distinguishes (tree : Node) : Prop :=
  ∀ a ∈ tree.diagrams, ∀ b ∈ tree.diagrams, filename a = filename b → a = b

theorem nodup_sources (tree : Node) : ((sources tree).map (·.filename)).Nodup := by
  rw [sources_eq]
  exact (nodup_distinct [] _).1

theorem of_mem_sources {tree : Node} {d : Source} (h : d ∈ sources tree) :
    ∃ text ∈ tree.diagrams, d = Source.of text := by
  rw [sources_eq] at h
  rcases List.mem_map.1 ((distinct_sublist _ _).subset h) with ⟨text, htext, heq⟩
  exact ⟨text, htext, heq.symm⟩

/-- The sources that are rendered are those of the tree. -/
theorem mem_sources {tree : Node} (h : Distinguishes tree) {text : String} :
    Source.of text ∈ sources tree ↔ text ∈ tree.diagrams := by
  constructor
  · intro hmem
    rcases of_mem_sources hmem with ⟨other, hother, heq⟩
    have htext : text = other := congrArg Source.text heq
    rw [htext]
    exact hother
  · intro hmem
    rcases filename_mem_distinct [] (tree.diagrams.map Source.of) _
        (List.mem_map_of_mem hmem) with hnone | ⟨e, he, heq⟩
    · exact absurd hnone List.not_mem_nil
    · -- The source that is rendered has the same file name, so it is the same.
      rw [← sources_eq] at he
      rcases of_mem_sources he with ⟨other, hother, rfl⟩
      have hsame : other = text := h other hother text hmem heq
      rw [← hsame]
      exact he

/-- The texts of the sources that are rendered. -/
def renderedTexts (tree : Node) : List String :=
  (sources tree).map (·.text)

theorem mem_renderedTexts {tree : Node} (h : Distinguishes tree) {text : String} :
    text ∈ renderedTexts tree ↔ text ∈ tree.diagrams := by
  rw [← mem_sources h, renderedTexts, List.mem_map]
  constructor
  · rintro ⟨d, hd, rfl⟩
    rcases of_mem_sources hd with ⟨other, -, rfl⟩
    exact hd
  · intro hmem
    exact ⟨Source.of text, hmem, rfl⟩

theorem nodup_renderedTexts (tree : Node) : (renderedTexts tree).Nodup := by
  have hsame : (sources tree).map (·.filename) = (renderedTexts tree).map filename := by
    rw [renderedTexts, List.map_map]
    refine List.map_congr_left fun d hd => ?_
    rcases of_mem_sources hd with ⟨text, -, rfl⟩
    rfl
  have hnodup := nodup_sources tree
  rw [hsame] at hnodup
  exact List.Pairwise.of_map filename (fun a b hne heq => hne (congrArg filename heq)) hnodup

/-! ### The runs -/

variable {σ : Type}

/-- The images of a backend depend on the source alone. -/
def RendersBy (m : Machine Backend σ) (image : String → Except RenderError Bytes) : Prop :=
  ∀ source s, (m.answer (.render source) s).1 = image source

/-- What becomes of diagrams. -/
def rendered (image : String → Except RenderError Bytes) (ds : List Source) : List Rendered :=
  ds.map fun d => (d, image d.text)

variable {m : Machine Backend σ} {image : String → Except RenderError Bytes}

theorem run_render (hm : RendersBy m image) (source : String) (s : σ) :
    (Script.question (I := Backend) (.render source)).run m s =
      ⟨image source, (m.answer (.render source) s).2, [], [.render source]⟩ := by
  rw [← hm source s]
  rfl

/-- Rendering asks for one source after the other and logs nothing. -/
theorem run_renderAll (hm : RendersBy m image) (ds : List Source) (s : σ) :
    ∃ s', (renderAll ds).run m s =
      ⟨rendered image ds, s', [], ds.map fun d => .render d.text⟩ := by
  induction ds generalizing s with
  | nil => exact ⟨s, rfl⟩
  | cons d ds ih =>
    rcases ih (m.answer (.render d.text) s).2 with ⟨s', hrun⟩
    refine ⟨s', ?_⟩
    simp only [renderAll, Script.run_bind, run_render hm, hrun, Script.run_pure, Run.follow,
      List.append_nil]
    rfl

/-- A context with the images of diagrams. -/
def attached (image : String → Except RenderError Bytes) (tree : Node) (ctx : Context) : Context :=
  (rendered image (sources tree)).foldl attachImage ctx

theorem sources_eq_nil {tree : Node} : sources tree = [] ↔ tree.diagrams = [] := by
  rw [sources_eq]
  rcases tree.diagrams with _ | ⟨text, texts⟩
  · exact ⟨fun _ => rfl, fun _ => rfl⟩
  · constructor
    · intro h
      cases h
    · intro h
      cases h

theorem idle_iff {tree : Node} {ctx : Context} :
    (!ctx.options.diagrams || (sources tree).isEmpty) = true ↔
      ctx.options.diagrams = false ∨ tree.diagrams = [] := by
  rw [Bool.or_eq_true, Bool.not_eq_true', List.isEmpty_iff, sources_eq_nil]

/-- There is nothing to ask for. -/
theorem attach_idle (backend : String) (tree : Node) (ctx : Context)
    (h : ctx.options.diagrams = false ∨ tree.diagrams = []) :
    attach backend tree ctx = pure (.ok ctx) := by
  unfold attach
  simp only [idle_iff.2 h, if_true]

section Enabled

variable (backend : String) (tree : Node) (ctx : Context) (s : σ)
  (henabled : ctx.options.diagrams = true) (hsome : tree.diagrams ≠ [])

include henabled hsome

/-- Otherwise the backend is asked whether it is available. -/
theorem run_attach :
    (attach backend tree ctx).run m s =
      (Run.mk (I := Backend) () (m.answer .available s).2 [] [.available]).follow
        ((if !(m.answer .available s).1 then pure (.error ⟨backend⟩)
          else do
            Script.log (renderingEntry (sources tree).length)
            let results ← renderAll (sources tree)
            Script.logAll (results.filterMap failure?)
            pure (.ok (results.foldl attachImage ctx)) :
          Script Backend (Except Unavailable Context)).run m (m.answer .available s).2) := by
  -- Diagrams are shown, and there is one.
  have hbusy : (!ctx.options.diagrams || (sources tree).isEmpty) = false := by
    rw [← Bool.not_eq_true, idle_iff, henabled]
    exact not_or.2 ⟨Bool.noConfusion, hsome⟩
  unfold attach
  simp only [hbusy, Bool.false_eq_true, if_false]
  rw [Script.run_bind]
  rfl

theorem run_attach_unavailable (havailable : (m.answer .available s).1 = false) :
    ((attach backend tree ctx).run m s).value = .error ⟨backend⟩ ∧
      ((attach backend tree ctx).run m s).asked = [.available] := by
  rw [run_attach backend tree ctx s henabled hsome]
  simp only [havailable, Bool.not_false, if_true]
  exact ⟨rfl, rfl⟩

theorem run_attach_available (hm : RendersBy m image)
    (havailable : (m.answer .available s).1 = true) :
    ((attach backend tree ctx).run m s).value = .ok (attached image tree ctx) ∧
      ((attach backend tree ctx).run m s).asked =
        .available :: (renderedTexts tree).map .render := by
  rw [run_attach backend tree ctx s henabled hsome]
  simp only [havailable, Bool.not_true, Bool.false_eq_true, if_false, Script.run_bind,
    Script.run_log, Script.run_logAll, Script.run_pure, Run.follow]
  rcases run_renderAll hm (sources tree) (m.answer .available s).2 with ⟨s', hrun⟩
  rw [hrun]
  refine ⟨rfl, ?_⟩
  simp only [renderedTexts, List.map_map, Function.comp_def, List.nil_append, List.append_nil,
    List.singleton_append]

end Enabled

/-! ### The attachments -/

/-- An attachment that images add, or one that was there and none of them
replaces. -/
theorem get?_attachImages (results : List Rendered)
    (hnodup : (results.map (·.1.filename)).Nodup) (ctx : Context) (name : String)
    (a : Attachment) :
    (results.foldl attachImage ctx).attachments.get? name = some a ↔
      (∃ d data, (d, .ok data) ∈ results ∧ d.filename = name ∧ a = ⟨name, data, contentType⟩) ∨
        (ctx.attachments.get? name = some a ∧
          ∀ d data, (d, .ok data) ∈ results → d.filename ≠ name) := by
  induction results generalizing ctx with
  | nil =>
    constructor
    · intro h
      exact Or.inr ⟨h, fun d data hd => absurd hd List.not_mem_nil⟩
    · rintro (⟨d, data, hd, -⟩ | ⟨h, -⟩)
      · exact absurd hd List.not_mem_nil
      · exact h
  | cons r results ih =>
    rcases r with ⟨d, e | data⟩
    · -- Without an image nothing is added.
      rw [List.map_cons, List.nodup_cons] at hnodup
      rw [List.foldl_cons]
      change ((results.foldl attachImage ctx).attachments.get? name = some a) ↔ _
      rw [ih hnodup.2 ctx]
      simp only [List.mem_cons, Prod.mk.injEq, reduceCtorEq, and_false, false_or]
    · rw [List.map_cons, List.nodup_cons] at hnodup
      rcases hnodup with ⟨hnew, hnodup⟩
      -- No later image has the same name.
      have hother : ∀ d' data', (d', .ok data') ∈ results → d'.filename ≠ d.filename :=
        fun d' data' hd' heq => hnew (heq ▸ List.mem_map_of_mem hd')
      rw [List.foldl_cons, ih hnodup]
      by_cases hname : name = d.filename
      · -- The name is that of the image, and no later one has it.
        have hget : (attachImage ctx (d, .ok data)).attachments.get? name =
            some ⟨name, data, contentType⟩ := by
          rw [hname]
          exact SortedMap.get?_insert_self _ _ _
        rw [hget, Option.some.injEq]
        constructor
        · rintro (⟨d', data', hd', hd'name, rfl⟩ | ⟨rfl, -⟩)
          · exact Or.inl ⟨d', data', List.mem_cons_of_mem _ hd', hd'name, rfl⟩
          · exact Or.inl ⟨d, data, List.mem_cons_self, hname.symm, rfl⟩
        · rintro (⟨d', data', hd', hd'name, rfl⟩ | ⟨-, hnone⟩)
          · rcases List.mem_cons.1 hd' with heq | hd'
            · cases heq
              exact Or.inr ⟨rfl, fun d' data' hd' => hname ▸ hother d' data' hd'⟩
            · exact absurd (hd'name.trans hname) (hother d' data' hd')
          · exact absurd hname.symm (hnone d data List.mem_cons_self)
      · have hget : (attachImage ctx (d, .ok data)).attachments.get? name =
            ctx.attachments.get? name := SortedMap.get?_insert_of_ne _ hname _
        rw [hget]
        constructor
        · rintro (⟨d', data', hd', hd'name, rfl⟩ | ⟨h, hnone⟩)
          · exact Or.inl ⟨d', data', List.mem_cons_of_mem _ hd', hd'name, rfl⟩
          · refine Or.inr ⟨h, fun d' data' hd' => ?_⟩
            rcases List.mem_cons.1 hd' with heq | hd'
            · cases heq
              exact fun h => hname h.symm
            · exact hnone d' data' hd'
        · rintro (⟨d', data', hd', hd'name, rfl⟩ | ⟨h, hnone⟩)
          · rcases List.mem_cons.1 hd' with heq | hd'
            · cases heq
              exact absurd hd'name.symm hname
            · exact Or.inl ⟨d', data', hd', hd'name, rfl⟩
          · exact Or.inr ⟨h, fun d' data' hd' => hnone d' data' (List.mem_cons_of_mem _ hd')⟩

/-- The attachments of a document are the images of those of its diagrams that
could be rendered. -/
theorem get?_attached {tree : Node} (hdistinct : Distinguishes tree) {ctx : Context}
    (hctx : ctx.attachments = .empty) (name : String) (a : Attachment) :
    (attached image tree ctx).attachments.get? name = some a ↔
      ∃ text ∈ tree.diagrams, ∃ data, image text = .ok data ∧ name = filename text ∧
        a = ⟨filename text, data, contentType⟩ := by
  have hnodup : ((rendered image (sources tree)).map (·.1.filename)).Nodup := by
    rw [rendered, List.map_map]
    exact nodup_sources tree
  rw [attached, get?_attachImages _ hnodup, hctx]
  constructor
  · rintro (⟨d, data, hd, rfl, rfl⟩ | ⟨h, -⟩)
    · rcases List.mem_map.1 hd with ⟨d', hd', heq⟩
      rcases of_mem_sources hd' with ⟨text, htext, rfl⟩
      rcases Prod.mk.inj heq with ⟨rfl, hdata⟩
      exact ⟨text, htext, data, hdata, rfl, rfl⟩
    · cases h
  · rintro ⟨text, htext, data, hdata, rfl, rfl⟩
    refine Or.inl ⟨Source.of text, data, ?_, rfl, rfl⟩
    exact List.mem_map.2 ⟨Source.of text, (mem_sources hdistinct).2 htext, by
      change (_, image text) = _
      rw [hdata]⟩

/-- A diagram has an image if it could be rendered. -/
theorem hasAttachment_attached {tree : Node} (hdistinct : Distinguishes tree) {ctx : Context}
    (hctx : ctx.attachments = .empty) {text : String} (htext : text ∈ tree.diagrams) :
    (attached image tree ctx).hasAttachment (filename text) = true ↔
      ∃ data, image text = .ok data := by
  rw [Context.hasAttachment, SortedMap.contains, Option.isSome_iff_exists]
  constructor
  · rintro ⟨a, ha⟩
    rcases (get?_attached hdistinct hctx _ _).1 ha with ⟨other, hother, data, hdata, hname, -⟩
    rw [hdistinct text htext other hother hname]
    exact ⟨data, hdata⟩
  · rintro ⟨data, hdata⟩
    exact ⟨_, (get?_attached hdistinct hctx _ _).2 ⟨text, htext, data, hdata, rfl, rfl⟩⟩

theorem options_attached (tree : Node) (ctx : Context) :
    (attached image tree ctx).options = ctx.options := by
  unfold attached
  generalize rendered image (sources tree) = results
  induction results generalizing ctx with
  | nil => rfl
  | cons r results ih =>
    rw [List.foldl_cons, ih]
    rcases r with ⟨d, e | data⟩
    · rfl
    · rfl

end WikiSync.Diagram
