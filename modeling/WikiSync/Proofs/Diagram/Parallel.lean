import Mathlib.Data.List.Basic
import WikiSync.Proofs.Diagram.Attach

/-!
# Diagrams Rendered Side by Side

The diagrams of a document may be rendered all at once. Then the images come in any order,
and each is kept at the place of its source until all of them are there. After that they are
attached in the order of the document, so nothing of the order in which they came is left.

An order is a list of places, each of them once. The step is one image that comes: it fills
its own place and no other (`set_filled`). Along an order the places that are filled are
those of the past, and in the end they are all filled with what the backend makes of their
sources, which is also what one rendering after the other gives.

What is rendered is stated without the walk that collects it. Of the diagrams that share a
file name it is the first one, and the first ones stand in the order of the document. The
hypothesis `Distinguishes` is not needed for that: two sources with the same file name share
an image, and it is that of the first.

## Main definitions

* `attachBy`, `attachInOrder`: Attaching, with another way of rendering.
* `Firsts`: The first of the texts with each file name.
* `attachmentAfter`: The attachments of a document with diagrams.
* `Settled`: What attaching comes to.

## Theorems

* `run_renderInOrder`: Rendering in an order.
* `firsts_renderedTexts`: What is rendered.
* `get?_attached_eq`: The attachments.
* `outcome_attachInOrder`: Attaching comes to the same in every order.
-/

namespace WikiSync.Diagram

/-! ### Rendering in an order -/

/-- Renders the sources at the places of an order, one after the other, and puts every result
at the place of its source. -/
def renderPlaces (ds : List Source) :
    List Nat → List (Option Rendered) → Script Backend (List (Option Rendered))
  | [], slots => pure slots
  | i :: order, slots =>
    match ds[i]? with
    | none => renderPlaces ds order slots
    | some d => do
      let result ← Script.question (I := Backend) (.render d.text)
      renderPlaces ds order (slots.set i (some (d, result)))

/-- Renders sources in an order of their places. The results are in the order of the
sources. -/
def renderInOrder (order : List Nat) (ds : List Source) : Script Backend (List Rendered) := do
  let slots ← renderPlaces ds order (ds.map fun _ => none)
  pure (slots.filterMap id)

/-- Renders the diagrams of a document with the backend of a name, in a given way. -/
def attachBy (render : List Source → Script Backend (List Rendered)) (backend : String)
    (tree : Node) (ctx : Context) : Script Backend (Except Unavailable Context) :=
  let found := sources tree
  if !ctx.options.diagrams || found.isEmpty then pure (.ok ctx)
  else do
    let available ← Script.question (I := Backend) .available
    if !available then pure (.error ⟨backend⟩)
    else do
      Script.log (renderingEntry found.length)
      let results ← render found
      Script.logAll (results.filterMap failure?)
      pure (.ok (results.foldl attachImage ctx))

theorem attach_eq (backend : String) (tree : Node) (ctx : Context) :
    attach backend tree ctx = attachBy renderAll backend tree ctx := rfl

/-- Renders the diagrams of a document, which come in an order of their places. -/
def attachInOrder (order : List Nat) : String → Node → Context →
    Script Backend (Except Unavailable Context) :=
  attachBy (renderInOrder order)

/-- The results of some places. -/
def filled (image : String → Except RenderError Bytes) (ds : List Source) (past : List Nat) :
    List (Option Rendered) :=
  ds.mapIdx fun i d => if i ∈ past then some (d, image d.text) else none

section

variable {σ : Type} {m : Machine Backend σ} {image : String → Except RenderError Bytes}

theorem getElem?_filled (ds : List Source) (past : List Nat) (i : Nat) :
    (filled image ds past)[i]? =
      ds[i]?.map fun d => if i ∈ past then some (d, image d.text) else none :=
  List.getElem?_mapIdx

/-- A result fills its place and no other. -/
theorem set_filled {ds : List Source} {i : Nat} {d : Source} (hd : ds[i]? = some d)
    (past : List Nat) :
    (filled image ds past).set i (some (d, image d.text)) = filled image ds (past ++ [i]) := by
  have hlength : (filled image ds past).length = ds.length := List.length_mapIdx
  have hi : i < (filled image ds past).length := by
    rw [hlength]
    exact (List.getElem?_eq_some_iff.1 hd).1
  refine List.ext_getElem? fun j => ?_
  rw [getElem?_filled]
  by_cases hij : i = j
  · rw [← hij, List.getElem?_set_self hi, hd, Option.map_some,
      if_pos (List.mem_append_right _ List.mem_cons_self)]
  · have hpast : j ∈ past ++ [i] ↔ j ∈ past := by
      rw [List.mem_append, List.mem_singleton]
      exact or_iff_left fun h => hij h.symm
    simp only [List.getElem?_set_ne hij, getElem?_filled, hpast]

/-- Along an order the places are filled, and the sources at them are asked for. -/
theorem run_renderPlaces (hm : RendersBy m image) (ds : List Source) {order : List Nat}
    (horder : ∀ i ∈ order, i < ds.length) (past : List Nat) (s : σ) :
    ∃ s', (renderPlaces ds order (filled image ds past)).run m s =
      ⟨filled image ds (past ++ order), s', [],
        (order.filterMap (ds[·]?)).map fun d => .render d.text⟩ := by
  induction order generalizing past s with
  | nil =>
    rw [List.append_nil]
    exact ⟨s, rfl⟩
  | cons i order ih =>
    rcases List.forall_mem_cons.1 horder with ⟨hi, horder⟩
    have hd : ds[i]? = some ds[i] := List.getElem?_eq_getElem hi
    have hpast : past ++ i :: order = past ++ [i] ++ order := by
      rw [List.append_assoc, List.singleton_append]
    rcases ih horder (past ++ [i]) (m.answer (.render ds[i].text) s).2 with ⟨s', hrun⟩
    refine ⟨s', ?_⟩
    rw [renderPlaces, List.filterMap_cons, hpast]
    simp only [hd, Script.run_bind, run_render hm, set_filled hd past, hrun]
    rfl

/-- In whichever order they come, the results are those of the sources. -/
theorem run_renderInOrder (hm : RendersBy m image) {ds : List Source} {order : List Nat}
    (horder : order.Perm (List.range ds.length)) (s : σ) :
    ∃ s', (renderInOrder order ds).run m s =
      ⟨rendered image ds, s', [], (order.filterMap (ds[·]?)).map fun d => .render d.text⟩ := by
  have hplaces (i : Nat) : i ∈ order ↔ i < ds.length := by
    rw [horder.mem_iff, List.mem_range]
  have hstart : ds.map (fun _ => none) = filled image ds [] := by
    refine List.ext_getElem? fun i => ?_
    rw [getElem?_filled, List.getElem?_map]
    rfl
  have hend : filled image ds order = (rendered image ds).map some := by
    refine List.ext_getElem? fun i => ?_
    rw [getElem?_filled, List.getElem?_map, rendered, List.getElem?_map]
    rcases hd : ds[i]? with _ | d
    · rfl
    · have hi : i ∈ order := (hplaces i).2 (List.getElem?_eq_some_iff.1 hd).1
      simp only [Option.map_some, if_pos hi]
  rcases run_renderPlaces hm ds (fun i hi => (hplaces i).1 hi) [] s with ⟨s', hrun⟩
  refine ⟨s', ?_⟩
  rw [renderInOrder, Script.run_bind, hstart, hrun]
  simp only [Run.follow, Script.run_pure, List.nil_append, hend, List.filterMap_map,
    List.append_nil, Function.id_comp, List.filterMap_some]

theorem attachBy_idle (render : List Source → Script Backend (List Rendered)) (backend : String)
    {tree : Node} {ctx : Context} (h : ctx.options.diagrams = false ∨ tree.diagrams = []) :
    attachBy render backend tree ctx = pure (.ok ctx) := by
  unfold attachBy
  simp only [idle_iff.2 h, if_true]

/-- Every source is asked for once. -/
theorem perm_filterMap_places {ds : List Source} {order : List Nat}
    (horder : order.Perm (List.range ds.length)) : (order.filterMap (ds[·]?)).Perm ds := by
  have hplaces : (List.range ds.length).map (ds[·]?) = ds.map some := by
    refine List.ext_getElem (by rw [List.length_map, List.length_map, List.length_range]) ?_
    intro i hi hi'
    rw [List.getElem_map, List.getElem_map, List.getElem_range, List.getElem?_eq_getElem]
  have hall : (List.range ds.length).filterMap (ds[·]?) = ds := by
    have hmap := congrArg (List.filterMap id) hplaces
    rw [List.filterMap_map, List.filterMap_map] at hmap
    exact hmap.trans List.filterMap_some
  have hperm := horder.filterMap (ds[·]?)
  rwa [hall] at hperm

/-- What attaching comes to, if rendering comes to the images of the sources. -/
theorem run_attachBy {render : List Source → Script Backend (List Rendered)} (backend : String)
    (tree : Node) (ctx : Context) {asked : List Request}
    (hrender : ∀ s, ∃ s', (render (sources tree)).run m s =
      ⟨rendered image (sources tree), s', [], asked⟩)
    (hbusy : ¬ (ctx.options.diagrams = false ∨ tree.diagrams = [])) (s : σ) :
    ∃ s', (attachBy render backend tree ctx).run m s =
      if (m.answer .available s).1 then
        ⟨.ok (attached image tree ctx), s',
          renderingEntry (sources tree).length ::
            (rendered image (sources tree)).filterMap failure?,
          .available :: asked⟩
      else ⟨.error ⟨backend⟩, (m.answer .available s).2, [], [.available]⟩ := by
  have hsome : (!ctx.options.diagrams || (sources tree).isEmpty) = false := by
    rw [← Bool.not_eq_true, idle_iff]
    exact hbusy
  have hquestion : (Script.question (I := Backend) .available).run m s =
      ⟨(m.answer .available s).1, (m.answer .available s).2, [], [.available]⟩ := rfl
  unfold attachBy
  simp only [hsome, Bool.false_eq_true, if_false, Script.run_bind, hquestion]
  rcases (m.answer .available s).1 with _ | _
  · exact ⟨s, rfl⟩
  · rcases hrender (m.answer .available s).2 with ⟨s', hrun⟩
    simp only [Bool.not_true, Bool.false_eq_true, if_false, if_true, Script.run_bind,
      Script.run_log, hrun, Script.run_logAll, Script.run_pure, Run.follow, List.nil_append,
      List.append_nil, List.singleton_append]
    exact ⟨s', rfl⟩

end

/-! ### What is rendered -/

/-- Texts with different file names: of all texts with a file name it is the first, and they
are in the order in which those come. -/
structure Firsts (all texts : List String) : Prop where
  mem_iff (text : String) :
    text ∈ texts ↔ all.find? (filename · = filename text) = some text
  ordered : texts.Pairwise fun a b => all.idxOf a < all.idxOf b

/-- The texts of sources without those whose file name has come before. -/
def firstTexts (seen texts : List String) : List String :=
  (distinct seen (texts.map Source.of)).map (·.text)

theorem firstTexts_cons (seen : List String) (text : String) (texts : List String) :
    firstTexts seen (text :: texts) =
      if filename text ∈ seen then firstTexts seen texts
      else text :: firstTexts (filename text :: seen) texts := by
  have hseen : (seen.contains (Source.of text).filename = true) = (filename text ∈ seen) :=
    propext List.contains_iff_mem
  rw [firstTexts, List.map_cons, distinct]
  simp only [hseen, apply_ite (List.map Source.text), List.map_cons]
  rfl

theorem mem_firstTexts (seen texts : List String) (text : String) :
    text ∈ firstTexts seen texts ↔
      filename text ∉ seen ∧ texts.find? (filename · = filename text) = some text := by
  induction texts generalizing seen with
  | nil => exact ⟨fun h => absurd h List.not_mem_nil, fun h => absurd h.2 (by simp)⟩
  | cons first texts ih =>
    rw [firstTexts_cons]
    by_cases hsame : filename first = filename text
    · -- No other text with this file name counts.
      have hfind : (first :: texts).find? (filename · = filename text) = some first :=
        List.find?_cons_of_pos (decide_eq_true hsame)
      rw [hfind, Option.some.injEq, ← hsame]
      split
      · next hseen =>
        rw [ih, ← hsame]
        exact ⟨fun h => absurd hseen h.1, fun h => absurd hseen h.1⟩
      · next hnew =>
        rw [List.mem_cons, ih, ← hsame]
        constructor
        · rintro (h | ⟨h, -⟩)
          · exact ⟨hnew, h.symm⟩
          · exact absurd List.mem_cons_self h
        · exact fun h => Or.inl h.2.symm
    · have hfind : (first :: texts).find? (filename · = filename text) =
          texts.find? (filename · = filename text) :=
        List.find?_cons_of_neg (by rwa [decide_eq_true_eq])
      rw [hfind]
      split
      · exact ih seen
      · have hne : text ≠ first := fun h => hsame (congrArg filename h).symm
        rw [List.mem_cons, ih, List.mem_cons, not_or]
        constructor
        · rintro (h | ⟨⟨-, hnew⟩, hfirst⟩)
          · exact absurd h hne
          · exact ⟨hnew, hfirst⟩
        · exact fun h => Or.inr ⟨⟨fun heq => hsame heq.symm, h.1⟩, h.2⟩

theorem pairwise_firstTexts (seen texts : List String) :
    (firstTexts seen texts).Pairwise fun a b => texts.idxOf a < texts.idxOf b := by
  induction texts generalizing seen with
  | nil => exact List.Pairwise.nil
  | cons first texts ih =>
    -- Texts with another file name than the first one are one place further on.
    have hshift (seen : List String) (hfirst : filename first ∈ seen) {a : String}
        (ha : a ∈ firstTexts seen texts) :
        (first :: texts).idxOf a = texts.idxOf a + 1 := by
      refine List.idxOf_cons_ne _ fun heq => ?_
      exact ((mem_firstTexts seen texts a).1 ha).1 (heq ▸ hfirst)
    have hrest (seen : List String) (hfirst : filename first ∈ seen) :
        (firstTexts seen texts).Pairwise fun a b =>
          (first :: texts).idxOf a < (first :: texts).idxOf b := by
      refine (ih seen).imp_of_mem fun {a b} ha hb hlt => ?_
      rw [hshift seen hfirst ha, hshift seen hfirst hb]
      exact Nat.succ_lt_succ hlt
    rw [firstTexts_cons]
    split
    · next hseen => exact hrest seen hseen
    · refine List.pairwise_cons.2 ⟨fun a ha => ?_, hrest _ List.mem_cons_self⟩
      rw [List.idxOf_cons_self, hshift _ List.mem_cons_self ha]
      exact Nat.succ_pos _

theorem renderedTexts_eq (tree : Node) : renderedTexts tree = firstTexts [] tree.diagrams := by
  rw [renderedTexts, sources_eq, firstTexts]

theorem firsts_renderedTexts (tree : Node) : Firsts tree.diagrams (renderedTexts tree) := by
  rw [renderedTexts_eq]
  refine ⟨fun text => ?_, pairwise_firstTexts [] _⟩
  rw [mem_firstTexts]
  exact and_iff_right List.not_mem_nil

theorem sources_eq_map (tree : Node) : sources tree = (renderedTexts tree).map Source.of := by
  rw [renderedTexts, List.map_map]
  refine (List.map_id _).symm.trans (List.map_congr_left fun d hd => ?_)
  rcases of_mem_sources hd with ⟨text, -, rfl⟩
  rfl

/-- The text with a file name is the first one. -/
theorem Firsts.find?_eq_some_iff {all texts : List String} (h : Firsts all texts)
    {name text : String} :
    all.find? (filename · = name) = some text ↔ text ∈ texts ∧ filename text = name := by
  constructor
  · intro hfind
    have hname : filename text = name := by
      simpa only [decide_eq_true_eq] using List.find?_some hfind
    rw [← hname] at hfind
    exact ⟨(h.mem_iff text).2 hfind, hname⟩
  · rintro ⟨htext, rfl⟩
    exact (h.mem_iff text).1 htext

/-- Every file name of a diagram is that of one text. -/
theorem Firsts.existsUnique {all texts : List String} (h : Firsts all texts) {name : String}
    (hname : ∃ text ∈ all, filename text = name) :
    ∃! text, text ∈ texts ∧ filename text = name := by
  rcases hname with ⟨text, htext, hname⟩
  have hfound : (all.find? (filename · = name)).isSome :=
    List.find?_isSome.2 ⟨text, htext, decide_eq_true hname⟩
  rcases Option.isSome_iff_exists.1 hfound with ⟨first, hfirst⟩
  refine ⟨first, h.find?_eq_some_iff.1 hfirst, fun other hother => ?_⟩
  exact Option.some.inj ((h.find?_eq_some_iff.2 hother).symm.trans hfirst)

/-! ### The attachments -/

/-- The attachment with a name after the images of a tree have been attached: the image of
the first diagram with that file name, if there is one, and what was there before if not. -/
def attachmentAfter (image : String → Except RenderError Bytes) (tree : Node) (ctx : Context)
    (name : String) : Option Attachment :=
  match (tree.diagrams.find? (filename · = name)).map image with
  | some (.ok data) => some ⟨name, data, "image/png"⟩
  | _ => ctx.attachments.get? name

/-- The log entry for a diagram, if there is no image of it. -/
def warning? (image : String → Except RenderError Bytes) (text : String) : Option LogEntry :=
  match image text with
  | .ok _ => none
  | .error e =>
    some ⟨.warn, "Failed to render diagram", [("filename", filename text), ("error", e.message)]⟩

/-- Every attachment has the file name under which it is kept. -/
def Keyed (ctx : Context) : Prop :=
  ∀ name a, ctx.attachments.get? name = some a → a.filename = name

section

variable {image : String → Except RenderError Bytes}

/-- The result under a file name is that of the first diagram with the name. -/
theorem mem_rendered {tree : Node} {name : String} {result : Except RenderError Bytes} :
    (∃ d, (d, result) ∈ rendered image (sources tree) ∧ d.filename = name) ↔
      (tree.diagrams.find? (filename · = name)).map image = some result := by
  have hfirsts := (firsts_renderedTexts tree).mem_iff
  rw [rendered, sources_eq_map, List.map_map]
  constructor
  · rintro ⟨d, hd, rfl⟩
    rcases List.mem_map.1 hd with ⟨text, htext, heq⟩
    rcases Prod.mk.inj heq with ⟨rfl, rfl⟩
    exact congrArg (Option.map image) ((hfirsts text).1 htext)
  · intro h
    rcases Option.map_eq_some_iff.1 h with ⟨text, htext, rfl⟩
    have hname : filename text = name := by
      simpa only [decide_eq_true_eq] using List.find?_some htext
    rw [← hname] at htext
    exact ⟨Source.of text, List.mem_map_of_mem ((hfirsts text).2 htext), hname⟩

theorem get?_attached_eq (tree : Node) (ctx : Context) (name : String) :
    (attached image tree ctx).attachments.get? name = attachmentAfter image tree ctx name := by
  have hnodup : ((rendered image (sources tree)).map (·.1.filename)).Nodup := by
    rw [rendered, List.map_map]
    exact nodup_sources tree
  have hget := get?_attachImages (rendered image (sources tree)) hnodup ctx name
  by_cases himage : ∃ data, (tree.diagrams.find? (filename · = name)).map image = some (.ok data)
  · rcases himage with ⟨data, hdata⟩
    have hafter : attachmentAfter image tree ctx name = some ⟨name, data, contentType⟩ := by
      simp only [attachmentAfter, hdata, contentType]
    rcases mem_rendered.2 hdata with ⟨d, hd, hname⟩
    rw [hafter]
    exact (hget _).2 (Or.inl ⟨d, data, hd, hname, rfl⟩)
  · -- Without an image under the name, what was there stays.
    have hafter : attachmentAfter image tree ctx name = ctx.attachments.get? name := by
      unfold attachmentAfter
      split
      · next data hdata => exact absurd ⟨data, hdata⟩ himage
      · rfl
    have hnone : ∀ d data, (d, .ok data) ∈ rendered image (sources tree) → d.filename ≠ name :=
      fun d data hd hname => himage ⟨data, mem_rendered.1 ⟨d, hd, hname⟩⟩
    rw [hafter]
    refine Option.ext fun a => (hget a).trans ⟨?_, fun h => Or.inr ⟨h, hnone⟩⟩
    rintro (⟨d, data, hd, hname, -⟩ | ⟨h, -⟩)
    · exact absurd hname (hnone d data hd)
    · exact h

/-- Without attachments from before, what is attached are the images of the first texts. -/
theorem get?_attached_of_empty {tree : Node} {ctx : Context} (hctx : ctx.attachments = .empty)
    {name : String} {a : Attachment} :
    (attached image tree ctx).attachments.get? name = some a ↔
      ∃ text ∈ renderedTexts tree, filename text = name ∧
        ∃ data, image text = .ok data ∧ a = ⟨name, data, "image/png"⟩ := by
  have hfirsts := firsts_renderedTexts tree
  rw [get?_attached_eq, attachmentAfter, hctx]
  constructor
  · intro h
    split at h
    · next data hdata =>
      rcases Option.map_eq_some_iff.1 hdata with ⟨text, htext, himage⟩
      rcases hfirsts.find?_eq_some_iff.1 htext with ⟨hmem, hname⟩
      exact ⟨text, hmem, hname, data, himage, (Option.some.inj h).symm⟩
    · cases h
  · rintro ⟨text, hmem, hname, data, himage, rfl⟩
    rw [hfirsts.find?_eq_some_iff.2 ⟨hmem, hname⟩, Option.map_some, himage]

theorem keyed_attached {tree : Node} {ctx : Context} (h : Keyed ctx) :
    Keyed (attached image tree ctx) := by
  intro name a ha
  rw [get?_attached_eq, attachmentAfter] at ha
  split at ha
  · cases ha
    rfl
  · exact h name a ha

/-- Nothing but the attachments changes. -/
theorem attached_eq (tree : Node) (ctx : Context) :
    attached image tree ctx =
      { ctx with attachments := (attached image tree ctx).attachments } := by
  unfold attached
  generalize rendered image (sources tree) = results
  induction results generalizing ctx with
  | nil => rfl
  | cons r results ih =>
    rw [List.foldl_cons, ih]
    rcases r with ⟨d, e | data⟩
    · rfl
    · rfl

theorem failures_rendered (tree : Node) :
    (rendered image (sources tree)).filterMap failure? =
      (renderedTexts tree).filterMap (warning? image) := by
  rw [rendered, sources_eq_map, List.map_map, List.filterMap_map]
  refine List.filterMap_congr fun text _ => ?_
  change failure? (Source.of text, image text) = _
  rw [warning?]
  rcases image text with e | data
  · rfl
  · rfl

end

/-! ### The whole run -/

/-- What attaching the diagrams of a tree comes to when the backend is available. The
backend is asked for each of the texts once, in some order. A context comes of it that
differs in the images, and every text without an image is reported, in the order of the
document. -/
structure Settled {σ : Type} (image : String → Except RenderError Bytes) (tree : Node)
    (ctx : Context) (texts : List String) (r : Run Backend σ (Except Unavailable Context)) :
    Prop where
  asked : ∃ questions : List String, questions.Perm texts ∧
    r.asked = .available :: questions.map .render
  log : r.log = renderingEntry texts.length :: texts.filterMap (warning? image)
  value : ∃ attachments, r.value = .ok { ctx with attachments } ∧
    ∀ name, attachments.get? name = attachmentAfter image tree ctx name
  keyed : Keyed ctx → ∀ after, r.value = .ok after → Keyed after

section

variable {σ : Type} {m : Machine Backend σ} {image : String → Except RenderError Bytes}

theorem settled_attachInOrder (hm : RendersBy m image) (backend : String) {tree : Node}
    {ctx : Context} {order : List Nat} (horder : order.Perm (List.range (sources tree).length))
    (hbusy : ¬ (ctx.options.diagrams = false ∨ tree.diagrams = [])) {s : σ}
    (havailable : (m.answer .available s).1 = true) :
    Settled image tree ctx (renderedTexts tree)
      ((attachInOrder order backend tree ctx).run m s) := by
  rcases run_attachBy backend tree ctx (run_renderInOrder hm horder) hbusy s with ⟨s', hrun⟩
  rw [if_pos havailable] at hrun
  rw [attachInOrder, hrun]
  refine ⟨⟨(order.filterMap ((sources tree)[·]?)).map (·.text), ?_, ?_⟩, ?_, ?_, ?_⟩
  · exact (perm_filterMap_places horder).map _
  · rw [List.map_map]
    rfl
  · rw [failures_rendered, renderedTexts, List.length_map]
  · exact ⟨_, congrArg Except.ok (attached_eq tree ctx), get?_attached_eq tree ctx⟩
  · intro hkeyed after hafter
    cases hafter
    exact keyed_attached hkeyed

/-- The diagrams of a document may be rendered in any order. If there is nothing to render,
the backend is not asked for anything. If it is not available, that is the error, and it is
asked for no image. Otherwise it is asked for the first source with each file name, once, and
the images are attached. Rendering one diagram after the other comes to the same context and
the same log, and asks for the same. -/
theorem outcome_attachInOrder (hm : RendersBy m image) (backend : String) (tree : Node)
    (ctx : Context) {order : List Nat} (horder : order.Perm (List.range (sources tree).length))
    (s : σ) :
    let r := (attachInOrder order backend tree ctx).run m s
    let idle := ctx.options.diagrams = false ∨ tree.diagrams = []
    (idle → r = ⟨.ok ctx, s, [], []⟩) ∧
      (¬ idle → (m.answer .available s).1 = false →
        r = ⟨.error ⟨backend⟩, (m.answer .available s).2, [], [.available]⟩) ∧
      (¬ idle → (m.answer .available s).1 = true →
        ∃ texts : List String, Firsts tree.diagrams texts ∧
          (∀ name, (∃ text ∈ tree.diagrams, filename text = name) →
            ∃! text, text ∈ texts ∧ filename text = name) ∧
          Settled image tree ctx texts r) ∧
      r.value = ((attach backend tree ctx).run m s).value ∧
      r.log = ((attach backend tree ctx).run m s).log ∧
      r.asked.Perm ((attach backend tree ctx).run m s).asked := by
  intro r idle
  by_cases hidle : idle
  · have hr : r = ⟨.ok ctx, s, [], []⟩ := by
      simp only [r, attachInOrder, attachBy_idle _ backend hidle, Script.run_pure]
    rw [attach_idle backend tree ctx hidle, hr]
    exact ⟨fun _ => rfl, fun h => absurd hidle h, fun h => absurd hidle h, rfl, rfl, .rfl⟩
  · rcases run_attachBy backend tree ctx (run_renderInOrder hm horder) hidle s with ⟨s', hrun⟩
    rcases run_attachBy backend tree ctx (run_renderAll hm _) hidle s with ⟨t', hattach⟩
    change r = _ at hrun
    rw [attach_eq, hattach]
    refine ⟨fun h => absurd h hidle, fun _ hgone => ?_, fun _ havailable => ?_, ?_⟩
    · rw [hrun, hgone]
      rfl
    · have hfirsts := firsts_renderedTexts tree
      exact ⟨renderedTexts tree, hfirsts, fun _ => hfirsts.existsUnique,
        settled_attachInOrder hm backend horder hidle havailable⟩
    · rw [hrun]
      rcases (m.answer .available s).1 with _ | _
      · exact ⟨rfl, rfl, .rfl⟩
      · exact ⟨rfl, rfl, ((perm_filterMap_places horder).map _).cons _⟩

end

/-- A task with a diagram, another diagram, and the first one again. -/
def twoDiagrams : Node :=
  .root [
    .list false none [.listItem (some true) [.code (some "mermaid") "graph TD"]],
    .code (some "mermaid") "graph LR",
    .code (some "mermaid") "graph TD"]

/-- Images for all sources but one. -/
def onlyImage (source : String) : Except RenderError Bytes :=
  if source = "graph TD" then .ok [137, 80, 78, 71] else .error .invalidPng

/-- A backend that counts the images that it was asked for. -/
def countingBackend : Machine Backend Nat where
  answer
    | .available, count => (true, count)
    | .render source, count => (onlyImage source, count + 1)

/-- The second diagram comes first. It cannot be rendered, and the image of it from before
stays. -/
theorem attachInOrder_twoDiagrams :
    let old : Attachment := ⟨filename "graph LR", [71, 73, 70], "image/gif"⟩
    let ctx := (Context.ofFrontMatter ⟨true, false⟩ .empty).attach old
    let r := (attachInOrder [1, 0] "counting" twoDiagrams ctx).run countingBackend 0
    RendersBy countingBackend onlyImage ∧
      [1, 0].Perm (List.range (sources twoDiagrams).length) ∧
      ∃ attachments, r.value = .ok { ctx with attachments } ∧
        attachments.get? (filename "graph TD") =
          some ⟨filename "graph TD", [137, 80, 78, 71], "image/png"⟩ ∧
        attachments.get? (filename "graph LR") = some old := by
  intro old ctx r
  have hdiagrams : twoDiagrams.diagrams = ["graph TD", "graph LR", "graph TD"] := by
    simp [twoDiagrams, Node.diagrams_eq, Node.children, Node.children?, Node.diagram?,
      Diagram.ofNode?, Diagram.language]
  have hne : filename "graph TD" ≠ filename "graph LR" := by decide +kernel
  have htexts : renderedTexts twoDiagrams = ["graph TD", "graph LR"] := by
    rw [renderedTexts_eq, hdiagrams]
    simp only [firstTexts_cons, List.mem_cons, List.not_mem_nil, hne, hne.symm, or_false, or_true,
      if_true, if_false]
    rfl
  have horder : [1, 0].Perm (List.range (sources twoDiagrams).length) := by
    rw [sources_eq_map, htexts]
    decide
  have hm : RendersBy countingBackend onlyImage := fun _ _ => rfl
  have hbusy : ¬ (ctx.options.diagrams = false ∨ twoDiagrams.diagrams = []) := by
    rw [hdiagrams]
    rintro (h | h)
    · cases h
    · cases h
  rcases (outcome_attachInOrder hm "counting" twoDiagrams ctx horder 0).2.2.1 hbusy rfl with
    ⟨texts, -, -, hsettled⟩
  rcases hsettled.value with ⟨attachments, hvalue, hget⟩
  refine ⟨hm, horder, attachments, hvalue, ?_, ?_⟩
  · rw [hget, attachmentAfter, hdiagrams]
    simp [onlyImage]
  · have hold : ctx.attachments.get? (filename "graph LR") = some old :=
      SortedMap.get?_insert_self _ _ _
    rw [hget, attachmentAfter, hdiagrams]
    simp [onlyImage, hne, hold]

end WikiSync.Diagram
