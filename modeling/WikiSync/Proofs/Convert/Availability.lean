import WikiSync.Proofs.Convert.Diagrams
import WikiSync.Proofs.Data.SortedMap
import WikiSync.Proofs.Document.Places

/-!
# What a Conversion Depends on

The conversion looks into its context for one thing, whether a diagram has an image,
and only if diagrams are shown at all. So two contexts that agree about that give
the same markup or the same failure, whatever else is in them. Two runs need not be
compared step by step for this: the markup of a tree is a template with the markup
of its diagrams in the gaps (`exists_template`), and the template is the same for
all contexts.

A conversion fails if a diagram that it comes upon has no image, and the failure
names the first such diagram. It comes upon the diagrams that stand as content. A
diagram that stands as a row or a cell of a table, or below the wrong child of a
task list, needs no image. This is said of tables and task lists that are converted
themselves. A table in a cell is not, so a diagram in it needs its image, and
`not_every_row_passed_over` is a tree with such a diagram.

## Main definitions

* `Context.lacks`: A diagram cannot be shown.

## Theorems

* `mapM_eq_error_iff`: The first failure of a sequence.
* `Converter.outcome_congr`, `Converter.outcome_error_iff`,
  `Converter.outcome_of_more`: Equal contexts, failures, and more attachments.
* `Converter.convert_by_availability`: All of it.
* `Converter.not_every_row_passed_over`: A diagram in a table in a table.
-/

namespace WikiSync

/-- A sequence depends on its parts only. -/
theorem mapM_congr {α β ε : Type} {f g : α → Except ε β} {as : List α}
    (h : ∀ a ∈ as, f a = g a) : as.mapM f = as.mapM g := by
  induction as with
  | nil => rfl
  | cons a as ih =>
    rw [List.mapM_cons, List.mapM_cons, h a List.mem_cons_self,
      ih fun b hb => h b (List.mem_cons_of_mem _ hb)]

/-- A sequence fails with the first of its failures. -/
theorem mapM_eq_error_iff {α β ε : Type} {f : α → Except ε β} {fails : α → Bool} {error : α → ε}
    (hfails : ∀ a, fails a = true → f a = .error (error a))
    (hworks : ∀ a, fails a = false → ∃ b, f a = .ok b) (as : List α) (e : ε) :
    as.mapM f = .error e ↔ ∃ a, as.find? fails = some a ∧ e = error a := by
  induction as with
  | nil =>
    constructor
    · exact fun h => nomatch h
    · rintro ⟨a, ha, -⟩
      cases ha
  | cons a as ih =>
    rw [List.mapM_cons, List.find?_cons]
    rcases ha : fails a with _ | _
    · -- The first part works, so the failure is one of the others.
      rcases hworks a ha with ⟨b, hb⟩
      rw [hb, ← ih]
      rcases as.mapM f with e' | bs
      · exact Iff.rfl
      · exact ⟨fun h => (nomatch h), fun h => (nomatch h)⟩
    · rw [hfails a ha]
      constructor
      · rintro h
        cases h
        exact ⟨a, rfl, rfl⟩
      · rintro ⟨a', ha', rfl⟩
        cases ha'
        rfl

namespace Context

/-- A diagram cannot be shown. -/
def lacks (ctx : Context) (source : String) : Bool :=
  ctx.options.diagrams && !ctx.hasAttachment (Diagram.filename source)

/-- An attachment stays when another one is added, or is replaced by it. -/
theorem hasAttachment_attach {ctx : Context} {filename : String} (a : Attachment)
    (h : ctx.hasAttachment filename = true) : (ctx.attach a).hasAttachment filename = true := by
  unfold hasAttachment SortedMap.contains attach at *
  by_cases hname : filename = a.filename
  · rw [hname, SortedMap.get?_insert_self]
    rfl
  · rw [SortedMap.get?_insert_of_ne _ hname]
    exact h

theorem foldl_attach (added : List Attachment) (ctx : Context) :
    (added.foldl attach ctx).options = ctx.options ∧
      ∀ filename, ctx.hasAttachment filename = true →
        (added.foldl attach ctx).hasAttachment filename = true := by
  induction added generalizing ctx with
  | nil => exact ⟨rfl, fun _ h => h⟩
  | cons a added ih =>
    rcases ih (ctx.attach a) with ⟨hoptions, hkept⟩
    exact ⟨hoptions, fun filename h => hkept filename (hasAttachment_attach a h)⟩

end Context

/-! ### One diagram -/

namespace Emit

theorem outcome_diagram_of_lacks {ctx : Context} {source : String} (h : ctx.lacks source = true) :
    (diagram ctx source).outcome = .error (.missingDiagram (Diagram.filename source)) := by
  unfold Context.lacks at h
  rw [Bool.and_eq_true, Bool.not_eq_true'] at h
  unfold diagram
  simp only [h.1, h.2, Bool.not_true, Bool.false_eq_true, if_false]
  rfl

theorem exists_outcome_diagram {ctx : Context} {source : String} (h : ctx.lacks source = false) :
    ∃ text, (diagram ctx source).outcome = .ok text := by
  unfold Context.lacks at h
  rw [Bool.and_eq_false_iff, Bool.not_eq_false'] at h
  unfold diagram
  rcases h with hdisabled | hhas
  · rw [hdisabled]
    exact ⟨_, rfl⟩
  · simp only [hhas]
    rcases ctx.options.diagrams with _ | _
    · exact ⟨_, rfl⟩
    · exact ⟨_, rfl⟩

/-- What is shown for a diagram depends on the switch and on its image. -/
theorem diagram_congr {ctx ctx' : Context} {source : String}
    (hswitch : ctx.options.diagrams = ctx'.options.diagrams)
    (hhas : ctx.hasAttachment (Diagram.filename source) =
      ctx'.hasAttachment (Diagram.filename source)) :
    diagram ctx source = diagram ctx' source := by
  unfold diagram
  simp only [hswitch, hhas]

/-- An image changes nothing where the diagram is shown without it. -/
theorem diagram_of_more {ctx ctx' : Context} {source : String}
    (hswitch : ctx.options.diagrams = ctx'.options.diagrams)
    (hmore : ctx.hasAttachment (Diagram.filename source) = true →
      ctx'.hasAttachment (Diagram.filename source) = true)
    (h : ctx.lacks source = false) : diagram ctx source = diagram ctx' source := by
  unfold Context.lacks at h
  rw [Bool.and_eq_false_iff, Bool.not_eq_false'] at h
  rcases h with hdisabled | hhas
  · -- Where diagrams are switched off, nobody looks for an image.
    unfold diagram
    rw [← hswitch, hdisabled]
    rfl
  · exact diagram_congr hswitch (hhas.trans (hmore hhas).symm)

end Emit

namespace Converter

open Emit

/-! ### Whole trees -/

/-- Two contexts in which the same is shown for each diagram that the conversion
comes upon. -/
theorem outcome_congr {n : Node} {ctx ctx' : Context}
    (h : ∀ source ∈ n.reached, diagram ctx source = diagram ctx' source) :
    (storage.convert ctx n).outcome = (storage.convert ctx' n).outcome := by
  rcases exists_template n with ⟨t, -, hmarkup, -⟩
  have hsame : n.reached.mapM (fun source => (diagram ctx source).outcome) =
      n.reached.mapM fun source => (diagram ctx' source).outcome :=
    mapM_congr fun source hsource => congrArg Emission.outcome (h source hsource)
  exact (hmarkup ctx).trans ((congrArg (Except.map t.fill) hsame).trans (hmarkup ctx').symm)

/-- A conversion fails at the first diagram that cannot be shown. -/
theorem outcome_error_iff (n : Node) (ctx : Context) (e : ConvertError) :
    (storage.convert ctx n).outcome = .error e ↔
      ∃ source, n.reached.find? ctx.lacks = some source ∧
        e = .missingDiagram (Diagram.filename source) := by
  rcases exists_template n with ⟨t, -, hmarkup, -⟩
  have hfirst : n.reached.mapM (fun source => (diagram ctx source).outcome) = .error e ↔
      ∃ source, n.reached.find? ctx.lacks = some source ∧
        e = .missingDiagram (Diagram.filename source) :=
    mapM_eq_error_iff (fun _ h => outcome_diagram_of_lacks h)
      (fun _ h => exists_outcome_diagram h) n.reached e
  have houtcome : (storage.convert ctx n).outcome = _ := hmarkup ctx
  rw [houtcome, ← hfirst]
  -- The gaps are filled in only if all of them can be, which keeps the failure.
  rcases n.reached.mapM fun source => (diagram ctx source).outcome with e' | pieces
  · exact ⟨fun h => by cases h; rfl, fun h => by cases h; rfl⟩
  · exact ⟨fun h => (nomatch h), fun h => (nomatch h)⟩

/-- With more attachments, a success stays the same. -/
theorem outcome_of_more {n : Node} {ctx ctx' : Context}
    (hswitch : ctx.options.diagrams = ctx'.options.diagrams)
    (hmore : ∀ filename, ctx.hasAttachment filename = true → ctx'.hasAttachment filename = true)
    {out : String} (hok : (storage.convert ctx n).outcome = .ok out) :
    (storage.convert ctx' n).outcome = .ok out := by
  -- No diagram that the conversion came upon lacks its image.
  have hnone : n.reached.find? ctx.lacks = none := by
    rcases hfirst : n.reached.find? ctx.lacks with _ | source
    · rfl
    · have herror := (outcome_error_iff n ctx _).2 ⟨source, hfirst, rfl⟩
      rw [hok] at herror
      cases herror
  rw [← hok]
  refine (outcome_congr fun source hsource => diagram_of_more hswitch (hmore _) ?_).symm
  exact Bool.not_eq_true _ ▸ List.find?_eq_none.1 hnone source hsource

/-- What a conversion depends on, for trees of any shape. Two contexts give the same
markup or the same failure if they agree on whether diagrams are shown and on which
diagrams of the tree have an image. A conversion fails if diagrams are shown and one
that stands as content has no image, and the failure names the first of these in
document order. What does not stand as content are the rows and cells of tables and
what is below the other children of task lists, where the table or the task list
stands as content itself. More attachments never change a success. -/
theorem convert_by_availability (n : Node) :
    (∀ ctx ctx' : Context, ctx.options.diagrams = ctx'.options.diagrams →
      (∀ source ∈ n.diagrams, ctx.hasAttachment (Diagram.filename source) =
        ctx'.hasAttachment (Diagram.filename source)) →
      (storage.convert ctx n).outcome = (storage.convert ctx' n).outcome) ∧
    (∀ (ctx : Context) (e : ConvertError), (storage.convert ctx n).outcome = .error e ↔
      ctx.options.diagrams = true ∧ ∃ source,
        n.shown.find? (fun s => !ctx.hasAttachment (Diagram.filename s)) = some source ∧
          e = .missingDiagram (Diagram.filename source)) ∧
    (∀ above m, Node.role above m ≠ .content ↔ Node.PassedOver Node.AsContent above m) ∧
    ∀ (ctx : Context) (added : List Attachment) (out : String),
      (storage.convert ctx n).outcome = .ok out →
        (storage.convert (added.foldl Context.attach ctx) n).outcome = .ok out := by
  refine ⟨fun ctx ctx' hswitch hhas => ?_, fun ctx e => ?_, Node.role_ne_content_iff,
    fun ctx added out hok => ?_⟩
  · refine outcome_congr fun source hsource => diagram_congr hswitch (hhas source ?_)
    exact Node.mem_diagrams_of_shown (n.shown_eq_reached ▸ hsource)
  · rw [outcome_error_iff, ← n.shown_eq_reached]
    rcases hswitch : ctx.options.diagrams with _ | _
    · -- Where diagrams are switched off, none of them lacks anything.
      have hnone : n.shown.find? ctx.lacks = none :=
        List.find?_eq_none.2 fun source _ => by simp [Context.lacks, hswitch]
      rw [hnone]
      exact ⟨fun ⟨_, h, _⟩ => (nomatch h), fun ⟨h, _⟩ => (nomatch h)⟩
    · have hlacks : ctx.lacks = fun s => !ctx.hasAttachment (Diagram.filename s) := by
        funext source
        rw [Context.lacks, hswitch, Bool.true_and]
      rw [hlacks]
      exact (and_iff_right rfl).symm
  · rcases Context.foldl_attach added ctx with ⟨hoptions, hkept⟩
    exact outcome_of_more (congrArg ConvertOptions.diagrams hoptions.symm) hkept hok

/-- Diagrams in a cell, as a row, beside a task, and on their own. -/
def scattered : Node :=
  let diagram (source : String) : Node := .code (some "mermaid") source
  .root
    [.table [] [.tableRow [.tableCell [diagram "in a cell"]], diagram "as a row"],
      .list false none [.listItem (some true) [], .paragraph [diagram "beside a task"]],
      diagram "on its own"]

/-- A context with images of some diagrams, the same for all of them. -/
def illustrating (sources : List String) (image : Bytes) (verbose : Bool)
    (pageId : Option String) : Context :=
  (sources.map fun source => ⟨Diagram.filename source, image, "image/png"⟩).foldl Context.attach
    ⟨⟨true, verbose⟩, .empty, .empty, pageId⟩

/-- Two of the four diagrams need an image, and the second one is missed in two very
different contexts. With both, the page stays the same when another is added. -/
theorem convert_by_availability_scattered :
    let missing := illustrating ["in a cell"] [] false none
    let missing' := illustrating ["unused", "in a cell"] [137, 80] true (some "7")
    let complete := illustrating ["in a cell", "on its own"] [] false none
    let more := [(⟨Diagram.filename "as a row", [1], "image/png"⟩ : Attachment)]
    scattered.shown = ["in a cell", "on its own"] ∧
      (storage.convert missing scattered).outcome =
        .error (.missingDiagram (Diagram.filename "on its own")) ∧
      (storage.convert missing' scattered).outcome = (storage.convert missing scattered).outcome ∧
      ∃ out, (storage.convert complete scattered).outcome = .ok out ∧
        (storage.convert (more.foldl Context.attach complete) scattered).outcome = .ok out := by
  intro missing missing' complete more
  rcases convert_by_availability scattered with ⟨hsame, herror, -, hmore⟩
  have hshown : scattered.shown = ["in a cell", "on its own"] := by decide +kernel
  have hmissing : (storage.convert missing scattered).outcome =
      .error (.missingDiagram (Diagram.filename "on its own")) :=
    (herror missing _).2 ⟨rfl, "on its own", by rw [hshown]; decide +kernel, rfl⟩
  refine ⟨hshown, hmissing, hsame missing' missing rfl (by decide +kernel), ?_⟩
  rcases hcomplete : (storage.convert complete scattered).outcome with e | out
  · -- No diagram that is shown lacks its image here.
    have hall : ["in a cell", "on its own"].find?
        (fun source => !complete.hasAttachment (Diagram.filename source)) = none := by
      decide +kernel
    rcases (herror complete e).1 hcomplete with ⟨-, source, hfirst, -⟩
    cases (hall.symm.trans (hshown ▸ hfirst))
  · exact ⟨out, rfl, hmore complete more out hcomplete⟩

/-- A diagram that stands as the row of a table, where that table is a cell itself. -/
def nestedTable : Node :=
  .table [] [.tableRow [.table [] [.code (some "mermaid") "graph TD"]]]

/-- It is not enough to look at the nearest table. What stands as a row of a table is
come upon after all if the table is a cell of another one. -/
theorem not_every_row_passed_over :
    ¬ ∀ (ctx : Context) (n : Node), (∃ e, (storage.convert ctx n).outcome = .error e) →
      ∃ place ∈ n.places, ¬ Node.PassedOver (fun _ _ => True) place.1 place.2 ∧
        ∃ source, place.2.diagram? = some source ∧
          ctx.hasAttachment (Diagram.filename source) = false := by
  intro hevery
  have hfails : (storage.convert (illustrating [] [] false none) nestedTable).outcome =
      .error (.missingDiagram (Diagram.filename "graph TD")) := by decide +kernel
  rcases hevery _ nestedTable ⟨_, hfails⟩ with ⟨⟨above, n⟩, hplace, hreached, source, hsource, -⟩
  -- The only diagram of the tree stands in a table, as a row of it.
  simp only [nestedTable, Node.places, Node.placesIn_eq, Node.children, Node.children?,
    Option.getD_some, Option.getD_none, List.flatMap_cons, List.flatMap_nil, List.append_nil,
    List.mem_cons, List.not_mem_nil, or_false, Prod.mk.injEq] at hplace
  rcases hplace with ⟨-, rfl⟩ | ⟨-, rfl⟩ | ⟨-, rfl⟩ | ⟨rfl, rfl⟩
  · cases hsource
  · cases hsource
  · cases hsource
  · exact hreached (.row rfl trivial)

end Converter

end WikiSync
