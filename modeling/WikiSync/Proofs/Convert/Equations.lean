import WikiSync.Convert.Default
import WikiSync.Proofs.Convert.Emission

/-!
# Conversion, Kind by Kind

What the storage converter makes of a node of each kind, in terms of what it
makes of other nodes. A renderer is given a way to convert smaller nodes and a
proof for each of them that it is smaller. That is what makes conversion end;
it is in the way of every statement about what conversion gives. The equations
here have no bounds: on the right there is the conversion itself, applied to
lists of nodes.

A proof about conversion is then an induction on the size of a node. It goes by
these equations, and it never unfolds a renderer.

## Main definitions

* `Emit.taskOf?`, `Emit.rowOf`, `Emit.tableFor`, `Emit.quoteOf`: Tasks, rows,
  tables and quotes, over any way to convert nodes.
* `Converter.markup`, `Converter.markupAll`: The conversion to storage format,
  of one node and of many.

## Theorems

* `Converter.markup_wrapped`: Nodes that are an element around their children.
* `Converter.markup_heading` and its like: One equation for each of the other kinds.
-/

namespace WikiSync

namespace Children

variable {bound : Nat} {below : Children bound} {F : Node → Emission String}

/-! ### Without bounds -/

theorem convertAll_eq (hF : ∀ n h, below.convert n h = F n) (ns : List Node)
    (h : ∀ n ∈ ns, n.size < bound) :
    below.convertAll ns h = Emission.concat (ns.map F) := by
  induction ns with
  | nil => rfl
  | cons n ns ih =>
    rw [convertAll, hF, ih]
    rfl

theorem convertBelow_eq (hF : ∀ n h, below.convert n h = F n) (n : Node) (h : n.size ≤ bound) :
    below.convertBelow n h = Emission.concat (n.children.map F) :=
  convertAll_eq hF n.children _

end Children

namespace Emit

variable {bound : Nat} {below : Children bound} {F : Node → Emission String}

/-- The tasks of a list, where nodes are converted by `F`. -/
def taskOf? (F : Node → Emission String) : Node → Option (Emission String)
  | .listItem checked cs =>
    some (taskMarkup checked <$> Emission.concat ((taskBody cs).map F))
  | _ => none

theorem tasks_eq (hF : ∀ n h, below.convert n h = F n) (ns : List Node)
    (h : ∀ n ∈ ns, n.size < bound) :
    tasks below ns h = Emission.concat (ns.filterMap (taskOf? F)) := by
  induction ns with
  | nil => rfl
  | cons n ns ih =>
    cases n
    case listItem checked cs =>
      -- A task comes first, and what is no item is passed over.
      change (below.convertAll (taskBody cs) _ >>= fun body =>
        tasks below ns _ >>= fun rest => pure (taskMarkup checked body ++ rest)) = _
      rw [Children.convertAll_eq hF, ih]
      simp only [List.filterMap_cons, taskOf?, Emission.concat, bind_map_left]
    all_goals exact ih _

/-- A row, where nodes are converted by `F`. -/
def rowOf (F : Node → Emission String) (tag : String) (align : List (Option Align)) (n : Node) :
    Emission String :=
  element "tr" <$> Emission.concat (n.children.mapIdx fun i cell =>
    cellMarkup tag align[i]?.join <$> Emission.concat (cell.children.map F))

theorem cells_eq (hF : ∀ n h, below.convert n h = F n) (tag : String)
    (align : List (Option Align)) (ns : List Node) (h : ∀ n ∈ ns, n.size ≤ bound) :
    cells below tag align ns h = Emission.concat (ns.mapIdx fun i cell =>
      cellMarkup tag align[i]?.join <$> Emission.concat (cell.children.map F)) := by
  induction ns generalizing align with
  | nil => rfl
  | cons n ns ih =>
    -- The alignments are taken one by one, which is looking them up by place.
    rw [cells, Children.convertBelow_eq hF, ih]
    simp only [List.mapIdx_cons, Emission.concat, bind_map_left, List.getElem?_tail,
      List.head?_eq_getElem?]

theorem row_eq (hF : ∀ n h, below.convert n h = F n) (tag : String)
    (align : List (Option Align)) (n : Node) (h : n.size ≤ bound) :
    row below tag align n h = rowOf F tag align n := by
  rw [row, cells_eq hF]
  rfl

theorem rows_eq (hF : ∀ n h, below.convert n h = F n) (tag : String)
    (align : List (Option Align)) (ns : List Node) (h : ∀ n ∈ ns, n.size ≤ bound) :
    rows below tag align ns h = Emission.concat (ns.map (rowOf F tag align)) := by
  induction ns with
  | nil => rfl
  | cons n ns ih =>
    rw [rows, row_eq hF, ih]
    rfl

/-- The markup of a table, from that of its header and of the other rows. -/
def tableMarkup (head : String) (single : Bool) (rest : String) : String :=
  "<table>" ++ element "thead" head ++ (if single then "" else element "tbody" rest) ++ "</table>"

/-- A table, where nodes are converted by `F`. -/
def tableFor (F : Node → Emission String) (align : List (Option Align)) :
    List Node → Emission String
  | [] => pure ""
  | header :: body => do
    let head ← rowOf F "th" align header
    let rest ← Emission.concat (body.map (rowOf F "td" align))
    pure (tableMarkup head body.isEmpty rest)

theorem tableOf_eq (hF : ∀ n h, below.convert n h = F n) (align : List (Option Align))
    (ns : List Node) (h : ∀ n ∈ ns, n.size ≤ bound) :
    tableOf below align ns h = tableFor F align ns := by
  rcases ns with _ | ⟨header, body⟩
  · rfl
  · rw [tableOf, row_eq hF, rows_eq hF]
    rfl

/-- A quote, where nodes are converted by `F`. -/
def quoteOf (F : Node → Emission String) (content : List Node) : Emission String :=
  match callout? content with
  | some (name, inner) =>
    (fun body => Storage.structuredMacro name [] (some body)) <$> Emission.concat (inner.map F)
  | none => element "blockquote" <$> Emission.concat (content.map F)

theorem quote_eq {n : Node} {below : Children n.size} (hF : ∀ m h, below.convert m h = F m)
    (ctx : Context) : quote n ctx below = quoteOf F n.children := by
  unfold quote quoteOf
  split
  · next name inner h =>
    rw [Children.convertAll_eq hF]
    simp only [h]
    rfl
  · next h =>
    rw [wrapped, Renderer.children, Children.convertBelow_eq hF]
    simp only [h]
    rfl

end Emit

/-! ### The equations -/

namespace Converter

open Emit

/-- The conversion to storage format. -/
def markup (ctx : Context) (n : Node) : Emission String :=
  storage.convert ctx n

/-- The conversion of nodes, one after the other. -/
def markupAll (ctx : Context) (ns : List Node) : Emission String :=
  Emission.concat (ns.map (markup ctx))

/-- A node is converted by the renderer of its kind, with the conversion
itself for what is below. -/
theorem markup_eq (ctx : Context) (n : Node) :
    markup ctx n = renderer n.kind n ctx ⟨fun m _ => markup ctx m⟩ := by
  rw [markup, convert]
  rfl

variable (ctx : Context)

theorem children_eq (n : Node) :
    Renderer.children n ctx ⟨fun m _ => markup ctx m⟩ = markupAll ctx n.children :=
  Children.convertBelow_eq (fun _ _ => rfl) n _

theorem wrapped_eq (tag : String) (n : Node) :
    wrapped tag n ctx ⟨fun m _ => markup ctx m⟩ = element tag <$> markupAll ctx n.children := by
  rw [wrapped, children_eq]
  rfl

theorem markup_root (cs : List Node) : markup ctx (.root cs) = markupAll ctx cs := by
  rw [markup_eq]
  exact children_eq ctx (.root cs)

/-- A node that is an element around its children. -/
theorem markup_wrapped {n : Node} {tag : String} (h : renderer n.kind = wrapped tag) :
    markup ctx n = element tag <$> markupAll ctx n.children := by
  rw [markup_eq, h]
  exact wrapped_eq ctx tag n

theorem markup_paragraph (cs : List Node) :
    markup ctx (.paragraph cs) = element "p" <$> markupAll ctx cs :=
  markup_wrapped ctx (n := .paragraph cs) rfl

theorem markup_heading (depth : Nat) (cs : List Node) :
    markup ctx (.heading depth cs) = element (headingTag depth) <$> markupAll ctx cs := by
  rw [markup_eq]
  change (Renderer.children (.heading depth cs) ctx _ >>= _) = _
  rw [children_eq]
  rfl

theorem markup_text (value : String) : markup ctx (.text value) = pure (Storage.escape value) := by
  rw [markup_eq]
  rfl

theorem markup_emphasis (cs : List Node) :
    markup ctx (.emphasis cs) = element "em" <$> markupAll ctx cs :=
  markup_wrapped ctx (n := .emphasis cs) rfl

theorem markup_inlineCode (value : String) :
    markup ctx (.inlineCode value) = pure (element "code" (Storage.escape value)) := by
  rw [markup_eq]
  rfl

theorem markup_code (lang : Option String) (value : String) :
    markup ctx (.code lang value) =
      if lang.getD "" = Diagram.language then diagram ctx value
      else pure (codeMarkup (lang.getD "") value) := by
  rw [markup_eq]
  rfl

theorem markup_list (ordered : Bool) (start : Option Nat) (cs : List Node) :
    markup ctx (.list ordered start cs) =
      if cs.any isTask then
        element "ac:task-list" <$> Emission.concat (cs.filterMap (taskOf? (markup ctx)))
      else element (if ordered then "ol" else "ul") <$> markupAll ctx cs := by
  -- Unfolding the renderer alone keeps its two cases apart.
  rw [markup_eq]
  change list (.list ordered start cs) ctx _ = _
  unfold list
  rw [wrapped_eq, tasks_eq (fun _ _ => rfl)]
  rfl

theorem markup_table (align : List (Option Align)) (cs : List Node) :
    markup ctx (.table align cs) = tableFor (markup ctx) align cs := by
  rw [markup_eq]
  exact tableOf_eq (fun _ _ => rfl) align cs _

theorem markup_link (url : String) (title : Option String) (cs : List Node) :
    markup ctx (.link url title cs) = linkMarkup url title <$> markupAll ctx cs := by
  rw [markup_eq]
  change (Renderer.children (.link url title cs) ctx _ >>= _) = _
  rw [children_eq]
  rfl

theorem markup_image (url alt : String) (title : Option String) :
    markup ctx (.image url alt title) = pure (imageMarkup url alt title) := by
  rw [markup_eq]
  rfl

theorem markup_blockquote (cs : List Node) :
    markup ctx (.blockquote cs) = quoteOf (markup ctx) cs := by
  rw [markup_eq]
  exact quote_eq (fun _ _ => rfl) ctx

theorem markup_break : markup ctx .break = pure "<br/>" := by
  rw [markup_eq]
  rfl

theorem markup_thematicBreak : markup ctx .thematicBreak = pure "<hr/>" := by
  rw [markup_eq]
  rfl

theorem markup_html (value : String) (isInline : Bool) :
    markup ctx (.html value isInline) = pure value := by
  rw [markup_eq]
  rfl

end Converter

end WikiSync
