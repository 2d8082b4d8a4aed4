import WikiSync.Proofs.Convert.WellFormed
import WikiSync.Proofs.Markup.Tree

/-!
# The Shape of Tables

Where the cells of a table are in its markup. A table is given by its rows, and they need not
be rows, nor of one length. The markup has one row for each of them and in it one cell for
each of their children, whatever those are. Cells are told apart by two places, that of the
row and that of the column. The row says whether it is a cell of the header, and the column
says how the cell is aligned. `tableTree` is this rule, with arbitrary content in the cells.

The conversion goes over the rows in two ways, for the header and for all others, and takes
alignments off one by one. It writes text, and the content of a cell may be anything, since
raw HTML is written as it is. So the rule is stated twice: the markup is the table written
out around the contents, and if every content is markup that can be read on its own, the
whole is read as the table with these contents. Both follow from the same steps, which hold
of everything that passes to what is put together (`Composes`).

## Main definitions

* `Grid.tableTree`: A table with content in its cells.
* `Grid.Contents`: The markup of what is in the cells of rows.
* `Grid.asWritten`, `Grid.ReadAs`: Contents that are left as they are, and that are read.

## Theorems

* `Grid.outcome_rowOf`, `Grid.outcome_tableFor`: When there is markup.
* `Grid.composes_row`, `Grid.composes_table`: What is put together.
* `Grid.markup_table_shape`: The shape of tables.
-/

namespace WikiSync.Grid

open Markup Storage Emit

variable {α : Type}

/-! ### Tables with content -/

/-- The attributes of the cells of a column. -/
def columnStyle (align : List (Option Align)) (column : Nat) : List Attribute :=
  match align[column]? with
  | some (some a) => [⟨"style", plainSymbols ("text-align: " ++ a.css)⟩]
  | some none | none => []

/-- The element of the cells of a row. -/
def cellTag (row : Nat) : String :=
  if row = 0 then "th" else "td"

theorem cellTag_succ (row : Nat) : cellTag (row + 1) = "td" :=
  if_neg (Nat.succ_ne_zero row)

/-- A cell with its content. -/
def cellTree (align : List (Option Align)) (row column : Nat) (content : List (Markup.Tree α)) :
    Markup.Tree α :=
  .element (cellTag row) (columnStyle align column) content

/-- A row with the contents of its cells. -/
def rowTree (align : List (Option Align)) (row : Nat) (cells : List (List (Markup.Tree α))) :
    Markup.Tree α :=
  .element "tr" [] (cells.mapIdx (cellTree align row))

/-- A table with the contents of its cells. The first row is in the head, and the others, if
there are any, are in the body. -/
def tableTree (align : List (Option Align)) (rows : List (List (List (Markup.Tree α)))) :
    Markup.Tree α :=
  let trees := rows.mapIdx (rowTree align)
  .element "table" [] (.element "thead" [] (trees.take 1) ::
    if 2 ≤ rows.length then [.element "tbody" [] (trees.drop 1)] else [])

/-- The markup of what is in the cells of a row: the children of the row are its cells, and
what is in a cell is what its own children convert to. -/
def CellContents (ctx : Context) (row : Node) : List String → Prop :=
  List.Forall₂ (fun cell content => (Converter.markupAll ctx cell.children).outcome = .ok content)
    row.children

/-- The markup of what is in the cells of rows. -/
def Contents (ctx : Context) : List Node → List (List String) → Prop :=
  List.Forall₂ (CellContents ctx)

/-- The contents of cells as they are written. -/
def asWritten (contents : List (List String)) : List (List (List (Markup.Tree String))) :=
  contents.map (·.map fun content => [.leaf content])

/-- The contents of cells as they are read. -/
def ReadAs : List (List String) → List (List (List (Markup.Tree Leaf))) → Prop :=
  List.Forall₂ (List.Forall₂ fun content trees => trees? content = some trees)

/-! ### When there is markup -/

/-- The markup of a row, from that of what is in its cells. -/
def rowMarkup (align : List (Option Align)) (row : Nat) (contents : List String) : String :=
  element "tr" (String.join (contents.mapIdx fun column content =>
    cellMarkup (cellTag row) align[column]?.join content))

/-- Markup of many things, each made of its content and its place, is there exactly if the
contents are. -/
theorem outcome_concat_mapIdx {β γ : Type} {P : β → γ → Prop} {F : Nat → β → Emission String}
    {f : Nat → γ → String}
    (hF : ∀ i b out, (F i b).outcome = .ok out ↔ ∃ c, P b c ∧ f i c = out) (bs : List β)
    (out : String) :
    (Emission.concat (bs.mapIdx F)).outcome = .ok out ↔
      ∃ cs, List.Forall₂ P bs cs ∧ String.join (cs.mapIdx f) = out := by
  induction bs generalizing F f out with
  | nil =>
    simp only [List.mapIdx_nil, Emission.outcome_concat_eq_ok, List.forall₂_nil_left_iff,
      exists_eq_left]
  | cons b bs ih =>
    have hrest := ih (F := fun i => F (i + 1)) (f := fun i => f (i + 1)) fun i => hF (i + 1)
    simp only [List.mapIdx_cons, Emission.concat, Emission.outcome_bind_eq_ok, hF, hrest,
      Emission.outcome_pure, Except.ok.injEq]
    constructor
    · rintro ⟨_, ⟨c, hc, rfl⟩, _, ⟨cs, hcs, rfl⟩, rfl⟩
      exact ⟨c :: cs, .cons hc hcs, by rw [List.mapIdx_cons, String.join_cons]⟩
    · rintro ⟨_, hall, rfl⟩
      rcases List.forall₂_cons_left_iff.1 hall with ⟨c, cs, hc, hcs, rfl⟩
      exact ⟨_, ⟨c, hc, rfl⟩, _, ⟨cs, hcs, rfl⟩, by rw [List.mapIdx_cons, String.join_cons]⟩

theorem outcome_rowOf (ctx : Context) (align : List (Option Align)) (row : Nat) (n : Node)
    (out : String) :
    (rowOf (Converter.markup ctx) (cellTag row) align n).outcome = .ok out ↔
      ∃ contents, CellContents ctx n contents ∧ rowMarkup align row contents = out := by
  have hcells := outcome_concat_mapIdx
    (P := fun cell content => (Converter.markupAll ctx cell.children).outcome = .ok content)
    (f := fun column => cellMarkup (cellTag row) align[column]?.join)
    (fun _ _ _ => Emission.outcome_map_eq_ok) n.children
  rw [rowOf, Emission.outcome_map_eq_ok]
  constructor
  · rintro ⟨body, hbody, rfl⟩
    rcases (hcells body).1 hbody with ⟨contents, hcontents, rfl⟩
    exact ⟨contents, hcontents, rfl⟩
  · rintro ⟨contents, hcontents, rfl⟩
    exact ⟨_, (hcells _).2 ⟨contents, hcontents, rfl⟩, rfl⟩

/-- There is markup of a table exactly if there is some of everything in its cells. -/
theorem outcome_tableFor (ctx : Context) (align : List (Option Align)) (header : Node)
    (body : List Node) (out : String) :
    (tableFor (Converter.markup ctx) align (header :: body)).outcome = .ok out ↔
      ∃ first rest, Contents ctx (header :: body) (first :: rest) ∧
        tableMarkup (rowMarkup align 0 first) body.isEmpty
          (String.join (rest.mapIdx fun row => rowMarkup align (row + 1))) = out := by
  have hheader := outcome_rowOf ctx align 0 header
  have hbody := outcome_concat_mapIdx (P := CellContents ctx)
    (f := fun row => rowMarkup align (row + 1)) (fun row => outcome_rowOf ctx align (row + 1)) body
  -- Only the first row is told apart from the others.
  have hplaces : body.mapIdx (fun row => rowOf (Converter.markup ctx) (cellTag (row + 1)) align) =
      body.map (rowOf (Converter.markup ctx) "td" align) :=
    List.ext_getElem? fun row => by
      rw [List.getElem?_mapIdx, List.getElem?_map, cellTag_succ]
  rw [hplaces] at hbody
  rw [tableFor, Emission.outcome_bind_eq_ok]
  constructor
  · rintro ⟨head, hhead, hout⟩
    rcases (hheader head).1 hhead with ⟨first, hfirst, rfl⟩
    rcases Emission.outcome_bind_eq_ok.1 hout with ⟨others, hothers, hout⟩
    rcases (hbody others).1 hothers with ⟨rest, hrest, rfl⟩
    exact ⟨first, rest, .cons hfirst hrest, Except.ok.inj hout⟩
  · rintro ⟨first, rest, hcontents, rfl⟩
    rcases List.forall₂_cons.1 hcontents with ⟨hfirst, hrest⟩
    exact ⟨_, (hheader _).2 ⟨first, hfirst, rfl⟩,
      Emission.outcome_bind_eq_ok.2 ⟨_, (hbody _).2 ⟨rest, hrest, rfl⟩, rfl⟩⟩

/-! ### The shape of the markup -/

theorem columnStyle_eq (align : List (Option Align)) (column : Nat) :
    columnStyle align column = cellAttributes align[column]?.join := by
  unfold columnStyle cellAttributes
  rcases align[column]? with _ | _ | a
  · rfl
  · rfl
  · rfl

section Composed

variable {R : String → List (Markup.Tree α) → Prop} (hR : Composes R)

include hR

/-- What is put together of many things, each made of its content and its place. -/
theorem composes_join {β γ : Type} {Q : β → γ → Prop} {f : Nat → β → String}
    {g : Nat → γ → Markup.Tree α}
    (hfg : ∀ i b c, Q b c → R (f i b) [g i c]) {bs : List β} {cs : List γ}
    (h : List.Forall₂ Q bs cs) : R (String.join (bs.mapIdx f)) (cs.mapIdx g) := by
  induction h generalizing f g with
  | nil => exact hR.empty
  | cons hfirst hrest ih =>
    rw [List.mapIdx_cons, List.mapIdx_cons, String.join_cons]
    exact hR.append (hfg 0 _ _ hfirst) (ih fun i => hfg (i + 1))

theorem composes_element {tag body : String} (htag : Markup.IsName tag) {ts : List (Markup.Tree α)}
    (hbody : R body ts) : R (element tag body) [.element tag [] ts] := by
  refine hR.element htag (fun a ha => absurd ha List.not_mem_nil) hbody ?_
  rw [toList_element, tagText, List.flatMap_nil, List.append_nil]

theorem composes_cell (align : List (Option Align)) (row column : Nat) {content : String}
    {ts : List (Markup.Tree α)} (hcontent : R content ts) :
    R (cellMarkup (cellTag row) align[column]?.join content) [cellTree align row column ts] := by
  have htag : Markup.IsName (cellTag row) := by
    unfold cellTag
    split
    · decide
    · decide
  have hstyle : ∀ a ∈ cellAttributes align[column]?.join, a.Proper := by
    have hname : Markup.IsName "style" := by decide
    intro a ha
    refine ⟨?_, values_cellAttributes _ a ha⟩
    rcases Option.map_eq_some_iff.1 (Option.mem_toList.1 ha) with ⟨_, -, rfl⟩
    exact hname
  rw [cellTree, columnStyle_eq]
  exact hR.element htag hstyle hcontent (toList_cellMarkup _ _ content)

theorem composes_row (align : List (Option Align)) (row : Nat) {contents : List String}
    {cells : List (List (Markup.Tree α))} (h : List.Forall₂ R contents cells) :
    R (rowMarkup align row contents) [rowTree align row cells] := by
  have htag : Markup.IsName "tr" := by decide
  have hcells := composes_join hR (Q := R) (fun column _ _ => composes_cell hR align row column) h
  exact composes_element hR htag hcells

theorem composes_table (align : List (Option Align)) {first : List String}
    {rest : List (List String)} {rows : List (List (List (Markup.Tree α)))}
    (h : List.Forall₂ (List.Forall₂ R) (first :: rest) rows) :
    R (tableMarkup (rowMarkup align 0 first) rest.isEmpty
      (String.join (rest.mapIdx fun row => rowMarkup align (row + 1)))) [tableTree align rows] := by
  rcases List.forall₂_cons_left_iff.1 h with ⟨cells, others, hfirst, hrest, rfl⟩
  have hthead : Markup.IsName "thead" := by decide
  have htable : Markup.IsName "table" := by decide
  have htbody : Markup.IsName "tbody" := by decide
  have hhead := composes_element hR hthead (composes_row hR align 0 hfirst)
  have hbody := composes_element hR htbody
    (composes_join hR (Q := List.Forall₂ R) (fun row _ _ => composes_row hR align (row + 1)) hrest)
  rw [tableMarkup_eq, tableTree, List.mapIdx_cons]
  refine composes_element hR htable (hR.append hhead ?_)
  rcases hrest with _ | ⟨hsecond, hothers⟩
  · exact hR.empty
  · exact hbody

end Composed

/-! ### The whole table -/

/-- Where there is something for each of many things, there is a list of it. -/
theorem exists_forall₂ {β γ δ : Type} {S : γ → δ → Prop} {bs : List β} {cs : List γ}
    (h : List.Forall₂ (fun _ c => ∃ d, S c d) bs cs) : ∃ ds, List.Forall₂ S cs ds := by
  induction h with
  | nil => exact ⟨[], .nil⟩
  | cons hfirst _ ih =>
    rcases hfirst with ⟨d, hd⟩
    rcases ih with ⟨ds, hds⟩
    exact ⟨d :: ds, .cons hd hds⟩

/-- Without raw HTML, everything in the cells can be read. -/
theorem exists_trees {ctx : Context} {rows : List Node} {contents : List (List String)}
    (h : Contents ctx rows contents)
    (hfree : ∀ row ∈ rows, ∀ cell ∈ row.children, ∀ n ∈ cell.children, n.HtmlFree) :
    ∃ trees, ReadAs contents trees := by
  refine exists_forall₂ (((List.forall₂_and_left _ _).2 ⟨hfree, h⟩).imp ?_)
  rintro row cells ⟨hcells, hcontents⟩
  refine exists_forall₂ (((List.forall₂_and_left _ _).2 ⟨hcells, hcontents⟩).imp ?_)
  rintro cell content ⟨hcell, hcontent⟩
  rcases Converter.fragment_all (Converter.fragment_markup ctx) hcell content hcontent with
    ⟨ts, hwrites⟩
  exact hwrites.trees

/-- The table with the contents of its cells as they are. -/
theorem toList_table (align : List (Option Align)) (first : List String)
    (rest : List (List String)) :
    (tableMarkup (rowMarkup align 0 first) rest.isEmpty
        (String.join (rest.mapIdx fun row => rowMarkup align (row + 1)))).toList =
      (tableTree align (asWritten (first :: rest))).spell String.toList := by
  have hleaf (content : String) :
      content.toList = Markup.Tree.spellAll String.toList [Markup.Tree.leaf content] := by
    rw [Markup.Tree.spellAll_singleton, Markup.Tree.spell]
  have hcontents : List.Forall₂ (List.Forall₂ fun content ts =>
      content.toList = Markup.Tree.spellAll String.toList ts) (first :: rest)
      (asWritten (first :: rest)) :=
    List.forall₂_map_right_iff.2 (List.forall₂_same.2 fun cells _ =>
      List.forall₂_map_right_iff.2 (List.forall₂_same.2 fun content _ => hleaf content))
  have htext := composes_table (composes_spell String.toList) align hcontents
  rwa [Markup.Tree.spellAll_singleton] at htext

/-- The shape of tables. There is nothing of a table without rows. Any other one has markup
exactly if everything in its cells has. The markup is the table with the contents of its
cells, written out, and it is read as the table with what its contents are read as. Without
raw HTML there is something that they are read as. -/
theorem markup_table_shape (ctx : Context) (align : List (Option Align)) (rows : List Node) :
    (rows = [] → (Converter.markup ctx (.table align rows)).outcome = .ok "") ∧
    (rows ≠ [] →
      ((∃ out, (Converter.markup ctx (.table align rows)).outcome = .ok out) ↔
        ∃ contents, Contents ctx rows contents) ∧
      ∀ out, (Converter.markup ctx (.table align rows)).outcome = .ok out →
        ∃ contents, Contents ctx rows contents ∧
          out.toList = (tableTree align (asWritten contents)).spell String.toList ∧
          (∀ trees, ReadAs contents trees → trees? out = some [tableTree align trees]) ∧
          ((∀ row ∈ rows, ∀ cell ∈ row.children, ∀ n ∈ cell.children, n.HtmlFree) →
            ∃ trees, ReadAs contents trees)) := by
  rw [Converter.markup_table]
  refine ⟨fun hnone => by rw [hnone]; rfl, fun hsome => ?_⟩
  rcases rows with _ | ⟨header, body⟩
  · exact absurd rfl hsome
  · have hmarkup := outcome_tableFor ctx align header body
    refine ⟨⟨?_, ?_⟩, fun out hout => ?_⟩
    · rintro ⟨out, hout⟩
      rcases (hmarkup out).1 hout with ⟨first, rest, hcontents, -⟩
      exact ⟨_, hcontents⟩
    · rintro ⟨contents, hcontents⟩
      rcases List.forall₂_cons_left_iff.1 hcontents with ⟨first, rest, hfirst, hrest, rfl⟩
      exact ⟨_, (hmarkup _).2 ⟨first, rest, hcontents, rfl⟩⟩
    · rcases (hmarkup out).1 hout with ⟨first, rest, hcontents, rfl⟩
      have hempty : body.isEmpty = rest.isEmpty := by
        rcases (List.forall₂_cons.1 hcontents).2 with _ | _
        · rfl
        · rfl
      rw [hempty]
      exact ⟨first :: rest, hcontents, toList_table align first rest,
        fun trees => composes_table composes_trees? align, exists_trees hcontents⟩

/-- A table with an alignment for its first column, a short row and an empty one. -/
theorem markup_table_shape_ragged :
    let ctx := Context.ofFrontMatter ⟨true, false⟩ .empty
    let rows : List Node :=
      [.tableRow [.tableCell [.text "a"], .tableCell [.emphasis [.text "b"]]],
        .tableRow [.tableCell [.text "1"]], .tableRow []]
    let out := "<table><thead><tr><th style=\"text-align: right\">a</th><th><em>b</em></th></tr>" ++
      "</thead><tbody><tr><td style=\"text-align: right\">1</td></tr><tr></tr></tbody></table>"
    rows ≠ [] ∧ (Converter.markup ctx (.table [some .right] rows)).outcome = .ok out ∧
      (∀ row ∈ rows, ∀ cell ∈ row.children, ∀ n ∈ cell.children, n.HtmlFree) ∧
      ∃ contents trees, Contents ctx rows contents ∧
        out.toList = (tableTree [some .right] (asWritten contents)).spell String.toList ∧
        ReadAs contents trees ∧ trees? out = some [tableTree [some .right] trees] := by
  intro ctx rows out
  have hsome : rows ≠ [] := List.cons_ne_nil _ _
  have hout : (Converter.markup ctx (.table [some .right] rows)).outcome = .ok out := by
    simp only [rows, Converter.markup_table, tableFor, rowOf, Node.children, Node.children?,
      Option.getD_some, List.mapIdx_cons, List.mapIdx_nil, List.map_cons, List.map_nil,
      Converter.markup_text, Converter.markup_emphasis, Converter.markupAll]
    refine congrArg Except.ok ?_
    decide +kernel
  have hfree : ∀ row ∈ rows, ∀ cell ∈ row.children, ∀ n ∈ cell.children, n.HtmlFree := by
    simp only [rows, List.forall_mem_cons, Node.children, Node.children?, Option.getD_some,
      List.not_mem_nil, false_implies, implies_true, and_true, Node.HtmlFree, Node.Everywhere]
    simp [Node.walk_eq, Node.children, Node.children?, Node.kind]
  rcases (markup_table_shape ctx [some .right] rows).2 hsome with ⟨-, hshape⟩
  rcases hshape out hout with ⟨contents, hcontents, hwritten, hread, hreadable⟩
  rcases hreadable hfree with ⟨trees, htrees⟩
  exact ⟨hsome, hout, hfree, contents, trees, hcontents, hwritten, htrees, hread trees htrees⟩

end WikiSync.Grid
