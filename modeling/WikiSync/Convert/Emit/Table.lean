import WikiSync.Convert.Emit.Block

/-!
# Emitting Tables

The first row of a table is its header. Column `i` takes the alignment at
place `i`, in every row; a column without one has no style. A table without
rows shows nothing.
-/

namespace WikiSync.Emit

/-- The markup of a cell. -/
def cellMarkup (tag : String) (align : Option Align) (content : String) : String :=
  let style := match align with
    | some a => " style=\"text-align: " ++ a.css ++ "\""
    | none => ""
  "<" ++ tag ++ style ++ ">" ++ content ++ "</" ++ tag ++ ">"

/-- The markup of cells, from the column on that `align` starts with. -/
def cells {bound : Nat} (below : Children bound) (tag : String) :
    List (Option Align) → (ns : List Node) → (∀ n ∈ ns, n.size ≤ bound) → Emission String
  | _, [], _ => pure ""
  | align, n :: ns, h => do
    let content ← below.convertBelow n (h n List.mem_cons_self)
    let rest ← cells below tag align.tail ns fun m hm => h m (List.mem_cons_of_mem _ hm)
    pure (cellMarkup tag align.head?.join content ++ rest)

/-- The markup of a row. -/
def row {bound : Nat} (below : Children bound) (tag : String) (align : List (Option Align))
    (n : Node) (h : n.size ≤ bound) : Emission String := do
  let body ← cells below tag align n.children fun _ hm =>
    Nat.le_of_lt (Nat.lt_of_lt_of_le (Node.size_lt_of_mem hm) h)
  pure (element "tr" body)

/-- The markup of rows. -/
def rows {bound : Nat} (below : Children bound) (tag : String) (align : List (Option Align)) :
    (ns : List Node) → (∀ n ∈ ns, n.size ≤ bound) → Emission String
  | [], _ => pure ""
  | n :: ns, h => do
    let first ← row below tag align n (h n List.mem_cons_self)
    let rest ← rows below tag align ns fun m hm => h m (List.mem_cons_of_mem _ hm)
    pure (first ++ rest)

/-- The markup of a header row and the rows after it. -/
def tableOf {bound : Nat} (below : Children bound) (align : List (Option Align)) :
    (ns : List Node) → (∀ n ∈ ns, n.size ≤ bound) → Emission String
  | [], _ => pure ""
  | header :: body, h => do
    let head ← row below "th" align header (h header List.mem_cons_self)
    let rest ← rows below "td" align body fun m hm => h m (List.mem_cons_of_mem _ hm)
    let rest := if body.isEmpty then "" else element "tbody" rest
    pure ("<table>" ++ element "thead" head ++ rest ++ "</table>")

/-- The alignments of a table. -/
def alignments : Node → List (Option Align)
  | .table align _ => align
  | _ => []

/-- Renders a table. -/
def table : Renderer := fun n _ below =>
  tableOf below (alignments n) n.children fun _ hm => Nat.le_of_lt (Node.size_lt_of_mem hm)

end WikiSync.Emit
