import WikiSync.Convert.Emit.List
import WikiSync.Convert.Emit.Quote

/-!
# Walks over Trees

Properties that hold of every node of a tree. Such a property is handed down
to children, and so to whatever is converted on behalf of a node. Two emitters
do not convert the children they find: a task shows the content of its only
paragraph, and a callout shows its quote without the tag. What they show
instead has the property as well, if texts and paragraphs have it.

## Main definitions

* `Node.Everywhere`: A property of every node of a tree.
* `Node.converted`: What is converted on behalf of a node.

## Theorems

* `Node.walk_eq`, `Node.plainText_eq`: A walk and the text of a tree, without the
  bookkeeping of their recursion.
* `Node.everywhere_iff`: A node and its children.
* `Node.size_induction`: Induction on the number of nodes.
* `Node.mem_converted_of_task`, `Node.mem_converted_of_cell`: Tasks and tables.
* `Node.size_lt_of_mem_converted`, `Node.everywhere_converted`: What is
  converted is smaller and has the property.
-/

namespace WikiSync.Node

/-- A walk is the node and the walks of its children. -/
theorem walk_eq (n : Node) : n.walk = n :: n.children.flatMap walk := by
  rw [walk, List.flatMap_subtype]
  · rw [List.unattach_attach]
  · exact fun c hc => rfl

/-- The text of a node is its own and that of its children. -/
theorem plainText_eq (n : Node) :
    n.plainText = n.ownText ++ String.join (n.children.map plainText) := by
  rw [plainText, List.map_subtype]
  · rw [List.unattach_attach]
  · exact fun c hc => rfl

/-- Induction on the number of nodes. -/
theorem size_induction {P : Node → Prop} (step : ∀ n, (∀ m, m.size < n.size → P m) → P n)
    (n : Node) : P n :=
  (measure Node.size).wf.induction n step

/-- A property of every node of a tree. -/
def Everywhere (P : Node → Prop) (n : Node) : Prop :=
  ∀ m ∈ n.walk, P m

theorem everywhere_iff {P : Node → Prop} {n : Node} :
    n.Everywhere P ↔ P n ∧ ∀ c ∈ n.children, c.Everywhere P := by
  unfold Everywhere
  rw [walk_eq]
  constructor
  · intro h
    refine ⟨h n List.mem_cons_self, fun c hc m hm => h m ?_⟩
    exact List.mem_cons_of_mem _ (List.mem_flatMap.2 ⟨c, hc, hm⟩)
  · rintro ⟨hn, hchildren⟩ m hm
    rcases List.mem_cons.1 hm with rfl | hm
    · exact hn
    · rcases List.mem_flatMap.1 hm with ⟨c, hc, hm⟩
      exact hchildren c hc m hm

theorem Everywhere.child {P : Node → Prop} {n c : Node} (h : n.Everywhere P)
    (hc : c ∈ n.children) : c.Everywhere P :=
  (everywhere_iff.1 h).2 c hc

/-- What a task shows. -/
theorem everywhere_taskBody {P : Node → Prop} {cs : List Node}
    (h : ∀ c ∈ cs, c.Everywhere P) : ∀ c ∈ Emit.taskBody cs, c.Everywhere P := by
  intro c hc
  unfold Emit.taskBody at hc
  split at hc
  · next inline => exact (h _ (List.mem_singleton.2 rfl)).child hc
  · exact h c hc

/-- What a callout shows. The text without the tag is a new node, and so is
the paragraph around it. -/
theorem everywhere_callout {P : Node → Prop} (htext : ∀ value, P (.text value))
    (hparagraph : ∀ cs, P (.paragraph cs)) {content inner : List Node} {name : String}
    (hcallout : Emit.callout? content = some (name, inner))
    (h : ∀ c ∈ content, c.Everywhere P) : ∀ c ∈ inner, c.Everywhere P := by
  unfold Emit.callout? at hcallout
  split at hcallout
  · next value more rest =>
    rcases Option.map_eq_some_iff.1 hcallout with ⟨⟨name', stripped⟩, -, hinner⟩
    cases hinner
    -- What is left of the tagged text goes back in front of the line.
    have hmore : ∀ c ∈ Emit.prependText stripped more, c.Everywhere P := by
      intro c hc
      unfold Emit.prependText at hc
      have hold : ∀ c ∈ more, c.Everywhere P := fun c hc =>
        (h _ List.mem_cons_self).child (List.mem_cons_of_mem _ hc)
      split at hc
      · exact hold c hc
      · rcases List.mem_cons.1 hc with rfl | hc
        · exact everywhere_iff.2 ⟨htext stripped, fun c hc => absurd hc List.not_mem_nil⟩
        · exact hold c hc
    intro c hc
    unfold Emit.prependParagraph at hc
    split at hc
    · exact h c (List.mem_cons_of_mem _ hc)
    · rcases List.mem_cons.1 hc with rfl | hc
      · exact everywhere_iff.2 ⟨hparagraph _, hmore⟩
      · exact h c (List.mem_cons_of_mem _ hc)
  · cases hcallout

/-! ### What is converted -/

/-- What a node shows as a task. -/
def taskContent : Node → List Node
  | .listItem _ cs => Emit.taskBody cs
  | _ => []

/-- The nodes that are converted on behalf of a node. -/
def converted : Node → List Node
  | .list _ _ cs => if cs.any Emit.isTask then cs.flatMap taskContent else cs
  | .table _ rows => rows.flatMap fun r => r.children.flatMap children
  | .blockquote cs => ((Emit.callout? cs).map (·.2)).getD cs
  | n => n.children

theorem converted_list (ordered : Bool) (start : Option Nat) (cs : List Node) :
    (Node.list ordered start cs).converted =
      if cs.any Emit.isTask then cs.flatMap taskContent else cs := rfl

theorem converted_blockquote (cs : List Node) :
    (Node.blockquote cs).converted = ((Emit.callout? cs).map (·.2)).getD cs := rfl

/-- The content of tasks is converted on behalf of their list. -/
theorem mem_converted_of_task {ordered : Bool} {start : Option Nat} {cs : List Node}
    (htasks : cs.any Emit.isTask = true) {c m : Node} (hc : c ∈ cs) (hm : m ∈ c.taskContent) :
    m ∈ (Node.list ordered start cs).converted := by
  rw [converted_list, if_pos htasks]
  exact List.mem_flatMap.2 ⟨c, hc, hm⟩

/-- The content of cells is converted on behalf of their table. -/
theorem mem_converted_of_cell {align : List (Option Align)} {rows : List Node} {r c m : Node}
    (hr : r ∈ rows) (hc : c ∈ r.children) (hm : m ∈ c.children) :
    m ∈ (Node.table align rows).converted :=
  List.mem_flatMap.2 ⟨r, hr, List.mem_flatMap.2 ⟨c, hc, hm⟩⟩

/-- What is converted is smaller. -/
theorem size_lt_of_mem_converted {n m : Node} (h : m ∈ n.converted) : m.size < n.size := by
  unfold converted at h
  split at h
  · next ordered start cs =>
    split at h
    · rcases List.mem_flatMap.1 h with ⟨c, hc, hm⟩
      have hitem := size_lt_of_mem (n := .list ordered start cs) hc
      unfold taskContent at hm
      split at hm
      · next checked content =>
        exact Nat.lt_trans (@Emit.size_lt_of_mem_taskBody checked content m hm) hitem
      · cases hm
    · exact size_lt_of_mem (n := .list ordered start cs) h
  · next align rows =>
    rcases List.mem_flatMap.1 h with ⟨r, hr, h⟩
    rcases List.mem_flatMap.1 h with ⟨c, hc, hm⟩
    -- Three levels down, each smaller than the one above.
    have hrow := size_lt_of_mem (n := .table align rows) hr
    have hcell := size_lt_of_mem hc
    have hcontent := size_lt_of_mem hm
    omega
  · next cs =>
    rcases hcallout : Emit.callout? cs with _ | ⟨name, inner⟩
    · rw [hcallout] at h
      exact size_lt_of_mem (n := .blockquote cs) h
    · rw [hcallout] at h
      have hsize := Emit.size_le_of_mem_callout hcallout h
      rw [size_eq (.blockquote cs)]
      exact Nat.lt_one_add_iff.2 hsize
  · exact size_lt_of_mem h

/-- What is converted has a property that holds everywhere, if new texts and
paragraphs have it. -/
theorem everywhere_converted {P : Node → Prop} (htext : ∀ value, P (.text value))
    (hparagraph : ∀ cs, P (.paragraph cs)) {n : Node} (h : n.Everywhere P) :
    ∀ m ∈ n.converted, m.Everywhere P := by
  intro m hm
  unfold converted at hm
  split at hm
  · split at hm
    · rcases List.mem_flatMap.1 hm with ⟨c, hc, hm⟩
      have hitem := h.child hc
      unfold taskContent at hm
      split at hm
      · exact everywhere_taskBody (fun d hd => hitem.child hd) m hm
      · cases hm
    · exact h.child hm
  · rcases List.mem_flatMap.1 hm with ⟨r, hr, hm⟩
    rcases List.mem_flatMap.1 hm with ⟨c, hc, hm⟩
    exact ((h.child hr).child hc).child hm
  · next cs =>
    rcases hcallout : Emit.callout? cs with _ | ⟨name, inner⟩
    · rw [hcallout] at hm
      exact h.child hm
    · rw [hcallout] at hm
      exact everywhere_callout htext hparagraph hcallout (fun c hc => h.child hc) m hm
  · exact h.child hm

end WikiSync.Node
