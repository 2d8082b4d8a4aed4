import Mathlib.Data.List.Basic
import WikiSync.Diagram.Source
import WikiSync.Proofs.Document.Walk

/-!
# The Diagrams of a Tree

Two walks go over the diagrams of a document. One goes over the whole tree and
collects their sources. The other is the conversion, which goes from a node to
the nodes it converts on behalf of it, and these are not always the children:
a table goes on with the children of its cells, a task list passes over what
is no item. `Node.reached` is what the second walk comes upon.

On trees whose lists hold items and whose tables hold rows of cells the two
agree, and `Node.reached_eq_diagrams` says so. It is the only place where the
shape of a tree matters for diagrams.

To say where diagrams are shown, a tree is compared with itself after every
diagram has been put aside for another node. That changes nothing the
conversion looks at, as long as the other node is a leaf that is no text.

## Main definitions

* `Node.diagrams`: The sources of all diagrams, in document order.
* `Node.reached`: The diagrams that the conversion comes upon.
* `Node.withDiagrams`: A tree with something else in place of its diagrams.
* `Node.WellShaped`: Lists hold items and tables rows of cells.

## Theorems

* `Node.reached_eq_diagrams`: The conversion comes upon every diagram.
* `Node.children_withDiagrams`, `Node.taskBody_withDiagrams`,
  `Node.callout_withDiagrams`: What is converted stays in place.
-/

namespace WikiSync.Node

/-! ### All diagrams -/

/-- The source of the diagram that a node is. -/
def diagram? (n : Node) : Option String :=
  (Diagram.ofNode? n).map (·.text)

/-- The sources of the diagrams of a tree, in document order. -/
def diagrams (n : Node) : List String :=
  n.walk.filterMap diagram?

theorem diagrams_eq (n : Node) :
    n.diagrams = n.diagram?.toList ++ n.children.flatMap diagrams := by
  have hchildren : (n.children.flatMap walk).filterMap diagram? = n.children.flatMap diagrams := by
    rw [List.filterMap_flatMap]
    rfl
  rw [diagrams, walk_eq, List.filterMap_cons, hchildren]
  rcases n.diagram? with _ | source
  · rfl
  · rfl

/-- Only code in the language of diagrams is a diagram. -/
theorem diagram?_eq_some {n : Node} {source : String} (h : n.diagram? = some source) :
    n = .code (some Diagram.language) source := by
  unfold diagram? Diagram.ofNode? at h
  split at h
  · next lang value =>
    split at h
    · next hlang =>
      cases h
      rw [hlang]
    · cases h
  · cases h

theorem diagram?_code (source : String) :
    (Node.code (some Diagram.language) source).diagram? = some source := by
  simp only [diagram?, Diagram.ofNode?, if_true, Option.map_some]

/-- What is no code is no diagram. -/
theorem diagram?_of_kind {n : Node} (h : n.kind ≠ .code) : n.diagram? = none := by
  rcases hdiagram : n.diagram? with _ | source
  · rfl
  · rw [diagram?_eq_some hdiagram] at h
    exact absurd rfl h

/-! ### The diagrams that are converted -/

/-- The sources of the diagrams that the conversion comes upon, in the order
in which it does. -/
def reached (n : Node) : List String :=
  n.diagram?.toList ++ n.converted.attach.flatMap fun ⟨m, _⟩ => m.reached
termination_by n.size
decreasing_by exact size_lt_of_mem_converted ‹_›

theorem reached_eq (n : Node) :
    n.reached = n.diagram?.toList ++ n.converted.flatMap reached := by
  rw [reached, List.flatMap_subtype]
  · rw [List.unattach_attach]
  · exact fun m hm => rfl

/-! ### Well-shaped trees -/

/-- A list holds items, and a table holds rows of cells. -/
def Shaped : Node → Prop
  | .list _ _ cs => ∀ c ∈ cs, c.kind = .listItem
  | .table _ rows => ∀ r ∈ rows, r.kind = .tableRow ∧ ∀ c ∈ r.children, c.kind = .tableCell
  | _ => True

/-- A tree in which lists hold items and tables hold rows of cells. -/
def WellShaped (n : Node) : Prop :=
  n.Everywhere Shaped

theorem diagrams_of_kind {n : Node} (h : n.kind ≠ .code) :
    n.diagrams = n.children.flatMap diagrams := by
  rw [diagrams_eq, diagram?_of_kind h]
  rfl

section Rewritten

/-! What two emitters show instead of the children they find. Texts add nothing
to what is collected, and paragraphs only what is in them. -/

variable {α : Type} {f : Node → List α}
  (hparagraph : ∀ inline, f (.paragraph inline) = inline.flatMap f)

include hparagraph

/-- A task leaves out the paragraph around its content. -/
theorem flatMap_taskBody (cs : List Node) : (Emit.taskBody cs).flatMap f = cs.flatMap f := by
  unfold Emit.taskBody
  split
  · rw [List.flatMap_cons, List.flatMap_nil, List.append_nil, hparagraph]
  · rfl

/-- The tag of a callout holds nothing, and neither do the text and the
paragraph that are dropped with it. -/
theorem flatMap_callout (htext : ∀ value, f (.text value) = []) {content inner : List Node}
    {name : String} (h : Emit.callout? content = some (name, inner)) :
    inner.flatMap f = content.flatMap f := by
  unfold Emit.callout? at h
  split at h
  · next value more rest =>
    rcases Option.map_eq_some_iff.1 h with ⟨⟨name', stripped⟩, -, hinner⟩
    cases hinner
    -- The text is changed, or dropped if nothing is left of it.
    have hmore : (Emit.prependText stripped more).flatMap f = more.flatMap f := by
      unfold Emit.prependText
      split
      · rfl
      · rw [List.flatMap_cons, htext, List.nil_append]
    rw [List.flatMap_cons, hparagraph, List.flatMap_cons, htext, List.nil_append, ← hmore]
    unfold Emit.prependParagraph
    split
    · next hempty =>
      rw [List.isEmpty_iff.1 hempty]
      rfl
    · rw [List.flatMap_cons, hparagraph]
  · cases h

end Rewritten

theorem diagrams_text (value : String) : (Node.text value).diagrams = [] :=
  diagrams_of_kind (n := .text value) Kind.noConfusion

theorem diagrams_paragraph (inline : List Node) :
    (Node.paragraph inline).diagrams = inline.flatMap diagrams :=
  diagrams_of_kind (n := .paragraph inline) Kind.noConfusion

/-- Where lists hold items and tables rows of cells, what is converted holds
the same diagrams as the children. -/
theorem flatMap_converted {n : Node} (h : n.Shaped) :
    n.converted.flatMap diagrams = n.children.flatMap diagrams := by
  unfold converted
  split
  · next ordered start cs =>
    change _ = cs.flatMap diagrams
    split
    · rw [List.flatMap_assoc]
      refine List.flatMap_congr fun c hc => ?_
      have hkind : c.kind = .listItem := h c hc
      cases c
      case listItem checked content =>
        rw [diagrams_of_kind (n := .listItem checked content) Kind.noConfusion]
        exact flatMap_taskBody diagrams_paragraph content
      all_goals cases hkind
    · rfl
  · next align rows =>
    change _ = rows.flatMap diagrams
    rw [List.flatMap_assoc]
    refine List.flatMap_congr fun r hr => ?_
    -- Neither a row nor a cell is a diagram, so only what is in the cells counts.
    rcases h r hr with ⟨hrow, hcells⟩
    rw [diagrams_of_kind (by rw [hrow]; exact Kind.noConfusion), List.flatMap_assoc]
    refine List.flatMap_congr fun c hc => ?_
    exact (diagrams_of_kind (by rw [hcells c hc]; exact Kind.noConfusion)).symm
  · next cs =>
    change _ = cs.flatMap diagrams
    rcases hcallout : Emit.callout? cs with _ | ⟨name, inner⟩
    · rfl
    · exact flatMap_callout diagrams_paragraph diagrams_text hcallout
  · rfl

/-- On a well-shaped tree the conversion comes upon every diagram, in document
order. -/
theorem reached_eq_diagrams (n : Node) : n.WellShaped → n.reached = n.diagrams := by
  induction n using size_induction with
  | step n ih =>
  intro hshape
  -- By induction the two walks agree below; `flatMap_converted` joins them here.
  have hconverted : n.converted.flatMap reached = n.converted.flatMap diagrams :=
    List.flatMap_congr fun m hm => ih m (size_lt_of_mem_converted hm)
      (everywhere_converted (fun _ => trivial) (fun _ => trivial) hshape m hm)
  rw [reached_eq, hconverted, flatMap_converted (everywhere_iff.1 hshape).1, ← diagrams_eq]

/-! ### Trees with something else in place of diagrams -/

/-- A node with other children; a leaf stays as it is. -/
def setChildren (n : Node) (cs : List Node) : Node :=
  match n with
  | root _ => root cs
  | paragraph _ => paragraph cs
  | heading depth _ => heading depth cs
  | emphasis _ => emphasis cs
  | strong _ => strong cs
  | strikethrough _ => strikethrough cs
  | list ordered start _ => list ordered start cs
  | listItem checked _ => listItem checked cs
  | table align _ => table align cs
  | tableRow _ => tableRow cs
  | tableCell _ => tableCell cs
  | link url title _ => link url title cs
  | blockquote _ => blockquote cs
  | n => n

/-- A tree with something else in place of each diagram, which may depend on
its source. -/
def withDiagrams (stand : String → Node) (n : Node) : Node :=
  match n.diagram? with
  | some source => stand source
  | none => n.setChildren (n.children.attach.map fun ⟨c, _⟩ => c.withDiagrams stand)
termination_by sizeOf n
decreasing_by exact sizeOf_lt_of_mem_children ‹_›

theorem withDiagrams_eq (stand : String → Node) (n : Node) :
    n.withDiagrams stand =
      match n.diagram? with
      | some source => stand source
      | none => n.setChildren (n.children.map (withDiagrams stand)) := by
  rw [withDiagrams, List.map_attach_eq_pmap, List.pmap_eq_map]

/-- A diagram can stand for itself. -/
theorem withDiagrams_self (n : Node) :
    n.withDiagrams (fun source => .code (some Diagram.language) source) = n := by
  induction n using size_induction with
  | step n ih =>
  rw [withDiagrams_eq]
  split
  · next source hsource => exact (diagram?_eq_some hsource).symm
  · have hchildren : n.children.map (withDiagrams fun source =>
        .code (some Diagram.language) source) = n.children := by
      have hsame := List.map_congr_left fun c hc => ih c (size_lt_of_mem hc)
      rw [hsame, List.map_id']
    rw [hchildren]
    cases n <;> rfl

/-- What may stand for a diagram: code or raw HTML, which the conversion does
not look into. -/
def Stands (stand : String → Node) : Prop :=
  ∀ source, (stand source).kind = .code ∨ (stand source).kind = .html

theorem children_of_leaf {n : Node} (h : n.kind = .code ∨ n.kind = .html) : n.children = [] := by
  rcases h with hkind | hkind
  · cases n
    case code => rfl
    all_goals cases hkind
  · cases n
    case html => rfl
    all_goals cases hkind

theorem Stands.kind_ne {stand : String → Node} (h : Stands stand) (source : String) {k : Kind}
    (hcode : k ≠ .code) (hhtml : k ≠ .html) : (stand source).kind ≠ k := by
  rcases h source with hkind | hkind
  · rw [hkind]
    exact hcode.symm
  · rw [hkind]
    exact hhtml.symm

/-- What is no code keeps its own place. -/
theorem withDiagrams_of_kind (stand : String → Node) {n : Node} (h : n.kind ≠ .code) :
    n.withDiagrams stand = n.setChildren (n.children.map (withDiagrams stand)) := by
  rw [withDiagrams_eq, diagram?_of_kind h]

theorem withDiagrams_text (stand : String → Node) (value : String) :
    (Node.text value).withDiagrams stand = .text value :=
  withDiagrams_of_kind (n := .text value) stand Kind.noConfusion

theorem withDiagrams_paragraph (stand : String → Node) (cs : List Node) :
    (Node.paragraph cs).withDiagrams stand = .paragraph (cs.map (withDiagrams stand)) :=
  withDiagrams_of_kind (n := .paragraph cs) stand Kind.noConfusion

theorem withDiagrams_listItem (stand : String → Node) (checked : Option Bool) (cs : List Node) :
    (Node.listItem checked cs).withDiagrams stand =
      .listItem checked (cs.map (withDiagrams stand)) :=
  withDiagrams_of_kind (n := .listItem checked cs) stand Kind.noConfusion

section Stands

variable {stand : String → Node} (hstand : Stands stand)

include hstand

/-- What stands for a diagram is of another kind than whatever is looked for. -/
theorem kind_withDiagrams {n : Node} {k : Kind} (hcode : k ≠ .code) (hhtml : k ≠ .html) :
    (n.withDiagrams stand).kind = k ↔ n.kind = k := by
  rw [withDiagrams_eq]
  split
  · next source hsource =>
    rw [diagram?_eq_some hsource]
    exact ⟨fun h => absurd h (hstand.kind_ne source hcode hhtml), fun h => absurd h.symm hcode⟩
  · cases n <;> exact Iff.rfl

theorem children_withDiagrams (n : Node) :
    (n.withDiagrams stand).children = n.children.map (withDiagrams stand) := by
  rw [withDiagrams_eq]
  split
  · next source hsource =>
    rw [diagram?_eq_some hsource, children_of_leaf (hstand source)]
    rfl
  · cases n <;> rfl

/-- A node that is looked for by its kind is found where it was, with its
children. -/
theorem eq_of_withDiagrams_eq_paragraph {n : Node} {cs : List Node}
    (h : n.withDiagrams stand = .paragraph cs) :
    ∃ ds, n = .paragraph ds ∧ cs = ds.map (withDiagrams stand) := by
  have hkind : n.kind = .paragraph :=
    (kind_withDiagrams hstand Kind.noConfusion Kind.noConfusion).1 (by rw [h]; rfl)
  cases n
  case paragraph ds =>
    rw [withDiagrams_paragraph] at h
    cases h
    exact ⟨ds, rfl, rfl⟩
  all_goals cases hkind

theorem eq_of_withDiagrams_eq_text {n : Node} {value : String}
    (h : n.withDiagrams stand = .text value) : n = .text value := by
  have hkind : n.kind = .text :=
    (kind_withDiagrams hstand Kind.noConfusion Kind.noConfusion).1 (by rw [h]; rfl)
  cases n
  case text other =>
    rw [withDiagrams_text] at h
    exact h
  all_goals cases hkind

theorem isTask_withDiagrams (n : Node) : Emit.isTask (n.withDiagrams stand) = Emit.isTask n := by
  by_cases hkind : n.kind = .listItem
  · cases n
    case listItem checked cs =>
      rw [withDiagrams_listItem]
      cases checked <;> rfl
    all_goals cases hkind
  · have hother : (n.withDiagrams stand).kind ≠ .listItem := fun h =>
      hkind ((kind_withDiagrams hstand Kind.noConfusion Kind.noConfusion).1 h)
    -- Only items are tasks, and no node becomes an item.
    have hfalse : ∀ m : Node, m.kind ≠ .listItem → Emit.isTask m = false := by
      intro m hm
      cases m
      case listItem => exact absurd rfl hm
      all_goals rfl
    rw [hfalse n hkind, hfalse _ hother]

theorem any_isTask_withDiagrams (cs : List Node) :
    (cs.map (withDiagrams stand)).any Emit.isTask = cs.any Emit.isTask := by
  simp only [List.any_map, Function.comp_def, isTask_withDiagrams hstand]

theorem taskBody_withDiagrams (cs : List Node) :
    Emit.taskBody (cs.map (withDiagrams stand)) = (Emit.taskBody cs).map (withDiagrams stand) := by
  have hsingle : ∀ ds : List Node, (∀ inline, ds ≠ [.paragraph inline]) →
      Emit.taskBody ds = ds := by
    intro ds hds
    unfold Emit.taskBody
    split
    · next inline => exact absurd rfl (hds inline)
    · rfl
  by_cases h : ∃ inline, cs = [.paragraph inline]
  · rcases h with ⟨inline, rfl⟩
    rw [List.map_singleton, withDiagrams_paragraph]
    rfl
  · have hmapped : ∀ inline, cs.map (withDiagrams stand) ≠ [.paragraph inline] := by
      intro inline heq
      rcases List.map_eq_singleton_iff.1 heq with ⟨c, rfl, hc⟩
      rcases eq_of_withDiagrams_eq_paragraph hstand hc with ⟨ds, rfl, -⟩
      exact h ⟨ds, rfl⟩
    rw [hsingle cs fun inline heq => h ⟨inline, heq⟩, hsingle _ hmapped]

omit hstand in
theorem prependText_withDiagrams (text : String) (inline : List Node) :
    Emit.prependText text (inline.map (withDiagrams stand)) =
      (Emit.prependText text inline).map (withDiagrams stand) := by
  unfold Emit.prependText
  split
  · rfl
  · rw [List.map_cons, withDiagrams_text]

omit hstand in
theorem prependParagraph_withDiagrams (inline content : List Node) :
    Emit.prependParagraph (inline.map (withDiagrams stand)) (content.map (withDiagrams stand)) =
      (Emit.prependParagraph inline content).map (withDiagrams stand) := by
  unfold Emit.prependParagraph
  rw [List.isEmpty_map]
  split
  · rfl
  · rw [List.map_cons, withDiagrams_paragraph]

theorem callout_withDiagrams (cs : List Node) :
    Emit.callout? (cs.map (withDiagrams stand)) =
      (Emit.callout? cs).map fun p => (p.1, p.2.map (withDiagrams stand)) := by
  have hnone : ∀ ds : List Node,
      (∀ value more rest, ds ≠ .paragraph (.text value :: more) :: rest) →
        Emit.callout? ds = none := by
    intro ds hds
    unfold Emit.callout?
    split
    · next value more rest => exact absurd rfl (hds value more rest)
    · rfl
  by_cases h : ∃ value more rest, cs = .paragraph (.text value :: more) :: rest
  · rcases h with ⟨value, more, rest, rfl⟩
    rw [List.map_cons, withDiagrams_paragraph, List.map_cons, withDiagrams_text]
    unfold Emit.callout?
    simp only [Option.map_map]
    congr 1
    funext p
    simp only [Function.comp, prependText_withDiagrams, prependParagraph_withDiagrams]
  · -- No tag comes about where there was none.
    have hmapped : ∀ value more rest,
        cs.map (withDiagrams stand) ≠ .paragraph (.text value :: more) :: rest := by
      intro value more rest heq
      rcases List.map_eq_cons_iff.1 heq with ⟨c, tail, rfl, hc, -⟩
      rcases eq_of_withDiagrams_eq_paragraph hstand hc with ⟨ds, rfl, hds⟩
      rcases List.map_eq_cons_iff.1 hds.symm with ⟨d, more', rfl, hd, -⟩
      rw [eq_of_withDiagrams_eq_text hstand hd] at h
      exact h ⟨value, more', tail, rfl⟩
    rw [hnone cs fun value more rest heq => h ⟨value, more, rest, heq⟩, hnone _ hmapped]
    rfl

end Stands

end WikiSync.Node
