import WikiSync.Convert.Default
import WikiSync.Convert.Renderers
import WikiSync.Proofs.Convert.Recipe
import WikiSync.Proofs.Document.Walk

/-!
# Local Renderers

A renderer is local if it has a recipe that asks for nodes within its own. Those
are smaller than the node, and no kind of node occurs in them that does not occur
in it. The nodes below it are of this sort. So are the nodes that a renderer may
build out of them: a quote that is a callout shows itself without the tag, and the
paragraph and the text that it puts back are of kinds that occurred before.

All renderers of storage format are local, for nodes of any kind, and so are the
plain ones.

## Main definitions

* `Node.kinds`: The kinds of nodes that occur in a tree.
* `Node.Within`: A smaller tree without other kinds.
* `Renderer.Local`: A renderer that only converts nodes within its own.
* `Renderer.Known`: The renderers of storage format and the plain ones.

## Theorems

* `Node.within_child`, `Node.within_callout`: What is converted lies within.
* `Emit.local_renderer`, `Renderer.Known.local`: The known renderers are local.
-/

namespace WikiSync

namespace Node

/-- The kinds of the nodes of a tree, in document order. -/
def kinds (n : Node) : List Kind :=
  n.walk.map kind

/-- A tree is smaller than another one, and no kind occurs in it that does not occur in
the other. -/
def Within (n m : Node) : Prop :=
  m.size < n.size ∧ m.Everywhere fun l => l.kind ∈ n.kinds

theorem everywhere_kinds (n : Node) : n.Everywhere fun l => l.kind ∈ n.kinds :=
  fun _ hl => List.mem_map_of_mem hl

theorem within_child {n m : Node} (h : m ∈ n.children) : n.Within m :=
  ⟨size_lt_of_mem h, n.everywhere_kinds.child h⟩

theorem Within.child {n m c : Node} (h : n.Within m) (hc : c ∈ m.children) : n.Within c :=
  ⟨Nat.lt_trans (size_lt_of_mem hc) h.1, h.2.child hc⟩

/-- What a task shows. -/
theorem Within.task {n c : Node} {checked : Option Bool} {cs : List Node}
    (h : n.Within (.listItem checked cs)) (hc : c ∈ Emit.taskBody cs) : n.Within c :=
  ⟨Nat.lt_trans (Emit.size_lt_of_mem_taskBody hc) h.1,
    everywhere_taskBody (fun _ hd => h.2.child hd) c hc⟩

/-- The kind of a node in a list is a kind that occurs in all nodes that have the list
for children. -/
theorem kind_mem_of_path {n c d : Node} (hc : c ∈ n.children) (hd : d ∈ c.children) :
    c.kind ∈ n.kinds ∧ d.kind ∈ n.kinds :=
  ⟨(everywhere_iff.1 (n.everywhere_kinds.child hc)).1,
    (everywhere_iff.1 ((n.everywhere_kinds.child hc).child hd)).1⟩

/-- What a callout shows. The text and the paragraph that are built for it are of kinds
that the tag stood in. -/
theorem within_callout {n m : Node} {inner : List Node} {name : String}
    (hcallout : Emit.callout? n.children = some (name, inner)) (hm : m ∈ inner) : n.Within m := by
  have htag : Kind.paragraph ∈ n.kinds ∧ Kind.text ∈ n.kinds := by
    unfold Emit.callout? at hcallout
    split at hcallout
    · next value more rest hchildren =>
      exact kind_mem_of_path (hchildren ▸ List.mem_cons_self) List.mem_cons_self
    · cases hcallout
  refine ⟨?_, everywhere_callout (fun _ => htag.2) (fun _ => htag.1) hcallout
    (fun c hc => n.everywhere_kinds.child hc) m hm⟩
  rw [size_eq n]
  exact Nat.lt_one_add_iff.2 (Emit.size_le_of_mem_callout hcallout hm)

end Node

/-- A renderer that only converts nodes within its own, whatever converts them. -/
def Renderer.Local (r : Renderer) : Prop :=
  ∀ n ctx, ∃ G, ConvertsOnly n.Within G ∧ ∀ (below : Children n.size) (F : Node → Emission String),
    (∀ m h, below.convert m h = F m) → r n ctx below = G F

namespace Renderer

/-- A renderer that converts nothing and reports nothing. -/
theorem local_of_steady {r : Renderer}
    (h : ∀ n ctx, ∃ outcome, ∀ below, r n ctx below = ⟨[], outcome⟩) : r.Local := by
  intro n ctx
  rcases h n ctx with ⟨outcome, houtcome⟩
  exact ⟨_, convertsOnly_outcome outcome, fun below F _ => houtcome below⟩

/-- A renderer that goes on with what the children come to. -/
theorem local_of_children {r : Renderer}
    (h : ∀ n ctx, ∃ f : String → String, ∀ below,
      r n ctx below = f <$> Renderer.children n ctx below) : r.Local := by
  intro n ctx
  rcases h n ctx with ⟨f, hf⟩
  refine ⟨_, (convertsOnly_all fun m hm => Node.within_child hm).map f, fun below F hF => ?_⟩
  rw [hf, Renderer.children, Children.convertBelow_eq hF]

theorem local_children : Renderer.children.Local :=
  local_of_children fun _ _ => ⟨id, fun _ => (id_map _).symm⟩

end Renderer

namespace Emit

theorem local_wrapped (tag : String) : (wrapped tag).Local :=
  Renderer.local_of_children fun _ _ => ⟨element tag, fun _ => rfl⟩

theorem local_heading : heading.Local := by
  refine Renderer.local_of_children fun n ctx => ?_
  cases n with
  | heading depth cs => exact ⟨element (headingTag depth), fun _ => rfl⟩
  | _ => exact ⟨id, fun _ => rfl⟩

theorem local_link : link.Local := by
  refine Renderer.local_of_children fun n ctx => ?_
  cases n with
  | link url title cs => exact ⟨linkMarkup url title, fun _ => rfl⟩
  | _ => exact ⟨id, fun _ => rfl⟩

theorem local_code : code.Local := by
  -- Nothing is converted, so any children will do to say what the outcome is.
  refine Renderer.local_of_steady fun n ctx => ⟨(code n ctx ⟨fun _ _ => pure ""⟩).outcome, ?_⟩
  intro below
  cases n with
  | code lang value =>
    simp only [code, diagram]
    split
    · split
      · rfl
      · split
        · rfl
        · rfl
    · rfl
  | _ => rfl

/-- The tasks of a list, each with the recipe of its own. -/
theorem convertsOnly_tasks {n : Node} {ns : List Node} (hns : ∀ m ∈ ns, n.Within m) :
    ConvertsOnly n.Within fun F => Emission.concat (ns.filterMap (taskOf? F)) := by
  induction ns with
  | nil => exact convertsOnly_outcome (.ok "")
  | cons m ns ih =>
    have hrest := ih fun m hm => hns m (List.mem_cons_of_mem _ hm)
    cases m with
    | listItem checked cs =>
      have hbody : ConvertsOnly n.Within fun F => Emission.concat ((taskBody cs).map F) :=
        convertsOnly_all fun c hc => (hns _ List.mem_cons_self).task hc
      exact (hbody.map (taskMarkup checked)).bind fun first => hrest.map (first ++ ·)
    -- No task is made of anything else.
    | _ => exact hrest

theorem local_list : list.Local := by
  intro n ctx
  rcases htasks : n.children.any isTask with _ | _
  · -- Without a task in it, a list is an element like others.
    rcases local_wrapped (if isOrdered n then "ol" else "ul") n ctx with ⟨G, hG, hwrapped⟩
    refine ⟨G, hG, fun below F hF => ?_⟩
    rw [list, htasks]
    exact hwrapped below F hF
  · refine ⟨_, (convertsOnly_tasks fun m hm => Node.within_child hm).map (element "ac:task-list"),
      fun below F hF => ?_⟩
    rw [list, htasks, ← tasks_eq hF]
    rfl

/-- A row, with the recipe of each of its cells. -/
theorem convertsOnly_row {n r : Node} (hr : n.Within r) (tag : String)
    (align : List (Option Align)) : ConvertsOnly n.Within fun F => rowOf F tag align r := by
  simp only [rowOf, List.mapIdx_eq_zipIdx_map]
  refine (convertsOnly_concat fun entry hentry => ?_).map (element "tr")
  have hcell := hr.child (List.fst_mem_of_mem_zipIdx hentry)
  exact (convertsOnly_all fun c hc => hcell.child hc).map _

theorem local_table : table.Local := by
  intro n ctx
  refine ⟨fun F => tableFor F (alignments n) n.children, ?_, fun below F hF => tableOf_eq hF _ _ _⟩
  -- The first child is the header, if there is one, and its row comes first.
  have hrow : ∀ r ∈ n.children, n.Within r := fun r hr => Node.within_child hr
  generalize n.children = rows at hrow
  rcases rows with _ | ⟨header, body⟩
  · exact convertsOnly_outcome (.ok "")
  · refine (convertsOnly_row (hrow header List.mem_cons_self) _ _).bind fun head => ?_
    refine (convertsOnly_concat fun r hr => ?_).map (tableMarkup head body.isEmpty)
    exact convertsOnly_row (hrow r (List.mem_cons_of_mem _ hr)) _ _

theorem local_quote : quote.Local := by
  intro n ctx
  refine ⟨fun F => quoteOf F n.children, ?_, fun below F hF => quote_eq hF ctx⟩
  unfold quoteOf
  rcases hcallout : callout? n.children with _ | ⟨name, inner⟩
  · exact (convertsOnly_all fun m hm => Node.within_child hm).map (element "blockquote")
  · exact (convertsOnly_all fun m hm => Node.within_callout hcallout hm).map
      fun body => Storage.structuredMacro name [] (some body)

/-- The renderers of storage format are local. -/
theorem local_renderer (k : Kind) : (renderer k).Local := by
  cases k with
  | root => exact Renderer.local_children
  | paragraph | emphasis | strong | strikethrough | listItem | tableRow | tableCell =>
    exact local_wrapped _
  | heading => exact local_heading
  | code => exact local_code
  | list => exact local_list
  | table => exact local_table
  | link => exact local_link
  | blockquote => exact local_quote
  | text | inlineCode | image | «break» | thematicBreak | html =>
    exact Renderer.local_of_steady fun n _ => by cases n <;> exact ⟨_, fun _ => rfl⟩

end Emit

/-- The renderers of storage format and the plain ones. -/
inductive Renderer.Known : Renderer → Prop
  | storage (k : Kind) : Known (Emit.renderer k)
  | plainText : Known .plainText
  | constant (text : String) : Known (.constant text)
  | wrap (name : String) : Known (.wrap name)
  | firstChild : Known .firstChild
  | reverse : Known .reverse
  | fail (filename : String) : Known (.fail filename)

/-- The known renderers are local. -/
theorem Renderer.Known.local {r : Renderer} (h : r.Known) : r.Local := by
  cases h with
  | storage k => exact Emit.local_renderer k
  | plainText => exact local_of_steady fun _ _ => ⟨_, fun _ => rfl⟩
  | constant text => exact local_of_steady fun _ _ => ⟨_, fun _ => rfl⟩
  | fail filename => exact local_of_steady fun _ _ => ⟨_, fun _ => rfl⟩
  | wrap name =>
    exact local_of_children fun _ _ => ⟨fun body => name ++ "(" ++ body ++ ")", fun _ => rfl⟩
  | firstChild =>
    intro n ctx
    rcases hchildren : n.children with _ | ⟨c, cs⟩
    · refine ⟨_, convertsOnly_outcome (.ok ""), fun below F _ => ?_⟩
      unfold Renderer.firstChild
      split
      · rfl
      · next hcons => cases hchildren.symm.trans hcons
    · have hc : n.Within c := Node.within_child (hchildren ▸ List.mem_cons_self)
      refine ⟨_, convertsOnly_convert hc, fun below F hF => ?_⟩
      unfold Renderer.firstChild
      split
      · next hnil => cases hchildren.symm.trans hnil
      · next hcons =>
        cases hchildren.symm.trans hcons
        exact hF _ _
  | reverse =>
    intro n ctx
    refine ⟨_, convertsOnly_all fun m hm => Node.within_child (List.mem_reverse.1 hm),
      fun below F hF => ?_⟩
    exact Children.convertAll_eq hF _ _

end WikiSync
