import WikiSync.Proofs.Convert.Forms

/-!
# Where Diagrams are Shown

The markup of a document, as a function of what its diagrams are shown as. The
conversion looks into the context for one thing only, whether a diagram has an
image, and what it writes for a diagram stands in one place. So the markup of
a tree is a template with one gap for each diagram that the conversion comes
upon, filled in document order, and a diagram that cannot be shown is the only
reason why there is no markup.

The template has to be the same for everything that is put into its gaps, or
it would say nothing. So the statement is about all settings at once: a
setting says in which context the conversion runs, what stands in the tree in
place of a diagram, and what the conversion makes of that. Two kinds of
settings matter. In one the diagrams stand for themselves. In the other raw
HTML stands for them, and the conversion writes that as it is.

## Main definitions

* `Template`: Markup with gaps.
* `Setting`: What stands for diagrams, and what becomes of it.
* `Uniform`: Emissions that differ by what is in the gaps of a template.

## Theorems

* `Uniform.append`, `Uniform.around`, `uniform_concat`: Putting templates
  together.
* `cover?_withDiagrams`, `withDiagrams_of_leaf`: Nodes keep their form.
* `uniform_markup`, `exists_template`: Every tree is a template.
-/

namespace WikiSync

/-! ### Templates -/

/-- Markup with gaps, which are the places without text. -/
abbrev Template := List (Option String)

namespace Template

/-- The number of gaps. -/
def gaps (t : Template) : Nat :=
  (t.filter Option.isNone).length

/-- Fills the gaps in order. -/
def fill : Template → List String → String
  | [], _ => ""
  | some text :: t, pieces => text ++ fill t pieces
  | none :: t, piece :: pieces => piece ++ fill t pieces
  | none :: t, [] => fill t []

theorem gaps_append (t u : Template) : gaps (t ++ u) = gaps t + gaps u := by
  rw [gaps, List.filter_append, List.length_append]
  rfl

/-- Each part of a template takes the pieces for its own gaps. -/
theorem fill_append (t u : Template) (pieces more : List String)
    (h : gaps t = pieces.length) :
    fill (t ++ u) (pieces ++ more) = fill t pieces ++ fill u more := by
  induction t generalizing pieces with
  | nil =>
    have hnone : pieces = [] := List.length_eq_zero_iff.1 h.symm
    rw [hnone]
    simp only [List.nil_append, fill, String.empty_append]
  | cons gap t ih =>
    rcases gap with _ | text
    · rcases pieces with _ | ⟨piece, pieces⟩
      · cases h
      · have hrest : gaps t = pieces.length := Nat.succ.inj h
        simp only [List.cons_append, fill, ih pieces hrest, String.append_assoc]
    · -- Text takes no piece.
      have hrest : gaps t = pieces.length := h
      simp only [List.cons_append, fill, ih pieces hrest, String.append_assoc]

/-- Every piece is in the text, if there is a gap for it. -/
theorem infix_fill (t : Template) (pieces : List String) (h : gaps t = pieces.length) :
    ∀ piece ∈ pieces, piece.toList <:+: (fill t pieces).toList := by
  induction t generalizing pieces with
  | nil =>
    intro piece hpiece
    rw [List.length_eq_zero_iff.1 h.symm] at hpiece
    exact absurd hpiece List.not_mem_nil
  | cons gap t ih =>
    intro piece hpiece
    rcases gap with _ | text
    · rcases pieces with _ | ⟨first, pieces⟩
      · cases h
      · have hrest : gaps t = pieces.length := Nat.succ.inj h
        rw [fill, String.toList_append]
        rcases List.mem_cons.1 hpiece with rfl | hpiece
        · exact (List.prefix_append _ _).isInfix
        · exact (ih pieces hrest piece hpiece).trans (List.suffix_append _ _).isInfix
    · have hrest : gaps t = pieces.length := h
      rw [fill, String.toList_append]
      exact (ih pieces hrest piece hpiece).trans (List.suffix_append _ _).isInfix

end Template

/-! ### Settings -/

/-- What stands in a tree in place of diagrams, and what the conversion makes
of it. -/
structure Setting where
  ctx : Context
  stand : String → Node
  mark : String → Except ConvertError String
  stands : Node.Stands stand
  agrees : ∀ source, (Converter.markup ctx (stand source)).outcome = mark source

/-- What the conversion makes of a tree in a setting. -/
def Setting.markup (e : Setting) (n : Node) : Emission String :=
  Converter.markup e.ctx (n.withDiagrams e.stand)

/-- Emissions that are a template with what is made of diagrams in its gaps.
Without all of that there is no markup, and the first failure counts. -/
def Uniform (F : Setting → Emission String) (sources : List String) : Prop :=
  ∃ t : Template, t.gaps = sources.length ∧
    ∀ e, (F e).outcome = (sources.mapM e.mark).map t.fill

theorem length_of_mapM {α β ε : Type} {f : α → Except ε β} {as : List α} {bs : List β}
    (h : as.mapM f = .ok bs) : bs.length = as.length := by
  induction as generalizing bs with
  | nil =>
    cases h
    rfl
  | cons a as ih =>
    rw [List.mapM_cons] at h
    rcases ha : f a with e | b
    · rw [ha] at h
      cases h
    · rcases has : as.mapM f with e | cs
      · rw [ha, has] at h
        cases h
      · rw [ha, has] at h
        cases h
        rw [List.length_cons, List.length_cons, ih has]

/-- All of it succeeds if each part does. -/
theorem mapM_eq_ok {α β ε : Type} {f : α → Except ε β} {g : α → β} {as : List α}
    (h : ∀ a ∈ as, f a = .ok (g a)) : as.mapM f = .ok (as.map g) := by
  induction as with
  | nil => rfl
  | cons a as ih =>
    rw [List.mapM_cons, h a List.mem_cons_self, ih fun b hb => h b (List.mem_cons_of_mem _ hb)]
    rfl

/-- Each part succeeded if all of it did. -/
theorem exists_of_mapM {α β ε : Type} {f : α → Except ε β} {as : List α} {bs : List β}
    (h : as.mapM f = .ok bs) : ∀ a ∈ as, ∃ b, f a = .ok b := by
  induction as generalizing bs with
  | nil => exact fun a ha => absurd ha List.not_mem_nil
  | cons a as ih =>
    rw [List.mapM_cons] at h
    rcases ha : f a with e | b
    · rw [ha] at h
      cases h
    · rcases has : as.mapM f with e | cs
      · rw [ha, has] at h
        cases h
      · intro a' ha'
        rcases List.mem_cons.1 ha' with rfl | ha'
        · exact ⟨b, ha⟩
        · exact ih has a' ha'

theorem uniform_pure (text : String) : Uniform (fun _ => pure text) [] := by
  refine ⟨[some text], rfl, fun e => ?_⟩
  change Except.ok text = Except.ok (text ++ "")
  rw [String.append_empty]

theorem uniform_diagram (source : String) :
    Uniform (fun e => Converter.markup e.ctx (e.stand source)) [source] := by
  refine ⟨[none], rfl, fun e => ?_⟩
  rw [e.agrees, List.mapM_cons]
  rcases e.mark source with error | text
  · rfl
  · change Except.ok text = Except.ok (text ++ "")
    rw [String.append_empty]

theorem Uniform.append {F G : Setting → Emission String} {ds es : List String}
    (hF : Uniform F ds) (hG : Uniform G es) :
    Uniform (fun e => do
      let first ← F e
      let rest ← G e
      pure (first ++ rest)) (ds ++ es) := by
  rcases hF with ⟨t, ht, hF⟩
  rcases hG with ⟨u, hu, hG⟩
  refine ⟨t ++ u, ?_, fun e => ?_⟩
  · rw [Template.gaps_append, ht, hu, List.length_append]
  · rw [Emission.outcome_bind, hF, List.mapM_append]
    rcases hds : ds.mapM e.mark with error | pieces
    · rfl
    · change (G e >>= fun rest => pure (t.fill pieces ++ rest)).outcome = _
      rw [Emission.outcome_bind, hG]
      rcases hes : es.mapM e.mark with error | more
      · rfl
      · -- Both parts have all their pieces, so each gets its own.
        have hlength : t.gaps = pieces.length := by rw [ht, length_of_mapM hds]
        change Except.ok (t.fill pieces ++ u.fill more) = .ok ((t ++ u).fill (pieces ++ more))
        rw [Template.fill_append t u pieces more hlength]

/-- Markup that is put around other markup. -/
def Around (g : String → String) : Prop :=
  ∃ before after, ∀ s, g s = before ++ s ++ after

/-- Text around a template is part of a template. -/
theorem Uniform.around {F : Setting → Emission String} {ds : List String} (hF : Uniform F ds)
    {g : String → String} (hg : Around g) :
    Uniform (fun e => g <$> F e) ds := by
  rcases hF with ⟨t, ht, hF⟩
  rcases hg with ⟨before, after, hg⟩
  refine ⟨[some before] ++ t ++ [some after], ?_, fun e => ?_⟩
  · rw [Template.gaps_append, Template.gaps_append, ht]
    change 0 + ds.length + 0 = ds.length
    omega
  · rw [Emission.outcome_map, hF]
    rcases hds : ds.mapM e.mark with error | pieces
    · rfl
    · -- The text in front has no gap, and neither has the text behind.
      have hlength : Template.gaps ([some before] ++ t) = pieces.length := by
        rw [Template.gaps_append, ht, length_of_mapM hds]
        exact Nat.zero_add _
      have hfill := Template.fill_append ([some before] ++ t) [some after] pieces [] hlength
      rw [List.append_nil] at hfill
      change Except.ok (g (t.fill pieces)) =
        .ok (Template.fill ([some before] ++ t ++ [some after]) pieces)
      rw [hg, hfill]
      change Except.ok _ = Except.ok ((before ++ t.fill pieces) ++ (after ++ ""))
      rw [String.append_empty]

theorem uniform_concat {α : Type} {xs : List α} {M : Setting → α → Emission String}
    {R : α → List String} (h : ∀ x ∈ xs, Uniform (fun e => M e x) (R x)) :
    Uniform (fun e => Emission.concat (xs.map (M e))) (xs.flatMap R) := by
  induction xs with
  | nil => exact uniform_pure ""
  | cons x xs ih =>
    rw [List.flatMap_cons]
    exact (h x List.mem_cons_self).append (ih fun y hy => h y (List.mem_cons_of_mem _ hy))

theorem uniform_concat_mapIdx {α : Type} {xs : List α} {M : Setting → Nat → α → Emission String}
    {R : α → List String} (h : ∀ x ∈ xs, ∀ i, Uniform (fun e => M e i x) (R x)) :
    Uniform (fun e => Emission.concat (xs.mapIdx (M e))) (xs.flatMap R) := by
  induction xs generalizing M with
  | nil => exact uniform_pure ""
  | cons x xs ih =>
    rw [List.flatMap_cons]
    simp only [List.mapIdx_cons]
    exact (h x List.mem_cons_self 0).append
      (ih fun y hy i => h y (List.mem_cons_of_mem _ hy) (i + 1))

/-! ### What stands around a diagram -/

theorem around_id : Around fun s => s :=
  ⟨"", "", fun s => by rw [String.empty_append, String.append_empty]⟩

theorem Around.left {g : String → String} (hg : Around g) (text : String) :
    Around fun s => text ++ g s := by
  rcases hg with ⟨before, after, hg⟩
  refine ⟨text ++ before, after, fun s => ?_⟩
  simp only [hg, String.append_assoc]

theorem Around.right {g : String → String} (hg : Around g) (text : String) :
    Around fun s => g s ++ text := by
  rcases hg with ⟨before, after, hg⟩
  refine ⟨before, after ++ text, fun s => ?_⟩
  simp only [hg, String.append_assoc]

open Emit

theorem around_element (tag : String) : Around (element tag) :=
  (((around_id.left _).right _).right _).right _

theorem around_linkMarkup (url : String) (title : Option String) :
    Around (linkMarkup url title) := by
  unfold linkMarkup
  rcases anchor? url with _ | anchor
  · exact (around_id.left _).right _
  · exact (around_id.left _).right _

theorem around_taskMarkup (checked : Option Bool) : Around (taskMarkup checked) :=
  (around_id.left _).right _

theorem around_cellMarkup (tag : String) (align : Option Align) : Around (cellMarkup tag align) :=
  (((around_id.left _).right _).right _).right _

theorem around_structuredMacro (name : String) :
    Around fun s => Storage.structuredMacro name [] (some s) :=
  (((around_id.left _).right _).left _).right _

/-! ### Tasks, rows, tables and quotes -/

section Below

variable (e : Setting)

theorem map_markup_withDiagrams (ns : List Node) :
    (ns.map (Node.withDiagrams e.stand)).map (Converter.markup e.ctx) = ns.map e.markup := by
  rw [List.map_map]
  rfl

theorem markupAll_withDiagrams (ns : List Node) :
    Converter.markupAll e.ctx (ns.map (Node.withDiagrams e.stand)) =
      Emission.concat (ns.map e.markup) := by
  rw [Converter.markupAll, map_markup_withDiagrams]

theorem taskOf_withDiagrams (n : Node) :
    taskOf? (Converter.markup e.ctx) (n.withDiagrams e.stand) = taskOf? e.markup n := by
  by_cases hkind : n.kind = .listItem
  · cases n
    case listItem checked cs =>
      rw [Node.withDiagrams_listItem]
      simp only [taskOf?, Node.taskBody_withDiagrams e.stands, map_markup_withDiagrams]
    all_goals cases hkind
  · -- What is no item stays none, and there is no task on either side.
    have hother : (n.withDiagrams e.stand).kind ≠ .listItem := fun h =>
      hkind ((Node.kind_withDiagrams e.stands Kind.noConfusion Kind.noConfusion).1 h)
    have hnone : ∀ (F : Node → Emission String) (m : Node), m.kind ≠ .listItem →
        taskOf? F m = none := by
      intro F m hm
      cases m
      case listItem => exact absurd rfl hm
      all_goals rfl
    rw [hnone _ n hkind, hnone _ _ hother]

theorem tasks_withDiagrams (cs : List Node) :
    (cs.map (Node.withDiagrams e.stand)).filterMap (taskOf? (Converter.markup e.ctx)) =
      cs.filterMap (taskOf? e.markup) := by
  simp only [List.filterMap_map, Function.comp_def, taskOf_withDiagrams]

theorem rowOf_withDiagrams (tag : String) (align : List (Option Align)) (r : Node) :
    rowOf (Converter.markup e.ctx) tag align (r.withDiagrams e.stand) =
      rowOf e.markup tag align r := by
  have hcells : (r.withDiagrams e.stand).children.mapIdx (fun i cell =>
      cellMarkup tag align[i]?.join <$>
        Emission.concat (cell.children.map (Converter.markup e.ctx))) =
      r.children.mapIdx fun i cell =>
        cellMarkup tag align[i]?.join <$> Emission.concat (cell.children.map e.markup) := by
    rw [Node.children_withDiagrams e.stands, List.mapIdx_eq_iff]
    intro i
    rw [List.getElem?_mapIdx, List.getElem?_map]
    rcases r.children[i]? with _ | cell
    · rfl
    · simp only [Option.map_some, Node.children_withDiagrams e.stands, map_markup_withDiagrams]
  rw [rowOf, hcells]
  rfl

theorem tableFor_withDiagrams (align : List (Option Align)) (rows : List Node) :
    tableFor (Converter.markup e.ctx) align (rows.map (Node.withDiagrams e.stand)) =
      tableFor e.markup align rows := by
  rcases rows with _ | ⟨header, body⟩
  · rfl
  · simp only [List.map_cons, tableFor, rowOf_withDiagrams, List.map_map, Function.comp_def,
      List.isEmpty_map]

end Below

theorem uniform_tasks {cs : List Node}
    (h : ∀ c ∈ cs, ∀ n ∈ c.taskContent, Uniform (fun e => e.markup n) n.reached) :
    Uniform (fun e => Emission.concat (cs.filterMap (taskOf? e.markup)))
      ((cs.flatMap Node.taskContent).flatMap Node.reached) := by
  induction cs with
  | nil => exact uniform_pure ""
  | cons c cs ih =>
    have hrest := ih fun d hd => h d (List.mem_cons_of_mem _ hd)
    have hfirst := h c List.mem_cons_self
    rw [List.flatMap_cons, List.flatMap_append]
    cases c
    case listItem checked content =>
      have hall : Uniform (fun e => Emission.concat ((taskBody content).map e.markup))
          ((taskBody content).flatMap Node.reached) := uniform_concat hfirst
      exact (hall.around (around_taskMarkup checked)).append hrest
    all_goals exact hrest

theorem uniform_rowOf (tag : String) (align : List (Option Align)) {r : Node}
    (h : ∀ c ∈ r.children, ∀ n ∈ c.children, Uniform (fun e => e.markup n) n.reached) :
    Uniform (fun e => rowOf e.markup tag align r)
      ((r.children.flatMap Node.children).flatMap Node.reached) := by
  rw [List.flatMap_assoc]
  refine Uniform.around (uniform_concat_mapIdx fun c hc i => ?_) (around_element "tr")
  have hall : Uniform (fun e => Emission.concat (c.children.map e.markup))
      (c.children.flatMap Node.reached) := uniform_concat (h c hc)
  exact hall.around (around_cellMarkup tag _)

theorem uniform_tableFor (align : List (Option Align)) {rows : List Node}
    (h : ∀ r ∈ rows, ∀ c ∈ r.children, ∀ n ∈ c.children,
      Uniform (fun e => e.markup n) n.reached) :
    Uniform (fun e => tableFor e.markup align rows)
      ((rows.flatMap fun r => r.children.flatMap Node.children).flatMap Node.reached) := by
  rw [List.flatMap_assoc]
  rcases rows with _ | ⟨header, body⟩
  · exact uniform_pure ""
  · have hhead := uniform_rowOf "th" align (h header List.mem_cons_self)
    have hrows : Uniform (fun e => Emission.concat (body.map (rowOf e.markup "td" align)))
        (body.flatMap fun r => (r.children.flatMap Node.children).flatMap Node.reached) :=
      uniform_concat fun r hr => uniform_rowOf "td" align (h r (List.mem_cons_of_mem _ hr))
    rcases body with _ | ⟨second, others⟩
    · -- There is no body, so only the header is left to go around.
      have hmarkup : Around fun head => tableMarkup head true "" :=
        (((around_element "thead").left _).right _).right _
      rw [List.flatMap_cons, List.flatMap_nil, List.append_nil]
      exact hhead.around hmarkup
    · -- The header goes with what stands before it, the rows with what follows.
      have hbefore : Around fun head => "<table>" ++ element "thead" head :=
        (around_element "thead").left _
      have hafter : Around fun rest => element "tbody" rest ++ "</table>" :=
        (around_element "tbody").right _
      have hboth := (hhead.around hbefore).append (hrows.around hafter)
      simp only [bind_map_left, String.append_assoc] at hboth
      simp only [tableFor, tableMarkup, String.append_assoc]
      exact hboth

/-! ### Nodes by their form -/

/-- A node keeps its cover, and what is converted on its behalf stays in place. -/
theorem cover?_withDiagrams {stand : String → Node} (hstand : Node.Stands stand) {n : Node}
    {c : Cover} (h : n.cover? = some c) :
    (n.withDiagrams stand).cover? = some c ∧
      (n.withDiagrams stand).converted = n.converted.map (Node.withDiagrams stand) := by
  rw [Node.withDiagrams_of_kind stand (Node.kind_of_cover h)]
  cases n with
  | list ordered start cs =>
    have htasks := Node.any_isTask_withDiagrams hstand cs
    by_cases hany : cs.any isTask = true
    · cases (if_pos hany).symm.trans h
    · have hmapped : ¬ (cs.map (Node.withDiagrams stand)).any isTask = true := htasks ▸ hany
      exact ⟨(if_neg hmapped).trans ((if_neg hany).symm.trans h),
        (if_neg hmapped).trans (congrArg _ (if_neg hany)).symm⟩
  | blockquote cs =>
    -- Rewriting commutes with taking off the tag, so both are callouts or neither is.
    change (Node.blockquote (cs.map (Node.withDiagrams stand))).cover? = some c ∧
      (Node.blockquote (cs.map (Node.withDiagrams stand))).converted = _
    rw [Node.cover?] at h
    rw [Node.cover?, Node.converted_blockquote, Node.converted_blockquote,
      Node.callout_withDiagrams hstand]
    rcases hcallout : callout? cs with _ | ⟨name, inner⟩
    · rw [hcallout] at h
      exact ⟨h, rfl⟩
    · rw [hcallout] at h
      exact ⟨h, rfl⟩
  | root | paragraph | heading | emphasis | strong | strikethrough | listItem | tableRow
  | tableCell | link =>
    cases h
    exact ⟨rfl, rfl⟩
  | _ => cases h

/-- What is put around a template is a template. -/
theorem around_cover (c : Cover) : Around c.markup := by
  cases c with
  | bare => exact around_id
  | element tag => exact around_element tag
  | link url title => exact around_linkMarkup url title
  | callout name => exact around_structuredMacro name

/-- A leaf that is no diagram stays as it is. -/
theorem withDiagrams_of_leaf (stand : String → Node) {n : Node} {text : String}
    (h : n.leaf? = some text) : n.withDiagrams stand = n := by
  rw [Node.withDiagrams_eq, (Node.converted_of_leaf h).2]
  cases n with
  | text | inlineCode | code | image | «break» | thematicBreak | html => rfl
  | _ => cases h

/-- Every tree is a template, with a gap for each diagram that the conversion
comes upon. -/
theorem uniform_markup (n : Node) : Uniform (fun e => e.markup n) n.reached := by
  induction n using Node.size_induction with
  | step n ih =>
  have hconverted : ∀ m ∈ n.converted, Uniform (fun e => e.markup m) m.reached :=
    fun m hm => ih m (Node.size_lt_of_mem_converted hm)
  cases n.form with
  | @covered _ c h =>
    -- All settings see the same cover, around what they make of the same nodes.
    have hmarkup (e : Setting) :
        e.markup n = c.markup <$> Emission.concat (n.converted.map e.markup) := by
      rcases cover?_withDiagrams e.stands h with ⟨hcover, hsame⟩
      rw [Setting.markup, Converter.markup_of_cover e.ctx hcover, hsame, markupAll_withDiagrams]
    have hall : Uniform (fun e => Emission.concat (n.converted.map e.markup))
        (n.converted.flatMap Node.reached) := uniform_concat hconverted
    simp only [hmarkup]
    rw [Node.reached_eq, Node.diagram?_of_kind (Node.kind_of_cover h)]
    exact hall.around (around_cover c)
  | @leaf _ text h =>
    have hmarkup (e : Setting) : e.markup n = pure text := by
      rw [Setting.markup, withDiagrams_of_leaf e.stand h, Converter.markup_of_leaf e.ctx h]
    rcases Node.converted_of_leaf h with ⟨hnone, hdiagram⟩
    simp only [hmarkup]
    rw [Node.reached_eq, hnone, hdiagram]
    exact uniform_pure text
  | diagram source =>
    -- A diagram is one gap, and nothing is converted on its behalf.
    have hmarkup (e : Setting) : e.markup (.code (some Diagram.language) source) =
        Converter.markup e.ctx (e.stand source) := by
      rw [Setting.markup, Node.withDiagrams_eq, Node.diagram?_code]
    simp only [hmarkup]
    rw [Node.reached_eq, Node.diagram?_code]
    exact uniform_diagram source
  | @tasks ordered start cs htasks =>
    -- What is a task in one setting is a task in all of them.
    have hmarkup (e : Setting) : e.markup (.list ordered start cs) =
        element "ac:task-list" <$> Emission.concat (cs.filterMap (taskOf? e.markup)) := by
      have hany := (Node.any_isTask_withDiagrams e.stands cs).trans htasks
      rw [Setting.markup, Node.withDiagrams_of_kind e.stand Kind.noConfusion,
        ← tasks_withDiagrams]
      exact (Converter.markup_list e.ctx ordered start _).trans (if_pos hany)
    simp only [hmarkup]
    rw [Node.reached_eq, Node.converted_list, if_pos htasks]
    have hall := uniform_tasks fun _ hc m hm =>
      hconverted m (Node.mem_converted_of_task htasks hc hm)
    exact hall.around (around_element "ac:task-list")
  | table align rows =>
    have hmarkup (e : Setting) :
        e.markup (.table align rows) = tableFor e.markup align rows := by
      rw [Setting.markup, Node.withDiagrams_of_kind e.stand Kind.noConfusion]
      exact (Converter.markup_table e.ctx align _).trans (tableFor_withDiagrams e align rows)
    simp only [hmarkup]
    rw [Node.reached_eq, Node.diagram?_of_kind Kind.noConfusion]
    exact uniform_tableFor align fun _ hr _ hc m hm =>
      hconverted m (Node.mem_converted_of_cell hr hc hm)

/-! ### The settings that matter -/

/-- Diagrams stand for themselves. -/
def Setting.ofContext (ctx : Context) : Setting where
  ctx
  stand source := .code (some Diagram.language) source
  mark source := (diagram ctx source).outcome
  stands _ := Or.inl rfl
  agrees source := by rw [Converter.markup_code, Option.getD_some, if_pos rfl]

theorem markup_ofContext (ctx : Context) (n : Node) :
    (Setting.ofContext ctx).markup n = Converter.markup ctx n :=
  congrArg (Converter.markup ctx) n.withDiagrams_self

/-- Raw HTML stands for diagrams. -/
def Setting.raw (ctx : Context) (mark : String → String) : Setting where
  ctx
  stand source := .html (mark source) false
  mark source := .ok (mark source)
  stands _ := Or.inr rfl
  agrees source := by rw [Converter.markup_html, Emission.outcome_pure]

/-- The markup of a tree is a template with the markup of its diagrams in the
gaps. The same template serves if anything else is written for the diagrams. -/
theorem exists_template (n : Node) :
    ∃ t : Template, t.gaps = n.reached.length ∧
      (∀ ctx, (Converter.markup ctx n).outcome =
        (n.reached.mapM fun source => (diagram ctx source).outcome).map t.fill) ∧
      ∀ ctx mark,
        (Converter.markup ctx (n.withDiagrams fun source => .html (mark source) false)).outcome =
          .ok (t.fill (n.reached.map mark)) := by
  rcases uniform_markup n with ⟨t, ht, hmarkup⟩
  refine ⟨t, ht, fun ctx => ?_, fun ctx mark => ?_⟩
  · rw [← markup_ofContext ctx n]
    exact hmarkup (.ofContext ctx)
  · have hraw := hmarkup (.raw ctx mark)
    have hall : n.reached.mapM (Setting.raw ctx mark).mark = .ok (n.reached.map mark) :=
      List.mapM_pure
    rw [hall] at hraw
    exact hraw

end WikiSync
