import Mathlib.Data.List.Basic
import WikiSync.Proofs.Convert.Local

/-!
# Converters Built by Registration

What becomes of a tree depends on the renderers of the kinds that occur in it, and
on no others. This is not plain from the table alone. A renderer converts what it
likes, as often as it likes, and a node that it builds could be of a kind that
occurs nowhere in the tree. Local renderers build no such nodes. So the statement
is an induction on the size of trees, where the induction hypothesis goes through
the recipe of each renderer.

What is reported is a part of what a conversion comes to. Registering a reporter
in front of every renderer gives a converter that does the same and reports every
node it comes to, `traced`. What the converter itself reports is what is left of
that when only the kinds without a renderer are kept, if the context asks for
reports, and nothing otherwise. This is the same induction: both converters follow
the same recipes, with other reports about the nodes below.

## Main definitions

* `Converter.Built`: Converters that are built by registering local renderers.
* `Converter.content`: What is made of a node, its own report apart.
* `Converter.traced`, `Converter.visits`: The nodes that a conversion comes to.
* `Converter.unhandled`: The reports that are due for the nodes come to.

## Theorems

* `Converter.convert_eq`, `Converter.convert_traced`: A node and its report.
* `Converter.convert_congr`: Kinds that do not occur do not matter.
* `Converter.convert_eq_view`: What is reported.
* `Converter.convert_registered`: All of it.
-/

namespace WikiSync

theorem Emission.view_view {α : Type} (g h : List Kind → List Kind) (m : Emission α) :
    (m.view g).view h = m.view fun l => h (g l) := rfl

namespace Converter

/-- Converters that come from the empty one or that of storage format by registering
renderers that only convert nodes within their own. -/
inductive Built : Converter → Prop
  | empty : Built .empty
  | storage : Built .storage
  | register {c : Converter} (hc : Built c) (k : Kind) {r : Renderer} (hr : r.Local) :
      Built (c.register k r)

/-- The renderers of a converter are those that were registered last. -/
theorem Built.local {c : Converter} (hc : c.Built) {k : Kind} {r : Renderer}
    (h : c.renderer? k = some r) : r.Local := by
  induction hc with
  | empty => cases h
  | storage =>
    cases h
    exact Emit.local_renderer k
  | register hc k' hr ih =>
    -- For its kind the new renderer counts, and the old ones count for the others.
    rw [Converter.register] at h
    by_cases hk : k = k'
    · cases (if_pos hk).symm.trans h
      exact hr
    · exact ih ((if_neg hk).symm.trans h)

/-! ### One node -/

/-- What is made of a node where nodes are converted by `F`, its own report apart. -/
def content (c : Converter) (ctx : Context) (n : Node) (F : Node → Emission String) :
    Emission String :=
  match c.renderer? n.kind with
  | some r => r n ctx ⟨fun m _ => F m⟩
  | none => Emission.concat (n.children.map F)

/-- The reports that are due, from the kinds of the nodes that a conversion came to. -/
def unhandled (c : Converter) (ctx : Context) (visited : List Kind) : List Kind :=
  if ctx.options.verbose then visited.filter fun k => !c.handles k else []

theorem unhandled_append (c : Converter) (ctx : Context) (a b : List Kind) :
    c.unhandled ctx (a ++ b) = c.unhandled ctx a ++ c.unhandled ctx b := by
  unfold unhandled
  rcases ctx.options.verbose with _ | _
  · rfl
  · exact List.filter_append a b

theorem unhandled_nil (c : Converter) (ctx : Context) : c.unhandled ctx [] = [] := by
  unfold unhandled
  rcases ctx.options.verbose with _ | _
  · rfl
  · rfl

/-- A node that has a renderer is not reported, and one that has none is if the context
asks for it. -/
theorem convert_eq (c : Converter) (ctx : Context) (n : Node) :
    c.convert ctx n =
      (c.content ctx n (c.convert ctx)).view (c.unhandled ctx [n.kind] ++ ·) := by
  rw [convert, content]
  rcases hr : c.renderer? n.kind with _ | r
  · have hkind : c.handles n.kind = false := by rw [handles, hr]; rfl
    have hbelow : Renderer.children n ctx ⟨fun m _ => c.convert ctx m⟩ =
        Emission.concat (n.children.map (c.convert ctx)) :=
      Children.convertBelow_eq (fun _ _ => rfl) n _
    -- The report comes before those of the children, or there is none.
    simp only [hbelow, unhandled, List.filter_cons, hkind]
    rcases ctx.options.verbose with _ | _
    · rfl
    · rfl
  · have hkind : c.handles n.kind = true := by rw [handles, hr]; rfl
    simp only [unhandled, List.filter_cons, hkind]
    rcases ctx.options.verbose with _ | _
    · rfl
    · rfl

/-- What is made of a node is made of nodes within it. -/
theorem convertsOnly_content {c : Converter} (hc : c.Built) (ctx : Context) (n : Node) :
    ConvertsOnly n.Within (c.content ctx n) := by
  unfold content
  rcases hr : c.renderer? n.kind with _ | r
  · exact convertsOnly_all fun m hm => Node.within_child hm
  · rcases hc.local hr n ctx with ⟨G, hG, hmake⟩
    -- A recipe for the renderer takes nodes of any size.
    have hcontent : (fun F : Node → Emission String => r n ctx ⟨fun m _ => F m⟩) = G :=
      funext fun F => hmake _ F fun _ _ => rfl
    exact hcontent ▸ hG

/-! ### Kinds that do not occur -/

/-- Two converters with the same renderers for the kinds that occur in a tree. -/
theorem convert_congr {c c' : Converter} (hc : c.Built) (ctx : Context) (n : Node)
    (hsame : ∀ k ∈ n.kinds, c.renderer? k = c'.renderer? k) :
    c.convert ctx n = c'.convert ctx n := by
  induction n using Node.size_induction with
  | step n ih =>
  have hkind : c.renderer? n.kind = c'.renderer? n.kind :=
    hsame _ (Node.everywhere_iff.1 n.everywhere_kinds).1
  have hreport : c.unhandled ctx [n.kind] = c'.unhandled ctx [n.kind] := by
    simp only [unhandled, List.filter_cons, List.filter_nil, handles, hkind]
  have hcontent : c.content ctx n (c'.convert ctx) = c'.content ctx n (c'.convert ctx) := by
    rw [content, content, hkind]
  -- Within a node occur no kinds but those that occur in it, so the two agree there.
  have hbelow : c.content ctx n (c.convert ctx) = c.content ctx n (c'.convert ctx) := by
    refine (convertsOnly_content hc ctx n).view (g := id) rfl (fun _ _ => rfl) fun m hm => ?_
    refine ih m hm.1 fun k hk => ?_
    rcases List.mem_map.1 hk with ⟨l, hl, rfl⟩
    exact hsame _ (hm.2 l hl)
  -- The nodes below, the renderer and the report are exchanged one after the other.
  rw [convert_eq, convert_eq c', hbelow, hcontent, hreport]

/-! ### Reports -/

/-- The renderer of a kind, or what takes its place, after a report. -/
def reporting (c : Converter) (k : Kind) : Renderer := fun n ctx below => do
  Emission.report k
  match c.renderer? k with
  | some r => r n ctx below
  | none => Renderer.children n ctx below

/-- The same converter, with a report of every node that it comes to. -/
def traced (c : Converter) : Converter :=
  ⟨fun k => some (c.reporting k)⟩

/-- The kinds of the nodes that a conversion comes to, in order, each before those that
it comes to on behalf of it. -/
def visits (c : Converter) (ctx : Context) (n : Node) : List Kind :=
  (c.traced.convert ctx n).reported

theorem convert_traced (c : Converter) (ctx : Context) (n : Node) :
    c.traced.convert ctx n =
      (c.content ctx n (c.traced.convert ctx)).view ([n.kind] ++ ·) := by
  have hrenderer : c.traced.convert ctx n =
      c.reporting n.kind n ctx ⟨fun m _ => c.traced.convert ctx m⟩ := by
    rw [convert]
    rfl
  rw [hrenderer, reporting, content]
  generalize c.traced.convert ctx = F
  rcases c.renderer? n.kind with _ | r
  · exact congrArg (Emission.view ([n.kind] ++ ·)) (Children.convertBelow_eq (fun _ _ => rfl) n _)
  · rfl

/-- A converter does the same as when it is traced, and it reports what is left when
only the kinds without a renderer are kept. -/
theorem convert_eq_view {c : Converter} (hc : c.Built) (ctx : Context) (n : Node) :
    c.convert ctx n = (c.traced.convert ctx n).view (c.unhandled ctx) := by
  induction n using Node.size_induction with
  | step n ih =>
  have hbelow : c.content ctx n (c.convert ctx) =
      (c.content ctx n (c.traced.convert ctx)).view (c.unhandled ctx) :=
    (convertsOnly_content hc ctx n).view (c.unhandled_nil ctx) (c.unhandled_append ctx)
      fun m hm => ih m hm.1
  -- The node itself is reported first, and that report is filtered like the others.
  rw [convert_eq, convert_traced, hbelow, Emission.view_view, Emission.view_view]
  simp only [unhandled_append]

/-! ### All of it -/

/-- Registering renderers is local. All renderers of storage format and the plain ones
convert nodes within their own only. For converters built from such renderers, in any
way, the renderers of kinds that do not occur in a tree have no bearing on it: what is
made and what is reported are the same. A node whose kind has no renderer comes to what
its children come to, one after the other, and a leaf comes to nothing. If the context
asks for reports, such a node is reported before its children are, and a conversion
reports one kind for each such node that it comes to, and nothing else. Otherwise it
reports nothing. -/
theorem convert_registered :
    (∀ r : Renderer, r.Known → r.Local) ∧
    (∀ c c' : Converter, c.Built → c'.Built → ∀ (ctx : Context) (n : Node),
      (∀ k ∈ n.kinds, c.renderer? k = c'.renderer? k) → c.convert ctx n = c'.convert ctx n) ∧
    ∀ c : Converter, c.Built → ∀ (ctx : Context) (n : Node),
      (c.renderer? n.kind = none →
        let below := Emission.concat (n.children.map (c.convert ctx))
        (c.convert ctx n).outcome = below.outcome ∧
          (n.children = [] → (c.convert ctx n).outcome = .ok "") ∧
          (c.convert ctx n).reported =
            (if ctx.options.verbose then [n.kind] else []) ++ below.reported) ∧
      (c.convert ctx n).outcome = (c.traced.convert ctx n).outcome ∧
      (c.convert ctx n).reported =
        if ctx.options.verbose then (c.visits ctx n).filter fun k => !c.handles k else [] := by
  refine ⟨fun r hr => hr.local, fun c c' hc _ ctx n hsame => convert_congr hc ctx n hsame,
    fun c hc ctx n => ⟨fun hnone => ?_, ?_⟩⟩
  · have hcontent : c.content ctx n (c.convert ctx) =
        Emission.concat (n.children.map (c.convert ctx)) := by rw [content, hnone]
    have hreport : c.unhandled ctx [n.kind] = if ctx.options.verbose then [n.kind] else [] := by
      simp only [unhandled, handles, hnone, List.filter_cons, List.filter_nil]
      rfl
    rw [convert_eq, hcontent, hreport]
    refine ⟨rfl, fun hleaf => ?_, rfl⟩
    rw [hleaf]
    rfl
  · rw [convert_eq_view hc ctx n]
    exact ⟨rfl, rfl⟩

/-- A note, and a rule below it. -/
def noteAndRule : Node :=
  .root [.blockquote [.paragraph [.text "[!NOTE] Read this."]], .thematicBreak]

/-- Quotes as in storage format and literal text, with nothing else to fall back on. -/
def textAndQuotes : Converter :=
  (empty.register .text .plainText).register .blockquote (Emit.renderer .blockquote)

/-- The same, after a text renderer that does not last and one for lists. -/
def textAndQuotesAgain : Converter :=
  (((empty.register .text (.constant "gone")).register .list .reverse).register .blockquote
    (Emit.renderer .blockquote)).register .text .plainText

theorem convert_registered_noteAndRule :
    let ctx := Context.ofFrontMatter ⟨true, true⟩ .empty
    textAndQuotes.Built ∧ textAndQuotesAgain.Built ∧
      (∀ k ∈ noteAndRule.kinds, textAndQuotes.renderer? k = textAndQuotesAgain.renderer? k) ∧
      textAndQuotesAgain.convert ctx noteAndRule = textAndQuotes.convert ctx noteAndRule ∧
      textAndQuotes.visits ctx noteAndRule =
        [.root, .blockquote, .paragraph, .text, .thematicBreak] ∧
      (textAndQuotes.convert ctx noteAndRule).reported = [.root, .paragraph, .thematicBreak] ∧
      (textAndQuotes.convert ctx noteAndRule).outcome =
        .ok (Storage.structuredMacro "info" [] (some "Read this.")) := by
  intro ctx
  rcases convert_registered with ⟨hknown, hsame, hreports⟩
  have hbuilt : textAndQuotes.Built :=
    (Built.empty.register _ (hknown _ .plainText)).register _ (hknown _ (.storage _))
  have hbuilt' : textAndQuotesAgain.Built :=
    (((Built.empty.register _ (hknown _ (.constant _))).register _ (hknown _ .reverse)).register _
      (hknown _ (.storage _))).register _ (hknown _ .plainText)
  have hkinds : noteAndRule.kinds = [.root, .blockquote, .paragraph, .text, .thematicBreak] := by
    decide +kernel
  have hagree : ∀ k ∈ noteAndRule.kinds,
      textAndQuotes.renderer? k = textAndQuotesAgain.renderer? k := by
    rw [hkinds]
    intro k hk
    simp only [List.mem_cons, List.not_mem_nil, or_false] at hk
    rcases hk with rfl | rfl | rfl | rfl | rfl <;> rfl
  have hvisits : textAndQuotes.visits ctx noteAndRule =
      [.root, .blockquote, .paragraph, .text, .thematicBreak] := by decide +kernel
  have hreported : (textAndQuotes.convert ctx noteAndRule).reported =
      [.root, .paragraph, .thematicBreak] := by
    rw [(hreports _ hbuilt ctx noteAndRule).2.2, hvisits]
    rfl
  exact ⟨hbuilt, hbuilt', hagree, (hsame _ _ hbuilt hbuilt' ctx noteAndRule hagree).symm, hvisits,
    hreported, by decide +kernel⟩

end Converter

end WikiSync
