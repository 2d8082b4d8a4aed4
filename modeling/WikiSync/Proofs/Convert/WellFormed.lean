import WikiSync.Proofs.Convert.Written
import WikiSync.Proofs.Document.Walk

/-!
# Converted Documents are Well Formed

Whatever a document holds, its markup is well formed: it reads as tokens from
the vocabulary, and its tags nest. No text, address, title or code of the
document can bring in an element or an attribute. Raw HTML is written as it
is, so a document with raw HTML is left out.

Nothing is asked of the shape of the tree. A table may have rows that are no
rows and a list children that are no items; the emitters convert what they
find, and each of them writes well-formed markup around well-formed markup.

## Main definitions

* `Markup.Fragment`: A piece of markup with some tokens.
* `Node.HtmlFree`: A tree without raw HTML.

## Theorems

* `Converter.fragment_tasks`, `Converter.fragment_tableFor`: Tasks and tables,
  over any conversion of what is below.
* `Converter.fragment_markup`: Every node converts to a fragment.
* `Converter.wellFormed_markup`: Every document converts to well-formed markup.
-/

namespace WikiSync

open Markup Storage Emit

/-- A piece of markup, whatever its tokens are. -/
def Markup.Fragment (markup : String) : Prop :=
  ∃ ts, Writes markup ts

/-- A tree without raw HTML. -/
def Node.HtmlFree (n : Node) : Prop :=
  n.Everywhere fun m => m.kind ≠ .html

namespace Converter

/-! ### Over any conversion of what is below -/

theorem fragment_concat {ms : List (Emission String)} (h : ∀ m ∈ ms, m.Yields Fragment) :
    (Emission.concat ms).Yields Fragment := by
  refine Emission.yields_concat ⟨[], Writes.nil⟩ ?_ h
  rintro a b ⟨ts, ha⟩ ⟨us, hb⟩
  exact ⟨ts ++ us, ha.append hb⟩

theorem fragment_element {tag : String} (hknown : isKnown tag [] = true) {m : Emission String}
    (h : m.Yields Fragment) : (element tag <$> m).Yields Fragment := by
  refine h.map ?_
  rintro body ⟨ts, hbody⟩
  exact ⟨_, writes_element hknown hbody⟩

section Below

variable {F : Node → Emission String} {P : Node → Prop} (hF : ∀ n, P n → (F n).Yields Fragment)

include hF

theorem fragment_all {ns : List Node} (h : ∀ n ∈ ns, P n) :
    (Emission.concat (ns.map F)).Yields Fragment := by
  refine fragment_concat fun m hm => ?_
  rcases List.mem_map.1 hm with ⟨n, hn, rfl⟩
  exact hF n (h n hn)

/-- The tasks of a list; what is no item is left out. -/
theorem fragment_tasks {cs : List Node}
    (h : ∀ c ∈ cs, ∀ n ∈ c.taskContent, P n) :
    (Emission.concat (cs.filterMap (taskOf? F))).Yields Fragment := by
  refine fragment_concat fun m hm => ?_
  rcases List.mem_filterMap.1 hm with ⟨c, hc, htask⟩
  unfold taskOf? at htask
  split at htask
  · next checked ds =>
    cases htask
    refine (fragment_all hF (h _ hc)).map ?_
    rintro body ⟨ts, hbody⟩
    exact ⟨_, writes_taskMarkup checked hbody⟩
  · cases htask

theorem fragment_rowOf {tag : String} (htag : tag = "th" ∨ tag = "td")
    (align : List (Option Align)) {r : Node} (h : ∀ c ∈ r.children, ∀ n ∈ c.children, P n) :
    (rowOf F tag align r).Yields Fragment := by
  refine fragment_element (by rfl) (fragment_concat fun m hm => ?_)
  rcases List.mem_mapIdx.1 hm with ⟨i, hi, rfl⟩
  refine (fragment_all hF (h _ (List.getElem_mem hi))).map ?_
  rintro content ⟨ts, hcontent⟩
  exact ⟨_, writes_cellMarkup htag _ hcontent⟩

theorem fragment_tableFor (align : List (Option Align)) {rows : List Node}
    (h : ∀ r ∈ rows, ∀ c ∈ r.children, ∀ n ∈ c.children, P n) :
    (tableFor F align rows).Yields Fragment := by
  rcases rows with _ | ⟨header, body⟩
  · exact Emission.yields_pure ⟨[], Writes.nil⟩
  · refine (fragment_rowOf hF (Or.inl rfl) align (h header List.mem_cons_self)).bind ?_
    rintro head ⟨ts, hhead⟩
    have hrows : (Emission.concat (body.map (rowOf F "td" align))).Yields Fragment := by
      refine fragment_concat fun m hm => ?_
      rcases List.mem_map.1 hm with ⟨r, hr, rfl⟩
      exact fragment_rowOf hF (Or.inr rfl) align (h r (List.mem_cons_of_mem _ hr))
    refine hrows.bind ?_
    rintro rest ⟨us, hrest⟩
    exact Emission.yields_pure ⟨_, writes_tableMarkup hhead body.isEmpty hrest⟩

end Below

/-! ### The conversion -/

theorem fragment_diagram (ctx : Context) (source : String) :
    (diagram ctx source).Yields Fragment := by
  unfold diagram
  split
  · exact Emission.yields_pure ⟨_, writes_plainTextMacro _ _ _⟩
  · simp only []
    split
    · exact Emission.yields_pure ⟨_, writes_diagramMarkup (Diagram.filename_proper source)⟩
    · exact Emission.yields_fail _ _

/-- Every node without raw HTML converts to a fragment, if it converts. -/
theorem fragment_markup (ctx : Context) (n : Node) :
    n.HtmlFree → (markup ctx n).Yields Fragment := by
  induction n using Node.size_induction with
  | step n ih =>
  intro hfree
  -- What is converted on behalf of a node is smaller and has no raw HTML either.
  have hF : ∀ m, m ∈ n.converted → (markup ctx m).Yields Fragment := fun m hm =>
    ih m (Node.size_lt_of_mem_converted hm)
      (Node.everywhere_converted (fun _ => Kind.noConfusion) (fun _ => Kind.noConfusion) hfree m hm)
  cases n.form with
  | @covered _ c h =>
    have hall : (markupAll ctx n.converted).Yields Fragment := fragment_all hF fun _ hm => hm
    rw [markup_of_cover ctx h]
    refine hall.map ?_
    rintro body ⟨ts, hbody⟩
    exact ⟨_, writes_cover c hbody⟩
  | leaf h =>
    -- Of all leaves, only raw HTML is written as it is.
    have hhtml : n.kind ≠ .html := (Node.everywhere_iff.1 hfree).1
    rw [markup_of_leaf ctx h]
    exact Emission.yields_pure ⟨_, writes_leaf h hhtml⟩
  | diagram source =>
    rw [markup_code]
    exact fragment_diagram ctx source
  | tasks ordered start htasks =>
    rw [markup_list, if_pos htasks]
    exact fragment_element (by rfl)
      (fragment_tasks hF fun _ hc _ hm => Node.mem_converted_of_task htasks hc hm)
  | table align rows =>
    rw [markup_table]
    exact fragment_tableFor hF align fun _ hr _ hc _ hm => Node.mem_converted_of_cell hr hc hm

/-- A document without raw HTML converts to well-formed markup, if it
converts. -/
theorem wellFormed_markup (ctx : Context) (n : Node) (hfree : ∀ m ∈ n.walk, m.kind ≠ .html)
    (out : String) (hout : (Converter.storage.convert ctx n).outcome = .ok out) :
    WellFormed out := by
  rcases fragment_markup ctx n hfree out hout with ⟨ts, hts⟩
  exact hts.wellFormed

/-- A paragraph with everything that has a meaning in markup, a table whose
only row is no row, and code with the mark that ends a section. -/
def hostile : Node :=
  .root
    [.paragraph [.text "<b> & \"c\"", .link "#x\"><y>" none [.text "]]>"]],
      .table [] [.text "row"], .code none "]]>"]

/-- The markup of `hostile`. -/
def hostileMarkup : String :=
  "<p>&lt;b&gt; &amp; &quot;c&quot;<ac:link ac:anchor=\"x&quot;&gt;&lt;y&gt;\"><ac:link-body>" ++
    "]]&gt;</ac:link-body></ac:link></p><table><thead><tr></tr></thead></table>" ++
    "<ac:structured-macro ac:name=\"code\"><ac:plain-text-body><![CDATA[]]]]><![CDATA[>]]>" ++
    "</ac:plain-text-body></ac:structured-macro>"

theorem wellFormed_hostile :
    (∀ m ∈ hostile.walk, m.kind ≠ .html) ∧
      (Converter.storage.convert (.ofFrontMatter ⟨true, false⟩ ⟨none, none, []⟩) hostile).outcome =
        .ok hostileMarkup ∧
      WellFormed hostileMarkup := by
  have hfree : ∀ m ∈ hostile.walk, m.kind ≠ .html := by
    simp [hostile, Node.walk_eq, Node.children, Node.children?, Node.kind]
  have hout : (Converter.storage.convert (.ofFrontMatter ⟨true, false⟩ ⟨none, none, []⟩)
      hostile).outcome = .ok hostileMarkup := by
    change (markup _ hostile).outcome = _
    simp only [hostile, markup_root, markupAll, List.map_cons, List.map_nil, markup_paragraph,
      markup_text, markup_link, markup_table, markup_code]
    refine congrArg Except.ok ?_
    decide +kernel
  exact ⟨hfree, hout, wellFormed_markup _ hostile hfree hostileMarkup hout⟩

end Converter

end WikiSync
