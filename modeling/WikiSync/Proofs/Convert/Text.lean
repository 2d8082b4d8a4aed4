import Mathlib.Data.List.Forall2
import WikiSync.Proofs.Convert.WellFormed
import WikiSync.Proofs.Document.Text
import WikiSync.Proofs.Markup.CharacterData

/-!
# The Text of Converted Documents

Converting a document loses no text, repeats none and leaves it in order. What
is read as text of the markup is the text of the document.

The argument has the shape of the one for well-formed markup, with one case for
each form of a node: a cover puts tags around a piece, and a piece comes with its
tokens. In addition each piece comes with the characters that its tokens show, so
that an emitter which forgot a child, or converted one twice, would be found out
by the characters it shows.

The shape of the tree matters here. A task list passes over what is no item, and
a table shows the content of the cells in its rows, whatever these are. So lists
have to hold items, and tables rows of cells.

## Main definitions

* `Markup.Displays`: A piece of markup with its characters.

## Theorems

* `Emit.shows_cover`, `Emit.shows_leaf`: Covers and leaves.
* `Converter.displays_concat`: Pieces one after the other.
* `Converter.displays_tasks`, `Converter.displays_tableFor`: Tasks and tables,
  over any conversion of what is below.
* `Converter.displays_markup`: Every node displays its text.
* `Converter.characterData_of_convert`: The text of a document.
-/

namespace WikiSync

open Markup Storage Emit

/-- A piece of markup, with the characters that it shows. -/
def Markup.Displays (markup : String) (data : List Char) : Prop :=
  ∃ ts, Writes markup ts ∧ Shows ts data

/-- A node that is neither raw HTML nor an image, and a list or a table only
with items or rows of cells. -/
def Node.Legible (n : Node) : Prop :=
  n.kind ≠ .html ∧ n.kind ≠ .image ∧ n.Shaped

theorem Node.legible_text (value : String) : (Node.text value).Legible :=
  ⟨Kind.noConfusion, Kind.noConfusion, trivial⟩

theorem Node.legible_paragraph (cs : List Node) : (Node.paragraph cs).Legible :=
  ⟨Kind.noConfusion, Kind.noConfusion, trivial⟩

namespace Emit

/-! ### What emitters write -/

/-- What is put around other markup is no task, and its content is not dropped. -/
theorem shown_of_mem_coverTags {tag : String} (h : tag ∈ coverTags) :
    tag ∉ "ac:task" :: droppedElements := by
  have hall : ∀ tag ∈ coverTags, tag ∉ "ac:task" :: droppedElements := by decide
  exact hall tag h

theorem shows_linkTokens (url : String) (title : Option String) {ts : List Token}
    {data : List Char} (h : Shows ts data) : Shows (linkTokens url title ts) data := by
  unfold linkTokens
  rcases anchor? url with _ | anchor
  · exact h.element (by decide) _
  · exact (h.element (by decide) []).element (by decide) _

theorem shows_tableTokens {head rest : List Token} {a b : List Char} (hhead : Shows head a)
    {single : Bool} (hrest : Shows rest b) (hsingle : single = true → b = []) :
    Shows (tableTokens head single rest) (a ++ b) := by
  have hthead : Shows (elementTokens "thead" head) a := hhead.element (by decide) []
  unfold tableTokens
  rcases single with _ | _
  · exact (hthead.append (hrest.element (by decide) [])).element (by decide) []
  · rw [hsingle rfl]
    exact (hthead.append shows_nil).element (by decide) []

/-- The state of a task is dropped, and so are the line breaks around it. -/
theorem shows_taskTokens (checked : Option Bool) {ts : List Token} {data : List Char}
    (h : Shows ts data) : Shows (taskTokens checked ts) data := by
  rintro stack ⟨hkept, -⟩
  have hnewline : readData? ("ac:task" :: stack) [newline] = some ([], "ac:task" :: stack) := by
    simp [readData?, Token.step, Token.data, newline, Symbol.char]
  have hstatus : readData? ("ac:task" :: stack)
      (elementTokens "ac:task-status" ((plainSymbols (taskStatus checked)).map .symbol)) =
        some ([], "ac:task" :: stack) := readData?_dropped (by decide) [] _ _
  have hbody : readData? ("ac:task" :: stack) (elementTokens "ac:task-body" ts) =
      some (data, "ac:task" :: stack) := by
    refine readData?_element (h _ ⟨?_, by simp⟩) []
    simpa [isDropped, droppedElements] using hkept
  have hcontent := readData?_append (readData?_append (readData?_append (readData?_append
    hnewline hstatus) hnewline) hbody) hnewline
  refine readData?_element ?_ []
  rw [hcontent, List.append_nil]
  rfl

theorem shows_codeTokens (lang value : String) : Shows (codeTokens lang value) value.toList :=
  shows_macro _ _ ((shows_sections value).element (by decide) [])

theorem shows_diagramTokens (filename : String) : Shows (diagramTokens filename) [] :=
  (shows_empty _ _).element (by decide) _

/-- A cover shows what its body shows. -/
theorem shows_cover (c : Cover) {ts : List Token} {data : List Char} (h : Shows ts data) :
    Shows (c.tokens ts) data := by
  cases c with
  | bare => exact h
  | element tag htag => exact h.element (shown_of_mem_coverTags htag) []
  | link url title => exact shows_linkTokens url title h
  | callout name => exact shows_macro name [] (h.element (by decide) [])

/-- A leaf that is no image shows its text. -/
theorem shows_leaf (diagrams : Bool) {n : Node} {text : String} (h : n.leaf? = some text)
    (himage : n.kind ≠ .image) : Shows (leafTokens n) (n.characters diagrams) := by
  cases n with
  | text value =>
    rw [Node.characters]
    exact shows_escape value
  | inlineCode value =>
    rw [Node.characters]
    exact (shows_escape value).element (by decide) []
  | code lang value =>
    by_cases hlang : lang = some Diagram.language
    · cases (if_pos hlang).symm.trans h
    · rw [Node.characters, if_neg fun hboth => hlang hboth.2]
      exact shows_codeTokens _ value
  | image => exact absurd rfl himage
  | «break» | thematicBreak =>
    rw [Node.characters]
    exact shows_empty _ _
  | html =>
    rw [Node.characters]
    exact shows_nil
  | _ => cases h

end Emit

namespace Converter

/-! ### Over any conversion of what is below -/

theorem forall₂_mapIdx {α β γ : Type} {R : β → γ → Prop} {f : Nat → α → β} {g : α → γ}
    {l : List α} (h : ∀ i, ∀ a ∈ l, R (f i a) (g a)) :
    List.Forall₂ R (l.mapIdx f) (l.map g) := by
  induction l generalizing f with
  | nil => exact List.Forall₂.nil
  | cons a l ih =>
    rw [List.mapIdx_cons]
    exact List.Forall₂.cons (h 0 a List.mem_cons_self)
      (ih fun i b hb => h (i + 1) b (List.mem_cons_of_mem _ hb))

theorem displays_concat {ms : List (Emission String)} {datas : List (List Char)}
    (h : List.Forall₂ (fun m data => m.Yields fun out => Displays out data) ms datas) :
    (Emission.concat ms).Yields fun out => Displays out datas.flatten := by
  induction h with
  | nil => exact Emission.yields_pure ⟨[], Writes.nil, shows_nil⟩
  | cons hfirst _ ih =>
    refine hfirst.bind ?_
    rintro a ⟨ts, hwrites, hshows⟩
    refine ih.bind ?_
    rintro b ⟨us, hwrites', hshows'⟩
    exact Emission.yields_pure ⟨_, hwrites.append hwrites', hshows.append hshows'⟩

theorem displays_element {tag : String} (hknown : isKnown tag [] = true)
    (htag : tag ∉ "ac:task" :: droppedElements) {m : Emission String} {data : List Char}
    (h : m.Yields fun out => Displays out data) :
    (element tag <$> m).Yields fun out => Displays out data := by
  refine h.map ?_
  rintro body ⟨ts, hwrites, hshows⟩
  exact ⟨_, writes_element hknown hwrites, hshows.element htag []⟩

section Below

variable {diagrams : Bool} {F : Node → Emission String} {P : Node → Prop}
  (hF : ∀ n, P n → (F n).Yields fun out => Displays out (n.characters diagrams))

include hF

theorem displays_all {ns : List Node} (h : ∀ n ∈ ns, P n) :
    (Emission.concat (ns.map F)).Yields fun out =>
      Displays out (Node.charactersAll diagrams ns) := by
  rw [Node.charactersAll_eq, List.flatMap_def]
  refine displays_concat ?_
  rw [List.forall₂_map_left_iff, List.forall₂_map_right_iff, List.forall₂_same]
  exact fun n hn => hF n (h n hn)

/-- The tasks of a list of items. -/
theorem displays_tasks {cs : List Node} (hitems : ∀ c ∈ cs, c.kind = .listItem)
    (h : ∀ c ∈ cs, ∀ n ∈ c.taskContent, P n) :
    (Emission.concat (cs.filterMap (taskOf? F))).Yields fun out =>
      Displays out (Node.charactersAll diagrams (cs.flatMap Node.taskContent)) := by
  have hpieces : List.Forall₂ (fun m data => m.Yields fun out => Displays out data)
      (cs.filterMap (taskOf? F)) (cs.map fun c => Node.charactersAll diagrams c.taskContent) := by
    induction cs with
    | nil => exact List.Forall₂.nil
    | cons c cs ih =>
      have hitem : c.kind = .listItem := hitems c List.mem_cons_self
      cases c
      case listItem checked content =>
        refine List.Forall₂.cons ?_ (ih (fun d hd => hitems d (List.mem_cons_of_mem _ hd))
          fun d hd => h d (List.mem_cons_of_mem _ hd))
        refine (displays_all hF (h _ List.mem_cons_self)).map ?_
        rintro body ⟨ts, hwrites, hshows⟩
        exact ⟨_, writes_taskMarkup checked hwrites, shows_taskTokens checked hshows⟩
      all_goals cases hitem
  rw [Node.charactersAll_flatMap, List.flatMap_def]
  exact displays_concat hpieces

theorem displays_rowOf {tag : String} (htag : tag = "th" ∨ tag = "td")
    (align : List (Option Align)) {r : Node} (h : ∀ c ∈ r.children, ∀ n ∈ c.children, P n) :
    (rowOf F tag align r).Yields fun out =>
      Displays out (Node.charactersAll diagrams (r.children.flatMap Node.children)) := by
  have hname : tag ∉ "ac:task" :: droppedElements := by
    rcases htag with rfl | rfl
    · decide
    · decide
  refine displays_element (by rfl) (by decide) ?_
  rw [Node.charactersAll_flatMap, List.flatMap_def]
  refine displays_concat (forall₂_mapIdx fun i c hc => ?_)
  refine (displays_all hF (h c hc)).map ?_
  rintro content ⟨ts, hwrites, hshows⟩
  exact ⟨_, writes_cellMarkup htag _ hwrites, hshows.element hname _⟩

theorem displays_tableFor (align : List (Option Align)) {rows : List Node}
    (h : ∀ r ∈ rows, ∀ c ∈ r.children, ∀ n ∈ c.children, P n) :
    (tableFor F align rows).Yields fun out =>
      Displays out (Node.charactersAll diagrams
        (rows.flatMap fun r => r.children.flatMap Node.children)) := by
  rcases rows with _ | ⟨header, body⟩
  · exact Emission.yields_pure ⟨[], Writes.nil, shows_nil⟩
  · refine (displays_rowOf hF (Or.inl rfl) align (h header List.mem_cons_self)).bind ?_
    rintro head ⟨ts, hhead, hshows⟩
    have hrows : (Emission.concat (body.map (rowOf F "td" align))).Yields fun out =>
        Displays out (body.map fun r =>
          Node.charactersAll diagrams (r.children.flatMap Node.children)).flatten := by
      refine displays_concat ?_
      rw [List.forall₂_map_left_iff, List.forall₂_map_right_iff, List.forall₂_same]
      exact fun r hr => displays_rowOf hF (Or.inr rfl) align (h r (List.mem_cons_of_mem _ hr))
    refine hrows.bind ?_
    rintro rest ⟨us, hrest, hshows'⟩
    refine Emission.yields_pure ⟨_, writes_tableMarkup hhead body.isEmpty hrest, ?_⟩
    rw [Node.charactersAll_flatMap, List.flatMap_def, List.map_cons, List.flatten_cons]
    refine shows_tableTokens hshows hshows' fun hsingle => ?_
    rw [List.isEmpty_iff.1 hsingle]
    rfl

end Below

/-! ### The conversion -/

theorem displays_diagram (ctx : Context) (source : String) :
    (diagram ctx source).Yields fun out =>
      Displays out (if ctx.options.diagrams = true then [] else source.toList) := by
  unfold diagram
  rcases ctx.options.diagrams with _ | _
  · -- Where diagrams are switched off, the source is shown as code.
    exact Emission.yields_pure ⟨_, writes_plainTextMacro _ _ _,
      shows_macro _ _ ((shows_sections source).element (by decide) [])⟩
  · simp only [Bool.not_true, Bool.false_eq_true, if_false, if_true]
    split
    · exact Emission.yields_pure
        ⟨_, writes_diagramMarkup (Diagram.filename_proper source), shows_diagramTokens _⟩
    · exact Emission.yields_fail _ _

/-- Every node displays its text, if it converts. -/
theorem displays_markup (ctx : Context) (n : Node) :
    n.Everywhere Node.Legible → (markup ctx n).Yields fun out =>
      Displays out (n.characters ctx.options.diagrams) := by
  induction n using Node.size_induction with
  | step n ih =>
  intro hlegible
  rcases (Node.everywhere_iff.1 hlegible).1 with ⟨hhtml, himage, hshaped⟩
  -- What is converted on behalf of a node is smaller and legible, too.
  have hF : ∀ m, m ∈ n.converted → (markup ctx m).Yields fun out =>
      Displays out (m.characters ctx.options.diagrams) := fun m hm =>
    ih m (Node.size_lt_of_mem_converted hm)
      (Node.everywhere_converted Node.legible_text Node.legible_paragraph hlegible m hm)
  cases n.form with
  | @covered _ c h =>
    -- A cover shows what its body shows, and the body has the text of the node.
    have hall : (markupAll ctx n.converted).Yields fun out =>
        Displays out (Node.charactersAll ctx.options.diagrams n.converted) :=
      displays_all hF fun _ hm => hm
    rw [markup_of_cover ctx h,
      ← Node.charactersAll_converted _ hshaped (Node.children?_of_cover h)]
    refine hall.map ?_
    rintro body ⟨ts, hwrites, hshows⟩
    exact ⟨_, writes_cover c hwrites, shows_cover c hshows⟩
  | leaf h =>
    rw [markup_of_leaf ctx h]
    exact Emission.yields_pure ⟨_, writes_leaf h hhtml, shows_leaf _ h himage⟩
  | diagram source =>
    have htext : (Node.code (some Diagram.language) source).characters ctx.options.diagrams =
        if ctx.options.diagrams = true then [] else source.toList := by
      simp only [Node.characters, and_true]
    rw [markup_code, htext]
    exact displays_diagram ctx source
  | tasks ordered start htasks =>
    -- A task list passes over what is no item, and there is nothing else than items here.
    rw [markup_list, if_pos htasks,
      ← Node.charactersAll_converted _ hshaped (Option.some_ne_none _), Node.converted_list,
      if_pos htasks]
    exact displays_element (by rfl) (by decide)
      (displays_tasks hF hshaped fun _ hc _ hm => Node.mem_converted_of_task htasks hc hm)
  | table align rows =>
    -- A table shows what is in its cells, which is all of the text of rows of cells.
    rw [markup_table, ← Node.charactersAll_converted _ hshaped (Option.some_ne_none _)]
    exact displays_tableFor hF align fun _ hr _ hc _ hm => Node.mem_converted_of_cell hr hc hm

/-- The text of the markup of a document is the text of the document. Raw HTML
and images are left out. -/
theorem characterData_of_convert (ctx : Context) (n : Node)
    (hkinds : ∀ m ∈ n.walk, m.kind ≠ .html ∧ m.kind ≠ .image) (hshaped : n.WellShaped)
    (out : String) (hout : (Converter.storage.convert ctx n).outcome = .ok out) :
    characterData? out = some (n.characters ctx.options.diagrams) := by
  have hlegible : n.Everywhere Node.Legible := fun m hm =>
    ⟨(hkinds m hm).1, (hkinds m hm).2, hshaped m hm⟩
  rcases displays_markup ctx n hlegible out hout with ⟨ts, hwrites, hshows⟩
  exact characterData?_eq hwrites hshows

/-! ### A document with callouts, tasks and code -/

/-- A callout within a callout, a task list, a table, code with the mark that
ends a section, and a diagram. -/
def manual : Node :=
  .root
    [.blockquote
        [.paragraph [.text "[!note]  Mind <this>"],
          .blockquote [.paragraph [.text "[!TIP]", .strong [.text " & that"]]]],
      .list false none
        [.listItem (some true) [.paragraph [.text "Done\n"]], .listItem none [.text "Open"]],
      .table [some .left]
        [.tableRow [.tableCell [.text "Head"]], .tableRow [.tableCell [.inlineCode "a&&b"]]],
      .code none "x]]>y", .code (some "mermaid") "graph TD"]

/-- A context in which the diagram has its image. -/
def manualContext : Context :=
  (Context.ofFrontMatter ⟨true, false⟩ .empty).attach
    ⟨Diagram.filename "graph TD", [1], "image/png"⟩

theorem characterData_manual :
    (∀ m ∈ manual.walk, m.kind ≠ .html ∧ m.kind ≠ .image) ∧ manual.WellShaped ∧
      ∃ out, (Converter.storage.convert manualContext manual).outcome = .ok out ∧
        characterData? out = some "Mind <this> & thatDone\nOpenHeada&&bx]]>y".toList := by
  have hkinds : ∀ m ∈ manual.walk, m.kind ≠ .html ∧ m.kind ≠ .image := by
    simp [manual, Node.walk_eq, Node.children, Node.children?, Node.kind]
  have hshaped : manual.WellShaped := by
    unfold Node.WellShaped Node.Everywhere
    simp [manual, Node.walk_eq, Node.children, Node.children?, Node.Shaped, Node.kind]
  have hconverts : (Converter.storage.convert manualContext manual).outcome.toOption.isSome =
      true := by decide +kernel
  rcases hout : (Converter.storage.convert manualContext manual).outcome with e | out
  · rw [hout] at hconverts
    cases hconverts
  · have hdata := characterData_of_convert manualContext manual hkinds hshaped out hout
    have htext : manual.characters manualContext.options.diagrams =
        "Mind <this> & thatDone\nOpenHeada&&bx]]>y".toList := by decide +kernel
    exact ⟨hkinds, hshaped, out, rfl, hdata.trans (congrArg some htext)⟩

end Converter

end WikiSync
