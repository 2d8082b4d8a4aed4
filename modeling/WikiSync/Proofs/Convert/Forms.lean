import WikiSync.Proofs.Convert.Equations
import WikiSync.Proofs.Document.Diagrams

/-!
# The Forms of Nodes

There are twenty kinds of nodes, and five forms in which they are written. Most nodes are
written as what is converted on their behalf, with an element, a link or a macro around it.
Most leaves are written as a text of their own. What is left are diagrams, lists of tasks and
tables.

A statement about what is written for every node has a case for each form, and not for each
kind. What the kinds have of their own stands in two tables, `Node.cover?` and `Node.leaf?`,
and `markup_of_cover` and `markup_of_leaf` are the only places where they are gone through. An
element of a cover is one of few, so what is asked of these elements can be decided.

## Main definitions

* `Emit.Cover`: What is put around other markup.
* `Node.cover?`, `Node.leaf?`: The covers of nodes, and the texts of leaves.
* `Node.Form`: The forms.

## Theorems

* `Node.form`: Every node has a form.
* `Converter.markup_of_cover`, `Converter.markup_of_leaf`: What is written in the first two.
-/

namespace WikiSync

open Emit

namespace Emit

/-- The elements that are put around what is converted. -/
def coverTags : List String :=
  ["p", "h1", "h2", "h3", "h4", "h5", "h6", "em", "strong", "del", "ol", "ul", "li", "tr", "td",
    "blockquote"]

theorem headingTag_mem (depth : Nat) : headingTag depth ∈ coverTags := by
  -- Whatever the depth is, the level lies between one and six.
  have hall : ∀ m : Fin 7, m ≠ 0 → "h" ++ toString m.val ∈ coverTags := by decide
  have hlevel : min (max depth 1) 6 < 7 := by omega
  have hpos : min (max depth 1) 6 ≠ 0 := by omega
  exact hall ⟨_, hlevel⟩ fun h => hpos (Fin.val_eq_of_eq h)

theorem listTag_mem (ordered : Bool) : (if ordered then "ol" else "ul") ∈ coverTags := by
  cases ordered <;> decide

/-- What is put around other markup. -/
inductive Cover where
  | bare
  | element (tag : String) (h : tag ∈ coverTags)
  | link (url : String) (title : Option String)
  | callout (name : String)

/-- The markup of a cover around a body. -/
def Cover.markup : Cover → String → String
  | bare, body => body
  | element tag _, body => Emit.element tag body
  | link url title, body => linkMarkup url title body
  | callout name, body => Storage.structuredMacro name [] (some body)

end Emit

namespace Node

/-- What is put around that which is converted on behalf of a node, if the node is written
so. -/
def cover? : Node → Option Cover
  | root _ => some .bare
  | paragraph _ => some (.element "p" (by decide))
  | heading depth _ => some (.element (headingTag depth) (headingTag_mem depth))
  | emphasis _ => some (.element "em" (by decide))
  | strong _ => some (.element "strong" (by decide))
  | strikethrough _ => some (.element "del" (by decide))
  | list ordered _ cs =>
    if cs.any isTask then none
    else some (.element (if ordered then "ol" else "ul") (listTag_mem ordered))
  | listItem _ _ => some (.element "li" (by decide))
  | tableRow _ => some (.element "tr" (by decide))
  | tableCell _ => some (.element "td" (by decide))
  | link url title _ => some (.link url title)
  | blockquote cs =>
    match callout? cs with
    | some (name, _) => some (.callout name)
    | none => some (.element "blockquote" (by decide))
  | _ => none

/-- The markup of a leaf that is no diagram. -/
def leaf? : Node → Option String
  | text value => some (Storage.escape value)
  | inlineCode value => some (element "code" (Storage.escape value))
  | code lang value =>
    if lang = some Diagram.language then none else some (codeMarkup (lang.getD "") value)
  | image url alt title => some (imageMarkup url alt title)
  | .break => some "<br/>"
  | thematicBreak => some "<hr/>"
  | html value _ => some value
  | _ => none

/-- The forms in which nodes are written. -/
inductive Form : Node → Prop
  | covered {n : Node} {c : Cover} (h : n.cover? = some c) : Form n
  | leaf {n : Node} {text : String} (h : n.leaf? = some text) : Form n
  | diagram (source : String) : Form (code (some Diagram.language) source)
  | tasks (ordered : Bool) (start : Option Nat) {cs : List Node} (h : cs.any isTask = true) :
    Form (list ordered start cs)
  | table (align : List (Option Align)) (rows : List Node) : Form (table align rows)

/-- Every node has a form. -/
theorem form (n : Node) : n.Form := by
  cases n with
  | root | paragraph | heading | emphasis | strong | strikethrough | listItem | tableRow
  | tableCell | link => exact .covered rfl
  | text | inlineCode | image | «break» | thematicBreak | html => exact .leaf rfl
  | code lang value =>
    by_cases hlang : lang = some Diagram.language
    · rw [hlang]
      exact .diagram value
    · exact .leaf (if_neg hlang)
  | list ordered start cs =>
    by_cases htasks : cs.any isTask = true
    · exact .tasks ordered start htasks
    · exact .covered (if_neg htasks)
  | table align rows => exact .table align rows
  | blockquote cs =>
    rcases hcallout : callout? cs with _ | ⟨name, inner⟩
    · exact .covered (by rw [cover?, hcallout])
    · exact .covered (by rw [cover?, hcallout])

/-- A node with a cover has a place for children. -/
theorem children?_of_cover {n : Node} {c : Cover} (h : n.cover? = some c) :
    n.children? ≠ none := by
  cases n with
  | text | inlineCode | code | image | «break» | thematicBreak | html => cases h
  | _ => exact Option.some_ne_none _

/-- A node with a cover is no code. -/
theorem kind_of_cover {n : Node} {c : Cover} (h : n.cover? = some c) : n.kind ≠ .code := by
  cases n with
  | code => cases h
  | _ => exact Kind.noConfusion

/-- Nothing is converted on behalf of a leaf, and it is no diagram. -/
theorem converted_of_leaf {n : Node} {text : String} (h : n.leaf? = some text) :
    n.converted = [] ∧ n.diagram? = none := by
  have hdiagram : n.diagram? = none := by
    refine Option.eq_none_iff_forall_ne_some.2 fun source hsource => ?_
    rw [diagram?_eq_some hsource] at h
    cases h
  refine ⟨?_, hdiagram⟩
  cases n with
  | text | inlineCode | code | image | «break» | thematicBreak | html => rfl
  | _ => cases h

end Node

namespace Converter

variable (ctx : Context)

/-- A leaf is written as its text. -/
theorem markup_of_leaf {n : Node} {text : String} (h : n.leaf? = some text) :
    markup ctx n = pure text := by
  cases n with
  | text value =>
    cases h
    exact markup_text ctx value
  | inlineCode value =>
    cases h
    exact markup_inlineCode ctx value
  | code lang value =>
    by_cases hlang : lang = some Diagram.language
    · cases (if_pos hlang).symm.trans h
    · cases (if_neg hlang).symm.trans h
      have hother : lang.getD "" ≠ Diagram.language := by
        rcases lang with _ | lang
        · decide
        · exact fun heq => hlang (congrArg some heq)
      rw [markup_code, if_neg hother]
  | image url alt title =>
    cases h
    exact markup_image ctx url alt title
  | «break» =>
    cases h
    exact markup_break ctx
  | thematicBreak =>
    cases h
    exact markup_thematicBreak ctx
  | html value isInline =>
    cases h
    exact markup_html ctx _ isInline
  | _ => cases h

/-- Other nodes are written as what is converted on their behalf, with their cover around it. -/
theorem markup_of_cover {n : Node} {c : Cover} (h : n.cover? = some c) :
    markup ctx n = c.markup <$> markupAll ctx n.converted := by
  cases n with
  | root cs =>
    cases h
    rw [markup_root]
    exact (id_map _).symm
  | paragraph | emphasis | strong | strikethrough | listItem | tableRow | tableCell =>
    cases h
    exact markup_wrapped ctx rfl
  | heading depth cs =>
    cases h
    exact markup_heading ctx depth cs
  | list ordered start cs =>
    by_cases htasks : cs.any isTask = true
    · cases (if_pos htasks).symm.trans h
    · cases (if_neg htasks).symm.trans h
      rw [markup_list, Node.converted_list, if_neg htasks, if_neg htasks]
      rfl
  | link url title cs =>
    cases h
    exact markup_link ctx url title cs
  | blockquote cs =>
    rw [markup_blockquote, Node.converted_blockquote, quoteOf]
    rw [Node.cover?] at h
    rcases hcallout : callout? cs with _ | ⟨name, inner⟩
    · rw [hcallout] at h
      cases h
      rfl
    · rw [hcallout] at h
      cases h
      rfl
  | _ => cases h

end Converter

end WikiSync
