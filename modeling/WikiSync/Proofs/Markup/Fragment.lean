import WikiSync.Proofs.Markup.Token

/-!
# Well-Formed Markup

When markup is well formed, and how well-formed markup is put together. The
elements are a fixed list, each with the attributes it may have. Markup is
well formed if it reads as tokens that all come from that list and if its tags
nest: every tag closes the element that was opened last, and none stays open.

Whoever writes markup writes it in pieces, and a piece does not know which
elements are open around it. `Writes` is well-formedness for pieces: it fixes
the tokens and asks that they leave any stack of open elements as it was. In
this form it passes from pieces to what is put together of them, and at the
top it gives `WellFormed`.

## Main definitions

* `vocabulary`: The elements and their attributes.
* `WellFormed`: Markup that is well formed.
* `Writes`: A piece of markup and its tokens.

## Theorems

* `Writes.wellFormed`: A piece on its own is well formed.
* `Writes.append`, `Writes.element`, `Writes.empty`: Putting pieces together.
* `Writes.symbols`: Text.
-/

namespace WikiSync.Markup

/-! ### The vocabulary -/

/-- The elements of wiki markup, each with the attributes it may have. -/
def vocabulary : List (String × List String) :=
  [("p", []), ("h1", []), ("h2", []), ("h3", []), ("h4", []), ("h5", []), ("h6", []), ("em", []),
    ("strong", []), ("del", []), ("code", []), ("blockquote", []), ("hr", []), ("br", []),
    ("ul", []), ("ol", []), ("li", []), ("table", []), ("thead", []), ("tbody", []), ("tr", []),
    ("th", ["style"]), ("td", ["style"]), ("a", ["href", "title"]), ("ac:link", ["ac:anchor"]),
    ("ac:link-body", []),
    ("ac:image",
      ["ac:alt", "ac:title", "ac:align", "ac:layout", "ac:width", "ac:thumbnail"]),
    ("ri:url", ["ri:value"]), ("ri:attachment", ["ri:filename"]),
    ("ac:task-list", []), ("ac:task", []), ("ac:task-status", []), ("ac:task-body", []),
    ("ac:structured-macro", ["ac:name"]), ("ac:parameter", ["ac:name"]),
    ("ac:rich-text-body", []), ("ac:plain-text-body", [])]

/-- Whether an element is in the vocabulary, with all its attributes. -/
def isKnown (name : String) (attributes : List Attribute) : Bool :=
  vocabulary.any fun e => e.1 == name && attributes.all fun a => e.2.contains a.name

/-- Whether a token uses the vocabulary only. -/
def Token.isKnown : Token → Bool
  | opening name attributes | empty name attributes => Markup.isKnown name attributes
  | closing name => Markup.isKnown name []
  | cdata _ | symbol _ => true

instance (name : String) : Decidable (IsName name) :=
  decidable_of_iff (name.toList ≠ [] ∧ name.toList.all isNameChar = true)
    (and_congr_right fun _ => List.all_eq_true)

theorem isName_vocabulary :
    ∀ e ∈ vocabulary, IsName e.1 ∧ ∀ name ∈ e.2, IsName name := by
  decide

/-- What is in the vocabulary is a name, and so are its attributes. -/
theorem isName_of_isKnown {name : String} {as : List Attribute} (h : isKnown name as = true) :
    IsName name ∧ ∀ a ∈ as, IsName a.name := by
  rcases List.any_eq_true.1 h with ⟨e, he, hboth⟩
  rw [Bool.and_eq_true, beq_iff_eq, List.all_eq_true] at hboth
  rcases hboth with ⟨rfl, hattributes⟩
  rcases isName_vocabulary e he with ⟨hname, hnames⟩
  refine ⟨hname, fun a ha => hnames a.name ?_⟩
  exact List.contains_iff_mem.1 (hattributes a ha)

/-- Attributes do not matter for an element that may have them. -/
theorem isKnown_nil {name : String} {as : List Attribute} (h : isKnown name as = true) :
    isKnown name [] = true := by
  rcases List.any_eq_true.1 h with ⟨e, he, hboth⟩
  rw [Bool.and_eq_true] at hboth
  refine List.any_eq_true.2 ⟨e, he, ?_⟩
  rw [hboth.1]
  rfl

/-! ### Well-formed markup -/

/-- The elements that are open after a token, the innermost first. -/
def Token.step (stack : List String) : Token → Option (List String)
  | opening name _ => some (name :: stack)
  | closing name =>
    match stack with
    | top :: rest => if top = name then some rest else none
    | [] => none
  | empty _ _ | cdata _ | symbol _ => some stack

/-- Markup that reads as tokens, leaving nothing out. The tokens are proper
and from the vocabulary, and the tags nest. -/
def WellFormed (markup : String) : Prop :=
  ∃ ts, tokens? markup.toList = some ts ∧ ts.flatMap Token.spell = markup.toList ∧
    (∀ t ∈ ts, t.Proper ∧ t.isKnown = true) ∧ ts.foldlM Token.step [] = some []

/-- A piece of markup and its tokens. Whatever is open around the piece stays
open. -/
structure Writes (markup : String) (ts : List Token) : Prop where
  spelled : markup.toList = ts.flatMap Token.spell
  proper : ∀ t ∈ ts, t.Proper
  known : ∀ t ∈ ts, t.isKnown = true
  nested : ∀ stack, ts.foldlM Token.step stack = some stack

namespace Writes

/-- A piece on its own is well formed. -/
theorem wellFormed {markup : String} {ts : List Token} (h : Writes markup ts) :
    WellFormed markup := by
  refine ⟨ts, ?_, h.spelled.symm, fun t ht => ⟨h.proper t ht, h.known t ht⟩, h.nested []⟩
  rw [h.spelled]
  exact tokens?_spell h.proper

theorem nil : Writes "" [] :=
  ⟨rfl, fun _ h => absurd h List.not_mem_nil, fun _ h => absurd h List.not_mem_nil, fun _ => rfl⟩

theorem append {a b : String} {ts us : List Token} (ha : Writes a ts) (hb : Writes b us) :
    Writes (a ++ b) (ts ++ us) := by
  refine ⟨?_, fun t ht => ?_, fun t ht => ?_, fun stack => ?_⟩
  · rw [String.toList_append, ha.spelled, hb.spelled, List.flatMap_append]
  · rcases List.mem_append.1 ht with ht | ht
    · exact ha.proper t ht
    · exact hb.proper t ht
  · rcases List.mem_append.1 ht with ht | ht
    · exact ha.known t ht
    · exact hb.known t ht
  · rw [List.foldlM_append, ha.nested]
    exact hb.nested stack

/-- An element around a piece. -/
theorem element {name : String} {as : List Attribute} (hknown : isKnown name as = true)
    (hvalues : ∀ a ∈ as, ∀ s ∈ a.value, s.Proper) {body : String} {ts : List Token}
    (hbody : Writes body ts) {markup : String}
    (htext : markup.toList =
      '<' :: (tagText name as ++ '>' :: (body.toList ++ '<' :: '/' :: (name.toList ++ ['>'])))) :
    Writes markup (.opening name as :: (ts ++ [.closing name])) := by
  rcases isName_of_isKnown hknown with ⟨hname, hnames⟩
  refine ⟨?_, fun t ht => ?_, fun t ht => ?_, fun stack => ?_⟩
  · rw [htext, hbody.spelled, List.flatMap_cons, List.flatMap_append]
    simp only [Token.spell, List.flatMap_cons, List.flatMap_nil, List.append_nil,
      List.cons_append, List.append_assoc, List.nil_append]
  · rcases List.mem_cons.1 ht with rfl | ht
    · exact ⟨hname, fun a ha => ⟨hnames a ha, hvalues a ha⟩⟩
    · rcases List.mem_append.1 ht with ht | ht
      · exact hbody.proper t ht
      · rw [List.mem_singleton.1 ht]
        exact hname
  · rcases List.mem_cons.1 ht with rfl | ht
    · exact hknown
    · rcases List.mem_append.1 ht with ht | ht
      · exact hbody.known t ht
      · rw [List.mem_singleton.1 ht]
        exact isKnown_nil hknown
  · -- The closing tag finds what the opening tag put on top.
    have hclose : Token.step (name :: stack) (.closing name) = some stack := if_pos rfl
    rw [List.foldlM_cons]
    change (ts ++ [Token.closing name]).foldlM Token.step (name :: stack) = some stack
    rw [List.foldlM_append, hbody.nested]
    change (Token.step (name :: stack) (.closing name)).bind some = some stack
    rw [hclose]
    rfl

/-- A single token that neither opens nor closes an element. -/
theorem single {t : Token} (hproper : t.Proper) (hknown : t.isKnown = true)
    (hstep : ∀ stack, t.step stack = some stack) {markup : String}
    (htext : markup.toList = t.spell) : Writes markup [t] := by
  refine ⟨?_, fun u hu => ?_, fun u hu => ?_, fun stack => ?_⟩
  · rw [htext, List.flatMap_cons, List.flatMap_nil, List.append_nil]
  · rw [List.mem_singleton.1 hu]
    exact hproper
  · rw [List.mem_singleton.1 hu]
    exact hknown
  · rw [List.foldlM_cons, hstep]
    rfl

/-- An element without content. -/
theorem empty {name : String} {as : List Attribute} (hknown : isKnown name as = true)
    (hvalues : ∀ a ∈ as, ∀ s ∈ a.value, s.Proper) {markup : String}
    (htext : markup.toList = '<' :: (tagText name as ++ ['/', '>'])) :
    Writes markup [.empty name as] := by
  rcases isName_of_isKnown hknown with ⟨hname, hnames⟩
  have hproper : (Token.empty name as).Proper :=
    ⟨hname, fun a ha => ⟨hnames a ha, hvalues a ha⟩⟩
  exact single hproper hknown (fun _ => rfl) htext

/-- Text, symbol by symbol. -/
theorem symbols {xs : List Symbol} (hxs : ∀ x ∈ xs, x.Proper) {markup : String}
    (htext : markup.toList = xs.flatMap Symbol.spell) : Writes markup (xs.map .symbol) := by
  refine ⟨?_, fun t ht => ?_, fun t ht => ?_, fun stack => ?_⟩
  · rw [htext, List.flatMap_map]
    rfl
  · rcases List.mem_map.1 ht with ⟨x, hx, rfl⟩
    exact hxs x hx
  · rcases List.mem_map.1 ht with ⟨x, -, rfl⟩
    rfl
  · -- No symbol touches the stack.
    clear hxs htext
    induction xs with
    | nil => rfl
    | cons x xs ih => exact ih

end Writes

end WikiSync.Markup
