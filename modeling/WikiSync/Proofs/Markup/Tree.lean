import WikiSync.Proofs.Markup.Concat
import WikiSync.Proofs.Markup.Fragment

/-!
# Markup as Trees

Which elements are in which. The tokens of markup are read with a stack of the elements that
are open, each with the content that came before it. An opening tag starts with empty
content, and a closing tag has to close the innermost element, which becomes a piece of the
content around it.

The tokens that have been read so far can be told from the stack at any time, and the next
token is added to them (`Reading.tokens_step`). So markup is read as trees exactly if these
are its tokens, written one after the other, and one sequence of tokens has one sequence of
trees (`forest?_eq_some_iff`). Where the tags nest there is always one.

The leaves of a tree may be anything. `Tree.spell` is the written form of a tree with leaves
of any kind. What is read has tokens for leaves.

## Main definitions

* `Leaf`, `Tree`: Content.
* `Tree.spell`, `Tree.tokens`: A tree, written out.
* `Reading`: Reading in the middle of markup.
* `forest?`, `trees?`: Reads tokens, and markup.
* `Composes`: What passes to markup that is put together.

## Theorems

* `forest?_eq_some_iff`: What is read from tokens.
* `Writes.trees`: Well-formed pieces are read as trees.
* `composes_trees?`, `composes_spell`: Markup is read, and trees are written out, piece by
  piece.
-/

namespace WikiSync.Markup

/-! ### Trees -/

/-- A piece of content that holds nothing. -/
inductive Leaf where
  | empty (name : String) (attributes : List Attribute)
  | cdata (text : List Char)
  | symbol (s : Symbol)
deriving DecidableEq

/-- The token that a leaf is. -/
def Leaf.token : Leaf → Token
  | empty name attributes => .empty name attributes
  | cdata text => .cdata text
  | symbol s => .symbol s

/-- A piece of content: an element with what is in it, or a leaf. -/
inductive Tree (α : Type) where
  | leaf (a : α)
  | element (name : String) (attributes : List Attribute) (children : List (Tree α))

mutual
/-- The written form of a tree. -/
def Tree.spell {α : Type} (f : α → List Char) : Tree α → List Char
  | leaf a => f a
  | element name attributes children =>
    (Token.opening name attributes).spell ++ (spellAll f children ++ (Token.closing name).spell)

/-- The written form of trees, one after the other. -/
def Tree.spellAll {α : Type} (f : α → List Char) : List (Tree α) → List Char
  | [] => []
  | t :: ts => t.spell f ++ spellAll f ts
end

theorem Tree.spellAll_append {α : Type} (f : α → List Char) (ts us : List (Tree α)) :
    spellAll f (ts ++ us) = spellAll f ts ++ spellAll f us := by
  induction ts with
  | nil => rfl
  | cons t ts ih => rw [List.cons_append, spellAll, spellAll, ih, List.append_assoc]

theorem Tree.spellAll_singleton {α : Type} (f : α → List Char) (t : Tree α) :
    spellAll f [t] = t.spell f := by
  rw [spellAll, spellAll, List.append_nil]

mutual
/-- The tokens of a tree. -/
def Tree.tokens : Tree Leaf → List Token
  | leaf a => [a.token]
  | element name attributes children =>
    .opening name attributes :: (tokensAll children ++ [.closing name])

/-- The tokens of trees, one after the other. -/
def Tree.tokensAll : List (Tree Leaf) → List Token
  | [] => []
  | t :: ts => t.tokens ++ tokensAll ts
end

theorem Tree.tokensAll_append (ts us : List (Tree Leaf)) :
    tokensAll (ts ++ us) = tokensAll ts ++ tokensAll us := by
  induction ts with
  | nil => rfl
  | cons t ts ih => rw [List.cons_append, tokensAll, tokensAll, ih, List.append_assoc]

theorem Tree.tokensAll_singleton (t : Tree Leaf) : tokensAll [t] = t.tokens := by
  rw [tokensAll, tokensAll, List.append_nil]

/-! ### Reading tokens -/

/-- An element that is open, with the content in front of it. -/
structure OpenElement where
  name : String
  attributes : List Attribute
  before : List (Tree Leaf)

/-- Reading in the middle of markup: the elements that are open, the innermost first, and
the content of the innermost so far. -/
structure Reading where
  opened : List OpenElement
  content : List (Tree Leaf)

namespace Reading

/-- Goes on with a leaf. -/
def add (r : Reading) (t : Tree Leaf) : Reading :=
  ⟨r.opened, r.content ++ [t]⟩

/-- Goes on with a token. -/
def step (r : Reading) : Token → Option Reading
  | .opening name attributes => some ⟨⟨name, attributes, r.content⟩ :: r.opened, []⟩
  | .closing name =>
    match r.opened with
    | e :: opened =>
      if e.name = name then some ⟨opened, e.before ++ [.element name e.attributes r.content]⟩
      else none
    | [] => none
  | .empty name attributes => some (r.add (.leaf (.empty name attributes)))
  | .cdata text => some (r.add (.leaf (.cdata text)))
  | .symbol s => some (r.add (.leaf (.symbol s)))

/-- The tokens up to the content of the innermost element. -/
def openTokens : List OpenElement → List Token
  | [] => []
  | e :: es => openTokens es ++ (Tree.tokensAll e.before ++ [.opening e.name e.attributes])

/-- The tokens that have been read. -/
def tokens (r : Reading) : List Token :=
  openTokens r.opened ++ Tree.tokensAll r.content

theorem tokens_add (r : Reading) (t : Tree Leaf) : (r.add t).tokens = r.tokens ++ t.tokens := by
  rw [tokens, tokens, add, Tree.tokensAll_append, Tree.tokensAll_singleton, List.append_assoc]

/-- A step reads one token. -/
theorem tokens_step {r r' : Reading} {t : Token} (h : r.step t = some r') :
    r'.tokens = r.tokens ++ [t] := by
  unfold step at h
  split at h
  · next name attributes =>
    cases h
    simp only [tokens, openTokens, Tree.tokensAll, List.append_nil, List.append_assoc]
  · next name =>
    split at h
    · next e opened hopened =>
      split at h
      · next hname =>
        cases h
        simp only [tokens, hopened, openTokens, Tree.tokensAll_append, Tree.tokensAll_singleton,
          Tree.tokens, hname, List.append_assoc, List.cons_append, List.nil_append]
      · cases h
    · cases h
  · cases h
    exact tokens_add r _
  · cases h
    exact tokens_add r _
  · cases h
    exact tokens_add r _

/-- A run reads its tokens. -/
theorem tokens_run {r r' : Reading} {ts : List Token} (h : ts.foldlM step r = some r') :
    r'.tokens = r.tokens ++ ts := by
  induction ts generalizing r with
  | nil =>
    cases h
    rw [List.append_nil]
  | cons t ts ih =>
    rw [List.foldlM_cons] at h
    rcases Option.bind_eq_some_iff.1 h with ⟨next, hnext, hrest⟩
    rw [ih hrest, tokens_step hnext, List.append_assoc, List.singleton_append]

mutual
/-- Reading the tokens of a tree adds the tree. -/
theorem run_tokens (r : Reading) : (t : Tree Leaf) → t.tokens.foldlM step r = some (r.add t)
  | .leaf a => by
    cases a <;> rfl
  | .element name attributes children => by
    have hbody := run_tokensAll ⟨⟨name, attributes, r.content⟩ :: r.opened, []⟩ children
    -- The closing tag finds the element that the opening tag put on top.
    have hclose : step ⟨⟨name, attributes, r.content⟩ :: r.opened, [] ++ children⟩
        (.closing name) = some (r.add (.element name attributes children)) := if_pos rfl
    rw [Tree.tokens, List.foldlM_cons]
    change (Tree.tokensAll children ++ [Token.closing name]).foldlM step
      ⟨⟨name, attributes, r.content⟩ :: r.opened, []⟩ = _
    rw [List.foldlM_append, hbody, Option.bind_eq_bind, Option.bind_some, List.foldlM_cons, hclose]
    rfl

/-- Reading the tokens of trees adds them. -/
theorem run_tokensAll (r : Reading) : (ts : List (Tree Leaf)) →
    (Tree.tokensAll ts).foldlM step r = some ⟨r.opened, r.content ++ ts⟩
  | [] => by
    rw [List.append_nil]
    rfl
  | t :: ts => by
    rw [Tree.tokensAll, List.foldlM_append, run_tokens r t]
    change (Tree.tokensAll ts).foldlM step (r.add t) = _
    rw [run_tokensAll (r.add t) ts, add, List.append_assoc, List.singleton_append]
end

/-- Whatever can be closed can be closed here. -/
theorem exists_step {r : Reading} {t : Token} {stack : List String}
    (h : t.step (r.opened.map (·.name)) = some stack) :
    ∃ r', r.step t = some r' ∧ r'.opened.map (·.name) = stack := by
  cases t with
  | opening name attributes =>
    cases h
    exact ⟨_, rfl, rfl⟩
  | closing name =>
    rcases r with ⟨_ | ⟨e, opened⟩, content⟩
    · cases h
    · rcases Option.ite_none_right_eq_some.1 h with ⟨hname, hstack⟩
      exact ⟨_, if_pos hname, Option.some.inj hstack⟩
  | empty _ _ | cdata _ | symbol _ =>
    cases h
    exact ⟨_, rfl, rfl⟩

theorem exists_run {r : Reading} {ts : List Token} {stack : List String}
    (h : ts.foldlM Token.step (r.opened.map (·.name)) = some stack) :
    ∃ r', ts.foldlM step r = some r' ∧ r'.opened.map (·.name) = stack := by
  induction ts generalizing r with
  | nil =>
    cases h
    exact ⟨r, rfl, rfl⟩
  | cons t ts ih =>
    rw [List.foldlM_cons] at h
    rcases Option.bind_eq_some_iff.1 h with ⟨next, hnext, hrest⟩
    rcases exists_step hnext with ⟨r', hstep, rfl⟩
    rcases ih hrest with ⟨r'', hrun, hopened⟩
    refine ⟨r'', ?_, hopened⟩
    rw [List.foldlM_cons, hstep]
    exact hrun

end Reading

/-- Reads tokens as trees. No element may be left open. -/
def forest? (ts : List Token) : Option (List (Tree Leaf)) :=
  match ts.foldlM Reading.step ⟨[], []⟩ with
  | some ⟨[], content⟩ => some content
  | _ => none

/-- Tokens are read as the trees that have these tokens. -/
theorem forest?_eq_some_iff {ts : List Token} {trees : List (Tree Leaf)} :
    forest? ts = some trees ↔ Tree.tokensAll trees = ts := by
  unfold forest?
  constructor
  · intro h
    split at h
    · next content hrun =>
      cases h
      exact Reading.tokens_run hrun
    · cases h
  · rintro rfl
    rw [Reading.run_tokensAll]
    rfl

/-- Tokens whose tags nest are read. -/
theorem exists_forest {ts : List Token} (h : ts.foldlM Token.step [] = some []) :
    ∃ trees, forest? ts = some trees := by
  rcases Reading.exists_run (r := ⟨[], []⟩) h with ⟨⟨opened, content⟩, hrun, hopened⟩
  cases List.map_eq_nil_iff.1 hopened
  exact ⟨content, by rw [forest?, hrun]⟩

/-! ### Reading markup -/

theorem tokens?_token {t : Token} (ht : t.Proper) : tokens? t.spell = some [t] := by
  have hread := tokens?_spell fun u hu => (List.mem_singleton.1 hu).symm ▸ ht
  rwa [List.flatMap_singleton] at hread

/-- Reads markup as trees. -/
def trees? (markup : String) : Option (List (Tree Leaf)) :=
  (tokens? markup.toList).bind forest?

theorem trees?_eq_some_iff {markup : String} {trees : List (Tree Leaf)} :
    trees? markup = some trees ↔ tokens? markup.toList = some (Tree.tokensAll trees) := by
  rw [trees?, Option.bind_eq_some_iff]
  simp only [forest?_eq_some_iff]
  exact exists_eq_right'

theorem trees?_empty : trees? "" = some [] := by
  have hnone : ∀ t ∈ ([] : List Token), t.Proper := fun _ h => absurd h List.not_mem_nil
  rw [trees?_eq_some_iff]
  exact tokens?_spell hnone

/-- Well-formed pieces of markup are read. -/
theorem Writes.trees {markup : String} {ts : List Token} (h : Writes markup ts) :
    ∃ trees, trees? markup = some trees := by
  rcases exists_forest (h.nested []) with ⟨trees, htrees⟩
  refine ⟨trees, ?_⟩
  rw [trees?, h.spelled, tokens?_spell h.proper]
  exact htrees

/-! ### Putting markup together -/

/-- A relation between markup and trees that passes to what is put together of pieces. -/
structure Composes {α : Type} (R : String → List (Tree α) → Prop) : Prop where
  empty : R "" []
  append {a b : String} {ts us : List (Tree α)} (ha : R a ts) (hb : R b us) : R (a ++ b) (ts ++ us)
  element {name : String} {as : List Attribute} (hname : IsName name) (has : ∀ a ∈ as, a.Proper)
    {body : String} {ts : List (Tree α)} (hbody : R body ts) {markup : String}
    (htext : markup.toList =
      '<' :: (tagText name as ++ '>' :: (body.toList ++ '<' :: '/' :: (name.toList ++ ['>'])))) :
    R markup [.element name as ts]

/-- Markup is read piece by piece, and an element around markup is read as an element around
what the markup is read as. -/
theorem composes_trees? : Composes fun markup trees => trees? markup = some trees := by
  refine ⟨trees?_empty, fun ha hb => ?_, @fun name as hname has body ts hbody markup htext => ?_⟩
  · rw [trees?_eq_some_iff] at ha hb ⊢
    rw [String.toList_append, tokens?_append ha hb, Tree.tokensAll_append]
  · rw [trees?_eq_some_iff] at hbody ⊢
    have hopening := tokens?_token (t := .opening name as) ⟨hname, has⟩
    have hclosing := tokens?_token (t := .closing name) hname
    have hread := tokens?_append hopening (tokens?_append hbody hclosing)
    have hspell : markup.toList =
        (Token.opening name as).spell ++ (body.toList ++ (Token.closing name).spell) := by
      rw [htext]
      simp only [Token.spell, List.cons_append, List.append_assoc, List.nil_append]
    rw [hspell, hread, Tree.tokensAll_singleton, Tree.tokens, List.singleton_append]

/-- What is put together is written out piece by piece. -/
theorem composes_spell {α : Type} (f : α → List Char) :
    Composes fun markup trees => markup.toList = Tree.spellAll f trees := by
  refine ⟨rfl, fun ha hb => ?_, fun _ _ _ _ hbody _ htext => ?_⟩
  · rw [String.toList_append, ha, hb, Tree.spellAll_append]
  · rw [htext, hbody, Tree.spellAll_singleton, Tree.spell]
    simp only [Token.spell, List.cons_append, List.append_assoc, List.nil_append]

end WikiSync.Markup
