import Mathlib.Data.List.Chain
import Mathlib.Data.List.TakeWhile
import WikiSync.Document.Builder
import WikiSync.Proofs.Document.Walk

/-!
# Normal Trees

The shape that the rest of the library may expect of a tree that was read. The
converter takes any tree there is, but some trees say the same in two ways: two
texts next to each other read as one, and inline content that stands directly
in a list item reads as a paragraph. A normal tree has one way only.

All conditions are about one node and its children, so they are stated at a
node (`Node.Orderly`) and hold of a tree if they hold everywhere in it. The
builder keeps children in reverse while a container is open. Being apart does
not depend on the direction (`apart_reverse`), so nothing has to be turned
around before the container closes.

The one step that rearranges children is the wrapping of inline runs when a
list item closes. A wrapped run is a segment of the children it came from, so
it is apart if they were, and `apart_wrapInlineRunsFrom` says that the
paragraphs and the blocks between them are apart as well.

## Main definitions

* `Node.Merges`, `Apart`: Siblings that are not one.
* `IsWord`: A text that is one word.
* `Node.Orderly`, `Tidy`, `Node.Normal`: The conditions on a node, on siblings
  and on a tree.

## Theorems

* `Text.isWord_of_firstWord?`, `Text.firstWord?_of_isWord`: What the first word
  is.
* `appendMerged_of_apart`, `Tidy.appendMerged`: Adding a node to its siblings.
* `mem_wrapInlineRunsFrom`, `apart_wrapInlineRunsFrom`, `Tidy.wrapInlineRuns`:
  Wrapping inline runs.
-/

namespace WikiSync

/-! ### Words -/

/-- A text that is one word: not empty, and without white space. -/
def IsWord (s : String) : Prop :=
  s ≠ "" ∧ ∀ c ∈ s.toList, Text.isBlankChar c = false

-- Only the characters of the text are looked at, and not all there are.
instance (s : String) : Decidable (IsWord s) :=
  decidable_of_iff (s ≠ "" ∧ s.toList.all (fun c => !Text.isBlankChar c) = true) <| by
    simp only [IsWord, List.all_eq_true, Bool.not_eq_true']

theorem Text.isWord_of_firstWord? {s word : String} (h : firstWord? s = some word) :
    IsWord word := by
  unfold firstWord? at h
  rcases hrun : (s.toList.dropWhile isBlankChar).takeWhile (fun c => !isBlankChar c) with
    _ | ⟨c, cs⟩
  · rw [hrun] at h
    cases h
  · rw [hrun] at h
    cases h
    refine ⟨fun hempty => ?_, fun d hd => ?_⟩
    · have hchars := congrArg String.toList hempty
      rw [String.toList_ofList] at hchars
      cases hchars
    · rw [String.toList_ofList, ← hrun] at hd
      have hkept := List.mem_takeWhile_imp hd
      rwa [Bool.not_eq_true'] at hkept

theorem Text.firstWord?_of_isWord {s : String} (h : IsWord s) : firstWord? s = some s := by
  rcases hcs : s.toList with _ | ⟨c, cs⟩
  · exact absurd (String.toList_inj.1 hcs) h.1
  · have hall : ∀ d ∈ c :: cs, (!isBlankChar d) = true := fun d hd => by
      rw [h.2 d (hcs ▸ hd)]
      rfl
    have hfirst : isBlankChar c = false := h.2 c (hcs ▸ List.mem_cons_self)
    have hdrop : (c :: cs).dropWhile isBlankChar = c :: cs := by
      rw [List.dropWhile_cons_of_neg]
      rw [hfirst]
      exact Bool.false_ne_true
    unfold firstWord?
    rw [hcs, hdrop, List.takeWhile_eq_self_iff.2 hall]
    simp only [← hcs, String.ofList_toList]

/-! ### Siblings -/

/-- Whether two siblings next to each other are really one: both are text, or
both are HTML of the same sort. -/
def Node.Merges : Node → Node → Prop
  | .text _, .text _ => True
  | .html _ inline, .html _ inline' => inline = inline'
  | _, _ => False

instance : DecidableRel Node.Merges := fun m n => by
  unfold Node.Merges
  split <;> infer_instance

theorem Node.Merges.symm {m n : Node} (h : m.Merges n) : n.Merges m := by
  unfold Merges at h ⊢
  split at h
  · trivial
  · exact Eq.symm h
  · exact h.elim

/-- Siblings of which no two next to each other are one. -/
def Apart (ns : List Node) : Prop :=
  ns.IsChain fun m n => ¬ m.Merges n

theorem apart_reverse {ns : List Node} : Apart ns.reverse ↔ Apart ns := by
  unfold Apart
  rw [List.isChain_reverse]
  constructor
  · exact fun h => h.imp fun m n hne hmerges => hne hmerges.symm
  · exact fun h => h.imp fun m n hne hmerges => hne hmerges.symm

theorem Apart.segment {part ns : List Node} (h : Apart ns) (hpart : part <:+: ns) : Apart part :=
  List.IsChain.infix h hpart

/-- Two nodes that are really one are both text or both HTML of one sort. -/
theorem Node.Merges.cases {m n : Node} (h : m.Merges n) :
    (∃ before value, m = .text before ∧ n = .text value) ∨
      ∃ before value inline, m = .html before inline ∧ n = .html value inline := by
  unfold Merges at h
  split at h
  · exact Or.inl ⟨_, _, rfl, rfl⟩
  · next before inline value inline' =>
    subst h
    exact Or.inr ⟨before, value, inline, rfl, rfl⟩
  · exact h.elim

/-- A node that is apart from the one before it is added as it is. -/
theorem appendMerged_of_apart {siblings : List Node} {n : Node}
    (h : ∀ m ∈ siblings.head?, ¬ m.Merges n) : appendMerged siblings n = n :: siblings := by
  unfold appendMerged
  split
  · next value before rest => exact absurd trivial (h (.text before) rfl)
  · next value inline before inline' rest =>
    exact if_neg fun heq => h (.html before inline') rfl (Eq.symm heq)
  · rfl

/-! ### Conditions -/

/-- The conditions on a node apart from how its children stand next to each
other. A root stands at the top only. -/
def Node.Regular : Node → Prop
  | .root _ => False
  | .heading depth _ => 1 ≤ depth ∧ depth ≤ 6
  | .list ordered start _ => ordered = start.isSome
  | .listItem _ children => ∀ c ∈ children, c.isInline = false
  | .code lang _ => ∀ word ∈ lang, IsWord word
  | .link _ title _ | .image _ _ title => title ≠ some ""
  | _ => True

/-- The conditions on a node of a normal tree, below the root. -/
def Node.Orderly (n : Node) : Prop :=
  n.Regular ∧ Apart n.children

/-- Siblings of a normal tree. They may be listed in either direction. -/
def Tidy (ns : List Node) : Prop :=
  Apart ns ∧ ∀ n ∈ ns, n.Everywhere Node.Orderly

/-- A normal tree: a root with no root below it, no two siblings that are
really one, and every node as it should be. -/
def Node.Normal (t : Node) : Prop :=
  ∃ children, t = .root children ∧ Tidy children

instance : DecidablePred Node.Regular := fun n =>
  match n with
  | .root _ => isFalse id
  | .heading depth _ => inferInstanceAs (Decidable (1 ≤ depth ∧ depth ≤ 6))
  | .list ordered start _ => inferInstanceAs (Decidable (ordered = start.isSome))
  | .listItem _ children => inferInstanceAs (Decidable (∀ c ∈ children, c.isInline = false))
  | .code lang _ => inferInstanceAs (Decidable (∀ word ∈ lang, IsWord word))
  | .link _ title _ | .image _ _ title => inferInstanceAs (Decidable (title ≠ some ""))
  | .paragraph _ | .text _ | .emphasis _ | .strong _ | .strikethrough _ | .inlineCode _
  | .table _ _ | .tableRow _ | .tableCell _ | .blockquote _ | .break | .thematicBreak
  | .html _ _ => isTrue trivial

instance (ns : List Node) : Decidable (Apart ns) :=
  inferInstanceAs (Decidable (List.IsChain _ _))

instance (n : Node) : Decidable n.Orderly :=
  inferInstanceAs (Decidable (_ ∧ _))

instance (ns : List Node) : Decidable (Tidy ns) :=
  inferInstanceAs (Decidable (_ ∧ ∀ n ∈ ns, ∀ m ∈ n.walk, m.Orderly))

theorem Node.everywhere_orderly_iff {n : Node} :
    n.Everywhere Orderly ↔ n.Regular ∧ Tidy n.children := by
  rw [everywhere_iff, Orderly, Tidy, and_assoc]

theorem tidy_nil : Tidy [] :=
  ⟨List.isChain_nil, fun _ hn => absurd hn List.not_mem_nil⟩

theorem tidy_reverse {ns : List Node} : Tidy ns.reverse ↔ Tidy ns := by
  unfold Tidy
  rw [apart_reverse]
  simp only [List.mem_reverse]

theorem Tidy.tail {n : Node} {ns : List Node} (h : Tidy (n :: ns)) : Tidy ns :=
  ⟨List.IsChain.tail h.1, fun m hm => h.2 m (List.mem_cons_of_mem _ hm)⟩

theorem Tidy.segment {part ns : List Node} (h : Tidy ns) (hpart : part <:+: ns) : Tidy part :=
  ⟨h.1.segment hpart, fun n hn => h.2 n (hpart.subset hn)⟩

/-- A leaf of a normal tree. -/
theorem Node.everywhere_orderly_leaf {n : Node} (hregular : n.Regular) (hleaf : n.children = []) :
    n.Everywhere Orderly :=
  everywhere_orderly_iff.2 ⟨hregular, hleaf ▸ tidy_nil⟩

/-! ### Merging -/

theorem Tidy.cons {n : Node} {ns : List Node} (hn : n.Everywhere Node.Orderly)
    (hapart : ∀ m ∈ ns.head?, ¬ n.Merges m) (h : Tidy ns) : Tidy (n :: ns) := by
  refine ⟨List.isChain_cons.2 ⟨hapart, h.1⟩, fun m hm => ?_⟩
  rcases List.mem_cons.1 hm with rfl | hm
  · exact hn
  · exact h.2 m hm

/-- A node may take the place of another one if it merges with nothing else. -/
theorem Tidy.replace {m n : Node} {ns : List Node} (h : Tidy (m :: ns))
    (hn : n.Everywhere Node.Orderly) (hmerges : ∀ k, n.Merges k → m.Merges k) : Tidy (n :: ns) :=
  h.tail.cons hn fun k hk hsame => (List.isChain_cons.1 h.1).1 k hk (hmerges k hsame)

/-- Adding a node leaves its siblings tidy. -/
theorem Tidy.appendMerged {siblings : List Node} (h : Tidy siblings) {n : Node}
    (hn : n.Everywhere Node.Orderly) : Tidy (appendMerged siblings n) := by
  by_cases hmerges : ∃ m ∈ siblings.head?, m.Merges n
  · -- The node and the one before it become one, in the place of that one.
    rcases hmerges with ⟨m, hm, hmerges⟩
    rcases List.head?_eq_some_iff.1 hm with ⟨rest, rfl⟩
    rcases hmerges.cases with ⟨before, value, rfl, rfl⟩ | ⟨before, value, inline, rfl, rfl⟩
    · exact h.replace (Node.everywhere_orderly_leaf trivial rfl) fun k => by cases k <;> exact id
    · simp only [WikiSync.appendMerged, if_true]
      exact h.replace (Node.everywhere_orderly_leaf trivial rfl) fun k => by cases k <;> exact id
  · have hapart : ∀ m ∈ siblings.head?, ¬ m.Merges n := fun m hm h => hmerges ⟨m, hm, h⟩
    rw [appendMerged_of_apart hapart]
    exact h.cons hn fun m hm h => hapart m hm h.symm

/-! ### Inline runs -/

theorem Node.not_merges_paragraph (m : Node) (cs : List Node) : ¬ m.Merges (.paragraph cs) := by
  cases m <;> exact id

theorem mem_wrapRun {run : List Node} {c : Node} (h : c ∈ wrapRun run) : c = .paragraph run := by
  unfold wrapRun at h
  split at h
  · cases h
  · exact List.mem_singleton.1 h

/-- What comes of wrapping is a block that was there, or a paragraph around
nodes that stood next to each other. -/
theorem mem_wrapInlineRunsFrom {run ns : List Node} {c : Node}
    (h : c ∈ wrapInlineRunsFrom run ns) :
    (c ∈ ns ∧ c.isInline = false) ∨ ∃ part, c = .paragraph part ∧ part <:+: run ++ ns := by
  induction ns generalizing run with
  | nil => exact Or.inr ⟨run, mem_wrapRun h, (List.prefix_append run []).isInfix⟩
  | cons n ns ih =>
    unfold wrapInlineRunsFrom at h
    split at h
    · -- An inline node makes the run longer by what came off the list.
      rcases ih h with ⟨hc, hblock⟩ | ⟨part, rfl, hpart⟩
      · exact Or.inl ⟨List.mem_cons_of_mem _ hc, hblock⟩
      · rw [List.append_assoc] at hpart
        exact Or.inr ⟨part, rfl, hpart⟩
    · next hblock =>
      rcases List.mem_append.1 h with hc | hc
      · exact Or.inr ⟨run, mem_wrapRun hc, (List.prefix_append run (n :: ns)).isInfix⟩
      · rcases List.mem_cons.1 hc with rfl | hc
        · exact Or.inl ⟨List.mem_cons_self, Bool.eq_false_iff.2 hblock⟩
        · rcases ih hc with ⟨hc, hblock'⟩ | ⟨part, rfl, hpart⟩
          · exact Or.inl ⟨List.mem_cons_of_mem _ hc, hblock'⟩
          · have hbehind : [] ++ ns <:+: run ++ n :: ns :=
              ((List.suffix_cons n ns).trans (List.suffix_append run (n :: ns))).isInfix
            exact Or.inr ⟨part, rfl, hpart.trans hbehind⟩

/-- Wrapping starts with a paragraph or with the node that was first. -/
theorem head?_wrapInlineRunsFrom {run ns : List Node} {c : Node}
    (h : c ∈ (wrapInlineRunsFrom run ns).head?) :
    (∃ part, c = .paragraph part) ∨ run = [] ∧ c ∈ ns.head? := by
  induction ns generalizing run with
  | nil => exact Or.inl ⟨run, mem_wrapRun (List.mem_of_mem_head? h)⟩
  | cons n ns ih =>
    unfold wrapInlineRunsFrom at h
    split at h
    · rcases ih h with hparagraph | ⟨hrun, -⟩
      · exact Or.inl hparagraph
      · exact absurd hrun (List.append_ne_nil_of_right_ne_nil run (List.cons_ne_nil n []))
    · rcases run with _ | ⟨m, run⟩
      · exact Or.inr ⟨rfl, h⟩
      · cases h
        exact Or.inl ⟨m :: run, rfl⟩

theorem apart_wrapInlineRunsFrom {run ns : List Node} (h : Apart (run ++ ns)) :
    Apart (wrapInlineRunsFrom run ns) := by
  have hwrap : ∀ run, Apart (wrapRun run) := by
    intro run
    unfold wrapRun
    split
    · exact List.isChain_nil
    · exact List.isChain_singleton _
  induction ns generalizing run with
  | nil => exact hwrap run
  | cons n ns ih =>
    unfold wrapInlineRunsFrom
    split
    · refine ih ?_
      rwa [List.append_assoc]
    · have hrest : Apart (n :: ns) := h.segment (List.suffix_append run (n :: ns)).isInfix
      rw [Apart, List.isChain_cons] at hrest
      refine List.isChain_append.2 ⟨hwrap run, List.isChain_cons.2 ⟨?_, ih hrest.2⟩, ?_⟩
      · intro c hc
        -- Behind a block comes what came behind it before, or a new paragraph.
        rcases head?_wrapInlineRunsFrom hc with ⟨part, rfl⟩ | ⟨-, hc⟩
        · exact n.not_merges_paragraph part
        · exact hrest.1 c hc
      · intro p hp c hc hmerges
        rw [mem_wrapRun (List.mem_of_getLast? hp)] at hmerges
        exact c.not_merges_paragraph run hmerges.symm

/-- After wrapping, nothing is inline. -/
theorem isInline_of_mem_wrapInlineRuns {ns : List Node} {c : Node}
    (h : c ∈ wrapInlineRuns ns) : c.isInline = false := by
  rcases mem_wrapInlineRunsFrom h with ⟨-, hblock⟩ | ⟨part, rfl, -⟩
  · exact hblock
  · rfl

/-- Wrapping keeps siblings tidy. -/
theorem Tidy.wrapInlineRuns {ns : List Node} (h : Tidy ns) : Tidy (wrapInlineRuns ns) := by
  refine ⟨apart_wrapInlineRunsFrom h.1, fun c hc => ?_⟩
  rcases mem_wrapInlineRunsFrom hc with ⟨hc, -⟩ | ⟨part, rfl, hpart⟩
  · exact h.2 c hc
  · exact Node.everywhere_orderly_iff.2 ⟨trivial, h.segment hpart⟩

/-- Blocks are left as they are. -/
theorem wrapInlineRuns_of_blocks {ns : List Node} (h : ∀ c ∈ ns, c.isInline = false) :
    wrapInlineRuns ns = ns := by
  unfold wrapInlineRuns
  induction ns with
  | nil => rfl
  | cons n ns ih =>
    rw [wrapInlineRunsFrom, if_neg (Bool.eq_false_iff.1 (h n List.mem_cons_self)),
      ih fun c hc => h c (List.mem_cons_of_mem _ hc)]
    rfl

end WikiSync
