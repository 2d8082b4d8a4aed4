import WikiSync.Proofs.Document.Normal

/-!
# Inline Runs

What it comes to that inline content is wrapped in paragraphs. Siblings are taken apart into
stretches, each of which is one block or a run of inline nodes. If no two runs stand next to
each other, there is only one way to do so: a run cannot be cut in two, and it cannot end
before the next block or the end of the siblings. Wrapping puts a paragraph around each run
and leaves the blocks where they are.

While the siblings are read, the run that is going on has not been written yet. So the
induction is on the siblings that are left, with a run in front of them that holds inline
nodes only, and the two places where a run is written are one: the run is a stretch of its
own, or nothing if it is empty (`Stretch.ofRun`).

## Main definitions

* `Stretch`: A block, or inline nodes in a row.
* `Parted`: Siblings taken apart into stretches.

## Theorems

* `Parted.unique`: There is only one way to take siblings apart.
* `Parted.maximal`: Around a run there are blocks or nothing.
* `parted_wrapInlineRunsFrom`: Wrapping, with a run in front.
* `wrapInlineRuns_parted`: Wrapping.
-/

namespace WikiSync

/-- A stretch of siblings: a block, or inline nodes in a row. -/
inductive Stretch where
  | block (n : Node)
  | run (ns : List Node)

namespace Stretch

/-- The siblings in a stretch. -/
def nodes : Stretch → List Node
  | block n => [n]
  | run ns => ns

/-- What a stretch becomes: a block stays as it is, and a run is put in a paragraph. -/
def wrap : Stretch → Node
  | block n => n
  | run ns => .paragraph ns

/-- The block that a stretch is. -/
def block? : Stretch → Option Node
  | block n => some n
  | run _ => none

/-- A block is not inline. A run has at least one node, and all its nodes are inline. -/
def Proper : Stretch → Prop
  | block n => n.isInline = false
  | run ns => ns ≠ [] ∧ ∀ n ∈ ns, n.isInline = true

/-- Two stretches next to each other that are really one. -/
def Continues : Stretch → Stretch → Prop
  | run _, run _ => True
  | _, _ => False

/-- A run, unless it is empty. -/
def ofRun (ns : List Node) : List Stretch :=
  if ns.isEmpty then [] else [run ns]

instance : DecidablePred Proper := fun s =>
  match s with
  | block n => inferInstanceAs (Decidable (n.isInline = false))
  | run [] => isFalse fun h => h.1 rfl
  | run (n :: ns) =>
    decidable_of_iff (∀ m ∈ n :: ns, m.isInline = true)
      ⟨fun h => ⟨List.cons_ne_nil n ns, h⟩, fun h => h.2⟩

instance : DecidableRel Continues := fun s t => by
  unfold Continues
  split <;> infer_instance

theorem Proper.nodes_ne_nil {s : Stretch} (h : s.Proper) : s.nodes ≠ [] := by
  cases s with
  | block n => exact List.cons_ne_nil n []
  | run ns => exact h.1

end Stretch

/-- Siblings taken apart into blocks and runs of inline nodes, where no two runs stand next to
each other. -/
structure Parted (ns : List Node) (parts : List Stretch) : Prop where
  joined : parts.flatMap Stretch.nodes = ns
  proper : ∀ s ∈ parts, s.Proper
  apart : parts.IsChain fun s t => ¬ s.Continues t

/-! ### There is only one way -/

namespace Parted

variable {ns : List Node} {parts : List Stretch}

theorem tail {s : Stretch} (h : Parted ns (s :: parts)) :
    Parted (parts.flatMap Stretch.nodes) parts :=
  ⟨rfl, fun t ht => h.proper t (List.mem_cons_of_mem s ht), h.apart.tail⟩

/-- What stands behind a run is a block. -/
theorem head?_behind {run : List Node} (h : Parted ns (.run run :: parts)) :
    ∀ n ∈ (parts.flatMap Stretch.nodes).head?, n.isInline = false := by
  intro n hn
  rcases parts with _ | ⟨t, parts⟩
  · cases hn
  · cases t with
    | block m =>
      have hm : Stretch.Proper (.block m) :=
        h.proper _ (List.mem_cons_of_mem _ List.mem_cons_self)
      cases hn
      exact hm
    | run other => exact absurd trivial (List.isChain_cons_cons.1 h.apart).1

/-- A run at the front goes as far as inline nodes do. -/
theorem run_eq_takeWhile {run : List Node} (h : Parted ns (.run run :: parts)) :
    run = ns.takeWhile Node.isInline := by
  have hinline : ∀ n ∈ run, n.isInline = true := (h.proper _ List.mem_cons_self).2
  have hbehind := h.head?_behind
  have hjoined : run ++ parts.flatMap Stretch.nodes = ns := h.joined
  rw [← hjoined, List.takeWhile_append_of_pos hinline]
  generalize parts.flatMap Stretch.nodes = rest at hbehind
  rcases rest with _ | ⟨n, rest⟩
  · exact (List.append_nil run).symm
  · rw [List.takeWhile_cons_of_neg (Bool.eq_false_iff.1 (hbehind n rfl)), List.append_nil]

/-- A block and a run do not start with the same node. -/
theorem block_ne_run {n : Node} {run : List Node} {parts' : List Stretch}
    (h : Parted ns (.block n :: parts)) : ¬ Parted ns (.run run :: parts') := by
  intro h'
  have hblock : n.isInline = false := h.proper _ List.mem_cons_self
  rcases h'.proper _ List.mem_cons_self with ⟨hne, hinline⟩
  rcases run with _ | ⟨m, run⟩
  · exact hne rfl
  · have hsame : n :: parts.flatMap Stretch.nodes =
        m :: (run ++ parts'.flatMap Stretch.nodes) := h.joined.trans h'.joined.symm
    have hm := hinline m List.mem_cons_self
    rw [← (List.cons.inj hsame).1, hblock] at hm
    cases hm

theorem head_unique {s s' : Stretch} {parts' : List Stretch} (h : Parted ns (s :: parts))
    (h' : Parted ns (s' :: parts')) : s = s' := by
  cases s with
  | block n =>
    cases s' with
    | block n' =>
      have hsame : n :: parts.flatMap Stretch.nodes = n' :: parts'.flatMap Stretch.nodes :=
        h.joined.trans h'.joined.symm
      rw [(List.cons.inj hsame).1]
    | run run' => exact absurd h' h.block_ne_run
  | run run =>
    cases s' with
    | block n' => exact absurd h h'.block_ne_run
    | run run' => rw [h.run_eq_takeWhile, h'.run_eq_takeWhile]

/-- There is only one way to take siblings apart. -/
theorem unique {parts' : List Stretch} (h : Parted ns parts) (h' : Parted ns parts') :
    parts = parts' := by
  have hempty {s : Stretch} {rest : List Stretch} : ¬ Parted [] (s :: rest) := fun hs =>
    (hs.proper s List.mem_cons_self).nodes_ne_nil (List.append_eq_nil_iff.1 hs.joined).1
  induction parts generalizing ns parts' with
  | nil =>
    obtain rfl : [] = ns := h.joined
    rcases parts' with _ | ⟨s', parts'⟩
    · rfl
    · exact absurd h' hempty
  | cons s parts ih =>
    rcases parts' with _ | ⟨s', parts'⟩
    · obtain rfl : [] = ns := h'.joined
      exact absurd h hempty
    · obtain rfl := h.head_unique h'
      -- What is left of the siblings is the same.
      have hrest : parts.flatMap Stretch.nodes = parts'.flatMap Stretch.nodes :=
        List.append_cancel_left (h.joined.trans h'.joined.symm)
      rw [ih h.tail (hrest ▸ h'.tail)]

/-- Around a run there are blocks or nothing. -/
theorem maximal {before behind : List Stretch} {run : List Node}
    (h : Parted ns (before ++ .run run :: behind)) :
    (∀ n ∈ (before.flatMap Stretch.nodes).getLast?, n.isInline = false) ∧
      ∀ n ∈ (behind.flatMap Stretch.nodes).head?, n.isInline = false := by
  rcases List.isChain_append.1 h.apart with ⟨-, hchain, hlast⟩
  have hproper : ∀ s ∈ Stretch.run run :: behind, s.Proper := fun s hs =>
    h.proper s (List.mem_append_right before hs)
  refine ⟨fun n hn => ?_, head?_behind ⟨rfl, hproper, hchain⟩⟩
  rcases List.eq_nil_or_concat' before with rfl | ⟨front, s, rfl⟩
  · cases hn
  · cases s with
    | block m =>
      have hm : Stretch.Proper (.block m) :=
        h.proper _ (List.mem_append_left _ (List.mem_append_right _ List.mem_cons_self))
      rw [List.flatMap_append, List.flatMap_singleton, Stretch.nodes,
        List.getLast?_concat] at hn
      cases hn
      exact hm
    | run other =>
      exact (hlast (.run other) List.getLast?_concat _ rfl trivial).elim

/-- The blocks are those of the siblings, in their order. -/
theorem filterMap_block? (h : Parted ns parts) :
    parts.filterMap Stretch.block? = ns.filter fun n => !n.isInline := by
  induction parts generalizing ns with
  | nil =>
    obtain rfl : [] = ns := h.joined
    rfl
  | cons s parts ih =>
    have hs := h.proper s List.mem_cons_self
    rw [← h.joined, List.flatMap_cons, List.filter_append, ← ih h.tail]
    cases s with
    | block n =>
      have hkept : (!n.isInline) = true := by rw [hs]; rfl
      simp only [Stretch.nodes, List.filterMap_cons, Stretch.block?, List.filter_cons, hkept,
        if_true, List.filter_nil, List.singleton_append]
    | run run =>
      have hnone : run.filter (fun n => !n.isInline) = [] := by
        refine List.filter_eq_nil_iff.2 fun n hn => ?_
        rw [hs.2 n hn]
        exact Bool.false_ne_true
      simp only [Stretch.nodes, List.filterMap_cons, Stretch.block?, hnone, List.nil_append]

/-! ### Wrapping -/

/-- A block between siblings that are taken apart. -/
theorem append_block {ms : List Node} {front : List Stretch} (hfront : Parted ms front)
    {n : Node} (hn : n.isInline = false) (h : Parted ns parts) :
    Parted (ms ++ n :: ns) (front ++ .block n :: parts) := by
  refine ⟨?_, ?_, ?_⟩
  · rw [List.flatMap_append, List.flatMap_cons, hfront.joined, h.joined]
    rfl
  · intro s hs
    rcases List.mem_append.1 hs with hs | hs
    · exact hfront.proper s hs
    · rcases List.mem_cons.1 hs with rfl | hs
      · exact hn
      · exact h.proper s hs
  · -- A block continues nothing, and nothing continues it.
    refine List.isChain_append.2 ⟨hfront.apart, List.isChain_cons.2 ⟨fun t _ => id, h.apart⟩, ?_⟩
    intro s _ t ht
    cases ht
    cases s <;> exact id

end Parted

/-- A run by itself. -/
theorem parted_ofRun {run : List Node} (h : ∀ n ∈ run, n.isInline = true) :
    Parted run (Stretch.ofRun run) ∧ wrapRun run = (Stretch.ofRun run).map Stretch.wrap := by
  rcases run with _ | ⟨n, run⟩
  · exact ⟨⟨rfl, fun s hs => absurd hs List.not_mem_nil, List.isChain_nil⟩, rfl⟩
  · refine ⟨⟨List.append_nil _, fun s hs => ?_, List.isChain_singleton _⟩, rfl⟩
    obtain rfl : s = .run (n :: run) := List.mem_singleton.1 hs
    exact ⟨List.cons_ne_nil n run, h⟩

/-- Wrapping takes the siblings apart, together with the run in front of them, and puts a
paragraph around each run. -/
theorem parted_wrapInlineRunsFrom {run ns : List Node} (h : ∀ n ∈ run, n.isInline = true) :
    ∃ parts, Parted (run ++ ns) parts ∧
      wrapInlineRunsFrom run ns = parts.map Stretch.wrap := by
  induction ns generalizing run with
  | nil =>
    rw [List.append_nil]
    exact ⟨_, parted_ofRun h⟩
  | cons n ns ih =>
    unfold wrapInlineRunsFrom
    by_cases hn : n.isInline = true
    · -- The run goes on.
      rw [if_pos hn]
      have hrun : ∀ m ∈ run ++ [n], m.isInline = true := by
        intro m hm
        rcases List.mem_append.1 hm with hm | hm
        · exact h m hm
        · rw [List.mem_singleton.1 hm]
          exact hn
      rcases ih hrun with ⟨parts, hparted, hwrap⟩
      rw [List.append_assoc] at hparted
      exact ⟨parts, hparted, hwrap⟩
    · -- A block ends the run, and behind it none is going on.
      rw [if_neg hn]
      have hempty : ∀ m ∈ ([] : List Node), m.isInline = true := fun m hm =>
        absurd hm List.not_mem_nil
      rcases ih hempty with ⟨parts, hparted, hwrap⟩
      rcases parted_ofRun h with ⟨hrun, hwrapRun⟩
      refine ⟨Stretch.ofRun run ++ .block n :: parts,
        hrun.append_block (Bool.eq_false_iff.2 hn) hparted, ?_⟩
      rw [hwrapRun, hwrap, List.map_append, List.map_cons, Stretch.wrap]

/-- Wrapping siblings. They are taken apart into blocks and runs of inline nodes, which can be
done in one way only, and each run is put in a paragraph: it has at least one node, all its nodes
are inline, and in front of it and behind it there is a block or nothing. The blocks stay, in
their order. Afterwards nothing is inline. Siblings stay as they are if and only if none of them
is inline, and so wrapping again changes nothing. -/
theorem wrapInlineRuns_parted (ns : List Node) :
    (∃ parts, Parted ns parts ∧ (∀ parts', Parted ns parts' → parts' = parts) ∧
      wrapInlineRuns ns = parts.map Stretch.wrap ∧
      parts.filterMap Stretch.block? = ns.filter (fun n => !n.isInline) ∧
      ∀ before run behind, parts = before ++ .run run :: behind →
        run ≠ [] ∧ (∀ n ∈ run, n.isInline = true) ∧
        (∀ n ∈ (before.flatMap Stretch.nodes).getLast?, n.isInline = false) ∧
        ∀ n ∈ (behind.flatMap Stretch.nodes).head?, n.isInline = false) ∧
    (∀ c ∈ wrapInlineRuns ns, c.isInline = false) ∧
    (wrapInlineRuns ns = ns ↔ ∀ n ∈ ns, n.isInline = false) ∧
    wrapInlineRuns (wrapInlineRuns ns) = wrapInlineRuns ns := by
  have hblocks : ∀ c ∈ wrapInlineRuns ns, c.isInline = false := fun c hc =>
    isInline_of_mem_wrapInlineRuns hc
  refine ⟨?_, hblocks, ⟨fun hsame => hsame ▸ hblocks, wrapInlineRuns_of_blocks⟩,
    wrapInlineRuns_of_blocks hblocks⟩
  have hempty : ∀ n ∈ ([] : List Node), n.isInline = true := fun n hn =>
    absurd hn List.not_mem_nil
  rcases parted_wrapInlineRunsFrom hempty with ⟨parts, hparted, hwrap⟩
  rw [List.nil_append] at hparted
  refine ⟨parts, hparted, fun parts' h' => h'.unique hparted, hwrap, hparted.filterMap_block?, ?_⟩
  rintro before run behind rfl
  rcases hparted.proper (.run run) (List.mem_append_right _ List.mem_cons_self) with ⟨hne, hinline⟩
  exact ⟨hne, hinline, hparted.maximal⟩

/-! ### A tight item -/

/-- An item with inline content on both ends and two blocks in between. The blocks are HTML, which
is inline in the first run, and a paragraph that was there before. -/
def tightItem : List Node :=
  [.text "a", .html "<b>" true, .html "<hr>" false, .paragraph [.text "b"],
    .emphasis [.text "c"], .break]

/-- The item taken apart. -/
def tightParts : List Stretch :=
  [.run [.text "a", .html "<b>" true], .block (.html "<hr>" false), .block (.paragraph [.text "b"]),
    .run [.emphasis [.text "c"], .break]]

/-- The item gets two paragraphs more, at its ends. Its blocks by themselves stay as they are. -/
theorem wrapInlineRuns_parted_tightItem :
    wrapInlineRuns tightItem =
        [.paragraph [.text "a", .html "<b>" true], .html "<hr>" false, .paragraph [.text "b"],
          .paragraph [.emphasis [.text "c"], .break]] ∧
      wrapInlineRuns (wrapInlineRuns tightItem) = wrapInlineRuns tightItem ∧
      wrapInlineRuns [.html "<hr>" false, .paragraph [.text "b"]] =
        [.html "<hr>" false, .paragraph [.text "b"]] := by
  have htight : Parted tightItem tightParts := ⟨rfl, by decide, by decide⟩
  rcases wrapInlineRuns_parted tightItem with ⟨⟨parts, -, hunique, hwrap, -⟩, -, -, htwice⟩
  rw [← hunique tightParts htight] at hwrap
  exact ⟨hwrap, htwice, (wrapInlineRuns_parted _).2.2.1.2 (by decide)⟩

end WikiSync
