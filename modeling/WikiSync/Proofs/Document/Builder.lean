import WikiSync.Proofs.Document.Normal

/-!
# Every Sequence of Events Builds a Normal Tree

The builder makes a normal tree of any sequence of events. Nothing is assumed
about how starts and ends match, so there is no nesting to do an induction on.
What can be said is said about the stack: every open container holds children
that could be siblings in a normal tree, and what it says of itself is in
order. `Frame.Sound` is this condition, and no event destroys it.

The condition has to hold of every frame, not just of the innermost one. A
container without a node of its own hands its children to the frame below it,
one by one, and there they may merge with what was there before. A list item
may hold inline content as long as it is open. It is only wrapped when the item
closes, which is why the condition on the children of list items is one on
nodes and not one on frames.

## Main definitions

* `Frame.Sound`, `Builder.Sound`: What holds of the stack at all times.

## Theorems

* `Shell.everywhere_fill`: A container that closes becomes an orderly node.
* `Builder.Sound.push`, `Builder.Sound.leave`, `Builder.Sound.handle`: One
  event.
* `normal_treeOfEvents`: The tree of any sequence of events is normal.
-/

namespace WikiSync

open Markdown (Event Tag)

/-- The conditions on a container apart from its children. -/
def Shell.Regular : Shell → Prop
  | .heading depth => 1 ≤ depth ∧ depth ≤ 6
  | .link _ title => title ≠ some ""
  | _ => True

/-- The conditions on an open container. -/
def Frame.Sound : Frame → Prop
  | .container shell children => shell.Regular ∧ Tidy children
  | .code lang _ => ∀ word ∈ lang, IsWord word
  | .image _ title _ => title ≠ some ""
  | .splice children => Tidy children
  | .metadata _ => True

/-- The conditions on the state between two events. -/
structure Builder.Sound (b : Builder) : Prop where
  frames : ∀ f ∈ b.frames, f.Sound
  children : Tidy b.children

/-! ### Opening and closing -/

theorem nonEmpty?_ne (s : String) : nonEmpty? s ≠ some "" := by
  unfold nonEmpty?
  split
  · exact Option.some_ne_none _ |>.symm
  · next hs =>
    intro heq
    rw [Option.some.inj heq] at hs
    exact hs rfl

/-- What an event opens. -/
theorem Frame.sound_ofTag {tag : Tag}
    (hlevel : ∀ level, tag = .heading level → 1 ≤ level ∧ level ≤ 6) : (Frame.ofTag tag).Sound := by
  cases tag with
  | heading level => exact ⟨hlevel level rfl, tidy_nil⟩
  | codeBlock info =>
    intro word hword
    rcases Option.bind_eq_some_iff.1 hword with ⟨words, -, hfirst⟩
    exact Text.isWord_of_firstWord? hfirst
  | link mail url title => exact ⟨nonEmpty?_ne title, tidy_nil⟩
  | image url title => exact nonEmpty?_ne title
  | metadata => trivial
  | other => exact tidy_nil
  | paragraph | blockQuote | list _ | item | table _ | tableHead | tableRow | tableCell
  | emphasis | strong | strikethrough => exact ⟨trivial, tidy_nil⟩

/-- A container that closes becomes an orderly node. -/
theorem Shell.everywhere_fill {shell : Shell} (hshell : shell.Regular) {children : List Node}
    (h : Tidy children) : (shell.fill children).Everywhere Node.Orderly := by
  rw [Node.everywhere_orderly_iff]
  cases shell with
  | listItem checked => exact ⟨fun c hc => isInline_of_mem_wrapInlineRuns hc, h.wrapInlineRuns⟩
  | heading depth => exact ⟨hshell, h⟩
  | link url title => exact ⟨hshell, h⟩
  | list start => exact ⟨rfl, h⟩
  | paragraph | emphasis | strong | strikethrough | table _ | tableRow | tableCell
  | blockquote => exact ⟨trivial, h⟩

namespace Builder

/-! ### One event -/

theorem sound_start : start.Sound :=
  ⟨fun _ hf => absurd hf List.not_mem_nil, tidy_nil⟩

/-- The innermost frame may be changed as long as it stays sound. -/
theorem Sound.top {f g : Frame} {rest : List Frame} {children : List Node}
    {metadata : Option String} (h : Sound ⟨f :: rest, children, metadata⟩) (hg : g.Sound) :
    Sound ⟨g :: rest, children, metadata⟩ :=
  ⟨List.forall_mem_cons.2 ⟨hg, (List.forall_mem_cons.1 h.frames).2⟩, h.children⟩

theorem Sound.push {b : Builder} (h : b.Sound) {n : Node} (hn : n.Everywhere Node.Orderly) :
    (b.push n).Sound := by
  rcases b with ⟨_ | ⟨f, rest⟩, children, metadata⟩
  · exact ⟨h.frames, h.children.appendMerged hn⟩
  · -- Only two sorts of frames keep the node. An image takes its text, and the
    -- others take nothing.
    have hf := (List.forall_mem_cons.1 h.frames).1
    cases f with
    | container shell cs => exact h.top ⟨hf.1, hf.2.appendMerged hn⟩
    | splice cs => exact h.top (Tidy.appendMerged hf hn)
    | image url title alt => exact h.top hf
    | code lang value => exact h
    | metadata source => exact h

theorem Sound.foldl_push {b : Builder} (h : b.Sound) {ns : List Node}
    (hns : ∀ n ∈ ns, n.Everywhere Node.Orderly) : (ns.foldl Builder.push b).Sound := by
  induction ns generalizing b with
  | nil => exact h
  | cons n ns ih =>
    rw [List.forall_mem_cons] at hns
    exact ih (h.push hns.1) hns.2

theorem Sound.text {b : Builder} (h : b.Sound) (value : String) : (b.text value).Sound := by
  have hpush : (b.push (.text value)).Sound := h.push (Node.everywhere_orderly_leaf trivial rfl)
  rcases b with ⟨_ | ⟨f, rest⟩, children, metadata⟩
  · exact hpush
  · have hf := (List.forall_mem_cons.1 h.frames).1
    cases f with
    | container shell cs => exact hpush
    | splice cs => exact hpush
    | image url title alt => exact h.top hf
    | code lang before => exact h.top hf
    | metadata source => exact h.top trivial

theorem Sound.enter {b : Builder} (h : b.Sound) {tag : Tag}
    (hlevel : ∀ level, tag = .heading level → 1 ≤ level ∧ level ≤ 6) : (b.enter tag).Sound :=
  ⟨List.forall_mem_cons.2 ⟨Frame.sound_ofTag hlevel, h.frames⟩, h.children⟩

/-- Closing the innermost container. What it held goes to the frame below,
either as one node or node by node. -/
theorem Sound.leave {b : Builder} (h : b.Sound) : b.leave.Sound := by
  rcases b with ⟨_ | ⟨f, rest⟩, children, metadata⟩
  · exact h
  · rcases List.forall_mem_cons.1 h.frames with ⟨hf, hrest⟩
    -- What is below the frame was sound all the time.
    have houter : Sound ⟨rest, children, metadata⟩ := ⟨hrest, h.children⟩
    cases f with
    | container shell cs =>
      exact houter.push (Shell.everywhere_fill hf.1 (tidy_reverse.2 hf.2))
    | code lang value => exact houter.push (Node.everywhere_orderly_leaf hf rfl)
    | image url title alt => exact houter.push (Node.everywhere_orderly_leaf hf rfl)
    | splice cs => exact houter.foldl_push (tidy_reverse.2 hf).2
    | metadata source => exact ⟨houter.frames, houter.children⟩

theorem sound_markTask (checked : Bool) {frames : List Frame} (h : ∀ f ∈ frames, f.Sound) :
    ∀ f ∈ markTask checked frames, f.Sound := by
  induction frames with
  | nil => exact h
  | cons f frames ih =>
    rcases List.forall_mem_cons.1 h with ⟨hf, hrest⟩
    unfold markTask
    split
    · next heq => cases heq
    · next old children rest heq =>
      cases heq
      exact List.forall_mem_cons.2 ⟨hf, hrest⟩
    · next g rest _ heq =>
      cases heq
      exact List.forall_mem_cons.2 ⟨hf, ih hrest⟩

/-- No event destroys what holds of the stack. -/
theorem Sound.handle {b : Builder} (h : b.Sound) {e : Event}
    (hlevel : ∀ level, e = .enter (.heading level) → 1 ≤ level ∧ level ≤ 6) :
    (b.handle e).Sound := by
  have hleaf {n : Node} (hregular : n.Regular) (hchildren : n.children = []) :
      (b.push n).Sound := h.push (Node.everywhere_orderly_leaf hregular hchildren)
  cases e with
  | enter tag => exact h.enter fun level htag => hlevel level (congrArg Event.enter htag)
  | leave => exact h.leave
  | text value => exact h.text value
  | softBreak => exact h.text "\n"
  | code value => exact hleaf trivial rfl
  | html value => exact hleaf trivial rfl
  | inlineHtml value => exact hleaf trivial rfl
  | hardBreak => exact hleaf trivial rfl
  | rule => exact hleaf trivial rfl
  | taskMarker checked => exact ⟨sound_markTask checked h.frames, h.children⟩
  | other => exact h

/-! ### All events -/

theorem Sound.foldl_handle {b : Builder} (h : b.Sound) {events : List Event}
    (hlevels : ∀ level, .enter (.heading level) ∈ events → 1 ≤ level ∧ level ≤ 6) :
    (events.foldl Builder.handle b).Sound := by
  induction events generalizing b with
  | nil => exact h
  | cons e events ih =>
    -- The bound on headings is for the first event and for the others.
    refine ih (h.handle fun level he => hlevels level ?_) fun level hl =>
      hlevels level (List.mem_cons_of_mem _ hl)
    rw [he]
    exact List.mem_cons_self

/-- Closing what is left open is closing one container after the other. -/
theorem Sound.normal_finish {b : Builder} (h : b.Sound) : b.finish.1.Normal := by
  -- There is one step for each frame, but any number would do.
  have hclosed (steps : List Nat) : ∀ {b : Builder}, b.Sound →
      (steps.foldl (fun b _ => b.leave) b).Sound := by
    induction steps with
    | nil => exact id
    | cons _ steps ih => exact fun h => ih h.leave
  exact ⟨_, rfl, tidy_reverse.2 (hclosed _ h).children⟩

end Builder

/-- Any sequence of events builds a normal tree, whether or not its starts and
ends match and whatever stands inside images, code, metadata and containers
without a node. Headings have one of six levels. -/
theorem normal_treeOfEvents (events : List Event)
    (hlevels : ∀ level, .enter (.heading level) ∈ events → 1 ≤ level ∧ level ≤ 6) :
    (treeOfEvents events).1.Normal :=
  (Builder.sound_start.foldl_handle hlevels).normal_finish

/-! ### Stray events -/

/-- Events that do not match. An end comes first, a list item holds text around
a container without a node, an image holds a heading, and nothing is closed. -/
def strayEvents : List Event :=
  [.leave, .text "a", .leave, .text "b", .enter .item, .text "x", .enter .other, .text "y",
    .enter (.codeBlock (some "  rust ignore")), .code "no", .leave, .inlineHtml "<b>", .leave,
    .enter (.image "u" ""), .enter (.heading 2), .text "alt"]

/-- What they build. -/
def strayTree : Node :=
  .root [.text "ab",
    .listItem none [.paragraph [.text "xy"], .code (some "rust") "",
      .paragraph [.html "<b>" true, .image "u" "alt" none]]]

theorem normal_treeOfEvents_stray :
    (∀ level, .enter (.heading level) ∈ strayEvents → 1 ≤ level ∧ level ≤ 6) ∧
      (treeOfEvents strayEvents).1 = strayTree ∧ strayTree.Normal := by
  have hlevels : ∀ level, .enter (.heading level) ∈ strayEvents → 1 ≤ level ∧ level ≤ 6 := by
    intro level hl
    simp only [strayEvents, List.mem_cons, Event.enter.injEq, Tag.heading.injEq, reduceCtorEq,
      List.not_mem_nil, false_or, or_false] at hl
    subst hl
    decide
  have htree : (treeOfEvents strayEvents).1 = strayTree := by
    with_unfolding_all rfl
  exact ⟨hlevels, htree, htree ▸ normal_treeOfEvents strayEvents hlevels⟩

end WikiSync
