import Mathlib.Data.List.Basic
import WikiSync.Document.Builder
import WikiSync.Proofs.Document.Events
import WikiSync.Proofs.Document.Walk

/-!
# No Text is Lost

The tree of a sequence of events has the text of the events, each piece in its place.
What the events say is read off the list, without a stack: texts, code and soft
breaks one after the other, a code block without the newline of its last line, and
nothing of a metadata block. It does not matter which ends belong to which starts.

Inside the builder a text takes many ways. It is merged with the one before it, it
becomes part of the alternative of an image, it is handed on when a container without
a node closes, and it ends up in a new paragraph when a list item does. So the text of
a builder is that of everything in it, the outermost first (`Builder.content`), and
no event but a text changes it. What is still in an open frame counts as if the frame
closed at once; this is what makes closing a frame a step that changes nothing.

Two sorts of frames take no nodes, and a node that closed in one of them would be lost.
So nothing may open in a code block or in a metadata block. Events that keep to this
leave such a frame at the top of the stack only, and never below another one.

## Main definitions

* `spanText`: The text that events start with.
* `textOfEvents`: The text of events.
* `VerbatimHoldsText`: Code and metadata hold text only.
* `Frame.content`, `Builder.content`: The text in a builder.
* `Builder.Keeps`: A builder in which every frame takes nodes.

## Theorems

* `Node.textAll_appendMerged`, `Node.textAll_wrapInlineRunsFrom`,
  `Shell.plainText_fill`: What becomes of children keeps their text.
* `Builder.Keeps.content_push`, `Builder.leave_spec`, `Builder.Keeps.handle`: One event.
* `Builder.enter_verbatim`: A block that takes nothing but text.
* `Builder.Keeps.plainText_foldl`: All events.
* `plainText_treeOfEvents`: The tree has the text of the events.
-/

namespace WikiSync

open Markdown (Event Tag)

/-! ### The text of events -/

/-- The text that an event adds wherever it stands. -/
def Markdown.Event.ownText : Event → String
  | .text value | .code value => value
  | .softBreak => "\n"
  | _ => ""

/-- The texts that events start with, as one, and the events from the first other one
on. -/
def spanText : List Event → String × List Event
  | .text value :: es => (value ++ (spanText es).1, (spanText es).2)
  | es => ("", es)

theorem length_spanText_le (es : List Event) : (spanText es).2.length ≤ es.length := by
  fun_induction spanText es with
  | case1 value es ih => exact Nat.le_succ_of_le ih
  | case2 es hno => exact Nat.le_refl _

/-- The text of events: that of each of them, in order. A code block is without the
newline of its last line, and a metadata block counts for nothing. -/
def textOfEvents : List Event → String
  | [] => ""
  | .enter (.codeBlock _) :: es =>
    dropFinalNewline (spanText es).1 ++ textOfEvents (spanText es).2
  | .enter .metadata :: es => textOfEvents (spanText es).2
  | e :: es => e.ownText ++ textOfEvents es
termination_by es => es.length
decreasing_by
  · exact Nat.lt_succ_of_le (length_spanText_le es)
  · exact Nat.lt_succ_of_le (length_spanText_le es)
  · exact Nat.lt_succ_self _

/-- Whether a container is a block that takes text literally and nothing else. -/
def Markdown.Tag.isVerbatim : Tag → Bool
  | .codeBlock _ | .metadata => true
  | _ => false

/-- The text that is left of a verbatim block. -/
def verbatimText (tag : Tag) (value : String) : String :=
  match tag with
  | .codeBlock _ => dropFinalNewline value
  | _ => ""

theorem textOfEvents_verbatim {tag : Tag} (h : tag.isVerbatim = true) (es : List Event) :
    textOfEvents (.enter tag :: es) =
      verbatimText tag (spanText es).1 ++ textOfEvents (spanText es).2 := by
  cases tag with
  | codeBlock info => rw [textOfEvents, verbatimText]
  | metadata =>
    rw [textOfEvents, verbatimText, String.empty_append]
    exact fun _ heq => nomatch heq
  | _ => cases h

theorem textOfEvents_cons {e : Event} (h : ∀ tag, e = .enter tag → tag.isVerbatim = false)
    (es : List Event) : textOfEvents (e :: es) = e.ownText ++ textOfEvents es := by
  rw [textOfEvents]
  · rintro info rfl
    cases h _ rfl
  · rintro rfl
    cases h _ rfl

theorem textOfEvents_leave (es : List Event) : textOfEvents (.leave :: es) = textOfEvents es :=
  have hleave : ∀ tag, Event.leave = .enter tag → tag.isVerbatim = false :=
    fun _ heq => nomatch heq
  (textOfEvents_cons hleave es).trans String.empty_append

/-- Code blocks and metadata blocks hold text and nothing else: wherever one starts,
the first event behind it that is no text, if there is one, is an end. -/
def VerbatimHoldsText : List Event → Prop
  | [] => True
  | .enter tag :: es =>
    (tag.isVerbatim = true → ∀ e ∈ (spanText es).2.head?, e = .leave) ∧ VerbatimHoldsText es
  | _ :: es => VerbatimHoldsText es

instance decidableVerbatimHoldsText : DecidablePred VerbatimHoldsText
  | [] => isTrue trivial
  | .enter _ :: es =>
    have := decidableVerbatimHoldsText es
    inferInstanceAs (Decidable ((_ → ∀ e ∈ (spanText es).2.head?, e = .leave) ∧ _))
  | .leave :: es | .text _ :: es | .code _ :: es | .html _ :: es | .inlineHtml _ :: es
  | .softBreak :: es | .hardBreak :: es | .rule :: es | .taskMarker _ :: es | .other :: es =>
    decidableVerbatimHoldsText es

theorem VerbatimHoldsText.tail {e : Event} {es : List Event} (h : VerbatimHoldsText (e :: es)) :
    VerbatimHoldsText es := by
  cases e with
  | enter tag => exact h.2
  | leave | text _ | code _ | html _ | inlineHtml _ | softBreak | hardBreak | rule | taskMarker _
  | other => exact h

/-- What follows the text at the start is as before. -/
theorem VerbatimHoldsText.spanText {es : List Event} (h : VerbatimHoldsText es) :
    VerbatimHoldsText (spanText es).2 := by
  fun_induction WikiSync.spanText es with
  | case1 value es ih => exact ih h.tail
  | case2 es hno => exact h

/-! ### The text of siblings -/

namespace Node

/-- The text of trees, one after the other. -/
def textAll (ns : List Node) : String :=
  String.join (ns.map plainText)

@[simp]
theorem textAll_nil : textAll [] = "" := rfl

@[simp]
theorem textAll_cons (n : Node) (ns : List Node) : textAll (n :: ns) = n.plainText ++ textAll ns :=
  String.join_cons

@[simp]
theorem textAll_append (ns ms : List Node) : textAll (ns ++ ms) = textAll ns ++ textAll ms := by
  rw [textAll, List.map_append, String.join_append]
  rfl

/-- A leaf has no other text than its own. -/
theorem plainText_leaf {n : Node} (h : n.children = []) : n.plainText = n.ownText := by
  rw [plainText_eq, h, List.map_nil, String.join_nil, String.append_empty]

/-- A container has no other text than that of its children. -/
theorem plainText_container {n : Node} (h : n.ownText = "") :
    n.plainText = textAll n.children := by
  rw [plainText_eq, h, String.empty_append, textAll]

/-- Adding a node to its siblings adds its text to theirs, whether or not the node
merges with the one before it. The siblings are kept latest first. -/
theorem textAll_appendMerged (siblings : List Node) (n : Node) :
    textAll (appendMerged siblings n).reverse = textAll siblings.reverse ++ n.plainText := by
  by_cases hmerges : ∃ m ∈ siblings.head?, m.Merges n
  · rcases hmerges with ⟨m, hm, hmerges⟩
    rcases List.head?_eq_some_iff.1 hm with ⟨rest, rfl⟩
    rcases hmerges.cases with ⟨before, value, rfl, rfl⟩ | ⟨before, value, inline, rfl, rfl⟩
    · simp only [appendMerged, List.reverse_cons, textAll_append, textAll_cons, textAll_nil,
        plainText_leaf (n := .text _) rfl, ownText, String.append_empty, String.append_assoc]
    · -- HTML has no text, merged or not.
      simp only [appendMerged, if_true, List.reverse_cons, textAll_append, textAll_cons,
        textAll_nil, plainText_leaf (n := .html _ _) rfl, ownText, String.append_empty]
  · have hapart : ∀ m ∈ siblings.head?, ¬ m.Merges n := fun m hm h => hmerges ⟨m, hm, h⟩
    rw [appendMerged_of_apart hapart, List.reverse_cons, textAll_append, textAll_cons, textAll_nil,
      String.append_empty]

theorem textAll_wrapRun (run : List Node) : textAll (wrapRun run) = textAll run := by
  unfold wrapRun
  split
  · next hempty => rw [List.isEmpty_iff.1 hempty]
  · rw [textAll_cons, textAll_nil, String.append_empty, plainText_container rfl]
    rfl

/-- Wrapping runs in paragraphs keeps the text. -/
theorem textAll_wrapInlineRunsFrom (run ns : List Node) :
    textAll (wrapInlineRunsFrom run ns) = textAll run ++ textAll ns := by
  induction ns generalizing run with
  | nil => rw [wrapInlineRunsFrom, textAll_wrapRun, textAll_nil, String.append_empty]
  | cons n ns ih =>
    unfold wrapInlineRunsFrom
    split
    · rw [ih, textAll_append, textAll_cons, textAll_cons, textAll_nil, String.append_empty,
        String.append_assoc]
    · rw [textAll_append, textAll_wrapRun, textAll_cons, textAll_cons, ih, textAll_nil,
        String.empty_append]

end Node

open Node (textAll textAll_nil textAll_cons textAll_append textAll_appendMerged)

/-- A container that closes has the text of its children. -/
theorem Shell.plainText_fill (shell : Shell) (children : List Node) :
    (shell.fill children).plainText = textAll children := by
  cases shell with
  | listItem checked =>
    have hwrap := Node.textAll_wrapInlineRunsFrom [] children
    rw [textAll_nil, String.empty_append] at hwrap
    rw [Shell.fill, Node.plainText_container rfl]
    exact hwrap
  | paragraph | heading _ | emphasis | strong | strikethrough | list _ | table _ | tableRow
  | tableCell | link _ _ | blockquote => exact Node.plainText_container rfl

/-! ### The text in a builder -/

/-- The text that a frame would leave if it closed at once. -/
def Frame.content : Frame → String
  | .container _ children | .splice children => textAll children.reverse
  | .code _ value => dropFinalNewline value
  | .image _ _ alt => alt
  | .metadata _ => ""

/-- Whether a frame takes nodes, be it only for their text. -/
def Frame.takesNodes : Frame → Bool
  | .code _ _ | .metadata _ => false
  | _ => true

namespace Builder

/-- The text in open frames, the outermost first. -/
def framesContent (frames : List Frame) : String :=
  String.join (frames.reverse.map Frame.content)

/-- The text in a builder. -/
def content (b : Builder) : String :=
  textAll b.children.reverse ++ framesContent b.frames

/-- All open frames take nodes. -/
def Keeps (b : Builder) : Prop :=
  ∀ f ∈ b.frames, f.takesNodes = true

theorem framesContent_cons (f : Frame) (frames : List Frame) :
    framesContent (f :: frames) = framesContent frames ++ f.content := by
  rw [framesContent, List.reverse_cons, List.map_append, String.join_append, List.map_singleton,
    String.join_cons, String.join_nil, String.append_empty]
  rfl

/-- A frame on top of others adds its text to theirs. -/
theorem content_cons (f : Frame) (frames : List Frame) (children : List Node)
    (metadata : Option String) :
    content ⟨f :: frames, children, metadata⟩ =
      content ⟨frames, children, metadata⟩ ++ f.content := by
  rw [content, framesContent_cons, ← String.append_assoc]
  rfl

theorem keeps_start : start.Keeps :=
  fun _ hf => absurd hf List.not_mem_nil

theorem content_start : start.content = "" := rfl

theorem Keeps.cons {f : Frame} {frames : List Frame} {children : List Node}
    {metadata : Option String} (hf : f.takesNodes = true)
    (h : Keeps ⟨frames, children, metadata⟩) : Keeps ⟨f :: frames, children, metadata⟩ :=
  List.forall_mem_cons.2 ⟨hf, h⟩

/-! ### One event -/

theorem length_frames_push (b : Builder) (n : Node) :
    (b.push n).frames.length = b.frames.length := by
  rcases b with ⟨_ | ⟨f, rest⟩, children, metadata⟩
  · rfl
  · cases f <;> rfl

/-- A node goes to the innermost frame, and nothing else changes. -/
theorem Keeps.push {b : Builder} (h : b.Keeps) (n : Node) : (b.push n).Keeps := by
  rcases b with ⟨_ | ⟨f, rest⟩, children, metadata⟩
  · exact h
  · have hrest : Keeps ⟨rest, children, metadata⟩ := (List.forall_mem_cons.1 h).2
    cases f with
    | container shell cs => exact hrest.cons rfl
    | splice cs => exact hrest.cons rfl
    | image url title alt => exact hrest.cons rfl
    | code lang value => exact h
    | metadata source => exact h

/-- Its text comes last. -/
theorem Keeps.content_push {b : Builder} (h : b.Keeps) (n : Node) :
    (b.push n).content = b.content ++ n.plainText := by
  rcases b with ⟨_ | ⟨f, rest⟩, children, metadata⟩
  · simp only [Builder.push, content, textAll_appendMerged, framesContent, List.reverse_nil,
      List.map_nil, String.join_nil, String.append_empty]
  · have htakes := (List.forall_mem_cons.1 h).1
    cases f with
    | container shell cs =>
      simp only [Builder.push, content_cons, Frame.content, textAll_appendMerged,
        String.append_assoc]
    | splice cs =>
      simp only [Builder.push, content_cons, Frame.content, textAll_appendMerged,
        String.append_assoc]
    | image url title alt =>
      simp only [Builder.push, content_cons, Frame.content, String.append_assoc]
    | code lang value => cases htakes
    | metadata source => cases htakes

theorem Keeps.foldl_push {b : Builder} (h : b.Keeps) (ns : List Node) :
    (ns.foldl Builder.push b).Keeps ∧
      (ns.foldl Builder.push b).content = b.content ++ textAll ns ∧
      (ns.foldl Builder.push b).frames.length = b.frames.length := by
  induction ns generalizing b with
  | nil => exact ⟨h, (String.append_empty).symm, rfl⟩
  | cons n ns ih =>
    rcases ih (h.push n) with ⟨hkeeps, hcontent, hlength⟩
    refine ⟨hkeeps, ?_, hlength.trans (length_frames_push b n)⟩
    rw [List.foldl_cons, hcontent, h.content_push, textAll_cons, String.append_assoc]

/-- Text comes last too. An image takes it without a node. -/
theorem Keeps.text {b : Builder} (h : b.Keeps) (value : String) :
    (b.text value).Keeps ∧ (b.text value).content = b.content ++ value := by
  have hpush : (b.push (.text value)).Keeps ∧
      (b.push (.text value)).content = b.content ++ value :=
    ⟨h.push _, by rw [h.content_push, Node.plainText_leaf rfl]; rfl⟩
  rcases b with ⟨_ | ⟨f, rest⟩, children, metadata⟩
  · exact hpush
  · rcases List.forall_mem_cons.1 h with ⟨htakes, hrest⟩
    cases f with
    | container shell cs => exact hpush
    | splice cs => exact hpush
    | image url title alt =>
      refine ⟨List.forall_mem_cons.2 ⟨rfl, hrest⟩, ?_⟩
      simp only [Builder.text, content_cons, Frame.content, String.append_assoc]
    | code lang value => cases htakes
    | metadata source => cases htakes

/-- Closing the innermost frame changes no text, whatever the frame is, as long as
those below it take what is left of it. -/
theorem leave_spec (f : Frame) {rest : List Frame} {children : List Node}
    {metadata : Option String} (h : Keeps ⟨rest, children, metadata⟩) :
    (leave ⟨f :: rest, children, metadata⟩).Keeps ∧
      (leave ⟨f :: rest, children, metadata⟩).content = content ⟨f :: rest, children, metadata⟩ ∧
      (leave ⟨f :: rest, children, metadata⟩).frames.length = rest.length := by
  rw [content_cons]
  -- Most frames become one node below.
  have hnode (n : Node) (htext : n.plainText = f.content) :
      (Builder.push ⟨rest, children, metadata⟩ n).Keeps ∧
        (Builder.push ⟨rest, children, metadata⟩ n).content =
          content ⟨rest, children, metadata⟩ ++ f.content ∧
        (Builder.push ⟨rest, children, metadata⟩ n).frames.length = rest.length :=
    ⟨h.push n, htext ▸ h.content_push n, length_frames_push _ n⟩
  cases f with
  | container shell cs => exact hnode _ (shell.plainText_fill cs.reverse)
  | code lang value => exact hnode _ (Node.plainText_leaf rfl)
  | image url title alt => exact hnode _ (Node.plainText_leaf rfl)
  | splice cs => exact h.foldl_push cs.reverse
  | metadata source => exact ⟨h, (String.append_empty).symm, rfl⟩

/-- What does not look at the box of a task does not see it marked. -/
theorem map_markTask {α : Type} (view : Frame → α)
    (hview : ∀ checked checked' children, view (.container (.listItem checked) children) =
      view (.container (.listItem checked') children)) (checked : Bool) (frames : List Frame) :
    (markTask checked frames).map view = frames.map view := by
  induction frames with
  | nil => rfl
  | cons f frames ih =>
    unfold markTask
    split
    · next heq => cases heq
    · next old children rest heq =>
      cases heq
      rw [List.map_cons, List.map_cons, hview]
    · next g rest _ heq =>
      cases heq
      rw [List.map_cons, List.map_cons, ih]

theorem Keeps.markTask {b : Builder} (h : b.Keeps) (checked : Bool) :
    Keeps { b with frames := Builder.markTask checked b.frames } ∧
      content { b with frames := Builder.markTask checked b.frames } = b.content := by
  refine ⟨?_, ?_⟩
  · have hmarked := map_markTask Frame.takesNodes (fun _ _ _ => rfl) checked b.frames
    intro f hf
    have htakes : f.takesNodes ∈ b.frames.map Frame.takesNodes :=
      hmarked ▸ List.mem_map_of_mem hf
    rcases List.mem_map.1 htakes with ⟨g, hg, heq⟩
    exact heq ▸ h g hg
  · have hmarked := map_markTask Frame.content (fun _ _ _ => rfl) checked b.frames
    simp only [content, framesContent, List.map_reverse, hmarked]

/-- Opening a container that is no verbatim block adds no text. -/
theorem Keeps.enter {b : Builder} (h : b.Keeps) {tag : Tag} (htag : tag.isVerbatim = false) :
    (b.enter tag).Keeps ∧ (b.enter tag).content = b.content := by
  have hframe : (Frame.ofTag tag).takesNodes = true ∧ (Frame.ofTag tag).content = "" := by
    cases tag with
    | codeBlock info => cases htag
    | metadata => cases htag
    | _ => exact ⟨rfl, rfl⟩
  refine ⟨h.cons hframe.1, ?_⟩
  rw [Builder.enter, content_cons, hframe.2, String.append_empty]

/-- An event adds its own text at the end, unless it opens a verbatim block. -/
theorem Keeps.handle {b : Builder} (h : b.Keeps) {e : Event}
    (he : ∀ tag, e = .enter tag → tag.isVerbatim = false) :
    (b.handle e).Keeps ∧ (b.handle e).content = b.content ++ e.ownText := by
  have hleaf {n : Node} (hchildren : n.children = []) (htext : n.ownText = e.ownText) :
      (b.push n).Keeps ∧ (b.push n).content = b.content ++ e.ownText :=
    ⟨h.push n, by rw [h.content_push, Node.plainText_leaf hchildren, htext]⟩
  have hsilent {c : Builder} (htext : e.ownText = "") (hc : c.Keeps ∧ c.content = b.content) :
      c.Keeps ∧ c.content = b.content ++ e.ownText := by
    rwa [htext, String.append_empty]
  cases e with
  | enter tag => exact hsilent rfl (h.enter (he tag rfl))
  | leave =>
    refine hsilent rfl ?_
    rcases b with ⟨_ | ⟨f, rest⟩, children, metadata⟩
    · exact ⟨h, rfl⟩
    · rcases leave_spec f (List.forall_mem_cons.1 h).2 with ⟨hkeeps, hcontent, -⟩
      exact ⟨hkeeps, hcontent⟩
  | text value => exact h.text value
  | softBreak => exact h.text "\n"
  | code value => exact hleaf rfl rfl
  | html value => exact hleaf rfl rfl
  | inlineHtml value => exact hleaf rfl rfl
  | hardBreak => exact hleaf rfl rfl
  | rule => exact hleaf rfl rfl
  | taskMarker checked => exact hsilent rfl (h.markTask checked)
  | other => exact hsilent rfl ⟨h, rfl⟩

/-! ### Verbatim blocks -/

/-- Behind a text, the texts that follow are part of it. -/
theorem foldl_handle_spanText (b : Builder) (value : String) (es : List Event) :
    es.foldl handle (b.text value) =
      (spanText es).2.foldl handle (b.text (value ++ (spanText es).1)) := by
  fun_induction spanText es generalizing value with
  | case1 more es ih =>
    rw [List.foldl_cons, ← String.append_assoc, ← ih (value ++ more), ← text_text]
    rfl
  | case2 es hno => rw [String.append_empty]

/-- A verbatim block is a frame that takes the text it starts with. Nothing below it
changes. -/
theorem enter_verbatim (b : Builder) {tag : Tag} (htag : tag.isVerbatim = true)
    (es : List Event) :
    ∃ f : Frame, f.content = verbatimText tag (spanText es).1 ∧
      es.foldl handle (b.enter tag) =
        (spanText es).2.foldl handle { b with frames := f :: b.frames } := by
  have hspan := foldl_handle_spanText (b.enter tag) "" es
  rw [String.empty_append] at hspan
  cases tag with
  | codeBlock info =>
    refine ⟨.code (info.bind Text.firstWord?) (spanText es).1, rfl, ?_⟩
    simpa only [enter, Frame.ofTag, text, String.empty_append] using hspan
  | metadata =>
    refine ⟨.metadata (spanText es).1, rfl, ?_⟩
    simpa only [enter, Frame.ofTag, text, String.empty_append] using hspan
  | _ => cases htag

/-! ### All events -/

/-- Closing one frame after the other keeps the text and leaves no frame. The
innermost one may be a verbatim block. -/
theorem closed_spec {b : Builder} (h : ∀ f ∈ b.frames.tail, f.takesNodes = true) {steps : List Nat}
    (hsteps : steps.length = b.frames.length) :
    (steps.foldl (fun b _ => b.leave) b).frames = [] ∧
      (steps.foldl (fun b _ => b.leave) b).content = b.content := by
  induction steps generalizing b with
  | nil => exact ⟨List.length_eq_zero_iff.1 hsteps.symm, rfl⟩
  | cons step steps ih =>
    rcases b with ⟨_ | ⟨f, rest⟩, children, metadata⟩
    · cases hsteps
    · have hrest : Keeps ⟨rest, children, metadata⟩ := h
      rcases leave_spec f hrest with ⟨hkeeps, hcontent, hlength⟩
      rcases ih (fun g hg => hkeeps g (List.mem_of_mem_tail hg))
        ((Nat.succ.inj hsteps).trans hlength.symm) with ⟨hframes, hclosed⟩
      exact ⟨hframes, hclosed.trans hcontent⟩

theorem plainText_finish {b : Builder} (h : ∀ f ∈ b.frames.tail, f.takesNodes = true) :
    b.finish.1.plainText = b.content := by
  have hlength : (List.range b.frames.length).length = b.frames.length := List.length_range
  rcases closed_spec h hlength with ⟨hframes, hcontent⟩
  rw [← hcontent, content, hframes, framesContent, List.reverse_nil, List.map_nil, String.join_nil,
    String.append_empty, finish, Node.plainText_container rfl]
  rfl

/-- Whatever is open, events add their text at the end. The induction is on their
number, as a verbatim block is taken with all the text in it. -/
theorem Keeps.plainText_foldl {b : Builder} (h : b.Keeps) {events : List Event}
    (hevents : VerbatimHoldsText events) :
    (events.foldl Builder.handle b).finish.1.plainText = b.content ++ textOfEvents events := by
  induction hlength : events.length using Nat.strong_induction_on generalizing b events with
  | _ length ih =>
    subst hlength
    rcases events with _ | ⟨e, es⟩
    · rw [textOfEvents, String.append_empty]
      exact plainText_finish fun f hf => h f (List.mem_of_mem_tail hf)
    · by_cases he : ∀ tag, e = .enter tag → tag.isVerbatim = false
      · rcases h.handle he with ⟨hkeeps, hcontent⟩
        rw [textOfEvents_cons he, List.foldl_cons,
          ih es.length (Nat.lt_succ_self _) hkeeps hevents.tail rfl, hcontent, String.append_assoc]
      · simp only [not_forall, Bool.not_eq_false] at he
        rcases he with ⟨tag, rfl, htag⟩
        rcases b.enter_verbatim htag es with ⟨f, hf, hfold⟩
        have hend := hevents.1 htag
        have hshort := length_spanText_le es
        have hrest := hevents.tail.spanText
        rw [textOfEvents_verbatim htag, List.foldl_cons, Builder.handle, hfold, ← hf]
        -- Behind its text, the block ends, or the events do.
        generalize (WikiSync.spanText es).2 = rest at hend hshort hrest ⊢
        rcases rest with _ | ⟨e, rest⟩
        · have hclosed := plainText_finish (b := { b with frames := f :: b.frames }) h
          rw [textOfEvents, String.append_empty, List.foldl_nil, hclosed, content_cons]
        · obtain rfl : e = .leave := hend e rfl
          have hb : Keeps ⟨b.frames, b.children, b.metadata⟩ := h
          rcases leave_spec f hb with ⟨hkeeps, hcontent, -⟩
          rw [textOfEvents_leave, List.foldl_cons, Builder.handle,
            ih rest.length (Nat.lt_succ_of_lt hshort) hkeeps hrest.tail rfl, hcontent,
            content_cons, String.append_assoc]

end Builder

/-- No text is lost. The tree of a sequence of events has their text, if code and
metadata hold nothing but text. The starts and the ends need not match. -/
theorem plainText_treeOfEvents (events : List Event) (h : VerbatimHoldsText events) :
    (treeOfEvents events).1.plainText = textOfEvents events := by
  rw [treeOfEvents, Builder.keeps_start.plainText_foldl h, Builder.content_start,
    String.empty_append]

/-! ### Stray events -/

/-- Events that do not match. An end comes first, a metadata block stands between
texts, an image holds emphasis with another image in it, a list item holds text around a
container without a node, and its code block is never closed. -/
def memoEvents : List Event :=
  [.leave, .text "a", .enter .metadata, .text "title: x", .leave, .softBreak,
    .enter (.image "u" ""), .text "b", .enter .emphasis, .enter (.image "v" ""), .code "c", .leave,
    .leave, .softBreak, .leave,
    .enter .item, .text "d", .enter .other, .text "e", .inlineHtml "<b>", .leave,
    .enter (.codeBlock none), .text "f\n", .text "\n"]

theorem plainText_treeOfEvents_memo :
    VerbatimHoldsText memoEvents ∧ textOfEvents memoEvents = "a\nbc\ndef\n" ∧
      (treeOfEvents memoEvents).1.plainText = "a\nbc\ndef\n" := by
  have hholds : VerbatimHoldsText memoEvents := by decide
  have htext : textOfEvents memoEvents = "a\nbc\ndef\n" := by
    decide +kernel
  exact ⟨hholds, htext, htext ▸ plainText_treeOfEvents memoEvents hholds⟩

end WikiSync
