import WikiSync.Proofs.Document.Normal

/-!
# Trees as Events

A normal tree is written down as events, and the builder makes the same tree of
them again. Writing is a function (`Node.events`). What it leaves open is how a
text is spelled: it may come in pieces, and a newline may be a soft break. That
is a relation between sequences of events (`Respelled`).

The two are kept apart. The builder does not tell two spellings from each other
in any state and for any events, because two texts that follow each other are
always one text (`Builder.text_text`). So the round trip has to be proved for
one spelling only.

For that one the induction is over the tree. In the middle of a tree the events
of a node meet a stack that is open already, so what is proved of a node is that
its events add it to any stack with a place for it (`Builder.Adds`). The stack
does not have to come from a tree. Siblings are added one after the other and
stay as they are because they are apart; a container that closes is the node it
came from because the node is as it should be. Each condition on a normal tree
is used once.

A row of a table does not say whether it is the head, which is the only thing
that the events of a node depend on besides the node.

## Main definitions

* `Node.events`: The events of a tree.
* `Pieces`, `Respelled`: Other spellings.
* `Builder.Adds`: The events of a node add the node.

## Theorems

* `Builder.foldl_handle_respelled`, `treeOfEvents_respelled`: Spellings make no
  difference.
* `Builder.foldl_handle_bracket`, `Builder.foldl_handle_item`: Containers.
* `Builder.adds_of_orderly`: The induction over the tree.
* `treeOfEvents_events`, `treeOfEvents_of_normal`: The tree is built again.
-/

namespace WikiSync

open Markdown (Event Tag ColumnAlign)

/-! ### Writing trees as events -/

/-- How an event declares the alignment of a column. -/
def columnOfAlign : Option Align → ColumnAlign
  | none => .unset
  | some .left => .left
  | some .center => .center
  | some .right => .right

namespace Node

/-- The tag of the table rows behind a node. Only the first row is the head. -/
def nextRow (row : Tag) : Node → Tag
  | tableRow _ => .tableRow
  | _ => row

mutual

/-- The events of a node. A table row gets the tag that is given. -/
def events (row : Tag) : Node → List Event
  | root cs => eventsAll .tableRow cs
  | paragraph cs => Event.bracket .paragraph (eventsAll .tableRow cs)
  | heading depth cs => Event.bracket (.heading depth) (eventsAll .tableRow cs)
  | text value => [.text value]
  | emphasis cs => Event.bracket .emphasis (eventsAll .tableRow cs)
  | strong cs => Event.bracket .strong (eventsAll .tableRow cs)
  | strikethrough cs => Event.bracket .strikethrough (eventsAll .tableRow cs)
  | inlineCode value => [.code value]
  | code lang value => Event.bracket (.codeBlock lang) [.text (value ++ "\n")]
  | list _ start cs => Event.bracket (.list start) (eventsAll .tableRow cs)
  | listItem checked cs =>
    Event.bracket .item (checked.toList.map .taskMarker ++ eventsAll .tableRow cs)
  | table align cs =>
    Event.bracket (.table (align.map columnOfAlign)) (eventsAll .tableHead cs)
  | tableRow cs => Event.bracket row (eventsAll .tableRow cs)
  | tableCell cs => Event.bracket .tableCell (eventsAll .tableRow cs)
  | link url title cs => Event.bracket (.link false url (title.getD "")) (eventsAll .tableRow cs)
  | image url alt title => Event.bracket (.image url (title.getD "")) [.text alt]
  | blockquote cs => Event.bracket .blockQuote (eventsAll .tableRow cs)
  | .break => [.hardBreak]
  | thematicBreak => [.rule]
  | html value inline => [if inline then .inlineHtml value else .html value]

/-- The events of siblings. -/
def eventsAll (row : Tag) : List Node → List Event
  | [] => []
  | n :: ns => n.events row ++ eventsAll (n.nextRow row) ns

end

end Node

/-! ### Cutting texts -/

/-- The pieces of a text, in order. A piece that is a newline may be a soft
break. -/
inductive Pieces : String → List Event → Prop
  | text (value : String) : Pieces value [.text value]
  | softBreak : Pieces "\n" [.softBreak]
  | append {a b : String} {es fs : List Event} (ha : Pieces a es) (hb : Pieces b fs) :
      Pieces (a ++ b) (es ++ fs)

/-- Events that say the same. Any text may be cut into pieces. An image with an
empty text alternative may have no event for it, and a code block without a
language may have a fence or none. -/
inductive Respelled : List Event → List Event → Prop
  | nil : Respelled [] []
  | keep (e : Event) {es fs : List Event} (h : Respelled es fs) : Respelled (e :: es) (e :: fs)
  | cut {value : String} {pieces es fs : List Event} (hpieces : Pieces value pieces)
      (h : Respelled es fs) : Respelled (.text value :: es) (pieces ++ fs)
  | noAlternative (url title : String) {es fs : List Event} (h : Respelled es fs) :
      Respelled (.enter (.image url title) :: .text "" :: es) (.enter (.image url title) :: fs)
  | fenced {info : String} (hinfo : Text.firstWord? info = none) {es fs : List Event}
      (h : Respelled es fs) :
      Respelled (.enter (.codeBlock none) :: es) (.enter (.codeBlock (some info)) :: fs)

/-! ### Texts -/

theorem appendMerged_text_text (siblings : List Node) (x y : String) :
    appendMerged (appendMerged siblings (.text x)) (.text y) =
      appendMerged siblings (.text (x ++ y)) := by
  rcases siblings with _ | ⟨m, rest⟩
  · rfl
  · cases m with
    | text before => simp only [appendMerged, String.append_assoc]
    | root _ | paragraph _ | heading _ _ | emphasis _ | strong _ | strikethrough _ | inlineCode _
    | code _ _ | list _ _ _ | listItem _ _ | table _ _ | tableRow _ | tableCell _ | link _ _ _
    | image _ _ _ | blockquote _ | «break» | thematicBreak | html _ _ => rfl

theorem dropFinalNewline_append (s : String) : dropFinalNewline (s ++ "\n") = s := by
  have hends : (s ++ "\n").endsWith "\n" = true := by
    rw [String.endsWith_eq_endsWith_toSlice, String.Slice.endsWith_string_iff,
      String.copy_toSlice, String.toList_append]
    exact List.suffix_append _ _
  rw [dropFinalNewline, if_pos hends, String.toList_append]
  change String.ofList ((s.toList ++ ['\n']).dropLast) = s
  rw [List.dropLast_concat, String.ofList_toList]

namespace Builder

/-- Two texts, one after the other, are one text, wherever they stand. -/
theorem text_text (b : Builder) (x y : String) : (b.text x).text y = b.text (x ++ y) := by
  rcases b with ⟨_ | ⟨f, rest⟩, children, metadata⟩
  · simp only [text, push, appendMerged_text_text]
  · cases f with
    | container shell cs => simp only [text, push, appendMerged_text_text]
    | splice cs => simp only [text, push, appendMerged_text_text]
    | image url title alt => simp only [text, String.append_assoc]
    | code lang value => simp only [text, String.append_assoc]
    | metadata source => simp only [text, String.append_assoc]

theorem foldl_handle_pieces {value : String} {pieces : List Event} (h : Pieces value pieces)
    (b : Builder) : pieces.foldl handle b = b.text value := by
  induction h generalizing b with
  | text value => rfl
  | softBreak => rfl
  | append ha hb iha ihb => rw [List.foldl_append, iha, ihb, text_text]

/-- How events are spelled makes no difference to the builder. -/
theorem foldl_handle_respelled {es fs : List Event} (h : Respelled es fs) (b : Builder) :
    fs.foldl handle b = es.foldl handle b := by
  induction h generalizing b with
  | nil => rfl
  | keep e h ih => exact ih (b.handle e)
  | cut hpieces h ih =>
    rw [List.foldl_append, foldl_handle_pieces hpieces, ih]
    rfl
  | noAlternative url title h ih => exact ih (b.handle (.enter (.image url title)))
  | @fenced info hinfo es fs h ih =>
    have hframe : Frame.ofTag (.codeBlock (some info)) = Frame.ofTag (.codeBlock none) := by
      simp only [Frame.ofTag, Option.bind_some, Option.bind_none, hinfo]
    rw [List.foldl_cons, List.foldl_cons, ih, handle, enter, hframe]
    rfl

end Builder

/-- Nor to the tree, whatever the events are. -/
theorem treeOfEvents_respelled {es fs : List Event} (h : Respelled es fs) :
    treeOfEvents fs = treeOfEvents es := by
  unfold treeOfEvents
  rw [Builder.foldl_handle_respelled h]

/-! ### Building -/

theorem map_alignOfColumn (align : List (Option Align)) :
    (align.map columnOfAlign).map alignOfColumn = align := by
  rw [List.map_map]
  refine List.map_id'' (fun a => ?_) align
  rcases a with _ | _ | _ | _ <;> rfl

theorem nonEmpty?_getD {title : Option String} (h : title ≠ some "") :
    nonEmpty? (title.getD "") = title := by
  rcases title with _ | title
  · rfl
  · have hne : title ≠ "" := fun heq => h (congrArg some heq)
    rw [Option.getD_some, nonEmpty?, if_neg]
    rw [String.isEmpty_iff]
    exact hne

/-- Siblings that are apart are added as they are, behind those before them. -/
theorem foldl_appendMerged_append {before ns : List Node} (h : Apart (before.reverse ++ ns)) :
    ns.foldl appendMerged before = ns.reverse ++ before := by
  induction ns generalizing before with
  | nil => rfl
  | cons n ns ih =>
    have hapart : ∀ m ∈ before.head?, ¬ m.Merges n := fun m hm =>
      (List.isChain_append.1 h).2.2 m (List.getLast?_reverse ▸ hm) n rfl
    rw [List.foldl_cons, appendMerged_of_apart hapart, ih]
    · rw [List.reverse_cons, List.append_assoc, List.singleton_append]
    · rwa [List.reverse_cons, List.append_assoc, List.singleton_append]

theorem foldl_appendMerged {ns : List Node} (h : Apart ns) :
    ns.foldl appendMerged [] = ns.reverse := by
  have hnil : Apart ([].reverse ++ ns) := h
  rw [foldl_appendMerged_append hnil, List.append_nil]

namespace Builder

/-- A place where nodes can be added: the top, or a container that keeps its
children. -/
def Open (b : Builder) : Prop :=
  match b.frames with
  | .code _ _ :: _ | .image _ _ _ :: _ | .metadata _ :: _ => False
  | _ => True

theorem text_of_open {b : Builder} (h : b.Open) (value : String) :
    b.text value = b.push (.text value) := by
  rcases b with ⟨_ | ⟨f, rest⟩, children, metadata⟩
  · rfl
  · cases f with
    | container shell cs => rfl
    | splice cs => rfl
    | image url title alt => exact h.elim
    | code lang value => exact h.elim
    | metadata source => exact h.elim

theorem Open.push {b : Builder} (h : b.Open) (n : Node) : (b.push n).Open := by
  rcases b with ⟨_ | ⟨f, rest⟩, children, metadata⟩
  · trivial
  · cases f with
    | container shell cs => trivial
    | splice cs => trivial
    | image url title alt => exact h.elim
    | code lang value => exact h.elim
    | metadata source => exact h.elim

/-- The same place with a container open. -/
def inside (b : Builder) (shell : Shell) (children : List Node) : Builder :=
  { b with frames := .container shell children :: b.frames }

theorem leave_inside (b : Builder) (shell : Shell) (children : List Node) :
    (b.inside shell children).leave = b.push (shell.fill children.reverse) := rfl

/-- Nodes are added to the innermost container only. -/
theorem foldl_push_inside (b : Builder) (shell : Shell) (before ns : List Node) :
    ns.foldl push (b.inside shell before) = b.inside shell (ns.foldl appendMerged before) := by
  induction ns generalizing before with
  | nil => rfl
  | cons n ns ih => exact ih (appendMerged before n)

theorem foldl_push_root (before : List Node) (metadata : Option String) (ns : List Node) :
    ns.foldl push ⟨[], before, metadata⟩ = ⟨[], ns.foldl appendMerged before, metadata⟩ := by
  induction ns generalizing before with
  | nil => rfl
  | cons n ns ih => exact ih (appendMerged before n)

/-- Bracketed events come between an opening and a closing. -/
theorem foldl_handle_enclosed (tag : Tag) (content : List Event) (b : Builder) :
    (Event.bracket tag content).foldl handle b =
      (content.foldl handle (b.handle (.enter tag))).leave := by
  rw [Event.bracket, List.foldl_append]
  rfl

/-- A tag that opens a table row. -/
def OpensRow (row : Tag) : Prop :=
  Frame.ofTag row = .container .tableRow []

theorem opensRow_tableRow : OpensRow .tableRow := rfl

theorem opensRow_tableHead : OpensRow .tableHead := rfl

/-- The events of a node add the node, wherever there is a place for it. -/
def Adds (n : Node) : Prop :=
  ∀ (row : Tag) (b : Builder), OpensRow row → b.Open → (n.events row).foldl handle b = b.push n

theorem opensRow_nextRow (n : Node) {row : Tag} (h : OpensRow row) : OpensRow (n.nextRow row) := by
  unfold Node.nextRow
  split
  · rfl
  · exact h

/-- The events of siblings add one after the other. -/
theorem foldl_handle_eventsAll {ns : List Node} (h : ∀ n ∈ ns, Adds n) {row : Tag}
    (hrow : OpensRow row) {b : Builder} (hb : b.Open) :
    (Node.eventsAll row ns).foldl handle b = ns.foldl push b := by
  induction ns generalizing row b with
  | nil => rw [Node.eventsAll, List.foldl_nil, List.foldl_nil]
  | cons n ns ih =>
    rw [List.forall_mem_cons] at h
    rw [Node.eventsAll, List.foldl_append, h.1 row b hrow hb, List.foldl_cons]
    exact ih h.2 (opensRow_nextRow n hrow) (hb.push n)

/-- What stands in an open container ends up in it. -/
theorem foldl_handle_inside {ns : List Node} (h : ∀ n ∈ ns, Adds n) (hapart : Apart ns) {row : Tag}
    (hrow : OpensRow row) (b : Builder) (shell : Shell) :
    (Node.eventsAll row ns).foldl handle (b.inside shell []) = b.inside shell ns.reverse := by
  have hopen : (b.inside shell []).Open := trivial
  rw [foldl_handle_eventsAll h hrow hopen, foldl_push_inside, foldl_appendMerged hapart]

/-- A container with its content is added as one node. -/
theorem foldl_handle_bracket {tag : Tag} {shell : Shell}
    (htag : Frame.ofTag tag = .container shell []) {row : Tag} (hrow : OpensRow row)
    {ns : List Node} (h : ∀ n ∈ ns, Adds n) (hapart : Apart ns) (b : Builder) :
    (Event.bracket tag (Node.eventsAll row ns)).foldl handle b = b.push (shell.fill ns) := by
  have henter : b.handle (.enter tag) = b.inside shell [] := by
    simp only [handle, enter, inside, htag]
  rw [foldl_handle_enclosed, henter, foldl_handle_inside h hapart hrow, leave_inside,
    List.reverse_reverse]

/-- A list item is marked right after it is opened. -/
theorem foldl_handle_item (checked : Option Bool) {ns : List Node} (h : ∀ n ∈ ns, Adds n)
    (hapart : Apart ns) (hblocks : ∀ c ∈ ns, c.isInline = false) (b : Builder) :
    (Event.bracket .item (checked.toList.map .taskMarker ++ Node.eventsAll .tableRow ns)).foldl
      handle b = b.push (.listItem checked ns) := by
  have hmark : (checked.toList.map Event.taskMarker).foldl handle (b.handle (.enter .item)) =
      b.inside (.listItem checked) [] := by
    rcases checked with _ | checked <;> rfl
  rw [foldl_handle_enclosed, List.foldl_append, hmark,
    foldl_handle_inside h hapart opensRow_tableRow, leave_inside, List.reverse_reverse, Shell.fill,
    wrapInlineRuns_of_blocks hblocks]

/-- The induction over the tree. Whatever is open around a node, its events
add it. -/
theorem adds_of_orderly {n : Node} (h : n.Everywhere Node.Orderly) : Adds n := by
  induction n using Node.size_induction with
  | step n ih =>
    rcases Node.everywhere_orderly_iff.1 h with ⟨hregular, hchildren⟩
    have hadds : ∀ c ∈ n.children, Adds c := fun c hc =>
      ih c (Node.size_lt_of_mem hc) (hchildren.2 c hc)
    intro row b hrow hb
    -- Most nodes are a container that is filled with their children.
    have container (tag : Tag) (shell : Shell) {row' : Tag} (hrow' : OpensRow row')
        (htag : Frame.ofTag tag = .container shell []) :
        (Event.bracket tag (Node.eventsAll row' n.children)).foldl handle b =
          b.push (shell.fill n.children) :=
      foldl_handle_bracket htag hrow' hadds hchildren.1 b
    cases n with
    | root cs => exact hregular.elim
    | paragraph cs => exact container .paragraph .paragraph opensRow_tableRow rfl
    | heading depth cs => exact container (.heading depth) (.heading depth) opensRow_tableRow rfl
    | text value => exact text_of_open hb value
    | emphasis cs => exact container .emphasis .emphasis opensRow_tableRow rfl
    | strong cs => exact container .strong .strong opensRow_tableRow rfl
    | strikethrough cs => exact container .strikethrough .strikethrough opensRow_tableRow rfl
    | inlineCode value => rfl
    | code lang value =>
      have hlang : lang.bind Text.firstWord? = lang := by
        rcases lang with _ | word
        · rfl
        · exact Text.firstWord?_of_isWord (hregular word rfl)
      rw [Node.events]
      change b.push
        (.code (lang.bind Text.firstWord?) (dropFinalNewline ("" ++ (value ++ "\n")))) = _
      -- The newline behind the value is the one that is dropped.
      rw [hlang, String.empty_append, dropFinalNewline_append]
    | list ordered start cs =>
      have hordered : ordered = start.isSome := hregular
      rw [hordered]
      exact container (.list start) (.list start) opensRow_tableRow rfl
    | listItem checked cs =>
      rw [Node.events]
      -- Its children are blocks, so closing it wraps nothing.
      exact foldl_handle_item checked hadds hchildren.1 hregular b
    | table align cs =>
      refine container (.table (align.map columnOfAlign)) (.table align) opensRow_tableHead ?_
      rw [Frame.ofTag, map_alignOfColumn]
    | tableRow cs => exact container row .tableRow opensRow_tableRow hrow
    | tableCell cs => exact container .tableCell .tableCell opensRow_tableRow rfl
    | link url title cs =>
      refine container (.link false url (title.getD "")) (.link url title) opensRow_tableRow ?_
      rw [Frame.ofTag, nonEmpty?_getD hregular]
      rfl
    | image url alt title =>
      rw [Node.events]
      change b.push (.image url ("" ++ alt) (nonEmpty? (title.getD ""))) = _
      rw [String.empty_append, nonEmpty?_getD hregular]
    | blockquote cs => exact container .blockQuote .blockquote opensRow_tableRow rfl
    | «break» => rfl
    | thematicBreak => rfl
    | html value inline =>
      rw [Node.events]
      cases inline <;> rfl

end Builder

/-- The events of a normal tree build it again. -/
theorem treeOfEvents_events {t : Node} (h : t.Normal) :
    treeOfEvents (t.events .tableRow) = (t, none) := by
  rcases h with ⟨cs, rfl, hapart, horderly⟩
  -- At the top nothing is open, which is a place like any other.
  have hadds : ∀ c ∈ cs, Builder.Adds c := fun c hc => Builder.adds_of_orderly (horderly c hc)
  have hopen : Builder.start.Open := trivial
  rw [treeOfEvents, Node.events,
    Builder.foldl_handle_eventsAll hadds Builder.opensRow_tableRow hopen, Builder.start,
    Builder.foldl_push_root, foldl_appendMerged hapart]
  change (Node.root cs.reverse.reverse, none) = _
  rw [List.reverse_reverse]

/-- The events of a normal tree build it again, however its texts are cut. -/
theorem treeOfEvents_of_normal {t : Node} (h : t.Normal) {es : List Event}
    (hes : Respelled (t.events .tableRow) es) : treeOfEvents es = (t, none) := by
  rw [treeOfEvents_respelled hes, treeOfEvents_events h]

/-! ### A document -/

/-- A tree with a task, a table, code and an image without text alternative. -/
def handbook : Node :=
  .root [.heading 2 [.text "One\ntwo"],
    .list true (some 3) [.listItem (some true)
      [.paragraph [.text "do", .link "u" none [.image "p.png" "" (some "T")]]]],
    .table [none, some .right]
      [.tableRow [.tableCell [.text "head"]], .tableRow [.tableCell [.html "<i>" true]]],
    .code (some "rust") "fn\n", .code none ""]

/-- Its events, with two of the texts in pieces. -/
def handbookEvents : List Event :=
  [.enter (.heading 2), .text "One", .softBreak, .text "two", .leave,
    .enter (.list (some 3)), .enter .item, .taskMarker true, .enter .paragraph, .text "do",
    .enter (.link false "u" ""), .enter (.image "p.png" "T"), .leave, .leave, .leave, .leave,
    .leave,
    .enter (.table [.unset, .right]),
    .enter .tableHead, .enter .tableCell, .text "head", .leave, .leave,
    .enter .tableRow, .enter .tableCell, .inlineHtml "<i>", .leave, .leave, .leave,
    .enter (.codeBlock (some "rust")), .text "fn\n", .text "\n", .leave,
    .enter (.codeBlock (some "")), .text "\n", .leave]

theorem normal_handbook : handbook.Normal :=
  ⟨_, rfl, by decide +kernel⟩

theorem respelled_handbook : Respelled (handbook.events .tableRow) handbookEvents := by
  have htitle : Pieces "One\ntwo" ([.text "One"] ++ ([.softBreak] ++ [.text "two"])) :=
    (Pieces.text "One").append (Pieces.softBreak.append (Pieces.text "two"))
  have hcode : Pieces "fn\n\n" ([.text "fn\n"] ++ [.text "\n"]) :=
    (Pieces.text "fn\n").append (Pieces.text "\n")
  have hinfo : Text.firstWord? "" = none := by decide
  refine .keep _ (.cut htitle ?_)
  iterate 7 refine .keep _ ?_
  refine .noAlternative _ _ ?_
  iterate 18 refine .keep _ ?_
  exact .cut hcode (.keep _ (.fenced hinfo (.keep _ (.keep _ .nil))))

theorem treeOfEvents_of_normal_handbook :
    handbook.Normal ∧ Respelled (handbook.events .tableRow) handbookEvents ∧
      treeOfEvents handbookEvents = (handbook, none) :=
  ⟨normal_handbook, respelled_handbook,
    treeOfEvents_of_normal normal_handbook respelled_handbook⟩

end WikiSync
