import Mathlib.Data.List.TakeWhile
import WikiSync.Diagram.Identity
import WikiSync.Proofs.Document.Diagrams

/-!
# The Text of a Tree

The characters that a reader of a document gets to see, in document order: texts
and code. A quote that is a callout shows its first text without the marker, and
a diagram that is shown as an image has no text at all.

The conversion takes a marker off by trying one tag after the other. Here a
marker is read the other way round: up to its bracket first, and then the word
in it is compared. `unmarked?_eq` says that both come to the same.

The conversion rewrites what it finds: tasks lose the paragraph around their
text, callouts lose their marker and whatever is empty without it, and of a table
only the content of its cells is converted. `charactersAll_converted` says that
this keeps the text, on trees whose lists hold items and whose tables hold rows
of cells.

## Main definitions

* `Text.unmarked?`: A text without the marker of a callout.
* `Node.characters`, `Node.charactersAll`: The text of a tree, and of trees.

## Theorems

* `Text.unmarked?_eq`: A marker is read as the conversion reads it.
* `Node.characters_blockquote`: Quotes and callouts.
* `Node.charactersAll_converted`: What is converted has the same text.
-/

namespace WikiSync

namespace Text

/-! ### Markers -/

/-- The words that mark a callout. -/
def calloutWords : List String :=
  ["NOTE", "TIP", "IMPORTANT", "WARNING", "CAUTION"]

/-- The word of a marker such as `[!note]` in capital letters, and what is
behind the marker. -/
def marker? : List Char → Option (String × List Char)
  | '[' :: '!' :: rest =>
    match rest.dropWhile (· != ']') with
    | [] => none
    | _ :: after => some (String.ofList ((rest.takeWhile (· != ']')).map Char.toUpper), after)
  | _ => none

/-- A text without the marker of a callout and without the white space after
it, if it starts with one. -/
def unmarked? (text : List Char) : Option (List Char) :=
  match marker? text with
  | some (word, after) => if word ∈ calloutWords then some (after.dropWhile isBlankChar) else none
  | none => none

end Text

/-- What is in front of the first bracket, and what follows from there. -/
theorem Text.span_bracket {word : List Char} (h : ']' ∉ word) (after : List Char) :
    (word ++ ']' :: after).takeWhile (· != ']') = word ∧
      (word ++ ']' :: after).dropWhile (· != ']') = ']' :: after := by
  have hword : ∀ c ∈ word, (c != ']') = true := fun c hc =>
    bne_iff_ne.2 fun heq => h (heq ▸ hc)
  rw [List.takeWhile_append_of_pos hword, List.dropWhile_append_of_pos hword]
  simp

theorem Text.marker?_of_not {cs : List Char} (h : ∀ rest, cs = '[' :: '!' :: rest → False) :
    marker? cs = none := by
  unfold marker?
  split
  · next rest => exact (h rest rfl).elim
  · rfl

/-- Taking off one tag is reading the marker and comparing its word. -/
theorem Emit.stripTag?_eq {tag : String} (htag : ']' ∉ tag.toList) (text : String) :
    stripTag? text tag = (Text.marker? text.toList).bind fun (word, after) =>
      if word = tag then some (after.dropWhile Text.isBlankChar) else none := by
  unfold stripTag?
  generalize text.toList = cs
  split
  · next rest =>
    by_cases hbracket : ']' ∈ rest
    · rcases List.eq_append_cons_of_mem hbracket with ⟨word, after, rfl, hword⟩
      rcases Text.span_bracket hword after with ⟨htake, hdrop⟩
      simp only [Text.marker?, htake, hdrop, Option.bind_some]
      -- The tag is there exactly if it is what stands in front of the first bracket.
      by_cases htag' : String.ofList (word.map Char.toUpper) = tag
      · subst htag'
        simp
      · rw [if_neg htag']
        split
        · next hsame =>
          split
          · next after' hafter =>
            -- A tag without a bracket, with a bracket behind it, is the word.
            have hrest := (List.take_append_drop tag.length (word ++ ']' :: after)).symm
            rw [hafter] at hrest
            have hfirst : ']' ∉ (word ++ ']' :: after).take tag.length := fun hmem =>
              htag (hsame ▸ List.mem_map_of_mem (f := Char.toUpper) hmem)
            have hword' := (Text.span_bracket hfirst after').1
            rw [← hrest, htake] at hword'
            rw [← hword'] at hsame
            exact absurd (by rw [hsame, String.ofList_toList]) htag'
          · rfl
        · rfl
    · have hnone : rest.dropWhile (· != ']') = [] := by
        rw [List.dropWhile_eq_nil_iff]
        exact fun c hc => bne_iff_ne.2 fun heq => hbracket (heq ▸ hc)
      simp only [Text.marker?, hnone]
      split
      · split
        · next after hafter =>
          exact absurd (List.mem_of_mem_drop (hafter ▸ List.mem_cons_self)) hbracket
        · rfl
      · rfl
  · next hno =>
    rw [Text.marker?_of_not hno]
    rfl

/-- A marker is read as the conversion reads it. -/
theorem Text.unmarked?_eq (text : String) :
    unmarked? text.toList = (Emit.calloutText? text).map fun (_, stripped) => stripped.toList := by
  have hnote : ']' ∉ "NOTE".toList := by decide
  have hwarning : ']' ∉ "WARNING".toList := by decide
  have htip : ']' ∉ "TIP".toList := by decide
  have himportant : ']' ∉ "IMPORTANT".toList := by decide
  have hcaution : ']' ∉ "CAUTION".toList := by decide
  unfold unmarked? Emit.calloutText? Emit.calloutTags
  simp only [List.findSome?_cons, List.findSome?_nil, Emit.stripTag?_eq hnote,
    Emit.stripTag?_eq hwarning, Emit.stripTag?_eq htip, Emit.stripTag?_eq himportant,
    Emit.stripTag?_eq hcaution]
  rcases marker? text.toList with _ | ⟨word, after⟩
  · rfl
  · by_cases hword : word ∈ calloutWords
    · simp only [hword, if_true, Option.bind_some]
      simp only [calloutWords, List.mem_cons, List.not_mem_nil, or_false] at hword
      rcases hword with rfl | rfl | rfl | rfl | rfl <;> simp
    · simp only [hword, if_false, Option.bind_some]
      simp only [calloutWords, List.mem_cons, List.not_mem_nil, or_false, not_or] at hword
      simp [hword]

namespace Node

/-! ### The text of a tree -/

mutual
/-- The text of a tree, in document order, where diagrams may be shown as
images. -/
def characters (diagrams : Bool) : Node → List Char
  | text value | inlineCode value => value.toList
  | code lang value =>
    if diagrams = true ∧ lang = some Diagram.language then [] else value.toList
  | blockquote (paragraph (text value :: more) :: rest) =>
    (Text.unmarked? value.toList).getD value.toList ++
      charactersAll diagrams more ++ charactersAll diagrams rest
  | root cs | paragraph cs | heading _ cs | emphasis cs | strong cs | strikethrough cs
  | list _ _ cs | listItem _ cs | table _ cs | tableRow cs | tableCell cs | link _ _ cs
  | blockquote cs => charactersAll diagrams cs
  | image _ _ _ | .break | thematicBreak | html _ _ => []

/-- The text of trees, one after the other. -/
def charactersAll (diagrams : Bool) : List Node → List Char
  | [] => []
  | n :: ns => n.characters diagrams ++ charactersAll diagrams ns
end

theorem charactersAll_eq (diagrams : Bool) (ns : List Node) :
    charactersAll diagrams ns = ns.flatMap (characters diagrams) := by
  induction ns with
  | nil => rfl
  | cons n ns ih => rw [charactersAll, ih, List.flatMap_cons]

theorem charactersAll_flatMap (diagrams : Bool) (ns : List Node) (f : Node → List Node) :
    charactersAll diagrams (ns.flatMap f) = ns.flatMap fun n => charactersAll diagrams (f n) := by
  rw [charactersAll_eq, List.flatMap_assoc]
  exact List.flatMap_congr fun n _ => (charactersAll_eq diagrams (f n)).symm

@[simp]
theorem charactersAll_nil (diagrams : Bool) : charactersAll diagrams [] = [] := by
  rw [charactersAll]

/-- A container that is no quote has the text of its children. -/
theorem characters_eq (diagrams : Bool) {n : Node} (hchildren : n.children? ≠ none)
    (hquote : ∀ cs, n = blockquote cs → False) :
    n.characters diagrams = charactersAll diagrams n.children := by
  cases n
  case blockquote cs => exact (hquote cs rfl).elim
  all_goals first
    | exact absurd rfl hchildren
    | rw [characters]; rfl

theorem characters_paragraph (diagrams : Bool) (cs : List Node) :
    (paragraph cs).characters diagrams = charactersAll diagrams cs := by
  rw [characters]

/-! ### What is converted -/

theorem charactersAll_taskBody (diagrams : Bool) (cs : List Node) :
    charactersAll diagrams (Emit.taskBody cs) = charactersAll diagrams cs := by
  unfold Emit.taskBody
  split
  · next inline =>
    rw [charactersAll, characters_paragraph, charactersAll_nil, List.append_nil]
  · rfl

theorem charactersAll_prependText (diagrams : Bool) (value : String) (inline : List Node) :
    charactersAll diagrams (Emit.prependText value inline) =
      value.toList ++ charactersAll diagrams inline := by
  unfold Emit.prependText
  split
  · next hempty =>
    rw [String.isEmpty_iff.1 hempty]
    rfl
  · rw [charactersAll, characters]

theorem charactersAll_prependParagraph (diagrams : Bool) (inline content : List Node) :
    charactersAll diagrams (Emit.prependParagraph inline content) =
      charactersAll diagrams inline ++ charactersAll diagrams content := by
  unfold Emit.prependParagraph
  split
  · next hempty =>
    rw [List.isEmpty_iff.1 hempty, charactersAll_nil, List.nil_append]
  · rw [charactersAll, characters_paragraph]

/-- A quote shows what is converted in place of it: the content of the callout
that it is, or else its own. -/
theorem characters_blockquote (diagrams : Bool) (content : List Node) :
    (blockquote content).characters diagrams =
      charactersAll diagrams (((Emit.callout? content).map (·.2)).getD content) := by
  unfold Emit.callout?
  split
  · next value more rest =>
    rw [characters, Text.unmarked?_eq]
    rcases Emit.calloutText? value with _ | ⟨name, stripped⟩
    · -- Without a marker, the paragraph is shown as it is.
      simp only [Option.map_none, Option.getD_none, charactersAll, characters, List.append_assoc]
    · simp only [Option.map_some, Option.getD_some, charactersAll_prependParagraph,
        charactersAll_prependText]
  · next hno =>
    rw [characters]
    · rfl
    · exact hno

/-- Where lists hold items and tables rows of cells, what is converted on
behalf of a container has its text. -/
theorem charactersAll_converted (diagrams : Bool) {n : Node} (h : n.Shaped)
    (hchildren : n.children? ≠ none) :
    charactersAll diagrams n.converted = n.characters diagrams := by
  unfold converted
  split
  · next ordered start cs =>
    rw [characters]
    split
    · rw [charactersAll_flatMap, charactersAll_eq]
      refine List.flatMap_congr fun c hc => ?_
      have hkind : c.kind = .listItem := h c hc
      cases c
      case listItem checked content =>
        rw [characters]
        exact charactersAll_taskBody diagrams content
      all_goals cases hkind
    · rfl
  · next align rows =>
    rw [characters, charactersAll_flatMap, charactersAll_eq]
    refine List.flatMap_congr fun r hr => ?_
    -- Rows and cells have no text of their own, so only what is in the cells counts.
    rcases h r hr with ⟨hrow, hcells⟩
    cases r
    case tableRow cells =>
      rw [characters, charactersAll_flatMap, charactersAll_eq]
      refine List.flatMap_congr fun c hc => ?_
      have hcell : c.kind = .tableCell := hcells c hc
      cases c
      case tableCell content =>
        rw [characters]
        rfl
      all_goals cases hcell
    all_goals cases hrow
  · next cs => exact (characters_blockquote diagrams cs).symm
  · next hlist htable hquote => exact (characters_eq diagrams hchildren hquote).symm

end Node

end WikiSync
