import Mathlib.Data.List.Forall2
import WikiSync.Proofs.Convert.Equations
import WikiSync.Proofs.Document.Text

/-!
# Callouts

Which quotes are callouts, and what they hold. A quote is a callout if its first text, right
at the start of its first paragraph, starts with a marker: an exclamation mark and a tag in
brackets. The conversion tries one tag after the other, compares capital letters and takes
white space off. Here a marker is spelled out instead: a word that is the tag letter by
letter, each of them capital or small, and any white space behind the bracket. What follows
does not start with white space, so a text is cut in one way only.

A callout holds what the quote holds, without the marker. The text in which it stood is
dropped if nothing is left of it, and so is the paragraph. Everything else stays as it is.

The letters of tags are ASCII letters, and none of them has another character for a capital
or small form. So comparing capital letters is comparing letters in any case
(`Text.toUpper_eq_iff`).

## Main definitions

* `Callout.Tag`: The tags, with their words and macros.
* `Callout.Marked`: A text with a marker, and what is left without it.
* `Callout.Stripped`: Content without its marker.
* `Callout.Holds`: A quote that is a callout, and what it holds.

## Theorems

* `Callout.stripTag?_eq_some_iff`: Taking off one tag.
* `Callout.callout?_eq_some_iff`: The callouts that the conversion finds.
* `Callout.markup_quote`: What becomes of quotes.
-/

namespace WikiSync

/-! ### Letters -/

namespace Text

theorem toNat_toUpper (c : Char) :
    c.toUpper.toNat = if 97 ≤ c.toNat ∧ c.toNat ≤ 122 then c.toNat - 32 else c.toNat := by
  unfold Char.toUpper
  split
  · next h =>
    have hsmall : 97 ≤ c.toNat ∧ c.toNat ≤ 122 := h
    have hsum : (c.val + ('A'.val - 'a'.val)).toNat = (c.toNat + 4294967264) % 4294967296 :=
      UInt32.toNat_add _ _
    rw [if_pos hsmall]
    refine hsum.trans ?_
    omega
  · next h => exact (if_neg h).symm

theorem toNat_toLower (c : Char) :
    c.toLower.toNat = if 65 ≤ c.toNat ∧ c.toNat ≤ 90 then c.toNat + 32 else c.toNat := by
  unfold Char.toLower
  split
  · next h =>
    have hcapital : 65 ≤ c.toNat ∧ c.toNat ≤ 90 := h
    have hsum : (c.val + ('a'.val - 'A'.val)).toNat = (c.toNat + 32) % 4294967296 :=
      UInt32.toNat_add _ _
    rw [if_pos hcapital]
    refine hsum.trans ?_
    omega
  · next h => exact (if_neg h).symm

/-- A capital letter is the capital form of itself and of its small form. -/
theorem toUpper_eq_iff {letter : Char} (h : letter.isUpper = true) (c : Char) :
    c.toUpper = letter ↔ c = letter ∨ c = letter.toLower := by
  have hcapital : 65 ≤ letter.toNat ∧ letter.toNat ≤ 90 := of_decide_eq_true h
  rw [← Char.toNat_inj, ← Char.toNat_inj, ← Char.toNat_inj, toNat_toUpper, toNat_toLower,
    if_pos hcapital]
  split
  · omega
  · omega

end Text

namespace Callout

/-! ### Tags and markers -/

/-- The tags of callouts. -/
inductive Tag where
  | note
  | tip
  | important
  | warning
  | caution
deriving DecidableEq

/-- The word of a tag, in capital letters. -/
def Tag.word : Tag → String
  | note => "NOTE"
  | tip => "TIP"
  | important => "IMPORTANT"
  | warning => "WARNING"
  | caution => "CAUTION"

/-- The macro that shows callouts with a tag. -/
def Tag.macroName : Tag → String
  | note => "info"
  | tip => "tip"
  | important => "note"
  | warning | caution => "warning"

/-- A word in any mix of capital and small letters. -/
def Spelled (word : List Char) (letters : String) : Prop :=
  List.Forall₂ (fun c letter => c = letter ∨ c = letter.toLower) word letters.toList

/-- A text with the marker of a tag, and what is left without the marker and all the white
space behind it. -/
inductive Marked (tag : Tag) : List Char → List Char → Prop
  | mk {word blanks rest : List Char} (hword : Spelled word tag.word)
      (hblanks : ∀ c ∈ blanks, Text.isBlankChar c = true)
      (hrest : ∀ c ∈ rest.head?, Text.isBlankChar c = false) :
      Marked tag ('[' :: '!' :: word ++ ']' :: (blanks ++ rest)) rest

theorem mem_calloutTags {word name : String} :
    (word, name) ∈ Emit.calloutTags ↔ ∃ tag : Tag, tag.word = word ∧ tag.macroName = name := by
  constructor
  · intro h
    simp only [Emit.calloutTags, List.mem_cons, List.not_mem_nil, or_false, Prod.mk.injEq] at h
    rcases h with ⟨rfl, rfl⟩ | ⟨rfl, rfl⟩ | ⟨rfl, rfl⟩ | ⟨rfl, rfl⟩ | ⟨rfl, rfl⟩
    · exact ⟨.note, rfl, rfl⟩
    · exact ⟨.warning, rfl, rfl⟩
    · exact ⟨.tip, rfl, rfl⟩
    · exact ⟨.important, rfl, rfl⟩
    · exact ⟨.caution, rfl, rfl⟩
  · rintro ⟨tag, rfl, rfl⟩
    cases tag <;> decide

/-- Comparing capital letters is comparing letters in any case. -/
theorem spelled_iff (word : List Char) (tag : Tag) :
    Spelled word tag.word ↔ word.map Char.toUpper = tag.word.toList := by
  have hcapitals : tag.word.toList.all Char.isUpper = true := by
    cases tag <;> decide
  unfold Spelled
  generalize tag.word.toList = letters at hcapitals
  induction letters generalizing word with
  | nil => rw [List.forall₂_nil_right_iff, List.map_eq_nil_iff]
  | cons letter letters ih =>
    rw [List.all_cons, Bool.and_eq_true] at hcapitals
    rcases hcapitals with ⟨hletter, hletters⟩
    rcases word with _ | ⟨c, word⟩
    · exact ⟨(nomatch ·), (nomatch ·)⟩
    · rw [List.forall₂_cons, List.map_cons, List.cons.injEq, Text.toUpper_eq_iff hletter]
      exact and_congr_right fun _ => ih word hletters

/-- The white space behind a bracket comes to an end. -/
theorem marked_behind {tag : Tag} {word : List Char} (hword : Spelled word tag.word)
    (behind : List Char) :
    Marked tag ('[' :: '!' :: word ++ ']' :: behind) (behind.dropWhile Text.isBlankChar) := by
  have hrest : ∀ c ∈ (behind.dropWhile Text.isBlankChar).head?, Text.isBlankChar c = false := by
    intro c hc
    have hfirst := List.head?_dropWhile_not Text.isBlankChar behind
    rw [hc] at hfirst
    exact hfirst
  have hblanks : ∀ c ∈ behind.takeWhile Text.isBlankChar, Text.isBlankChar c = true :=
    fun c => List.mem_takeWhile_imp
  have hmarked := Marked.mk hword hblanks hrest
  rwa [List.takeWhile_append_dropWhile] at hmarked

/-- A text that does not start with white space is what is left behind white space. -/
theorem dropWhile_blank_append {blanks rest : List Char}
    (hblanks : ∀ c ∈ blanks, Text.isBlankChar c = true)
    (hrest : ∀ c ∈ rest.head?, Text.isBlankChar c = false) :
    (blanks ++ rest).dropWhile Text.isBlankChar = rest := by
  rw [List.dropWhile_append_of_pos hblanks]
  rcases rest with _ | ⟨c, rest⟩
  · rfl
  · exact List.dropWhile_cons_of_neg (Bool.eq_false_iff.1 (hrest c rfl))

/-- Taking off one tag. -/
theorem stripTag?_eq_some_iff (text : String) (tag : Tag) (rest : List Char) :
    Emit.stripTag? text tag.word = some rest ↔ Marked tag text.toList rest := by
  unfold Emit.stripTag?
  generalize text.toList = cs
  constructor
  · intro h
    split at h
    · next inner =>
      split at h
      · next hword =>
        split at h
        · next after hafter =>
          have hmarked := marked_behind ((spelled_iff _ tag).2 hword) after
          rw [List.cons_append, List.cons_append, ← hafter, List.take_append_drop] at hmarked
          cases h
          exact hmarked
        · cases h
      · cases h
    · cases h
  · rintro ⟨hword, hblanks, hrest⟩
    next word blanks =>
    have hlength : tag.word.length = word.length := hword.length_eq.symm
    simp only [List.cons_append, hlength, List.take_left, List.drop_left,
      (spelled_iff word tag).1 hword, if_true, dropWhile_blank_append hblanks hrest]

/-- A text has one marker only. -/
theorem Marked.unique {tag tag' : Tag} {text : String} {rest rest' : List Char}
    (h : Marked tag text.toList rest) (h' : Marked tag' text.toList rest') :
    tag = tag' ∧ rest = rest' := by
  have hbracket (t : Tag) : ']' ∉ t.word.toList := by
    cases t <;> decide
  have hword : ∀ t t' : Tag, t.word = t'.word → t = t' := by
    intro t t' heq
    cases t <;> cases t' <;> first | rfl | exact absurd heq (by decide)
  rw [← stripTag?_eq_some_iff, Emit.stripTag?_eq (hbracket _)] at h h'
  rcases hmarker : Text.marker? text.toList with _ | ⟨word, after⟩
  · rw [hmarker] at h
    cases h
  · simp only [hmarker, Option.bind_some] at h h'
    split at h
    · next hsame =>
      split at h'
      · next hsame' =>
        exact ⟨hword tag tag' (hsame.symm.trans hsame'), Option.some.inj (h.symm.trans h')⟩
      · cases h'
    · cases h

/-- Trying one tag after the other finds the marker. -/
theorem calloutText?_eq_some_iff (text name stripped : String) :
    Emit.calloutText? text = some (name, stripped) ↔
      ∃ tag : Tag, tag.macroName = name ∧ Marked tag text.toList stripped.toList := by
  have hfound {name stripped : String} (h : Emit.calloutText? text = some (name, stripped)) :
      ∃ tag : Tag, tag.macroName = name ∧ Marked tag text.toList stripped.toList := by
    rcases List.exists_of_findSome?_eq_some h with ⟨⟨word, name'⟩, hmem, hstrip⟩
    rcases mem_calloutTags.1 hmem with ⟨tag, rfl, rfl⟩
    rcases Option.map_eq_some_iff.1 hstrip with ⟨rest, hrest, heq⟩
    cases heq
    rw [String.toList_ofList]
    exact ⟨tag, rfl, (stripTag?_eq_some_iff text tag rest).1 hrest⟩
  refine ⟨hfound, ?_⟩
  rintro ⟨tag, rfl, hmarked⟩
  -- Some tag is found, and no other than this one can be.
  have hsome : (Emit.calloutText? text).isSome := by
    refine List.findSome?_isSome_iff.2 ⟨_, mem_calloutTags.2 ⟨tag, rfl, rfl⟩, ?_⟩
    simp only [(stripTag?_eq_some_iff text tag _).2 hmarked, Option.map_some, Option.isSome_some]
  rcases Option.isSome_iff_exists.1 hsome with ⟨⟨name', stripped'⟩, hvalue⟩
  rcases hfound hvalue with ⟨tag', rfl, hmarked'⟩
  rcases hmarked.unique hmarked' with ⟨rfl, hrest⟩
  rw [hvalue, String.toList_inj.1 hrest]

/-! ### Content without its marker -/

/-- The content of a quote without the marker in its first text: what is left of the text
comes before the rest of the first paragraph and the blocks below it. A text of which nothing
is left is dropped, and so is a paragraph. -/
inductive Stripped (rest : String) (more blocks : List Node) : List Node → Prop
  | text (hrest : rest ≠ "") : Stripped rest more blocks (.paragraph (.text rest :: more) :: blocks)
  | noText (hrest : rest = "") (hmore : more ≠ []) :
      Stripped rest more blocks (.paragraph more :: blocks)
  | noParagraph (hrest : rest = "") (hmore : more = []) : Stripped rest more blocks blocks

/-- A quote that is a callout with a tag, and what it holds. -/
inductive Holds : List Node → Tag → List Node → Prop
  | mk {tag : Tag} {value rest : String} {more blocks inner : List Node}
      (hmarked : Marked tag value.toList rest.toList) (hinner : Stripped rest more blocks inner) :
      Holds (.paragraph (.text value :: more) :: blocks) tag inner

theorem stripped_iff {rest : String} {more blocks inner : List Node} :
    Stripped rest more blocks inner ↔
      Emit.prependParagraph (Emit.prependText rest more) blocks = inner := by
  unfold Emit.prependParagraph Emit.prependText
  simp only [String.isEmpty_iff, List.isEmpty_iff]
  constructor
  · rintro (hrest | ⟨hrest, hmore⟩ | ⟨hrest, hmore⟩)
    · rw [if_neg hrest, if_neg (List.cons_ne_nil _ _)]
    · rw [if_pos hrest, if_neg hmore]
    · rw [if_pos hrest, if_pos hmore]
  · rintro rfl
    by_cases hrest : rest = ""
    · rw [if_pos hrest]
      by_cases hmore : more = []
      · rw [if_pos hmore]
        exact .noParagraph hrest hmore
      · rw [if_neg hmore]
        exact .noText hrest hmore
    · rw [if_neg hrest, if_neg (List.cons_ne_nil _ _)]
      exact .text hrest

/-- The callouts that the conversion finds. -/
theorem callout?_eq_some_iff (content : List Node) (name : String) (inner : List Node) :
    Emit.callout? content = some (name, inner) ↔
      ∃ tag : Tag, tag.macroName = name ∧ Holds content tag inner := by
  constructor
  · intro h
    unfold Emit.callout? at h
    split at h
    · next value more blocks =>
      rcases Option.map_eq_some_iff.1 h with ⟨⟨name', rest⟩, htext, heq⟩
      rcases (calloutText?_eq_some_iff value name' rest).1 htext with ⟨tag, htag, hmarked⟩
      rcases Prod.mk.inj heq with ⟨hname, hinner⟩
      exact ⟨tag, htag.trans hname, .mk hmarked (stripped_iff.2 hinner)⟩
    · cases h
  · rintro ⟨tag, rfl, ⟨hmarked, hinner⟩⟩
    next value rest more blocks =>
    have htext := (calloutText?_eq_some_iff value tag.macroName rest).2 ⟨tag, rfl, hmarked⟩
    simp only [Emit.callout?, htext, Option.map_some, stripped_iff.1 hinner]

/-! ### The markup of quotes -/

/-- The markup of a callout. -/
def markupOf (tag : Tag) (body : String) : String :=
  "<ac:structured-macro ac:name=\"" ++ tag.macroName ++ "\"><ac:rich-text-body>" ++ body ++
    "</ac:rich-text-body></ac:structured-macro>"

theorem structuredMacro_eq (tag : Tag) (body : String) :
    Storage.structuredMacro tag.macroName [] (some body) = markupOf tag body := by
  have hname : Storage.escape tag.macroName = tag.macroName := by
    cases tag <;> decide
  have hparams : Storage.paramsMarkup [] = "" := rfl
  have hopening : "\"><ac:rich-text-body>" = "\"" ++ ">" ++ "<ac:rich-text-body>" := by decide
  have hclosing : "</ac:rich-text-body></ac:structured-macro>" =
      "</ac:rich-text-body>" ++ "</ac:structured-macro>" := by decide
  unfold Storage.structuredMacro markupOf
  rw [hname, hparams, hopening, hclosing]
  simp only [String.append_assoc, String.empty_append]

theorem markupOf_ne (tag : Tag) (body other : String) :
    markupOf tag body ≠ Emit.element "blockquote" other := by
  unfold markupOf
  generalize tag.macroName = name
  intro h
  rw [← String.toList_inj] at h
  simp [Emit.element, String.toList_append] at h

/-- A marker at the start of the first text of the first paragraph. -/
def Starts (content : List Node) : Prop :=
  ∃ (tag : Tag) (value : String) (more blocks : List Node) (word behind : List Char),
    content = .paragraph (.text value :: more) :: blocks ∧
      value.toList = '[' :: '!' :: word ++ ']' :: behind ∧ Spelled word tag.word

/-- A marker is all that it takes. -/
theorem exists_holds_iff {content : List Node} :
    (∃ tag inner, Holds content tag inner) ↔ Starts content := by
  constructor
  · rintro ⟨tag, inner, ⟨hmarked, -⟩⟩
    next value rest more blocks =>
    generalize hvalue : value.toList = cs at hmarked
    rcases hmarked with ⟨hword, hblanks, hrest⟩
    exact ⟨tag, value, more, blocks, _, _, rfl, hvalue, hword⟩
  · rintro ⟨tag, value, more, blocks, word, behind, rfl, hvalue, hword⟩
    have hmarked := marked_behind hword behind
    rw [← hvalue, ← String.toList_ofList (l := behind.dropWhile Text.isBlankChar)] at hmarked
    exact ⟨tag, _, .mk hmarked (stripped_iff.2 rfl)⟩

open Converter (markup markupAll)

theorem markup_of_holds (ctx : Context) {content inner : List Node} {tag : Tag}
    (h : Holds content tag inner) :
    markup ctx (.blockquote content) = markupOf tag <$> markupAll ctx inner := by
  have hcallout := (callout?_eq_some_iff content tag.macroName inner).2 ⟨tag, rfl, h⟩
  rw [Converter.markup_blockquote, Emit.quoteOf]
  simp only [hcallout, structuredMacro_eq]
  rfl

theorem markup_of_not_starts (ctx : Context) {content : List Node} (h : ¬ Starts content) :
    markup ctx (.blockquote content) = Emit.element "blockquote" <$> markupAll ctx content := by
  rw [Converter.markup_blockquote, Emit.quoteOf]
  rcases hcallout : Emit.callout? content with _ | ⟨name, inner⟩
  · rfl
  · rcases (callout?_eq_some_iff content name inner).1 hcallout with ⟨tag, -, hholds⟩
    exact absurd (exists_holds_iff.1 ⟨tag, inner, hholds⟩) h

/-- What becomes of a quote. If it is a callout, it is the macro of its tag around what it
holds, and otherwise it is a quote around everything in it. It is a callout exactly if it
starts with a marker, and this can be told from the markup. Neither the case of the letters
of the marker nor the white space behind it makes a difference. -/
theorem markup_quote (ctx : Context) (content : List Node) :
    (∀ tag inner, Holds content tag inner →
      markup ctx (.blockquote content) = markupOf tag <$> markupAll ctx inner) ∧
    (¬ Starts content →
      markup ctx (.blockquote content) = Emit.element "blockquote" <$> markupAll ctx content) ∧
    ((∃ tag inner, Holds content tag inner) ↔ Starts content) ∧
    (∀ out, (markup ctx (.blockquote content)).outcome = .ok out →
      ((∃ tag body, out = markupOf tag body) ↔ Starts content)) ∧
    ∀ tag value value' rest more blocks, content = .paragraph (.text value :: more) :: blocks →
      Marked tag value.toList rest → Marked tag value'.toList rest →
      markup ctx (.blockquote content) =
        markup ctx (.blockquote (.paragraph (.text value' :: more) :: blocks)) := by
  refine ⟨fun tag inner => markup_of_holds ctx, markup_of_not_starts ctx, exists_holds_iff,
    fun out hout => ?_, ?_⟩
  · by_cases hstarts : Starts content
    · rcases exists_holds_iff.2 hstarts with ⟨tag, inner, hholds⟩
      rw [markup_of_holds ctx hholds, Emission.outcome_map_eq_ok] at hout
      rcases hout with ⟨body, -, rfl⟩
      exact ⟨fun _ => hstarts, fun _ => ⟨tag, body, rfl⟩⟩
    · rw [markup_of_not_starts ctx hstarts, Emission.outcome_map_eq_ok] at hout
      rcases hout with ⟨other, -, rfl⟩
      exact ⟨fun ⟨tag, body, heq⟩ => absurd heq.symm (markupOf_ne tag body other),
        fun h => absurd h hstarts⟩
  · rintro tag value value' rest more blocks rfl hmarked hmarked'
    rw [← String.toList_ofList (l := rest)] at hmarked hmarked'
    -- The same is left of both texts, so both quotes hold the same.
    rw [markup_of_holds ctx (.mk hmarked (stripped_iff.2 rfl)),
      markup_of_holds ctx (.mk hmarked' (stripped_iff.2 rfl))]

/-- Nothing is left of the text with the marker, but something of its paragraph. A marker in
another text is none. -/
theorem markup_quote_mixedCase :
    let ctx := Context.ofFrontMatter ⟨true, false⟩ .empty
    let quote (text : String) : List Node := [.paragraph [.text text, .break], .thematicBreak]
    let later : List Node := [.paragraph [.emphasis [.text "[!TIP]"]]]
    Holds (quote "[!tIp]\u2003 ") .tip [.paragraph [.break], .thematicBreak] ∧
      (markup ctx (.blockquote (quote "[!tIp]\u2003 "))).outcome =
        .ok (markupOf .tip "<p><br/></p><hr/>") ∧
      markup ctx (.blockquote (quote "[!tIp]\u2003 ")) =
        markup ctx (.blockquote (quote "[!TIP]")) ∧
      ¬ Starts later ∧
      (markup ctx (.blockquote later)).outcome =
        .ok "<blockquote><p><em>[!TIP]</em></p></blockquote>" := by
  intro ctx quote later
  have hmarked : Marked .tip "[!tIp]\u2003 ".toList "".toList :=
    (stripTag?_eq_some_iff _ _ _).1 (by decide +kernel)
  have hmarked' : Marked .tip "[!TIP]".toList "".toList :=
    (stripTag?_eq_some_iff _ _ _).1 (by decide +kernel)
  have hholds : Holds (quote "[!tIp]\u2003 ") .tip [.paragraph [.break], .thematicBreak] :=
    .mk hmarked (.noText rfl (List.cons_ne_nil _ _))
  have hlater : ¬ Starts later := by
    rintro ⟨tag, value, more, blocks, word, behind, hcontent, -⟩
    rcases List.cons.inj hcontent with ⟨hparagraph, -⟩
    cases hparagraph
  rcases markup_quote ctx (quote "[!tIp]\u2003 ") with ⟨hcallout, -, -, -, hsame⟩
  refine ⟨hholds, ?_, hsame _ _ _ _ _ _ rfl hmarked hmarked', hlater, ?_⟩
  · simp only [hcallout _ _ hholds, markupAll, List.map_cons, List.map_nil,
      Converter.markup_paragraph, Converter.markup_break, Converter.markup_thematicBreak]
    refine congrArg Except.ok ?_
    decide +kernel
  · simp only [later, (markup_quote ctx later).2.1 hlater, markupAll, List.map_cons, List.map_nil,
      Converter.markup_paragraph, Converter.markup_emphasis, Converter.markup_text]
    refine congrArg Except.ok ?_
    decide +kernel

end Callout

end WikiSync
