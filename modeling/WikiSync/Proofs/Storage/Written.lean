import WikiSync.Proofs.Markup.Fragment
import WikiSync.Storage.Macro

/-!
# Escapes and Macros as Tokens

What text, sections and macros are once they are read as tokens. A text that
is escaped reads as one symbol for each of its characters. Plain text that is
put into sections reads as those sections, and none of them holds the mark
that ends it: the text is cut inside every such mark, so what stands before a
cut ends with `]]` and what stands behind it starts with `>`.

The cut marks are why sections need an argument at all. `sections_proper`
carries it: the first section is the text up to the first mark, so a mark
inside it would be an earlier one.

## Main definitions

* `symbolOf`, `symbolsOf`: How characters and texts are written.
* `sectionsOf`: The sections that a text is put into.
* `paramTokens`: The tokens of a parameter.

## Theorems

* `writes_escape`: Escaped text.
* `sections_proper`: No section holds the mark that ends it.
* `writes_cdata`: Sections.
* `writes_structuredMacro`, `writes_plainTextMacro`: Macros.
-/

namespace WikiSync.Storage

open Markup

/-! ### Text -/

/-- How a character is written. -/
def symbolOf (c : Char) : Symbol :=
  if c = '&' then .entity .amp
  else if c = '<' then .entity .lt
  else if c = '>' then .entity .gt
  else if c = '"' then .entity .quot
  else if c = '\'' then .entity .apos
  else .plain c

/-- How a text is written. -/
def symbolsOf (s : String) : List Symbol :=
  s.toList.map symbolOf

theorem spell_symbolOf (c : Char) : (symbolOf c).spell = escapeChar c := by
  unfold symbolOf escapeChar
  split
  · rfl
  · split
    · rfl
    · split
      · rfl
      · split
        · rfl
        · split
          · rfl
          · rfl

/-- No character with a meaning of its own is written as it is. -/
theorem symbolOf_proper (c : Char) : (symbolOf c).Proper := by
  by_cases h : c ∈ Symbol.reserved
  · simp only [Symbol.reserved, List.mem_cons, List.not_mem_nil, or_false] at h
    rcases h with rfl | rfl | rfl | rfl
    · exact trivial
    · exact trivial
    · exact trivial
    · exact trivial
  · -- Any other character stands for itself, except the apostrophe.
    have hplain := h
    simp only [Symbol.reserved, List.mem_cons, List.not_mem_nil, or_false, not_or] at hplain
    rcases hplain with ⟨hamp, hlt, hgt, hquot⟩
    unfold symbolOf
    rw [if_neg hamp, if_neg hlt, if_neg hgt, if_neg hquot]
    split
    · exact trivial
    · exact h

theorem symbolsOf_proper (s : String) : ∀ x ∈ symbolsOf s, x.Proper := by
  intro x hx
  rcases List.mem_map.1 hx with ⟨c, -, rfl⟩
  exact symbolOf_proper c

theorem toList_escape (s : String) :
    (escape s).toList = (symbolsOf s).flatMap Symbol.spell := by
  rw [escape, String.toList_ofList, symbolsOf, List.flatMap_map]
  congr 1
  funext c
  exact (spell_symbolOf c).symm

/-- Escaped text reads as one symbol for each character. -/
theorem writes_escape (s : String) : Writes (escape s) ((symbolsOf s).map .symbol) :=
  Writes.symbols (symbolsOf_proper s) (toList_escape s)

/-- How a text is written in which no character has a meaning of its own. -/
def plainSymbols (s : String) : List Symbol :=
  s.toList.map .plain

theorem spell_plainSymbols (s : String) : (plainSymbols s).flatMap Symbol.spell = s.toList := by
  rw [plainSymbols, List.flatMap_map]
  exact List.flatMap_singleton' s.toList

/-- Text in which no character has a meaning of its own. -/
theorem writes_plain {s : String} (h : ∀ x ∈ plainSymbols s, x.Proper) :
    Writes s ((plainSymbols s).map .symbol) :=
  Writes.symbols h (spell_plainSymbols s).symm

/-! ### Sections -/

/-- The sections that a text is put into: the first, and the others. -/
def sectionsOf : List Char → List Char × List (List Char)
  | ']' :: ']' :: '>' :: rest =>
    ([']', ']'], ('>' :: (sectionsOf rest).1) :: (sectionsOf rest).2)
  | c :: rest => (c :: (sectionsOf rest).1, (sectionsOf rest).2)
  | [] => ([], [])

/-- The text is the sections with marks in between. -/
theorem splitSectionEnds_eq (text : List Char) :
    splitSectionEnds text = (sectionsOf text).1 ++
      (sectionsOf text).2.flatMap fun s => sectionEnd ++ '<' :: sectionStart ++ s := by
  fun_induction splitSectionEnds text with
  | case1 rest ih =>
    rw [sectionsOf, ih, List.flatMap_cons]
    simp only [List.append_assoc, List.cons_append, List.nil_append]
    rfl
  | case2 c rest hmark ih =>
    rw [sectionsOf, ih]
    · rfl
    · exact hmark
  | case3 => rfl

/-- The first section is what the text starts with. -/
theorem first_prefix (text : List Char) : (sectionsOf text).1 <+: text := by
  fun_induction sectionsOf text with
  | case1 rest ih => exact ⟨'>' :: rest, rfl⟩
  | case2 c rest hmark ih => exact List.cons_prefix_cons.2 ⟨rfl, ih⟩
  | case3 => exact List.prefix_refl []

/-- No section holds the mark that ends it. -/
theorem sections_proper (text : List Char) :
    ∀ s ∈ (sectionsOf text).1 :: (sectionsOf text).2, ¬ sectionEnd <:+: s := by
  fun_induction sectionsOf text with
  | case1 rest ih =>
    intro s hs
    rcases List.mem_cons.1 hs with rfl | hs
    · change ¬ sectionEnd <:+: [']', ']']
      decide
    · rcases List.mem_cons.1 hs with rfl | hs
      · -- A mark behind the cut does not start with the cut's own `>`.
        intro hmark
        rcases List.infix_cons_iff.1 hmark with hmark | hmark
        · exact absurd (List.cons_prefix_cons.1 hmark).1 (by decide)
        · exact ih _ List.mem_cons_self hmark
      · exact ih s (List.mem_cons_of_mem _ hs)
  | case2 c rest hnone ih =>
    intro s hs
    rcases List.mem_cons.1 hs with rfl | hs
    · intro hmark
      rcases List.infix_cons_iff.1 hmark with hmark | hmark
      · -- A mark at the start would be one of the text.
        rcases hmark.trans (List.cons_prefix_cons.2 ⟨rfl, first_prefix rest⟩) with ⟨tail, htail⟩
        cases htail
        exact hnone tail rfl rfl
      · exact ih _ List.mem_cons_self hmark
    · exact ih s (List.mem_cons_of_mem _ hs)
  | case3 =>
    intro s hs
    rw [List.mem_singleton.1 hs]
    decide

/-- The tokens of a text that is put into sections. -/
def sectionTokens (text : String) : List Token :=
  ((sectionsOf text.toList).1 :: (sectionsOf text.toList).2).map .cdata

/-- A first section with marks and sections behind it, regrouped. -/
theorem spell_sections (first : List Char) (others : List (List Char)) :
    '<' :: sectionStart ++
        (first ++ others.flatMap fun s => sectionEnd ++ '<' :: sectionStart ++ s) ++ sectionEnd =
      ((first :: others).map Token.cdata).flatMap Token.spell := by
  induction others generalizing first with
  | nil =>
    simp only [Token.spell, List.map_cons, List.map_nil, List.flatMap_cons, List.flatMap_nil,
      List.append_nil, List.cons_append, List.append_assoc]
  | cons second others ih =>
    rw [List.map_cons, List.flatMap_cons, List.flatMap_cons, ← ih second]
    simp only [Token.spell, List.cons_append, List.append_assoc]

/-- Plain text reads as sections. -/
theorem writes_cdata (text : String) : Writes (cdata text) (sectionTokens text) := by
  refine ⟨?_, fun t ht => ?_, fun t ht => ?_, fun stack => ?_⟩
  · rw [sectionTokens, ← spell_sections, ← splitSectionEnds_eq]
    simp only [cdata, String.toList_append, String.toList_ofList]
    rfl
  · rcases List.mem_map.1 ht with ⟨s, hs, rfl⟩
    exact sections_proper text.toList s hs
  · rcases List.mem_map.1 ht with ⟨s, -, rfl⟩
    rfl
  · -- No section touches the stack.
    unfold sectionTokens
    generalize (sectionsOf text.toList).1 :: (sectionsOf text.toList).2 = sections
    induction sections with
    | nil => rfl
    | cons s sections ih => exact ih

/-! ### Macros -/

/-- An attribute whose value is escaped. -/
def escaped (name value : String) : Attribute :=
  ⟨name, symbolsOf value⟩

theorem values_escaped {as : List Attribute} (h : ∀ a ∈ as, ∃ name value, a = escaped name value) :
    ∀ a ∈ as, ∀ x ∈ a.value, x.Proper := by
  intro a ha x hx
  rcases h a ha with ⟨name, value, rfl⟩
  exact symbolsOf_proper value x hx

theorem values_singleton (name value : String) :
    ∀ a ∈ [escaped name value], ∀ x ∈ a.value, x.Proper :=
  values_escaped fun _ ha => ⟨name, value, List.mem_singleton.1 ha⟩

/-- The tokens of a parameter. -/
def paramTokens (p : Param) : List Token :=
  .opening "ac:parameter" [escaped "ac:name" p.1] ::
    ((symbolsOf p.2).map .symbol ++ [.closing "ac:parameter"])

theorem writes_paramsMarkup (params : List Param) :
    Writes (paramsMarkup params) (params.flatMap paramTokens) := by
  induction params with
  | nil =>
    rw [paramsMarkup, List.map_nil, String.join_nil]
    exact Writes.nil
  | cons p params ih =>
    have hknown : isKnown "ac:parameter" [escaped "ac:name" p.1] = true := by rfl
    rw [paramsMarkup, List.map_cons, String.join_cons]
    refine Writes.append ?_ ih
    refine Writes.element hknown (values_singleton _ _) (writes_escape p.2) ?_
    simp [tagText, Attribute.spell, escaped, String.toList_append, toList_escape]

/-- The tokens of an element without attributes around other tokens. -/
def elementTokens (name : String) (content : List Token) : List Token :=
  .opening name [] :: (content ++ [.closing name])

/-- An element without attributes. -/
theorem writes_plainElement {name : String} (hknown : isKnown name [] = true) {body : String}
    {ts : List Token} (hbody : Writes body ts) {markup : String}
    (htext : markup.toList =
      '<' :: (name.toList ++ '>' :: (body.toList ++ '<' :: '/' :: (name.toList ++ ['>'])))) :
    Writes markup (elementTokens name ts) := by
  refine Writes.element hknown (fun a ha => absurd ha List.not_mem_nil) hbody ?_
  rw [htext, tagText, List.flatMap_nil, List.append_nil]

/-- The tokens of a macro around the tokens of its content. -/
def macroTokens (name : String) (params : List Param) (content : List Token) : List Token :=
  .opening "ac:structured-macro" [escaped "ac:name" name] ::
    (params.flatMap paramTokens ++ content ++ [.closing "ac:structured-macro"])

theorem macro_isKnown (name : String) :
    isKnown "ac:structured-macro" [escaped "ac:name" name] = true := by
  rfl

theorem writes_structuredMacro (name : String) (params : List Param) {body : String}
    {ts : List Token} (hbody : Writes body ts) :
    Writes (structuredMacro name params (some body))
      (macroTokens name params (elementTokens "ac:rich-text-body" ts)) := by
  have hcontent : Writes ("<ac:rich-text-body>" ++ body ++ "</ac:rich-text-body>")
      (elementTokens "ac:rich-text-body" ts) :=
    writes_plainElement (by rfl) hbody (by simp [String.toList_append])
  refine Writes.element (macro_isKnown name) (values_singleton _ _)
    ((writes_paramsMarkup params).append hcontent) ?_
  unfold structuredMacro
  simp [tagText, Attribute.spell, escaped, String.toList_append, toList_escape]

theorem writes_plainTextMacro (name : String) (params : List Param) (text : String) :
    Writes (plainTextMacro name params (some text))
      (macroTokens name params (elementTokens "ac:plain-text-body" (sectionTokens text))) := by
  have hcontent : Writes ("<ac:plain-text-body>" ++ cdata text ++ "</ac:plain-text-body>")
      (elementTokens "ac:plain-text-body" (sectionTokens text)) :=
    writes_plainElement (by rfl) (writes_cdata text) (by simp [String.toList_append])
  refine Writes.element (macro_isKnown name) (values_singleton _ _)
    ((writes_paramsMarkup params).append hcontent) ?_
  unfold plainTextMacro
  simp [tagText, Attribute.spell, escaped, String.toList_append, toList_escape]

end WikiSync.Storage
