import WikiSync.Proofs.Markup.CharacterData

/-!
# Reading Plain Text Back

A macro with plain text holds sections and nothing else. Whoever reads them knows
where a section starts, but not where it is meant to end: it ends at the first mark
behind the start, whoever put it there. So plain text that holds such marks is only
read back if no section that was written holds one, and none that arises where two
things meet, such as brackets at the end of a section in front of its mark.

The reader of sections is the one of tokens without tags and text, so this comes from
`sections_proper`, and the text comes back by `flatten_sections`.

That another text gives another macro needs the reader of whole macros. The name and
the parameters may differ as well, and they are written in front of the text. But they
are no character data, and the text is all the character data that there is.

## Main definitions

* `CutAtFirst`: A text up to the first mark in it.
* `readSection?`, `sectionReader`: Reads sections.
* `macroStart`: What stands in front of the content of a macro.

## Theorems

* `cdata?_eq_some_iff`: A section ends at the first mark.
* `readSection?_spell`, `sections_spell`: Sections read back.
* `characterData?_plainTextMacro`: The character data of a macro.
* `plainTextMacro_reads_back`: Plain text reads back, and tells macros apart.
-/

namespace WikiSync.Markup

open Storage

/-! ### The first mark -/

/-- A text that is cut at the first mark in it. -/
structure CutAtFirst (s text rest : List Char) : Prop where
  eq : s = text ++ sectionEnd ++ rest
  first : ∀ text' rest', s = text' ++ sectionEnd ++ rest' → text.length ≤ text'.length

/-- What stands in front of the first mark holds none. -/
theorem CutAtFirst.not_infix {s text rest : List Char} (h : CutAtFirst s text rest) :
    ¬ sectionEnd <:+: text := by
  rintro ⟨before, after, hmark⟩
  have hearlier : s = before ++ sectionEnd ++ (after ++ sectionEnd ++ rest) := by
    rw [h.eq, ← hmark]
    simp only [List.append_assoc]
  have hle := h.first before _ hearlier
  have hlength := congrArg List.length hmark
  have hmarkLength : sectionEnd.length = 3 := by decide
  rw [List.length_append, List.length_append] at hlength
  omega

theorem cutAtFirst_nil (rest : List Char) : CutAtFirst (sectionEnd ++ rest) [] rest :=
  ⟨rfl, fun _ _ _ => Nat.zero_le _⟩

/-- No mark at the start, so the first one is that of the rest. -/
theorem CutAtFirst.cons {c : Char} {s text rest : List Char}
    (hmark : ∀ tail, c :: s ≠ sectionEnd ++ tail) (h : CutAtFirst s text rest) :
    CutAtFirst (c :: s) (c :: text) rest := by
  refine ⟨by rw [h.eq]; rfl, fun text' rest' heq => ?_⟩
  rcases text' with _ | ⟨d, text'⟩
  · exact absurd heq (hmark rest')
  · exact Nat.succ_le_succ (h.first text' rest' (List.cons.inj heq).2)

/-- A section ends at the first mark. -/
theorem cdata?_eq_some_iff {s text rest : List Char} :
    cdata? s = some (text, rest) ↔ CutAtFirst s text rest := by
  constructor
  · intro h
    fun_induction cdata? s generalizing text with
    | case1 rest' =>
      cases h
      exact cutAtFirst_nil rest
    | case2 c s hnone ih =>
      rcases Option.map_eq_some_iff.1 h with ⟨⟨text', rest'⟩, hread, heq⟩
      cases heq
      refine (ih hread).cons fun tail htail => ?_
      cases htail
      exact hnone tail rfl rfl
    | case3 => cases h
  · intro h
    rw [h.eq]
    exact cdata?_append h.not_infix rest

/-! ### Sections and nothing else -/

/-- Reads a section: the mark that starts it, and its text. -/
def readSection? : List Char → Option (List Char × List Char)
  | '<' :: s => (sectionStart.isPrefixOf? s).bind cdata?
  | _ => none

theorem readSection?_shorter {s text rest : List Char} (h : readSection? s = some (text, rest)) :
    rest.length < s.length := by
  unfold readSection? at h
  split at h
  · rcases Option.bind_eq_some_iff.1 h with ⟨inner, hstart, hread⟩
    have hstartLength := length_isPrefixOf? hstart
    have hlength := cdata?_shorter hread
    rw [List.length_cons]
    omega
  · cases h

/-- The reader of sections. -/
def sectionReader : Reader (List Char) :=
  ⟨readSection?, readSection?_shorter⟩

theorem readSection?_spell {text : List Char} (h : ¬ sectionEnd <:+: text) (rest : List Char) :
    readSection? ((Token.cdata text).spell ++ rest) = some (text, rest) := by
  have hspell : (Token.cdata text).spell ++ rest =
      '<' :: (sectionStart ++ (text ++ sectionEnd ++ rest)) := by
    simp only [Token.spell, List.cons_append, List.append_assoc]
  have hstart : sectionStart.isPrefixOf? (sectionStart ++ (text ++ sectionEnd ++ rest)) =
      some (text ++ sectionEnd ++ rest) := List.isPrefixOf?_eq_some_iff_append_eq.2 rfl
  rw [hspell, readSection?, hstart, Option.bind_some, cdata?_append h]

/-- Sections without marks read back. -/
theorem sections_spell {sections : List (List Char)}
    (h : ∀ text ∈ sections, ¬ sectionEnd <:+: text) :
    sectionReader.all ((sections.map Token.cdata).flatMap Token.spell) = some sections := by
  rw [List.flatMap_map]
  exact sectionReader.all_spell (fun text => (Token.cdata text).spell) sections
    fun text htext => readSection?_spell (h text htext)

end WikiSync.Markup

namespace WikiSync.Storage

open Markup

/-- What stands in front of the content of a macro. -/
def macroStart (name : String) (params : List Param) : String :=
  "<ac:structured-macro ac:name=\"" ++ escape name ++ "\">" ++ paramsMarkup params

/-- Plain text reads back as its sections. -/
theorem sections_cdata (text : String) :
    sectionReader.all (cdata text).toList =
      some ((sectionsOf text.toList).1 :: (sectionsOf text.toList).2) := by
  rw [(writes_cdata text).spelled, sectionTokens]
  exact sections_spell (sections_proper text.toList)

/-- The character data of a macro is its text. -/
theorem characterData?_plainTextMacro (name : String) (params : List Param) (text : String) :
    characterData? (plainTextMacro name params (some text)) = some text.toList :=
  characterData?_eq (writes_plainTextMacro name params text) <|
    shows_macro name params ((shows_sections text).element (by decide) [])

/-- The content of a macro with plain text is read as sections, each up to the first
mark behind its start. Nothing is left, and the sections are the text. So only macros
with the same text are the same. -/
theorem plainTextMacro_reads_back (name : String) (params : List Param) (body : String) :
    (∃ content sections,
      plainTextMacro name params (some body) =
        macroStart name params ++ "<ac:plain-text-body>" ++ content ++
          "</ac:plain-text-body>" ++ "</ac:structured-macro>" ∧
      sectionReader.all content.toList = some sections ∧
      sections.flatten = body.toList) ∧
    ∀ other, (∃ name' params', plainTextMacro name' params' (some other) =
      plainTextMacro name params (some body)) ↔ other = body := by
  refine ⟨⟨cdata body, _, ?_, sections_cdata body, ?_⟩, fun other => ⟨?_, ?_⟩⟩
  · refine String.toList_inj.1 ?_
    unfold plainTextMacro macroStart
    simp only [String.toList_append, List.append_assoc]
  · rw [List.flatten_cons, flatten_sections]
  · rintro ⟨name', params', heq⟩
    have hdata := characterData?_plainTextMacro name' params' other
    rw [heq, characterData?_plainTextMacro] at hdata
    exact (String.toList_inj.1 (Option.some.inj hdata)).symm
  · rintro rfl
    exact ⟨name, params, rfl⟩

/-- Brackets that run into the mark. -/
example : cdata "]]]]>]]" = "<![CDATA[]]]]]]><![CDATA[>]]]]>" := by decide

end WikiSync.Storage
