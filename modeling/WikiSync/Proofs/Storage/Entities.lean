import WikiSync.Proofs.Markup.CharacterData

/-!
# Reading Escaped Text Back

Escaped text as a reader sees it who knows the five entities and nothing else about markup.
Such a reader goes from left to right and replaces every entity by its character. It has no
way to tell an entity that escaping has put there from one that was in the text before, so
escaping has to leave none of the latter: an ampersand of the text is an entity itself.

That carries the round trip. Every character is written as one symbol, and a symbol reads
back whatever follows it (`symbol?_spell`), so the reader is at the start of a symbol again
after each of them. Nothing else is needed for texts that look as if they were escaped.

## Main definitions

* `decodeEntities`, `unescape`: A text with its entities replaced.
* `marks`: The characters that delimit markup.

## Theorems

* `decodeEntities_spell`: One symbol reads back.
* `escapeChar_cases`: How a character is written.
* `exists_entity_of_ampersand`: Every ampersand starts an entity.
* `escape_faithful`: Escaped text reads back, and it holds no mark of its own.
-/

namespace WikiSync.Storage

open Markup

/-! ### The reader -/

/-- A text with every entity replaced by its character, from left to right. An ampersand
that starts no entity stays, as does every other character. -/
def decodeEntities (s : List Char) : List Char :=
  match s with
  | [] => []
  | c :: rest =>
    match _ : symbol? (c :: rest) with
    | some (x, after) => x.char :: decodeEntities after
    | none => c :: decodeEntities rest
termination_by s.length
decreasing_by
  · exact symbol?_shorter ‹_›
  · exact Nat.lt_succ_self _

/-- A text with its entities replaced. -/
def unescape (s : String) : String :=
  String.ofList (decodeEntities s.toList)

/-- A symbol reads back, whatever follows it. -/
theorem decodeEntities_spell {x : Symbol} (hx : x.Proper) (rest : List Char) :
    decodeEntities (x.spell ++ rest) = x.char :: decodeEntities rest := by
  have hread := symbol?_spell hx rest
  rcases hspell : x.spell ++ rest with _ | ⟨c, tail⟩
  · rw [hspell] at hread
    cases hread
  · rw [hspell] at hread
    rw [decodeEntities]
    split
    · next y after hsome =>
      rw [hread] at hsome
      cases hsome
      rfl
    · next hnone =>
      rw [hread] at hnone
      cases hnone

theorem decodeEntities_spellAll {xs : List Symbol} (hxs : ∀ x ∈ xs, x.Proper) :
    decodeEntities (xs.flatMap Symbol.spell) = xs.map Symbol.char := by
  induction xs with
  | nil => rw [List.flatMap_nil, decodeEntities, List.map_nil]
  | cons x xs ih =>
    rcases List.forall_mem_cons.1 hxs with ⟨hx, hxs⟩
    rw [List.flatMap_cons, decodeEntities_spell hx, ih hxs, List.map_cons]

/-! ### What escaped text consists of -/

/-- The characters with a meaning of their own in markup, apart from the ampersand. -/
def marks : List Char :=
  ['<', '>', '"', '\'']

/-- Behind its ampersand an entity has no character with a meaning of its own. -/
theorem spell_eq (e : Entity) :
    ∃ name, e.spell = '&' :: name ∧ ∀ c ∈ name, c ∉ '&' :: marks := by
  have hspell : e.spell = '&' :: e.spell.tail := by
    cases e <;> rfl
  have hplain : e.spell.tail.all (fun c => decide (c ∉ '&' :: marks)) = true := by
    cases e <;> decide
  exact ⟨e.spell.tail, hspell, fun c hc => of_decide_eq_true (List.all_eq_true.1 hplain c hc)⟩

/-- A character is written as an entity, or as it is if it has no meaning of its own. -/
theorem escapeChar_cases (c : Char) :
    (∃ e ∈ Entity.all, escapeChar c = e.spell) ∨ (escapeChar c = [c] ∧ c ∉ '&' :: marks) := by
  unfold escapeChar
  split_ifs with hamp hlt hgt hquot hapos
  · exact Or.inl ⟨.amp, by decide, rfl⟩
  · exact Or.inl ⟨.lt, by decide, rfl⟩
  · exact Or.inl ⟨.gt, by decide, rfl⟩
  · exact Or.inl ⟨.quot, by decide, rfl⟩
  · exact Or.inl ⟨.apos, by decide, rfl⟩
  · refine Or.inr ⟨rfl, ?_⟩
    simp only [marks, List.mem_cons, List.not_mem_nil, or_false, not_or]
    exact ⟨hamp, hlt, hgt, hquot, hapos⟩

theorem not_mem_marks_of_mem {c d : Char} (h : d ∈ escapeChar c) : d ∉ marks := by
  intro hd
  rcases escapeChar_cases c with ⟨e, -, he⟩ | ⟨hc, hplain⟩
  · rcases spell_eq e with ⟨name, hspell, hname⟩
    rw [he, hspell] at h
    rcases List.mem_cons.1 h with rfl | h
    · exact absurd hd (by decide)
    · exact hname d h (List.mem_cons_of_mem _ hd)
  · rw [hc, List.mem_singleton] at h
    exact hplain (List.mem_cons_of_mem _ (h ▸ hd))

/-- Every ampersand of an escaped text starts an entity. -/
theorem exists_entity_of_ampersand (cs : List Char) {before rest : List Char}
    (h : cs.flatMap escapeChar = before ++ '&' :: rest) :
    ∃ e ∈ Entity.all, e.spell <+: '&' :: rest := by
  induction cs generalizing before with
  | nil =>
    rw [List.flatMap_nil] at h
    exact absurd h.symm (List.append_ne_nil_of_right_ne_nil _ (List.cons_ne_nil _ _))
  | cons c cs ih =>
    rw [List.flatMap_cons] at h
    rcases List.append_eq_append_iff.1 h with ⟨more, hbefore, htail⟩ | ⟨more, hc, hrest⟩
    · -- The ampersand stands behind the written form of the first character.
      exact ih htail
    · rcases more with _ | ⟨d, more⟩
      · have hstart : cs.flatMap escapeChar = [] ++ '&' :: rest := hrest.symm
        exact ih hstart
      · cases (List.cons.inj hrest).1
        rcases escapeChar_cases c with ⟨e, hmem, he⟩ | ⟨hself, hplain⟩
        · -- It is the first character of the entity, as the others are none.
          rcases spell_eq e with ⟨name, hspell, hname⟩
          rcases before with _ | ⟨b, before⟩
          · refine ⟨e, hmem, cs.flatMap escapeChar, ?_⟩
            rw [← he, h]
            rfl
          · rw [he, hspell] at hc
            have hin : '&' ∈ name := by
              rw [(List.cons.inj hc).2]
              exact List.mem_append_right _ List.mem_cons_self
            exact absurd List.mem_cons_self (hname '&' hin)
        · -- A character that stands for itself is no ampersand.
          have hin : '&' ∈ [c] := by
            rw [← hself, hc]
            exact List.mem_append_right _ List.mem_cons_self
          rw [List.mem_singleton] at hin
          exact absurd (hin ▸ List.mem_cons_self) hplain

/-! ### Escaped text -/

theorem unescape_of_escape (s : String) : unescape (escape s) = s := by
  rw [unescape, toList_escape, decodeEntities_spellAll (symbolsOf_proper s),
    map_char_symbolsOf, String.ofList_toList]

/-- Only one round of entities is replaced, and what is none stays. -/
example : unescape "&amp;lt; & <" = "&lt; & <" := by decide +kernel

/-- Escaping keeps a text and makes it harmless. Replacing the entities gives the text back,
also if it looks as if it were escaped already, so different texts are written differently.
None of the characters that delimit markup is left, and every ampersand starts one of the
five entities. Escaping goes character by character. -/
theorem escape_faithful (s t : String) :
    unescape (escape s) = s ∧
      (∀ c ∈ ['<', '>', '"', '\''], c ∉ (escape s).toList) ∧
      (∀ before rest, (escape s).toList = before ++ '&' :: rest →
        ∃ e ∈ [Entity.amp, .lt, .gt, .quot, .apos], e.spell <+: '&' :: rest) ∧
      escape (s ++ t) = escape s ++ escape t ∧
      (escape s = escape t ↔ s = t) := by
  refine ⟨unescape_of_escape s, fun c hc hmem => ?_, fun before rest h => ?_, ?_, ?_⟩
  · rw [escape, String.toList_ofList] at hmem
    rcases List.mem_flatMap.1 hmem with ⟨d, -, hd⟩
    exact not_mem_marks_of_mem hd hc
  · rw [escape, String.toList_ofList] at h
    exact exists_entity_of_ampersand s.toList h
  · simp only [escape, String.toList_append, List.flatMap_append, String.ofList_append]
  · constructor
    · intro h
      rw [← unescape_of_escape s, h, unescape_of_escape t]
    · exact congrArg escape

/-- A text that holds an entity. Its ampersand becomes an entity, and the text is told apart
from the one that the entity stands for. -/
theorem escape_faithful_entity :
    unescape (escape "&lt; & '") = "&lt; & '" ∧
      '<' ∉ (escape "&lt; & '").toList ∧
      (escape "&lt; & '").toList = "&amp;lt; ".toList ++ '&' :: "amp; &apos;".toList ∧
      (∃ e ∈ [Entity.amp, .lt, .gt, .quot, .apos], e.spell <+: '&' :: "amp; &apos;".toList) ∧
      escape "&lt; & '" ≠ escape "< & '" := by
  rcases escape_faithful "&lt; & '" "< & '" with ⟨hread, hmarks, hentity, -, hsame⟩
  have hplace : (escape "&lt; & '").toList =
      "&amp;lt; ".toList ++ '&' :: "amp; &apos;".toList := by decide
  exact ⟨hread, hmarks '<' (by decide), hplace, hentity _ _ hplace, fun h =>
    absurd (hsame.1 h) (by decide)⟩

end WikiSync.Storage
