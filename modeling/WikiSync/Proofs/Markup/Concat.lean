import Mathlib.Data.List.TakeWhile
import WikiSync.Proofs.Markup.Token

/-!
# Markup Read Piece by Piece

What is read does not depend on what follows it. A reader stops at the end of the token that
it takes off: a tag at its angle bracket, a section at the mark that ends it, an entity at
its semicolon. So two pieces of markup that both read as tokens read as those tokens when
they are put together, whoever wrote them.

This is not the same as reading back. The pieces need not be in the form in which tokens are
written, and `Token.Proper` is not asked for.

The care is at the end of a piece. A section mark or an entity could start in one piece and
end in the next, but then the first piece on its own would not have been read.

## Main definitions

* `Reader.Stable`: A reader that does not look at what follows.

## Theorems

* `Reader.all_append`: Stable readers read piece by piece.
* `token?_stable`: The reader of tokens is stable.
* `tokens?_append`: Markup is read piece by piece.
-/

namespace WikiSync.Markup

/-- A reader that takes the same thing off a text whatever follows the text. -/
def Reader.Stable {α : Type} (r : Reader α) : Prop :=
  ∀ s a rest, r.read? s = some (a, rest) → ∀ more, r.read? (s ++ more) = some (a, rest ++ more)

theorem Reader.all_of_read? {α : Type} (r : Reader α) {s rest : List Char} {a : α}
    (h : r.read? s = some (a, rest)) : r.all s = (r.all rest).map (a :: ·) := by
  have hsome : s ≠ [] := by
    rintro rfl
    exact absurd (r.shorter h) (Nat.not_lt_zero _)
  rw [Reader.all, if_neg hsome]
  split
  · next heq =>
    rw [h] at heq
    cases heq
    rfl
  · next heq =>
    rw [h] at heq
    cases heq

/-- Stable readers read piece by piece. -/
theorem Reader.all_append {α : Type} {r : Reader α} (hr : r.Stable) {s more : List Char}
    {as bs : List α} (hs : r.all s = some as) (hmore : r.all more = some bs) :
    r.all (s ++ more) = some (as ++ bs) := by
  fun_induction Reader.all r s generalizing as with
  | case1 =>
    cases hs
    exact hmore
  | case2 s hsome a rest hread ih =>
    rcases Option.map_eq_some_iff.1 hs with ⟨as', has, rfl⟩
    rw [r.all_of_read? (hr s a rest hread more), ih has]
    rfl
  | case3 => cases hs

/-! ### Symbols and sections -/

theorem symbol?_stable {s rest : List Char} {x : Symbol} (h : symbol? s = some (x, rest))
    (more : List Char) : symbol? (s ++ more) = some (x, rest ++ more) := by
  unfold symbol? at h
  split at h
  · cases h
  · next c tail =>
    split at h
    · -- An entity is written out, and it reads back whatever follows.
      rcases List.exists_of_findSome?_eq_some h with ⟨e, -, he⟩
      rcases Option.map_eq_some_iff.1 he with ⟨rest', hrest, heq⟩
      cases heq
      have hspell : c :: tail = (Symbol.entity e).spell ++ rest :=
        (List.isPrefixOf?_eq_some_iff_append_eq.1 hrest).symm
      rw [hspell, List.append_assoc]
      exact symbol?_spell (x := .entity e) trivial _
    · next hamp =>
      split at h
      · cases h
      · next hangle =>
        cases h
        simp only [List.cons_append, symbol?, hamp, hangle, if_false]

theorem cdata?_stable {s text rest : List Char} (h : cdata? s = some (text, rest))
    (more : List Char) : cdata? (s ++ more) = some (text, rest ++ more) := by
  induction s generalizing text with
  | nil => cases h
  | cons c s ih =>
    unfold cdata? at h
    split at h
    · next heq =>
      cases h
      rw [heq]
      rfl
    · next hmark heq =>
      cases heq
      rcases Option.map_eq_some_iff.1 h with ⟨⟨text', rest'⟩, hsection, hresult⟩
      cases hresult
      rw [List.cons_append, cdata?, ih hsection]
      · rfl
      · -- A mark that only what follows completes leaves too little to be read.
        intro tail hc hs
        rcases s with _ | ⟨d, _ | ⟨e, s⟩⟩
        · cases hsection
        · cases hs
          cases hsection
        · cases hs
          exact hmark s hc rfl
    · cases h

/-! ### Tokens -/

/-- What is taken and what is left before a character that does not belong, if there is one
in the text. -/
theorem span_append {p : Char → Bool} {s rest : List Char} {stop : Char}
    (h : s.dropWhile p = stop :: rest) (more : List Char) :
    (s ++ more).takeWhile p = s.takeWhile p ∧ (s ++ more).dropWhile p = stop :: rest ++ more := by
  have hstop : p stop = false := by
    have hfirst := List.head?_dropWhile_not p s
    rw [h] at hfirst
    exact hfirst
  have hs : s = s.takeWhile p ++ stop :: rest := by
    rw [← h, List.takeWhile_append_dropWhile]
  have htaken : ∀ c ∈ s.takeWhile p, p c = true := fun c => List.mem_takeWhile_imp
  have hmore : s ++ more = s.takeWhile p ++ stop :: (rest ++ more) := by
    conv_lhs => rw [hs]
    rw [List.append_assoc, List.cons_append]
  rw [hmore]
  exact takeWhile_stop htaken stop hstop (rest ++ more)

/-- A tag does not become a section. -/
theorem isPrefixOf?_sectionStart {s rest : List Char} (h : sectionStart.isPrefixOf? s = none)
    (hangle : s.dropWhile (· != '>') = '>' :: rest) (more : List Char) :
    sectionStart.isPrefixOf? (s ++ more) = none := by
  refine Option.eq_none_iff_forall_ne_some.2 fun tail htail => ?_
  rw [List.isPrefixOf?_eq_some_iff_append_eq] at htail
  rcases List.append_eq_append_iff.1 htail with ⟨as, hs, -⟩ | ⟨bs, hsection, -⟩
  · have hsome : sectionStart.isPrefixOf? s = some as :=
      List.isPrefixOf?_eq_some_iff_append_eq.2 hs.symm
    rw [h] at hsome
    cases hsome
  · -- There is no angle bracket in the mark that starts a section.
    have hmem : '>' ∈ s := (List.dropWhile_sublist (· != '>')).subset (hangle ▸ List.mem_cons_self)
    have hnot : '>' ∉ sectionStart := by decide
    exact hnot (hsection ▸ List.mem_append_left _ hmem)

theorem token?_stable : tokenReader.Stable := by
  intro s t rest h more
  change token? s = some (t, rest) at h
  change token? (s ++ more) = some (t, rest ++ more)
  unfold token? at h
  split at h
  · next s =>
    split at h
    · next inner hlead =>
      rcases Option.map_eq_some_iff.1 h with ⟨⟨text, rest'⟩, hsection, hresult⟩
      cases hresult
      have hlead' : sectionStart.isPrefixOf? (s ++ more) = some (inner ++ more) := by
        rw [List.isPrefixOf?_eq_some_iff_append_eq] at hlead ⊢
        rw [← hlead, List.append_assoc]
      simp only [List.cons_append, token?, hlead', cdata?_stable hsection more, Option.map_some]
    · next hlead =>
      split at h
      · next rest' hangle =>
        rcases Option.map_eq_some_iff.1 h with ⟨t', htag, hresult⟩
        cases hresult
        rcases span_append hangle more with ⟨htake, hdrop⟩
        simp only [List.cons_append, token?, isPrefixOf?_sectionStart hlead hangle more, htake,
          hdrop, htag, Option.map_some]
      · cases h
  · next hopen =>
    rcases Option.map_eq_some_iff.1 h with ⟨⟨x, rest'⟩, hsymbol, hresult⟩
    cases hresult
    have hsymbol' := symbol?_stable hsymbol more
    unfold token?
    split
    · next s' heq =>
      rcases s with _ | ⟨c, s⟩
      · cases hsymbol
      · exact absurd (List.cons.inj heq).1 fun hc => hopen s (hc ▸ rfl)
    · rw [hsymbol']
      rfl

/-- Markup is read piece by piece. -/
theorem tokens?_append {s more : List Char} {ts us : List Token} (hs : tokens? s = some ts)
    (hmore : tokens? more = some us) : tokens? (s ++ more) = some (ts ++ us) :=
  Reader.all_append token?_stable hs hmore

end WikiSync.Markup
