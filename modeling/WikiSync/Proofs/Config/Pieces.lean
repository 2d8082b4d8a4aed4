import Mathlib.Data.List.Forall2
import Mathlib.Data.List.Infix
import WikiSync.Config.Expand

/-!
# The Pieces of a Setting

Which parts of a text are references. A reference starts with a dollar sign and an open
brace, wherever they first occur, and it ends with the first closing brace up to which as
many braces are closed as were opened. Behind it the same is asked of the rest. What has
no such end is literal, with everything behind it.

This is a relation between texts and pieces (`Splits`), and it says nothing about how
the pieces are found. It does not count a depth either. That there is at most one way to
split a text, and that the scanner finds it, are both read off two facts about the
scanner: it stops in front of the first opening (`spanLiteral_spec`), and behind the
shortest balanced text (`found_spanBraces?`).

The second one is an induction along the text with the number of braces that are open. It
needs one of them to be open, because a brace that is closed when none is open counts as
no brace for the scanner. An opening holds such a brace.

## Main definitions

* `opening`, `OpensAfter`: Where references start.
* `Balances`, `Closes`: Where references end.
* `Splits`: The ways to split a text into pieces.
* `Piece.replace`, `replaceReferences`: A text with its references replaced in any way.
* `Replaced`: What comes of that.

## Theorems

* `spanLiteral_spec`, `found_spanBraces?`: The two halves of the scanner.
* `splits_iff`: There is one way to split a text, and it is found.
* `replaced_replaceReferences`: Literals are kept, and the first failure counts.
-/

namespace WikiSync

/-! ### Where references start -/

/-- What a reference starts with. -/
def opening : List Char := ['$', '{']

/-- The first opening in a text: what stands in front of it, and what starts with it. -/
structure OpensAfter (cs before start : List Char) : Prop where
  eq : cs = before ++ start
  opens : opening <+: start
  first : ∀ before' start', cs = before' ++ start' → opening <+: start' →
    before.length ≤ before'.length

theorem opensAfter_nil {cs : List Char} (h : opening <+: cs) : OpensAfter cs [] cs :=
  ⟨rfl, h, fun _ _ _ _ => Nat.zero_le _⟩

/-- A character that starts no opening comes in front of the first one. -/
theorem OpensAfter.cons {c : Char} {cs before start : List Char} (hc : ¬ opening <+: c :: cs)
    (h : OpensAfter cs before start) : OpensAfter (c :: cs) (c :: before) start := by
  refine ⟨by rw [h.eq]; rfl, h.opens, fun before' start' heq hopens => ?_⟩
  rcases before' with _ | ⟨d, before'⟩
  · exact absurd (by rwa [heq]) hc
  · exact Nat.succ_le_succ (h.first before' start' (List.cons.inj heq).2 hopens)

/-- There is one first opening. -/
theorem OpensAfter.unique {cs before start before' start' : List Char}
    (h : OpensAfter cs before start) (h' : OpensAfter cs before' start') :
    before = before' ∧ start = start' :=
  List.append_inj (h.eq.symm.trans h'.eq) <|
    Nat.le_antisymm (h.first _ _ h'.eq h'.opens) (h'.first _ _ h.eq h.opens)

theorem OpensAfter.isInfix {cs before start : List Char} (h : OpensAfter cs before start) :
    opening <:+: cs :=
  h.opens.isInfix.trans (h.eq ▸ (List.suffix_append before start).isInfix)

/-- The scanner stops in front of the first opening, or behind the text if there is
none. -/
theorem spanLiteral_spec (cs : List Char) :
    OpensAfter cs (spanLiteral cs).1 (spanLiteral cs).2 ∨
      ¬ opening <:+: cs ∧ spanLiteral cs = (cs, []) := by
  fun_induction spanLiteral cs with
  | case1 => exact Or.inr ⟨by decide, rfl⟩
  | case2 rest => exact Or.inl (opensAfter_nil ⟨rest, rfl⟩)
  | case3 c rest hno before start hspan ih =>
    have hc : ¬ opening <+: c :: rest := by
      rintro ⟨tail, htail⟩
      obtain ⟨rfl, rfl⟩ := List.cons.inj htail
      exact hno _ rfl rfl
    rw [hspan] at ih
    rcases ih with hopens | ⟨hnone, heq⟩
    · exact Or.inl (hopens.cons hc)
    · cases heq
      refine Or.inr ⟨fun hinfix => ?_, rfl⟩
      rcases List.infix_cons_iff.1 hinfix with hstart | hrest
      · exact hc hstart
      · exact hnone hrest

theorem OpensAfter.spanLiteral {cs before start : List Char} (h : OpensAfter cs before start) :
    spanLiteral cs = (before, start) := by
  rcases spanLiteral_spec cs with hopens | ⟨hnone, -⟩
  · rcases hopens.unique h with ⟨hbefore, hstart⟩
    rw [← hbefore, ← hstart]
  · exact absurd h.isInfix hnone

/-! ### Where references end -/

/-- A closing brace up to which as many braces are closed as were opened, where `depth`
were open before. -/
def Balances (depth : Nat) (cs : List Char) : Prop :=
  cs.getLast? = some '}' ∧ depth + cs.count '{' = cs.count '}'

/-- The first such brace. -/
def Closes (depth : Nat) (cs : List Char) : Prop :=
  Balances depth cs ∧ ∀ p, p <+: cs → Balances depth p → p = cs

theorem not_balances_nil (depth : Nat) : ¬ Balances depth [] :=
  fun h => nomatch h.1

/-- A text that ends in a closing brace still does with more in front of it. -/
theorem getLast?_cons_eq_close_iff {c : Char} (hc : c ≠ '}') (cs : List Char) :
    (c :: cs).getLast? = some '}' ↔ cs.getLast? = some '}' := by
  rcases cs with _ | ⟨d, cs⟩
  · simp [hc]
  · rw [List.getLast?_cons_cons]

theorem balances_open_cons (depth : Nat) (cs : List Char) :
    Balances depth ('{' :: cs) ↔ Balances (depth + 1) cs := by
  unfold Balances
  rw [getLast?_cons_eq_close_iff (by decide), List.count_cons_self,
    List.count_cons_of_ne (by decide)]
  exact and_congr_right fun _ => by omega

theorem balances_other_cons {c : Char} (hopen : c ≠ '{') (hclose : c ≠ '}') (depth : Nat)
    (cs : List Char) : Balances depth (c :: cs) ↔ Balances depth cs := by
  unfold Balances
  rw [getLast?_cons_eq_close_iff hclose, List.count_cons_of_ne hopen, List.count_cons_of_ne hclose]

theorem balances_close_cons (depth : Nat) (cs : List Char) :
    Balances (depth + 2) ('}' :: cs) ↔ Balances (depth + 1) cs := by
  unfold Balances
  rw [List.count_cons_self, List.count_cons_of_ne (by decide)]
  rcases cs with _ | ⟨d, cs⟩
  · simp
  · rw [List.getLast?_cons_cons]
    exact and_congr_right fun _ => by omega

/-- What a search for the end of a reference has to find: the shortest balanced text,
or nothing if there is no such text. -/
def Found (depth : Nat) (cs : List Char) : Option (List Char × List Char) → Prop
  | some (text, rest) => cs = text ++ rest ∧ Closes depth text
  | none => ∀ p, p <+: cs → ¬ Balances depth p

/-- A character changes how many braces are open, and the search goes on. -/
theorem Found.cons {c : Char} {depth depth' : Nat} {cs : List Char}
    (hstep : ∀ p, Balances depth (c :: p) ↔ Balances depth' p)
    {found : Option (List Char × List Char)} (h : Found depth' cs found) :
    Found depth (c :: cs) (found.map fun (text, rest) => (c :: text, rest)) := by
  rcases found with _ | ⟨text, rest⟩
  · intro p hp hbalances
    rcases List.prefix_cons_iff.1 hp with rfl | ⟨q, rfl, hq⟩
    · exact not_balances_nil depth hbalances
    · exact h q hq ((hstep q).1 hbalances)
  · rcases h with ⟨rfl, hbalances, hfirst⟩
    refine ⟨rfl, (hstep text).2 hbalances, fun p hp hearlier => ?_⟩
    rcases List.prefix_cons_iff.1 hp with rfl | ⟨q, rfl, hq⟩
    · exact absurd hearlier (not_balances_nil depth)
    · rw [hfirst q hq ((hstep q).1 hearlier)]

/-- With one brace open, a closing one is the end. -/
theorem found_close (cs : List Char) : Found 1 ('}' :: cs) (some (['}'], cs)) := by
  refine ⟨rfl, ⟨rfl, by decide⟩, fun p hp hbalances => ?_⟩
  rcases List.prefix_cons_iff.1 hp with rfl | ⟨q, rfl, hq⟩
  · exact absurd hbalances (not_balances_nil 1)
  · rw [List.prefix_nil.1 hq]

/-- There is one shortest balanced text at the start. -/
theorem Found.unique {depth : Nat} {cs : List Char} {found found' : Option (List Char × List Char)}
    (h : Found depth cs found) (h' : Found depth cs found') : found = found' := by
  rcases found with _ | ⟨text, rest⟩
  · rcases found' with _ | ⟨text', rest'⟩
    · rfl
    · exact absurd h'.2.1 (h text' (h'.1 ▸ List.prefix_append text' rest'))
  · rcases found' with _ | ⟨text', rest'⟩
    · exact absurd h.2.1 (h' text (h.1 ▸ List.prefix_append text rest))
    · rcases h with ⟨heq, hbalances, hfirst⟩
      rcases h' with ⟨heq', hbalances', hfirst'⟩
      have hprefix : text <+: cs := heq ▸ List.prefix_append text rest
      have hprefix' : text' <+: cs := heq' ▸ List.prefix_append text' rest'
      -- Of two starts of one text, one starts with the other.
      have hsame : text = text' := by
        rcases List.prefix_or_prefix_of_prefix hprefix hprefix' with hle | hle
        · exact hfirst' text hle hbalances
        · exact (hfirst text' hle hbalances').symm
      subst hsame
      rw [List.append_cancel_left (heq.symm.trans heq')]

/-- The scanner finds the end of a reference. -/
theorem found_spanBraces? {depth : Nat} (hdepth : 1 ≤ depth) (cs : List Char) :
    Found depth cs (spanBraces? depth cs) := by
  induction cs generalizing depth with
  | nil =>
    intro p hp
    rw [List.prefix_nil.1 hp]
    exact not_balances_nil depth
  | cons c cs ih =>
    unfold spanBraces?
    by_cases hopen : c = '{'
    · subst hopen
      exact (ih (Nat.le_add_left 1 depth)).cons (balances_open_cons depth)
    · by_cases hclose : c = '}'
      · subst hclose
        obtain ⟨_ | depth, rfl⟩ := Nat.exists_eq_add_of_le' hdepth
        · exact found_close cs
        · exact (ih (Nat.le_add_left 1 depth)).cons (balances_close_cons depth)
      · simp only [if_neg hopen, hclose, false_and, if_false]
        exact (ih hdepth).cons (balances_other_cons hopen hclose depth)

/-- It does so from the start of the reference, where no brace is open yet. -/
theorem found_of_opening {start : List Char} (h : opening <+: start) :
    Found 0 start (spanBraces? 0 start) := by
  rcases h with ⟨rest, rfl⟩
  have hbrace : Found 0 ('{' :: rest) (spanBraces? 0 ('{' :: rest)) :=
    (found_spanBraces? (Nat.le_refl 1) rest).cons (balances_open_cons 0)
  exact hbrace.cons (balances_other_cons (by decide) (by decide) 0)

/-! ### Pieces -/

/-- The ways to split a text. A reference starts at the first opening and ends where its
braces are balanced for the first time; the rest is literal if it has no opening, or if
the braces behind its first opening are never balanced. -/
inductive Splits : List Char → List Piece → Prop
  | plain {cs : List Char} (h : ¬ opening <:+: cs) : Splits cs [.literal cs]
  | unclosed {cs before start : List Char} (hopens : OpensAfter cs before start)
      (h : ∀ p, p <+: start → ¬ Balances 0 p) : Splits cs [.literal cs]
  | reference {cs before text rest : List Char} {ps : List Piece}
      (hopens : OpensAfter cs before (text ++ rest)) (hcloses : Closes 0 text)
      (h : Splits rest ps) : Splits cs (.literal before :: .reference text :: ps)

/-- A reference is not empty. -/
theorem Closes.length_pos {depth : Nat} {text : List Char} (h : Closes depth text) :
    0 < text.length := by
  rcases text with _ | ⟨c, text⟩
  · exact absurd h.1 (not_balances_nil depth)
  · exact Nat.succ_pos _

theorem OpensAfter.length_rest_lt {cs before text rest : List Char}
    (hopens : OpensAfter cs before (text ++ rest)) (hcloses : Closes 0 text) :
    rest.length < cs.length := by
  have hlength := congrArg List.length hopens.eq
  have hpos := hcloses.length_pos
  rw [List.length_append, List.length_append] at hlength
  omega

/-- What the scanner makes of a text at one step. -/
theorem piecesOf_succ_of_opensAfter {cs before start : List Char}
    (h : OpensAfter cs before start) (fuel : Nat) :
    piecesOf (fuel + 1) cs =
      match spanBraces? 0 start with
      | none => [.literal cs]
      | some (text, rest) => .literal before :: .reference text :: piecesOf fuel rest := by
  rcases hend : spanBraces? 0 start with _ | ⟨text, rest⟩
  · simp only [piecesOf, h.spanLiteral, hend]
  · simp only [piecesOf, h.spanLiteral, hend]

/-- However a text is split, the scanner finds it, as long as it may take a step for each
character. -/
theorem Splits.piecesOf_eq {cs : List Char} {ps : List Piece} (h : Splits cs ps) {fuel : Nat}
    (hfuel : cs.length ≤ fuel) : piecesOf fuel cs = ps := by
  induction h generalizing fuel with
  | @plain cs hnone =>
    rcases fuel with _ | fuel
    · rfl
    · rcases spanLiteral_spec cs with hopens | ⟨-, heq⟩
      · exact absurd hopens.isInfix hnone
      · rw [piecesOf, heq]
        rfl
  | @unclosed cs before start hopens hnever =>
    rcases fuel with _ | fuel
    · rfl
    · have hnone : Found 0 start none := hnever
      rw [piecesOf_succ_of_opensAfter hopens, (found_of_opening hopens.opens).unique hnone]
  | @reference cs before text rest ps hopens hcloses _ ih =>
    have hshorter := hopens.length_rest_lt hcloses
    have hsome : Found 0 (text ++ rest) (some (text, rest)) := ⟨rfl, hcloses⟩
    have hpos : 1 ≤ fuel := Nat.lt_of_lt_of_le (Nat.zero_lt_of_lt hshorter) hfuel
    obtain ⟨fuel, rfl⟩ := Nat.exists_eq_add_of_le' hpos
    rw [piecesOf_succ_of_opensAfter hopens, (found_of_opening hopens.opens).unique hsome]
    simp only [ih (Nat.le_of_lt_succ (Nat.lt_of_lt_of_le hshorter hfuel))]

/-- Every text can be split. -/
theorem exists_splits (cs : List Char) : ∃ ps, Splits cs ps := by
  induction hlength : cs.length using Nat.strong_induction_on generalizing cs with
  | _ length ih =>
    subst hlength
    rcases spanLiteral_spec cs with hopens | ⟨hnone, -⟩
    · have hfound := found_of_opening hopens.opens
      rcases hend : spanBraces? 0 (spanLiteral cs).2 with _ | ⟨text, rest⟩
      · rw [hend] at hfound
        exact ⟨_, .unclosed hopens hfound⟩
      · rw [hend] at hfound
        rw [hfound.1] at hopens
        rcases ih rest.length (hopens.length_rest_lt hfound.2) rest rfl with ⟨ps, hps⟩
        exact ⟨_, .reference hopens hfound.2 hps⟩
    · exact ⟨_, .plain hnone⟩

/-- There is one way to split a text, and the scanner finds it. -/
theorem splits_iff {cs : List Char} {ps : List Piece} : Splits cs ps ↔ ps = pieces cs := by
  constructor
  · exact fun h => (h.piecesOf_eq (Nat.le_refl _)).symm
  · rintro rfl
    rcases exists_splits cs with ⟨ps, hps⟩
    rw [pieces, hps.piecesOf_eq (Nat.le_refl _)]
    exact hps

/-- The characters of a piece. -/
def Piece.chars : Piece → List Char
  | literal text | reference text => text

/-- The pieces of a text, one after the other, are the text. -/
theorem Splits.flatMap_chars {cs : List Char} {ps : List Piece} (h : Splits cs ps) :
    ps.flatMap Piece.chars = cs := by
  induction h with
  | plain | unclosed => exact List.append_nil _
  | reference hopens _ _ ih =>
    rw [List.flatMap_cons, List.flatMap_cons, ih, hopens.eq]
    rfl

/-! ### Replacing references -/

/-- What stands for a piece when references are replaced in some way. -/
def Piece.replace (e : List Char → Except String (List Char)) : Piece → Except String (List Char)
  | literal text => .ok text
  | reference text => e text

/-- A text with its references replaced in some way. -/
def replaceReferences (e : List Char → Except String (List Char)) (s : String) :
    Except String String := do
  let texts ← (pieces s.toList).mapM (Piece.replace e)
  .ok (String.ofList texts.flatten)

theorem expand_eq_replaceReferences (vars : Variables) (s : String) :
    expand vars s = replaceReferences (expandReference vars) s := by
  have hpiece : Piece.expand vars = Piece.replace (expandReference vars) := by
    funext p
    cases p <;> rfl
  rw [expand, hpiece, replaceReferences]

/-- What comes of replacing references: either all pieces have a text, which is the text
itself for a literal, and the texts are put together; or a reference fails, and no piece
in front of it does. -/
inductive Replaced (e : List Char → Except String (List Char)) (ps : List Piece) :
    Except String String → Prop
  | ok {texts : List (List Char)}
      (h : List.Forall₂ (fun p text => p.replace e = .ok text) ps texts) :
      Replaced e ps (.ok (String.ofList texts.flatten))
  | error {before after : List Piece} {text : List Char} {x : String}
      (heq : ps = before ++ .reference text :: after)
      (hbefore : ∀ p ∈ before, ∃ text, p.replace e = .ok text) (h : e text = .error x) :
      Replaced e ps (.error x)

/-- A sequence succeeds with the results of its parts, or fails with the first part that
does. -/
theorem mapM_cases {α β ε : Type} (f : α → Except ε β) (as : List α) :
    (∃ bs, as.mapM f = .ok bs ∧ List.Forall₂ (fun a b => f a = .ok b) as bs) ∨
      ∃ before a after x, as = before ++ a :: after ∧ (∀ b ∈ before, ∃ y, f b = .ok y) ∧
        f a = .error x ∧ as.mapM f = .error x := by
  induction as with
  | nil => exact Or.inl ⟨[], rfl, .nil⟩
  | cons a as ih =>
    rcases ha : f a with x | b
    · refine Or.inr ⟨[], a, as, x, rfl, nofun, ha, ?_⟩
      rw [List.mapM_cons, ha]
      rfl
    · rcases ih with ⟨bs, hbs, hall⟩ | ⟨before, c, after, x, rfl, hbefore, hc, hfail⟩
      · refine Or.inl ⟨b :: bs, ?_, .cons ha hall⟩
        rw [List.mapM_cons, ha, hbs]
        rfl
      · refine Or.inr ⟨a :: before, c, after, x, rfl, List.forall_mem_cons.2 ⟨⟨b, ha⟩, hbefore⟩,
          hc, ?_⟩
        rw [List.mapM_cons, ha, hfail]
        rfl

/-- Literals are kept, references are replaced once, and the first failure counts. -/
theorem replaced_replaceReferences (e : List Char → Except String (List Char)) (s : String) :
    Replaced e (pieces s.toList) (replaceReferences e s) := by
  unfold replaceReferences
  rcases mapM_cases (Piece.replace e) (pieces s.toList) with
    ⟨texts, htexts, hall⟩ | ⟨before, p, after, x, heq, hbefore, hp, hfail⟩
  · rw [htexts]
    exact .ok hall
  · rw [hfail]
    -- A literal does not fail.
    cases p with
    | literal text => cases hp
    | reference text => exact .error heq hbefore hp

end WikiSync
