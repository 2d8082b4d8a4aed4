import WikiSync.Proofs.Config.Pieces

/-!
# Scanning by Offsets

A scan of lists of characters has no offsets. It can neither cut a character in two nor
leave the text, and its counter of open braces stays at zero where it should fall below.
So here is the same scan as it is done on the bytes of a text, with offsets into it and
with a counter, and with a fault wherever one of the two goes wrong: where a cut falls
outside of the text or inside of a character, where a brace is closed while none is open,
and where the scan takes more steps than it is allowed.

None of the faults occurs (`Splits.scanFrom_eq`). Offsets are lengths of what was
scanned, in bytes, so every cut falls where a character ends (`cutAt_byteLength`). The
counter starts at an opening, whose brace is counted before any other, and the scan stops
when it is back at zero. And every reference is at least one character, so the rest
of a text is shorter than the text.

## Main definitions

* `ScanFault`: What can go wrong.
* `cutAt`, `openingOffset?`, `referenceLength`: The steps of the scan.
* `scanFrom`, `scan`: The scan.

## Theorems

* `cutAt_byteLength`: A cut between two texts.
* `referenceLength_eq`: The counter.
* `Splits.scanFrom_eq`: The scan finds the pieces of a text.
* `expand_pieces`: What replacing references does.
-/

namespace WikiSync

/-- What can go wrong in a scan by offsets. -/
inductive ScanFault where
  /-- A brace is closed while none is open. -/
  | underflow
  /-- A cut falls outside of the text or inside of a character. -/
  | badCut
  /-- The scan takes too many steps. -/
  | endless
deriving DecidableEq

/-- The length of characters in bytes. -/
def byteLength : List Char → Nat
  | [] => 0
  | c :: cs => c.utf8Size + byteLength cs

/-- Cuts a text in front of the byte at an offset. -/
def cutAt (offset : Nat) : List Char → Except ScanFault (List Char × List Char)
  | [] => if offset = 0 then .ok ([], []) else .error .badCut
  | c :: cs =>
    if offset = 0 then .ok ([], c :: cs)
    else if c.utf8Size ≤ offset then
      (cutAt (offset - c.utf8Size) cs).map fun (before, rest) => (c :: before, rest)
    else .error .badCut

/-- The offset of the first opening. -/
def openingOffset? : List Char → Option Nat
  | [] => none
  | '$' :: '{' :: _ => some 0
  | c :: cs => (openingOffset? cs).map (c.utf8Size + ·)

/-- The length in bytes of the reference that a text starts with, if it ends. The next
character is at an offset, and `depth` braces are open. -/
def referenceLength (offset depth : Nat) : List Char → Except ScanFault (Option Nat)
  | [] => .ok none
  | c :: cs =>
    if c = '{' then referenceLength (offset + c.utf8Size) (depth + 1) cs
    else if c = '}' then
      match depth with
      | 0 => .error .underflow
      | 1 => .ok (some (offset + 1))
      | depth + 2 => referenceLength (offset + c.utf8Size) (depth + 1) cs
    else referenceLength (offset + c.utf8Size) depth cs

/-- The pieces of a text, in at most so many steps. -/
def scanFrom : Nat → List Char → Except ScanFault (List Piece)
  | 0, _ => .error .endless
  | fuel + 1, cs =>
    match openingOffset? cs with
    | none => .ok [.literal cs]
    | some offset => do
      let (before, start) ← cutAt offset cs
      match ← referenceLength 0 0 start with
      | none => .ok [.literal cs]
      | some length => do
        let (text, rest) ← cutAt length start
        let ps ← scanFrom fuel rest
        .ok (.literal before :: .reference text :: ps)

/-- The pieces of a text. -/
def scan (s : String) : Except ScanFault (List Piece) :=
  scanFrom (s.toList.length + 1) s.toList

/-! ### Cuts -/

theorem byteLength_cons (c : Char) (cs : List Char) :
    byteLength (c :: cs) = c.utf8Size + byteLength cs :=
  rfl

/-- Behind the bytes of a text, it can be cut off. -/
theorem cutAt_byteLength (before rest : List Char) :
    cutAt (byteLength before) (before ++ rest) = .ok (before, rest) := by
  induction before with
  | nil => cases rest <;> rfl
  | cons c before ih =>
    have hpos := c.utf8Size_pos
    have hne : byteLength (c :: before) ≠ 0 := by
      rw [byteLength_cons]
      omega
    rw [List.cons_append, cutAt, if_neg hne, byteLength_cons, if_pos (Nat.le_add_right _ _),
      Nat.add_sub_cancel_left, ih]
    rfl

/-! ### Openings -/

/-- The offset is the length of what the scanner of characters stops behind. -/
theorem openingOffset?_eq (cs : List Char) :
    openingOffset? cs =
      if (spanLiteral cs).2 = [] then none else some (byteLength (spanLiteral cs).1) := by
  fun_induction openingOffset? cs with
  | case1 => rfl
  | case2 rest => rfl
  | case3 c cs hno ih =>
    have hspan : spanLiteral (c :: cs) = (c :: (spanLiteral cs).1, (spanLiteral cs).2) := by
      rw [spanLiteral]
      exact hno
    rw [ih, hspan]
    split
    · rfl
    · rw [Option.map_some, byteLength_cons]

theorem openingOffset?_of_not_infix {cs : List Char} (h : ¬ opening <:+: cs) :
    openingOffset? cs = none := by
  rcases spanLiteral_spec cs with hopens | ⟨-, heq⟩
  · exact absurd hopens.isInfix h
  · rw [openingOffset?_eq, heq, if_pos rfl]

theorem OpensAfter.openingOffset? {cs before start : List Char} (h : OpensAfter cs before start) :
    openingOffset? cs = some (byteLength before) := by
  have hne : start ≠ [] := by
    rintro rfl
    exact absurd (List.prefix_nil.1 h.opens) (List.cons_ne_nil _ _)
  rw [openingOffset?_eq, h.spanLiteral, if_neg hne]

/-! ### Braces -/

/-- The counter counts what the scanner of characters counts, as long as it starts with a
brace that is open. -/
theorem referenceLength_eq {depth : Nat} (hdepth : 1 ≤ depth) (offset : Nat) (cs : List Char) :
    referenceLength offset depth cs =
      .ok ((spanBraces? depth cs).map fun (text, _) => offset + byteLength text) := by
  induction cs generalizing offset depth with
  | nil => rfl
  | cons c cs ih =>
    -- A character that does not end the reference is part of it.
    have hnext {depth' : Nat} (hdepth' : 1 ≤ depth') :
        referenceLength (offset + c.utf8Size) depth' cs =
          .ok (((spanBraces? depth' cs).map fun (text, rest) => (c :: text, rest)).map
            fun (text, _) => offset + byteLength text) := by
      rw [ih hdepth']
      rcases spanBraces? depth' cs with _ | ⟨text, rest⟩
      · rfl
      · simp only [Option.map_some, byteLength_cons, Nat.add_assoc]
    unfold referenceLength spanBraces?
    by_cases hopen : c = '{'
    · subst hopen
      exact hnext (Nat.le_add_left 1 depth)
    · by_cases hclose : c = '}'
      · subst hclose
        obtain ⟨_ | depth, rfl⟩ := Nat.exists_eq_add_of_le' hdepth
        · rfl
        · exact hnext (Nat.le_add_left 1 depth)
      · simp only [if_neg hopen, hclose, false_and, if_false]
        exact hnext hdepth

/-- At an opening, the counter starts at zero and counts the brace of the opening first. -/
theorem referenceLength_of_opening {start : List Char} (h : opening <+: start) :
    referenceLength 0 0 start =
      .ok ((spanBraces? 0 start).map fun (text, _) => byteLength text) := by
  rcases h with ⟨rest, rfl⟩
  change referenceLength 2 1 rest = .ok ((((spanBraces? 1 rest).map _).map _).map _)
  rw [referenceLength_eq (Nat.le_refl 1)]
  rcases spanBraces? 1 rest with _ | ⟨text, rest⟩
  · rfl
  · have hlength : byteLength ('$' :: '{' :: text) = 2 + byteLength text := by
      rw [byteLength_cons, byteLength_cons, ← Nat.add_assoc]
      rfl
    simp only [Option.map_some, hlength]

/-! ### The scan -/

/-- The scan finds the pieces of a text and has no fault, if it may take a step more than
there are characters. -/
theorem Splits.scanFrom_eq {cs : List Char} {ps : List Piece} (h : Splits cs ps) {fuel : Nat}
    (hfuel : cs.length < fuel) : scanFrom fuel cs = .ok ps := by
  induction h generalizing fuel with
  | @plain cs hnone =>
    obtain ⟨fuel, rfl⟩ := Nat.exists_eq_add_of_le' (Nat.lt_of_le_of_lt (Nat.zero_le _) hfuel)
    rw [scanFrom, openingOffset?_of_not_infix hnone]
  | @unclosed cs before start hopens hnever =>
    obtain ⟨fuel, rfl⟩ := Nat.exists_eq_add_of_le' (Nat.lt_of_le_of_lt (Nat.zero_le _) hfuel)
    have hnone : Found 0 start none := hnever
    have hend := (found_of_opening hopens.opens).unique hnone
    have hcut := cutAt_byteLength before start
    rw [← hopens.eq] at hcut
    simp only [scanFrom, hopens.openingOffset?, hcut, referenceLength_of_opening hopens.opens, hend,
      bind, Except.bind, Option.map_none]
  | @reference cs before text rest ps hopens hcloses _ ih =>
    obtain ⟨fuel, rfl⟩ := Nat.exists_eq_add_of_le' (Nat.lt_of_le_of_lt (Nat.zero_le _) hfuel)
    have hsome : Found 0 (text ++ rest) (some (text, rest)) := ⟨rfl, hcloses⟩
    have hend := (found_of_opening hopens.opens).unique hsome
    have hcut := cutAt_byteLength before (text ++ rest)
    have hrest := ih (Nat.lt_of_lt_of_le (hopens.length_rest_lt hcloses) (Nat.le_of_lt_succ hfuel))
    rw [← hopens.eq] at hcut
    simp only [scanFrom, hopens.openingOffset?, hcut, referenceLength_of_opening hopens.opens, hend,
      cutAt_byteLength, hrest, bind, Except.bind, Option.map_some]

/-- A text is split into literals and references in one way only. The scan by offsets
finds it, so none of its cuts goes wrong, the counter never falls below zero, and the
scan ends. Whatever a reference stands for, the text with its references replaced is made
of the literals as they are and of what the references stand for, or the first reference
that fails makes it fail. This is how the references of settings are replaced. -/
theorem expand_pieces (s : String) :
    ∃ ps, (∀ qs, Splits s.toList qs ↔ qs = ps) ∧ ps.flatMap Piece.chars = s.toList ∧
      scan s = .ok ps ∧ (∀ e, Replaced e ps (replaceReferences e s)) ∧
      ∀ vars, expand vars s = replaceReferences (expandReference vars) s := by
  have hsplits : Splits s.toList (pieces s.toList) := splits_iff.2 rfl
  exact ⟨pieces s.toList, fun qs => splits_iff, hsplits.flatMap_chars,
    hsplits.scanFrom_eq (Nat.lt_succ_self _), fun e => replaced_replaceReferences e s,
    fun vars => expand_eq_replaceReferences vars s⟩

/-- Braces nest, characters of several bytes stand around them, and the last opening is
never closed. -/
example : scan "é$$\x7b$\x7bA:-\x7bü\x7d\x7d\x7d$\x7bB" = .ok [.literal ['é', '$'],
    .reference "$\x7b$\x7bA:-\x7bü\x7d\x7d\x7d".toList, .literal "$\x7bB".toList] := by
  decide

end WikiSync
