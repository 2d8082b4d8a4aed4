import Mathlib.Data.String.Basic

/-!
# Splitting Texts

Splitting a text at a mark goes over its bytes, with places where a part has begun and where
the search stands. Everything that is proved about parts of paths and names is about
characters. The two meet once, here: splitting a text at a character is splitting the list of
its characters.

The induction is on the characters that are left. Those in front of them are in two groups,
those of the finished parts and those of the part that is going on, as the places are the
sizes of these groups.

## Theorems

* `Text.splitOnAux_eq`: The search from a place on.
* `Text.splitOn_eq`: Splitting is splitting the characters.
* `Text.splitOn_append_cons`, `Text.splitOn_append_of_not_mem`: A mark between two texts.
* `Text.not_mem_of_mem_splitOn`: The parts have no marks in them.
* `Text.intercalate_splitOn`: The parts with marks in between are the text.
-/

namespace WikiSync.Text

open String

/-- The search from a place on. The parts that were found before stay, and the part that is
going on goes on. -/
theorem splitOnAux_eq (c : Char) (done part rest : List Char) (found : List String) :
    splitOnAux (ofList (done ++ (part ++ rest))) (ofList [c]) ⟨utf8Len done⟩
        ⟨utf8Len done + utf8Len part⟩ 0 found =
      found.reverse ++ (List.splitOnPPrepend (· == c) rest part.reverse).map ofList := by
  -- The mark is one character, so it has been found as soon as its character has.
  have hmark : Pos.Raw.get (ofList [c]) 0 = c := get_of_valid [] [c]
  have hbehind : Pos.Raw.next (ofList [c]) 0 = ⟨c.utf8Size⟩ := by
    simpa using next_of_valid [] c []
  have hwhole : Pos.Raw.atEnd (ofList [c]) ⟨c.utf8Size⟩ = true := by
    simp only [atEnd_iff, rawEndPos_ofList, utf8Len_cons, utf8Len_nil, Nat.zero_add]
    exact Nat.le_refl _
  induction rest generalizing done part found with
  | nil =>
    have hend : Pos.Raw.atEnd (ofList (done ++ (part ++ [])))
        ⟨utf8Len done + utf8Len part⟩ = true := by
      simpa using atEnd_of_valid (done ++ part) []
    have hextract := extract_of_valid done part []
    rw [List.append_assoc] at hextract
    unfold splitOnAux
    rw [if_pos hend, hextract]
    simp
  | cons d rest ih =>
    have hend : ¬ Pos.Raw.atEnd (ofList (done ++ (part ++ d :: rest)))
        ⟨utf8Len done + utf8Len part⟩ = true := by
      have hplace := (atEnd_of_valid (done ++ part) (d :: rest)).1
      rw [utf8Len_append, List.append_assoc] at hplace
      exact fun h => absurd (hplace h) (List.cons_ne_nil _ _)
    have hget : Pos.Raw.get (ofList (done ++ (part ++ d :: rest)))
        ⟨utf8Len done + utf8Len part⟩ = d := by
      simpa [-ofList_append] using get_of_valid (done ++ part) (d :: rest)
    have hnext : Pos.Raw.next (ofList (done ++ (part ++ d :: rest)))
        ⟨utf8Len done + utf8Len part⟩ = ⟨utf8Len done + utf8Len part + d.utf8Size⟩ := by
      simpa [-ofList_append] using next_of_valid (done ++ part) d rest
    unfold splitOnAux
    simp only [hend, hget, hmark, hnext, hbehind, hwhole, if_true, beq_iff_eq,
      List.splitOnPPrepend_cons_eq_if]
    by_cases h : d = c
    · -- The part ends in front of the mark, and the next one begins behind it.
      subst h
      have hextract := extract_of_valid done part (d :: rest)
      rw [List.append_assoc] at hextract
      have hback : (⟨utf8Len done + utf8Len part + d.utf8Size⟩ : Pos.Raw).unoffsetBy
          ⟨d.utf8Size⟩ = ⟨utf8Len done + utf8Len part⟩ := by simp [Pos.Raw.unoffsetBy]
      simp only [hback, hextract, if_true]
      simpa [-ofList_append, Nat.add_assoc] using ih (done ++ part ++ [d]) [] (ofList part :: found)
    · have hback : (⟨utf8Len done + utf8Len part⟩ : Pos.Raw).unoffsetBy 0 =
          ⟨utf8Len done + utf8Len part⟩ := rfl
      simp only [h, if_false, hback, hnext]
      simpa [-ofList_append, Nat.add_assoc] using ih done (part ++ [d]) found

/-- Splitting a text is splitting its characters. -/
theorem splitOn_eq (s : String) (c : Char) :
    s.splitOn (ofList [c]) = (s.toList.splitOn c).map ofList := by
  have hmark : (ofList [c] == "") = false := by simp
  have hsearch := splitOnAux_eq c [] [] s.toList []
  rw [List.nil_append, List.nil_append, ofList_toList] at hsearch
  unfold String.splitOn
  rw [hmark]
  exact hsearch

/-- A mark between two texts separates the parts of the one from those of the other. -/
theorem splitOn_append_cons (s t : String) (c : Char) :
    (s ++ ofList [c] ++ t).splitOn (ofList [c]) =
      s.splitOn (ofList [c]) ++ t.splitOn (ofList [c]) := by
  simp only [splitOn_eq, toList_append, toList_ofList, List.append_assoc, List.singleton_append,
    List.splitOn_append_cons_self, List.map_append]

theorem splitOn_of_not_mem {s : String} {c : Char} (h : c ∉ s.toList) :
    s.splitOn (ofList [c]) = [s] := by
  rw [splitOn_eq, List.splitOn_eq_singleton h, List.map_singleton, ofList_toList]

/-- What follows the last mark is the last part. -/
theorem splitOn_append_of_not_mem (s : String) {t : String} {c : Char} (h : c ∉ t.toList) :
    (s ++ ofList [c] ++ t).splitOn (ofList [c]) = s.splitOn (ofList [c]) ++ [t] := by
  rw [splitOn_append_cons, splitOn_of_not_mem h]

/-- No part has a mark in it. -/
theorem not_mem_of_mem_splitOn {s part : String} {c : Char} (h : part ∈ s.splitOn (ofList [c])) :
    c ∉ part.toList := by
  have hlist (cs : List Char) : ∀ part ∈ cs.splitOn c, c ∉ part := by
    induction cs with
    | nil =>
      intro part hpart
      rw [List.splitOn_nil, List.mem_singleton] at hpart
      rw [hpart]
      exact List.not_mem_nil
    | cons d cs ih =>
      rcases hparts : cs.splitOn c with _ | ⟨first, parts⟩
      · exact absurd hparts (List.splitOn_ne_nil c cs)
      · rw [hparts, List.forall_mem_cons] at ih
        rw [List.splitOn_cons_eq_if_modifyHead, hparts]
        by_cases hd : (d == c) = true
        · rw [if_pos hd]
          exact List.forall_mem_cons.2 ⟨List.not_mem_nil, List.forall_mem_cons.2 ih⟩
        · -- Another character is put in front of the first part.
          rw [if_neg hd, List.modifyHead_cons]
          refine List.forall_mem_cons.2 ⟨?_, ih.2⟩
          rw [List.mem_cons, not_or]
          exact ⟨fun heq => hd (beq_iff_eq.2 heq.symm), ih.1⟩
  rw [splitOn_eq, List.mem_map] at h
  rcases h with ⟨part, hpart, rfl⟩
  rw [toList_ofList]
  exact hlist s.toList part hpart

/-- The parts of a text with marks in between are the text. -/
theorem intercalate_splitOn (s : String) (c : Char) :
    (ofList [c]).intercalate (s.splitOn (ofList [c])) = s := by
  refine toList_inj.1 ?_
  have hparts : ((s.toList.splitOn c).map ofList).map toList = s.toList.splitOn c := by
    rw [List.map_map]
    exact (List.map_congr_left fun _ _ => toList_ofList).trans (List.map_id _)
  rw [splitOn_eq, toList_intercalate, hparts, toList_ofList, List.intercalate_splitOn]

end WikiSync.Text
