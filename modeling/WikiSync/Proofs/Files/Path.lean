import WikiSync.Files.Path
import WikiSync.Proofs.Text.Split

/-!
# Parts of Paths

What a path says once it is taken apart. A path is compared part by part, and its name is its
last part. So a file in a directory is told from its neighbours by its name alone: the parts
in front are those of the directory, however that is written, with a slash at its end or
without one.

A name splits at its last dot, which is said here without a search: the extension is what
follows a dot that no other one follows, and something has to stand in front of it.

## Main definitions

* `Path.IsName`: A name as it stands in a directory.
* `Path.Before`: The order of paths.

## Theorems

* `Path.parts_join`, `Path.fileName?_join`: A name in a directory.
* `Path.before_join`: Names in a directory are in the order of their paths.
* `Path.splitName_eq_some_iff`, `Path.extension?_eq_some_iff`: Extensions.
-/

namespace WikiSync.Path

open String

/-- A name as it stands in a directory: one part, and none that leads back to the directory
or above it. -/
structure IsName (name : String) : Prop where
  onePart : '/' ∉ name.toList
  leadsDown : name ∉ ["", ".", ".."]

/-- The order of paths: they are compared part by part. -/
def Before (p q : String) : Prop :=
  parts p < parts q

/-- The parts of a path are names, except for those that lead upwards. -/
theorem isName_of_mem_parts {path part : String} (h : part ∈ parts path) (hup : part ≠ "..") :
    IsName part := by
  rw [parts, List.mem_filter, Bool.and_eq_true, bne_iff_ne, bne_iff_ne] at h
  rcases h with ⟨hpart, hempty, hdot⟩
  refine ⟨Text.not_mem_of_mem_splitOn (c := '/') hpart, ?_⟩
  simp only [List.mem_cons, List.not_mem_nil, or_false, not_or]
  exact ⟨hempty, hdot, hup⟩

/-! ### Names in a directory -/

theorem IsName.ne {name : String} (h : IsName name) : name ≠ "" ∧ name ≠ "." ∧ name ≠ ".." := by
  have hname := h.leadsDown
  simp only [List.mem_cons, List.not_mem_nil, or_false, not_or] at hname
  exact hname

theorem parts_empty : parts "" = [] := by
  have hsplit : "".splitOn "/" = [""] := Text.splitOn_of_not_mem (by simp)
  rw [parts, hsplit]
  rfl

theorem parts_append_slash (dir path : String) :
    parts (dir ++ "/" ++ path) = parts dir ++ parts path := by
  have hsplit := Text.splitOn_append_cons dir path '/'
  change (dir ++ "/" ++ path).splitOn "/" = dir.splitOn "/" ++ path.splitOn "/" at hsplit
  rw [parts, hsplit, List.filter_append]
  rfl

theorem IsName.parts_eq {name : String} (h : IsName name) : parts name = [name] := by
  have hsplit : name.splitOn "/" = [name] := Text.splitOn_of_not_mem h.onePart
  rcases h.ne with ⟨hempty, hdot, -⟩
  simp only [parts, hsplit, List.filter_cons, List.filter_nil, bne_iff_ne, ne_eq, hempty, hdot,
    not_false_eq_true, Bool.and_eq_true, and_self, if_true]

theorem IsName.not_isAbsolute {name : String} (h : IsName name) : isAbsolute name = false := by
  rw [isAbsolute, startsWith_string_eq_false_iff]
  rintro ⟨rest, hrest⟩
  have hmem : '/' ∈ name.toList := by
    rw [← hrest]
    exact List.mem_append_left _ List.mem_cons_self
  exact h.onePart hmem

/-- The parts of a path in a directory are those of the directory and the name. -/
theorem parts_join (dir : String) {name : String} (h : IsName name) :
    parts (join dir name) = parts dir ++ [name] := by
  unfold join
  simp only [h.not_isAbsolute, Bool.false_eq_true, if_false, Bool.or_eq_true]
  split
  · next hclosed =>
    rcases hclosed with hempty | hslash
    · -- Without a directory there is only the name.
      rw [String.isEmpty_iff] at hempty
      rw [hempty, empty_append, parts_empty, List.nil_append, h.parts_eq]
    · -- A slash at the end of the directory adds no part to it.
      rw [endsWith_eq_endsWith_toSlice, Slice.endsWith_string_iff, copy_toSlice] at hslash
      rcases hslash with ⟨front, hfront⟩
      have hdir : dir = ofList front ++ "/" ++ "" := by
        refine toList_inj.1 ?_
        rw [append_empty, toList_append, toList_ofList, hfront]
      have hparts : parts dir = parts (ofList front) := by
        rw [hdir, parts_append_slash, parts_empty, List.append_nil]
      rw [hparts, hdir, append_empty, parts_append_slash, h.parts_eq]
  · rw [parts_append_slash, h.parts_eq]

theorem fileName?_join (dir : String) {name : String} (h : IsName name) :
    fileName? (join dir name) = some name := by
  unfold fileName?
  rw [parts_join dir h, List.getLast?_concat]
  split
  · next heq => exact absurd (Option.some.inj heq) h.ne.2.2
  · rfl

/-- Names in a directory are in the order of their paths. -/
theorem before_join (dir : String) {a b : String} (ha : IsName a) (hb : IsName b) (h : a < b) :
    Before (join dir a) (join dir b) := by
  unfold Before
  rw [parts_join dir ha, parts_join dir hb]
  exact List.append_left_lt (List.Lex.rel h)

/-! ### Extensions -/

/-- An extension is what follows the last dot, if something stands in front of it. -/
theorem splitName_eq_some_iff {name ext : String} (hext : '.' ∉ ext.toList) :
    (splitName name).2 = some ext ↔ ∃ stem, stem ≠ "" ∧ name = stem ++ "." ++ ext := by
  have hwhole (s : String) : ".".intercalate (s.splitOn ".") = s := Text.intercalate_splitOn s '.'
  constructor
  · intro h
    unfold splitName at h
    split at h
    · next last stem stems hparts =>
      have hsplit : name.splitOn "." = (stem :: stems).reverse ++ [last] := by
        rw [← List.reverse_reverse (name.splitOn "."), hparts, List.reverse_cons]
      simp only at h
      split at h
      · cases h
      · next hstem =>
        cases h
        -- The stem is all that stands in front of the last dot, with the dots in it.
        refine ⟨".".intercalate (stem :: stems).reverse, fun hempty => hstem ?_, ?_⟩
        · rw [hempty]
          rfl
        · rw [← hwhole name, hsplit, intercalate_append_of_ne_nil (by simp) (by simp),
            intercalate_singleton]
    · cases h
  · rintro ⟨stem, hstem, rfl⟩
    have hsplit : (stem ++ "." ++ ext).splitOn "." = stem.splitOn "." ++ [ext] :=
      Text.splitOn_append_of_not_mem stem hext
    unfold splitName
    rw [hsplit, List.reverse_append, List.reverse_singleton, List.singleton_append]
    -- A stem that is not empty has a part, so the dot in front of the extension counts.
    have hsome : (stem.splitOn ".").reverse ≠ [] := by
      intro hnil
      have hstems := hwhole stem
      rw [List.reverse_eq_nil_iff.1 hnil, intercalate_nil] at hstems
      exact hstem hstems.symm
    rcases hstems : (stem.splitOn ".").reverse with _ | ⟨last, stems⟩
    · exact absurd hstems hsome
    · have hback : ".".intercalate (last :: stems).reverse = stem := by
        rw [← hstems, List.reverse_reverse, hwhole]
      simp only [hback]
      rw [if_neg]
      rwa [String.isEmpty_iff]

theorem extension?_eq_some_iff {path ext : String} (hext : '.' ∉ ext.toList) :
    extension? path = some ext ↔
      ∃ stem, stem ≠ "" ∧ fileName? path = some (stem ++ "." ++ ext) := by
  unfold extension?
  rw [Option.bind_eq_some_iff]
  constructor
  · rintro ⟨name, hname, hsplit⟩
    rcases (splitName_eq_some_iff hext).1 hsplit with ⟨stem, hstem, rfl⟩
    exact ⟨stem, hstem, hname⟩
  · rintro ⟨stem, hstem, hname⟩
    exact ⟨_, hname, (splitName_eq_some_iff hext).2 ⟨stem, hstem, rfl⟩⟩

end WikiSync.Path
