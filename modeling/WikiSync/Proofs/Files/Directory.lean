import WikiSync.Proofs.Data.SortedMap
import WikiSync.Proofs.Files.System

/-!
# Directories

A directory is the list of the names that lead to it from the root. The directories at or above
it are the initial segments of that list, so "above" is a matter of lists, and nothing has to be
taken apart again. `Path.ancestors` goes over the same directories as paths, from the last one
up to the root.

Whether there is anything under a name in a directory is asked by joining the two to a path. In
a tree this comes to the same as looking the name up among those that the directory holds: a
path is followed part by part, and the name is its last part.

## Main definitions

* `Path.ofNames`: The path of a directory.
* `FileSystem.Has`: There is something under a name in a directory.

## Theorems

* `Path.ancestors_ofNames_nil`, `Path.ancestors_ofNames_concat`: The paths of the directories
  above.
* `FileTree.system_has_iff`: What a directory of a tree has.
-/

namespace WikiSync

namespace Path

open String

/-- The absolute path of the directory that names lead to, one after the other. -/
def ofNames (names : List String) : String :=
  "/" ++ "/".intercalate names

theorem parts_intercalate {names : List String} (h : ∀ name ∈ names, IsName name) :
    parts ("/".intercalate names) = names := by
  induction names with
  | nil => rw [intercalate_nil, parts_empty]
  | cons name names ih =>
    rw [List.forall_mem_cons] at h
    rcases names with _ | ⟨next, names⟩
    · rw [intercalate_singleton, h.1.parts_eq]
    · rw [intercalate_cons_cons, parts_append_slash, h.1.parts_eq, ih h.2]
      rfl

/-- The parts of the path are the names. -/
theorem parts_ofNames {names : List String} (h : ∀ name ∈ names, IsName name) :
    parts (ofNames names) = names := by
  have hslash : ofNames names = "" ++ "/" ++ "/".intercalate names := by
    rw [empty_append]
    rfl
  rw [hslash, parts_append_slash, parts_empty, List.nil_append, parts_intercalate h]

/-- Names do not lead upwards. -/
theorem up_not_mem_parts {names : List String} (h : ∀ name ∈ names, IsName name) :
    ".." ∉ parts (ofNames names) := by
  rw [parts_ofNames h]
  exact fun hup => (h ".." hup).ne.2.2 rfl

/-- Above the root there is nothing else. -/
theorem ancestors_ofNames_nil : ancestors (ofNames []) = [ofNames []] := by
  rw [ancestors, parts_ofNames fun name hname => absurd hname List.not_mem_nil]
  simp only [List.reverse_nil, ancestorsOf, ofNames, intercalate_nil, append_empty]

/-- Above another directory there is what is above the one that holds it. -/
theorem ancestors_ofNames_concat {above : List String} {name : String}
    (h : ∀ part ∈ above ++ [name], IsName part) :
    ancestors (ofNames (above ++ [name])) =
      ofNames (above ++ [name]) :: ancestors (ofNames above) := by
  have habove : ∀ part ∈ above, IsName part := fun part hpart =>
    h part (List.mem_append_left [name] hpart)
  rw [ancestors, ancestors, parts_ofNames h, parts_ofNames habove, List.reverse_concat,
    ancestorsOf, List.reverse_cons, List.reverse_reverse]
  rfl

/-! ### Names at the end of a path -/

/-- A path that ends in a name does not end as paths of directories may. -/
theorem IsName.not_suffix {name : String} (h : IsName name) {rest : List Char}
    (hrest : rest <:+ ['.']) (lead : List Char) : ¬ '/' :: rest <:+ lead ++ name.toList := by
  intro hends
  rcases List.suffix_or_suffix_of_suffix hends (List.suffix_append lead name.toList) with
    hinside | hbehind
  · -- The name would have a slash in it.
    exact h.onePart (hinside.subset List.mem_cons_self)
  · rcases List.suffix_cons_iff.1 hbehind with hwhole | hbehind
    · exact h.onePart (hwhole ▸ List.mem_cons_self)
    · -- The name would be a dot, or empty.
      rcases List.suffix_cons_iff.1 (hbehind.trans hrest) with hdot | hempty
      · exact h.ne.2.1 (toList_inj.1 hdot)
      · exact h.ne.1 (toList_inj.1 (List.suffix_nil.1 hempty))

theorem join_eq {name : String} (h : IsName name) (dir : String) :
    ∃ lead, join dir name = lead ++ name := by
  unfold join
  rw [h.not_isAbsolute, if_neg Bool.false_ne_true]
  split
  · exact ⟨dir, rfl⟩
  · exact ⟨dir ++ "/", rfl⟩

theorem join_ne_empty {name : String} (h : IsName name) (dir : String) : join dir name ≠ "" := by
  rcases join_eq h dir with ⟨lead, hjoin⟩
  rw [hjoin, ne_eq, append_eq_empty_iff]
  exact fun hempty => h.ne.1 hempty.2

theorem endsWith_join {name : String} (h : IsName name) (dir : String) :
    (join dir name).endsWith "/" = false ∧ (join dir name).endsWith "/." = false := by
  rcases join_eq h dir with ⟨lead, hjoin⟩
  have hends (rest : List Char) (hrest : rest <:+ ['.']) (tail : String)
      (htail : tail.toList = '/' :: rest) : (join dir name).endsWith tail = false := by
    refine Bool.eq_false_iff.2 fun hends => ?_
    rw [hjoin, endsWith_eq_endsWith_toSlice, Slice.endsWith_string_iff, copy_toSlice, htail,
      toList_append] at hends
    exact h.not_suffix hrest lead.toList hends
  exact ⟨hends [] (List.nil_suffix) "/" rfl, hends ['.'] List.suffix_rfl "/." rfl⟩

/-- A path starts at the root if the directory does that it is seen from. -/
theorem isAbsolute_join {dir name : String} (h : IsName name) (hdir : dir ≠ "") :
    isAbsolute (join dir name) = isAbsolute dir := by
  have happend (more : String) : isAbsolute (dir ++ more) = isAbsolute dir := by
    rw [Bool.eq_iff_iff, isAbsolute, isAbsolute, startsWith_string_iff, startsWith_string_iff,
      toList_append]
    rcases hchars : dir.toList with _ | ⟨c, cs⟩
    · exact absurd (toList_inj.1 hchars) hdir
    · have hfirst (rest : List Char) : "/".toList <+: c :: rest ↔ '/' = c :=
        List.cons_prefix_cons.trans (and_iff_left List.nil_prefix)
      exact (hfirst _).trans (hfirst _).symm
  unfold join
  rw [h.not_isAbsolute, if_neg Bool.false_ne_true]
  split
  · exact happend name
  · rw [append_assoc, happend]

end Path

/-- There is something under a name in a directory. A link that leads nowhere counts as
nothing. -/
def FileSystem.Has (fs : FileSystem) (dir : List String) (name : String) : Prop :=
  fs.kind (Path.join (Path.ofNames dir) name) ≠ none

/-! ### Trees -/

namespace FileTree

variable {t : FileTree}

/-- Above a directory there are those that fewer of its names lead to. -/
theorem above_ofNames {names : List String} (h : ∀ name ∈ names, Path.IsName name) :
    above (Path.ofNames names) =
      (names.foldl (fun paths name => (paths.headD "" ++ "/" ++ name) :: paths) []).reverse := by
  rw [above, Path.parts_ofNames h]

theorem locate?_eq {path : String} (h : path ≠ "") :
    t.locate? path =
      ((Path.parts path).foldlM t.step?
        (if Path.isAbsolute path then "" else t.workingDirectory)).bind fun found =>
        if ((t.entries.get? found).join.isSome &&
          (path.endsWith "/" || path.endsWith "/.")) = true then none else some found := by
  have hempty : path.isEmpty = false := by
    rw [Bool.eq_false_iff]
    exact fun hempty => h (String.isEmpty_iff.1 hempty)
  unfold locate?
  rw [hempty]
  rfl

/-- A name is the last part of the path that is followed. -/
theorem locate?_join {dir found name : String} (h : t.locate? dir = some found)
    (hfound : t.entries.get? found = some none) (hname : Path.IsName name) :
    t.locate? (Path.join dir name) =
      (t.entries.get? (found ++ "/" ++ name)).map fun _ => found ++ "/" ++ name := by
  have hdir : dir ≠ "" := by
    rintro rfl
    cases h
  rw [locate?_eq hdir] at h
  rcases Option.bind_eq_some_iff.1 h with ⟨place, hplace, h⟩
  split at h
  · cases h
  · cases h
    have hstep : t.step? found name =
        (t.entries.get? (found ++ "/" ++ name)).map fun _ => found ++ "/" ++ name := by
      have hup : (name == "..") = false := beq_eq_false_iff_ne.2 hname.ne.2.2
      unfold step?
      rw [hfound]
      exact if_neg (Bool.eq_false_iff.1 hup)
    rcases Path.endsWith_join hname dir with ⟨hslash, hdot⟩
    rw [locate?_eq (Path.join_ne_empty hname dir), Path.isAbsolute_join hname hdir,
      Path.parts_join dir hname, List.foldlM_append, hplace, hslash, hdot]
    simp only [Bool.or_false, Bool.and_false, Bool.false_eq_true, if_false, Option.bind_eq_bind,
      Option.bind_some, List.foldlM_cons, List.foldlM_nil, bind_pure, Option.bind_fun_some, hstep]

/-- What a path leads to is an entry with content or without. -/
theorem kind?_eq (t : FileTree) (path : String) :
    t.kind? path = (t.locate? path).bind fun found =>
      (t.entries.get? found).map fun entry => if entry.isSome then .file else .directory := by
  unfold kind?
  rcases t.locate? path with _ | found
  · rfl
  · simp only [Option.bind_eq_bind, Option.bind_some]
    rcases t.entries.get? found with _ | _ | content
    · rfl
    · rfl
    · rfl

theorem kind?_join {dir found name : String} (h : t.locate? dir = some found)
    (hfound : t.entries.get? found = some none) (hname : Path.IsName name) :
    t.kind? (Path.join dir name) ≠ none ↔ t.entries.get? (found ++ "/" ++ name) ≠ none := by
  rw [kind?_eq, locate?_join h hfound hname]
  rcases hentry : t.entries.get? (found ++ "/" ++ name) with _ | entry
  · simp only [Option.map_none, Option.bind_none, ne_eq, not_true_eq_false]
  · simp only [Option.map_some, Option.bind_some, hentry, ne_eq, reduceCtorEq, not_false_eq_true]

theorem mem_names_iff {dir name : String} (hname : Path.IsName name) :
    name ∈ t.names dir ↔ t.entries.get? (dir ++ "/" ++ name) ≠ none := by
  rw [names_eq, List.mem_filterMap, ← SortedMap.mem_keys_iff]
  constructor
  · rintro ⟨path, hpath, hin⟩
    exact (nameIn_eq_some_iff.1 hin).1 ▸ hpath
  · exact fun hpath => ⟨_, hpath, nameIn_eq_some_iff.2 ⟨rfl, hname.onePart⟩⟩

/-- The path of a name in a directory leads to something if and only if the name is one of those
in the directory. -/
theorem kind?_join_ne_none_iff {dir name : String} {names : List String}
    (h : t.answer (.names dir) = .ok names) (hname : Path.IsName name) :
    t.kind? (Path.join dir name) ≠ none ↔ name ∈ names := by
  simp only [answer] at h
  split at h
  · next found hlocate hkind =>
    cases h
    have hfound : t.entries.get? found = some none := by
      rw [kind?_eq, hlocate, Option.bind_some, Option.map_eq_some_iff] at hkind
      rcases hkind with ⟨_ | content, hentry, hkind⟩
      · exact hentry
      · cases hkind
    rw [kind?_join hlocate hfound hname, mem_names_iff hname]
  · cases h
  · cases h

/-- A run does not change a tree. -/
theorem state_run {α : Type} (x : Script Files α) (t : FileTree) : (x.run machine t).state = t := by
  induction x with
  | done value => rfl
  | note entry next ih => exact ih
  | ask q next ih => exact ih (t.answer q)

/-- What a directory of a tree has is what it lists. -/
theorem system_has_iff (ht : t.Proper) {dir : List String} {name : String}
    (hname : Path.IsName name) {among : Finset String}
    (h : (t.system ht).names (Path.ofNames dir) = .ok among) :
    (t.system ht).Has dir name ↔ name ∈ among := by
  change (t.answer (.names (Path.ofNames dir))).map List.toFinset = .ok among at h
  rcases hanswer : t.answer (.names (Path.ofNames dir)) with reason | names
  · rw [hanswer] at h
    cases h
  · rw [hanswer] at h
    cases h
    rw [List.mem_toFinset]
    exact kind?_join_ne_none_iff hanswer hname

end FileTree

end WikiSync
