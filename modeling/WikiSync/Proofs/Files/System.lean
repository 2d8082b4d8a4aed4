import Mathlib.Data.Finset.Dedup
import WikiSync.Files.Tree
import WikiSync.Proofs.Files.Path
import WikiSync.Proofs.Script.Run

/-!
# File Systems

What there is to see of files that stay as they are. The names in a directory are a set: a
machine may enumerate them in any order, and in another one each time. So a script that looks
at files runs on many machines of one file system, and what holds on all of them does not
depend on an enumeration.

A tree in memory is such a machine, if its paths are made of names. Trees that are built up from
paths that do not lead upwards are made so.

## Main definitions

* `FileSystem`: The type.
* `Machine.Shows`: A machine that answers as a file system does.
* `FileTree.Proper`, `FileTree.system`: The file system of a tree.

## Theorems

* `Machine.Shows.run`: A run changes nothing.
* `FileTree.shows`: A tree shows its file system.
* `FileTree.Proper.addDirectory`, `FileTree.Proper.addFile`: Trees that are built up.
-/

namespace WikiSync

/-- What paths lead to, and the names in directories. -/
structure FileSystem where
  kind : String → Option FileKind
  names : String → Except String (Finset String)
  isName {dir : String} {among : Finset String} (h : names dir = .ok among) {name : String}
    (hname : name ∈ among) : Path.IsName name

/-- An enumeration of a directory, or the reason why there is none. -/
inductive FileSystem.Enumerates : Except String (Finset String) → Except String (List String) → Prop
  | ok {names : List String} (h : names.Nodup) : Enumerates (.ok names.toFinset) (.ok names)
  | error (reason : String) : Enumerates (.error reason) (.error reason)

/-- The answers that a file system allows. What the files hold does not matter. -/
def FileSystem.Allows (fs : FileSystem) : (q : FileRequest) → q.Answer → Prop
  | .kind path, kind => kind = fs.kind path
  | .names dir, names => Enumerates (fs.names dir) names
  | .read _, _ => True

/-- Whatever was asked before, a machine answers as the file system allows. -/
def Machine.Shows {σ : Type} (m : Machine Files σ) (fs : FileSystem) (s : σ) : Prop :=
  ∀ (asked : List FileRequest) (q : FileRequest),
    fs.Allows q (m.answer q (asked.foldl (fun s q => (m.answer q s).2) s)).1

namespace Machine.Shows

variable {σ α : Type} {m : Machine Files σ} {fs : FileSystem} {s : σ}

theorem answer (h : m.Shows fs s) (q : FileRequest) : fs.Allows q (m.answer q s).1 :=
  h [] q

theorem next (h : m.Shows fs s) (q : FileRequest) : m.Shows fs (m.answer q s).2 :=
  fun asked r => h (q :: asked) r

theorem run (h : m.Shows fs s) (x : Script Files α) : m.Shows fs (x.run m s).state := by
  induction x generalizing s with
  | done value => exact h
  | note entry next ih => exact ih h
  | ask q next ih => exact ih _ (h.next q)

/-- A machine that stays as it is needs a look at one state only. -/
theorem of_answer (hstate : ∀ q, (m.answer q s).2 = s)
    (h : ∀ q, fs.Allows q (m.answer q s).1) : m.Shows fs s := by
  intro asked
  induction asked with
  | nil => exact h
  | cons r asked ih =>
    rw [List.foldl_cons, hstate r]
    exact ih

end Machine.Shows

section

variable {fs : FileSystem} {σ : Type} {m : Machine Files σ} {s : σ}

/-- Asking what a path leads to. -/
theorem run_kind (h : m.Shows fs s) (path : String) :
    (Script.question (I := Files) (.kind path)).run m s =
      ⟨fs.kind path, (m.answer (.kind path) s).2, [], [.kind path]⟩ := by
  have hkind : (m.answer (.kind path) s).1 = fs.kind path := h.answer (.kind path)
  rw [← hkind]
  rfl

/-- Asking for the names in a directory. -/
theorem run_names (h : m.Shows fs s) (dir : String) :
    ∃ names s',
      (Script.question (I := Files) (.names dir)).run m s = ⟨names, s', [], [.names dir]⟩ ∧
        FileSystem.Enumerates (fs.names dir) names ∧ m.Shows fs s' :=
  ⟨_, _, rfl, h.answer (.names dir), h.next (.names dir)⟩

end

/-! ### Trees -/

namespace FileTree

variable {t : FileTree}

/-- A path is that of the root or ends in a name. -/
def EndsInName (path : String) : Prop :=
  path = "" ∨ ∃ dir name, Path.IsName name ∧ path = dir ++ "/" ++ name

/-- All paths do. -/
def Proper (t : FileTree) : Prop :=
  ∀ path ∈ t.entries.keys, EndsInName path

/-- The name that a path ends in, seen from a directory. -/
def nameIn (dir path : String) : Option String :=
  if (dir ++ "/").toList.isPrefixOf path.toList
      && !(path.toList.drop (dir ++ "/").toList.length).contains '/' then
    some (String.ofList (path.toList.drop (dir ++ "/").toList.length))
  else none

theorem names_eq (t : FileTree) (dir : String) :
    t.names dir = t.entries.keys.filterMap (nameIn dir) := rfl

theorem nameIn_eq_some_iff {dir path name : String} :
    nameIn dir path = some name ↔ path = dir ++ "/" ++ name ∧ '/' ∉ name.toList := by
  unfold nameIn
  constructor
  · intro h
    split at h
    · next hpath =>
      simp only [Bool.and_eq_true, List.isPrefixOf_iff_prefix, Bool.not_eq_true',
        List.contains_eq_mem, decide_eq_false_iff_not] at hpath
      rcases hpath with ⟨⟨rest, hrest⟩, hone⟩
      rw [← hrest, List.drop_left] at h hone
      cases h
      refine ⟨String.toList_inj.1 ?_, by rwa [String.toList_ofList]⟩
      have hlist : (dir ++ "/" ++ String.ofList rest).toList = (dir ++ "/").toList ++ rest :=
        String.toList_append.trans (congrArg _ String.toList_ofList)
      rw [hlist, hrest]
    · cases h
  · rintro ⟨rfl, hone⟩
    have hlist : (dir ++ "/" ++ name).toList = (dir ++ "/").toList ++ name.toList :=
      String.toList_append
    rw [hlist, List.drop_left, String.ofList_toList]
    refine if_pos ?_
    simp only [Bool.and_eq_true, List.isPrefixOf_iff_prefix, List.prefix_append,
      Bool.not_eq_true', List.contains_eq_mem, decide_eq_false_iff_not, true_and]
    exact hone

/-- No name comes up twice. -/
theorem nodup_names (t : FileTree) (dir : String) : (t.names dir).Nodup := by
  have hkeys : t.entries.keys.Nodup := by
    refine List.pairwise_map.2 (t.entries.sorted.imp ?_)
    exact fun hlt => String.ne_of_lt hlt
  rw [names_eq]
  refine hkeys.filterMap fun path path' name hpath hpath' => ?_
  rw [(nameIn_eq_some_iff.1 hpath).1, (nameIn_eq_some_iff.1 hpath').1]

theorem Proper.isName (h : t.Proper) {dir name : String} (hname : name ∈ t.names dir) :
    Path.IsName name := by
  rw [names_eq, List.mem_filterMap] at hname
  rcases hname with ⟨path, hpath, hin⟩
  rcases nameIn_eq_some_iff.1 hin with ⟨rfl, hone⟩
  rcases h _ hpath with hroot | ⟨dir', name', hname', heq⟩
  · -- The path of the root has no slash in it.
    have hslash : '/' ∈ (dir ++ "/" ++ name).toList := by
      rw [String.toList_append, String.toList_append]
      exact List.mem_append_left _ (List.mem_append_right _ List.mem_cons_self)
    rw [hroot] at hslash
    exact nomatch hslash
  · -- A path has only one last part.
    have hsplit : (dir ++ "/" ++ name).splitOn "/" = dir.splitOn "/" ++ [name] :=
      Text.splitOn_append_of_not_mem dir hone
    have hsplit' : (dir' ++ "/" ++ name').splitOn "/" = dir'.splitOn "/" ++ [name'] :=
      Text.splitOn_append_of_not_mem dir' hname'.onePart
    rw [heq, hsplit'] at hsplit
    have hlast := congrArg List.getLast? hsplit
    rw [List.getLast?_concat, List.getLast?_concat] at hlast
    exact Option.some.inj hlast ▸ hname'

/-- The names in a directory, if it is one. -/
theorem names_of_answer {dir : String} {names : List String}
    (h : t.answer (.names dir) = .ok names) : ∃ found, names = t.names found := by
  simp only [answer] at h
  split at h
  · next found _ _ => exact ⟨found, (Except.ok.inj h).symm⟩
  · cases h
  · cases h

/-- The file system of a tree. -/
def system (t : FileTree) (h : t.Proper) : FileSystem where
  kind := t.kind?
  names dir := (t.answer (.names dir)).map List.toFinset
  isName := by
    intro dir among hnames name hname
    rcases hanswer : t.answer (.names dir) with reason | names
    · rw [hanswer] at hnames
      cases hnames
    · rw [hanswer] at hnames
      cases hnames
      rcases names_of_answer hanswer with ⟨found, rfl⟩
      exact h.isName (List.mem_toFinset.1 hname)

/-- A tree shows its file system. -/
theorem shows (h : t.Proper) : machine.Shows (t.system h) t := by
  refine Machine.Shows.of_answer (fun _ => rfl) fun q => ?_
  cases q with
  | kind path => rfl
  | read path => trivial
  | names dir =>
    change FileSystem.Enumerates ((t.answer (.names dir)).map List.toFinset) (t.answer (.names dir))
    rcases hanswer : t.answer (.names dir) with reason | names
    · exact .error reason
    · rcases names_of_answer hanswer with ⟨found, rfl⟩
      exact .ok (nodup_names t found)

/-! ### Trees that are built up -/

theorem endsInName_of_mem_above {path : String} (hup : ".." ∉ Path.parts path) :
    ∀ p ∈ above path, EndsInName p := by
  have hfold (parts : List String) (hparts : ∀ part ∈ parts, Path.IsName part)
      (paths : List String) (hpaths : ∀ p ∈ paths, EndsInName p) :
      ∀ p ∈ parts.foldl (fun paths part => (paths.headD "" ++ "/" ++ part) :: paths) paths,
        EndsInName p := by
    induction parts generalizing paths with
    | nil => exact hpaths
    | cons part parts ih =>
      rw [List.forall_mem_cons] at hparts
      have hpart : EndsInName (paths.headD "" ++ "/" ++ part) := .inr ⟨_, part, hparts.1, rfl⟩
      exact ih hparts.2 _ (List.forall_mem_cons.2 ⟨hpart, hpaths⟩)
  have hparts : ∀ part ∈ Path.parts path, Path.IsName part := fun part hpart =>
    Path.isName_of_mem_parts hpart fun heq => hup (heq ▸ hpart)
  intro p hp
  exact hfold _ hparts [] (fun p hp => nomatch hp) p (List.mem_reverse.1 hp)

theorem endsInName_insert {m : SortedMap (Option Bytes)} (hm : ∀ p ∈ m.keys, EndsInName p)
    {path : String} (hpath : EndsInName path) (value : Option Bytes) :
    ∀ p ∈ (m.insert path value).keys, EndsInName p := by
  intro p hp
  rcases List.mem_map.1 hp with ⟨e, he, rfl⟩
  rcases SortedMap.mem_insertEntry he with rfl | he
  · exact hpath
  · exact hm _ (List.mem_map_of_mem he)

theorem proper_empty : empty.Proper :=
  endsInName_insert (fun _ hp => absurd hp List.not_mem_nil) (.inl rfl) none

theorem Proper.addDirectory (h : t.Proper) {path : String} (hup : ".." ∉ Path.parts path) :
    (t.addDirectory path).Proper := by
  have hfold (paths : List String) (hpaths : ∀ p ∈ paths, EndsInName p)
      (m : SortedMap (Option Bytes)) (hm : ∀ p ∈ m.keys, EndsInName p) :
      ∀ p ∈ (paths.foldl (fun m p => m.insert p none) m).keys, EndsInName p := by
    induction paths generalizing m with
    | nil => exact hm
    | cons path paths ih =>
      rw [List.forall_mem_cons] at hpaths
      exact ih hpaths.2 _ (endsInName_insert hm hpaths.1 none)
  exact hfold _ (endsInName_of_mem_above hup) _ h

theorem Proper.addFile (h : t.Proper) {path : String} (hup : ".." ∉ Path.parts path)
    (content : Bytes) : (t.addFile path content).Proper := by
  have habove : ∀ p ∈ (above path).reverse, EndsInName p := fun p hp =>
    endsInName_of_mem_above hup p (List.mem_reverse.1 hp)
  have hfold (dirs : List String) (hdirs : ∀ p ∈ dirs, EndsInName p) :
      ∀ p ∈ (dirs.foldr (fun d m => m.insert d none) t.entries).keys, EndsInName p := by
    induction dirs with
    | nil => exact h
    | cons dir dirs ih =>
      rw [List.forall_mem_cons] at hdirs
      exact endsInName_insert (ih hdirs.2) hdirs.1 none
  unfold FileTree.addFile
  rcases hpaths : (above path).reverse with _ | ⟨p, dirs⟩
  · exact h
  · rw [hpaths, List.forall_mem_cons] at habove
    exact endsInName_insert (hfold dirs habove.2) habove.1 _

end FileTree

end WikiSync
