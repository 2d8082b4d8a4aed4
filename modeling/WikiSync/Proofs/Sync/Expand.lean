import Mathlib.Data.List.Sort
import WikiSync.Proofs.Files.System
import WikiSync.Sync.Expand

/-!
# Which Documents Are Synced

The documents that paths stand for, said without a walk through directories. A directory
contributes the files in it that have a document's name, in the order of their paths, and a
path to a file contributes the file itself or nothing. What the paths contribute is put together
in the order of the paths.

What a list of files in strict order contains already says what the list is. So the description
leaves no choice, and a run that meets it gives the same documents however the machine
enumerates directories.

## Main definitions

* `Path.IsDocument`: The names of documents.
* `FileSystem.Contributes`: What one path stands for.
* `FileSystem.Expands`: What a list of paths stands for.

## Theorems

* `FileSystem.Expands.unique`: There is only one expansion.
* `expandPaths_expands`: The documents of paths.
-/

namespace WikiSync

/-- A path ends in the name of a document: something, and then `.md`. -/
def Path.IsDocument (path : String) : Prop :=
  ∃ stem, stem ≠ "" ∧ Path.fileName? path = some (stem ++ ".md")

theorem isMarkdown_iff (path : String) : isMarkdown path = true ↔ Path.IsDocument path := by
  have hdot : '.' ∉ "md".toList := by simp
  have happend (stem : String) : stem ++ "." ++ "md" = stem ++ ".md" := by
    rw [String.append_assoc]
    rfl
  rw [isMarkdown, beq_iff_eq, Path.extension?_eq_some_iff hdot]
  simp only [happend, Path.IsDocument]

/-! ### Expansions -/

namespace FileSystem

variable (fs : FileSystem)

/-- The documents among the names in a directory, in the order of their paths. -/
structure Documents (dir : String) (names : Finset String) (files : List String) : Prop where
  mem_iff (file : String) : file ∈ files ↔
    ∃ stem, stem ≠ "" ∧ stem ++ ".md" ∈ names ∧ file = Path.join dir (stem ++ ".md") ∧
      fs.kind file = some .file
  ordered : files.Pairwise Path.Before

/-- What a directory contributes, and what is logged meanwhile. -/
inductive Lists (dir : String) : List String → List LogEntry → Prop
  | readable {names : Finset String} {files : List String} (hnames : fs.names dir = .ok names)
    (hfiles : fs.Documents dir names files) : Lists dir files []
  | unreadable {reason : String} (hnames : fs.names dir = .error reason) :
    Lists dir [] [⟨.warn, "Failed to read directory " ++ dir ++ ": " ++ reason, []⟩]

/-- What a path contributes, and what is logged meanwhile. -/
inductive Contributes (path : String) : List String → List LogEntry → Prop
  | directory {files : List String} {log : List LogEntry}
    (hkind : fs.kind path = some .directory) (h : fs.Lists path files log) :
    Contributes path files log
  | document (hkind : fs.kind path = some .file) (hname : Path.IsDocument path) :
    Contributes path [path] []
  | otherFile (hkind : fs.kind path = some .file) (hname : ¬ Path.IsDocument path) :
    Contributes path [] []
  | neither (hfile : fs.kind path ≠ some .file) (hdir : fs.kind path ≠ some .directory) :
    Contributes path [] [⟨.warn, "File not found: " ++ path, []⟩]

/-- What paths contribute one after the other. -/
inductive Joins : List String → List String → List LogEntry → Prop
  | nil : Joins [] [] []
  | cons {path : String} {rest files more : List String} {log later : List LogEntry}
    (hfirst : fs.Contributes path files log) (hrest : Joins rest more later) :
    Joins (path :: rest) (files ++ more) (log ++ later)

/-- What the paths of a command stand for. Without any, it is what the working directory
contributes. -/
def Expands (paths files : List String) (log : List LogEntry) : Prop :=
  if paths = [] then fs.Lists "." files log else fs.Joins paths files log

/-! ### There is only one -/

variable {fs}

/-- Files in strict order are determined by which ones they are. -/
theorem Documents.unique {dir : String} {names : Finset String} {files files' : List String}
    (h : fs.Documents dir names files) (h' : fs.Documents dir names files') : files = files' := by
  have hasymm : Std.Asymm Path.Before := by
    refine ⟨fun p q hlt => ?_⟩
    change ¬ Path.parts q < Path.parts p
    exact List.lt_asymm hlt
  exact h.ordered.eq_of_mem_iff h'.ordered fun file => (h.mem_iff file).trans (h'.mem_iff file).symm

theorem Lists.unique {dir : String} {files files' : List String} {log log' : List LogEntry}
    (h : fs.Lists dir files log) (h' : fs.Lists dir files' log') : files = files' ∧ log = log' := by
  cases h with
  | readable hnames hfiles =>
    cases h' with
    | readable hnames' hfiles' =>
      cases hnames.symm.trans hnames'
      exact ⟨hfiles.unique hfiles', rfl⟩
    | unreadable hnames' => cases hnames.symm.trans hnames'
  | unreadable hnames =>
    cases h' with
    | readable hnames' hfiles' => cases hnames.symm.trans hnames'
    | unreadable hnames' =>
      cases hnames.symm.trans hnames'
      exact ⟨rfl, rfl⟩

theorem Contributes.unique {path : String} {files files' : List String} {log log' : List LogEntry}
    (h : fs.Contributes path files log) (h' : fs.Contributes path files' log') :
    files = files' ∧ log = log' := by
  -- The cases exclude each other by what the path leads to and by its name.
  cases h with
  | directory hkind h =>
    cases h' with
    | directory _ h' => exact h.unique h'
    | document hkind' _ | otherFile hkind' _ => cases hkind.symm.trans hkind'
    | neither _ hdir => exact absurd hkind hdir
  | document hkind hname =>
    cases h' with
    | document => exact ⟨rfl, rfl⟩
    | otherFile _ hname' => exact absurd hname hname'
    | directory hkind' _ => cases hkind.symm.trans hkind'
    | neither hfile _ => exact absurd hkind hfile
  | otherFile hkind hname =>
    cases h' with
    | otherFile => exact ⟨rfl, rfl⟩
    | document _ hname' => exact absurd hname' hname
    | directory hkind' _ => cases hkind.symm.trans hkind'
    | neither hfile _ => exact absurd hkind hfile
  | neither hfile hdir =>
    cases h' with
    | neither => exact ⟨rfl, rfl⟩
    | directory hkind' _ => exact absurd hkind' hdir
    | document hkind' _ | otherFile hkind' _ => exact absurd hkind' hfile

theorem Joins.unique {paths files files' : List String} {log log' : List LogEntry}
    (h : fs.Joins paths files log) (h' : fs.Joins paths files' log') :
    files = files' ∧ log = log' := by
  induction h generalizing files' log' with
  | nil =>
    cases h'
    exact ⟨rfl, rfl⟩
  | cons hfirst _ ih =>
    cases h' with
    | cons hfirst' hrest' =>
      rcases hfirst.unique hfirst' with ⟨rfl, rfl⟩
      rcases ih hrest' with ⟨rfl, rfl⟩
      exact ⟨rfl, rfl⟩

/-- There is only one expansion. -/
theorem Expands.unique {paths files files' : List String} {log log' : List LogEntry}
    (h : fs.Expands paths files log) (h' : fs.Expands paths files' log') :
    files = files' ∧ log = log' := by
  unfold Expands at h h'
  by_cases hpaths : paths = []
  · rw [if_pos hpaths] at h h'
    exact h.unique h'
  · rw [if_neg hpaths] at h h'
    exact h.unique h'

end FileSystem

/-! ### Runs -/

section

variable {fs : FileSystem} {σ : Type} {m : Machine Files σ} {s : σ}

theorem run_onlyFiles (h : m.Shows fs s) (paths : List String) :
    ((onlyFiles paths).run m s).value = paths.filter (fun path => fs.kind path = some .file) ∧
      ((onlyFiles paths).run m s).log = [] := by
  induction paths generalizing s with
  | nil => exact ⟨rfl, rfl⟩
  | cons path rest ih =>
    rcases ih (h.next (.kind path)) with ⟨hvalue, hlog⟩
    simp only [onlyFiles, Script.run_bind, run_kind h, Script.run_pure, Run.follow, hvalue, hlog,
      List.filter_cons, List.append_nil, decide_eq_true_eq, and_self]

/-- However the names are enumerated, sorting them puts their paths in order. -/
theorem documents_of_names {dir : String} {names : List String} (hnodup : names.Nodup)
    (hnames : fs.names dir = .ok names.toFinset) :
    fs.Documents dir names.toFinset
      ((((names.mergeSort fun a b => a ≤ b).map (Path.join dir)).filter isMarkdown).filter
        fun path => fs.kind path = some .file) := by
  have hname {name : String} (h : name ∈ names) : Path.IsName name :=
    fs.isName hnames (List.mem_toFinset.2 h)
  refine ⟨fun file => ?_, ?_⟩
  · simp only [List.mem_filter, List.mem_map, List.mem_mergeSort, List.mem_toFinset,
      isMarkdown_iff, Path.IsDocument, decide_eq_true_eq]
    constructor
    · -- The path ends in the name that it comes from, so that one ends as a document's does.
      rintro ⟨⟨⟨name, hmem, rfl⟩, stem, hstem, hfile⟩, hkind⟩
      rw [Path.fileName?_join dir (hname hmem)] at hfile
      cases hfile
      exact ⟨stem, hstem, hmem, rfl, hkind⟩
    · rintro ⟨stem, hstem, hmem, rfl, hkind⟩
      exact ⟨⟨⟨_, hmem, rfl⟩, stem, hstem, Path.fileName?_join dir (hname hmem)⟩, hkind⟩
  · -- Sorted names that are all different are in strict order, and so are their paths.
    have hle : (names.mergeSort fun a b => a ≤ b).Pairwise (· ≤ ·) := by
      refine (List.pairwise_mergeSort ?_ ?_ names).imp of_decide_eq_true
      · exact fun a b c hab hbc => decide_eq_true
          (String.le_trans (of_decide_eq_true hab) (of_decide_eq_true hbc))
      · intro a b
        rw [Bool.or_eq_true, decide_eq_true_eq, decide_eq_true_eq]
        exact String.le_total a b
    have hne : (names.mergeSort fun a b => a ≤ b).Pairwise (· ≠ ·) :=
      (List.mergeSort_perm names _).nodup_iff.2 hnodup
    have hbefore : ((names.mergeSort fun a b => a ≤ b).map (Path.join dir)).Pairwise
        Path.Before := by
      refine List.pairwise_map.2 ((hle.and hne).imp_of_mem fun {a b} ha hb hab => ?_)
      rw [List.mem_mergeSort] at ha hb
      exact Path.before_join dir (hname ha) (hname hb) (lt_of_le_of_ne hab.1 hab.2)
    exact (hbefore.filter _).filter _

theorem run_markdownIn (h : m.Shows fs s) (dir : String) :
    fs.Lists dir ((markdownIn dir).run m s).value ((markdownIn dir).run m s).log := by
  rcases run_names h dir with ⟨names, s', hrun, hnames, hnext⟩
  simp only [markdownIn, Script.run_bind, hrun, Run.follow]
  generalize hlist : fs.names dir = listed at hnames
  cases hnames with
  | error reason => exact .unreadable hlist
  | ok hnodup =>
    simp only [run_onlyFiles hnext, List.append_nil]
    exact .readable hlist (documents_of_names hnodup hlist)

theorem run_expandPath (h : m.Shows fs s) (path : String) :
    fs.Contributes path ((expandPath path).run m s).value ((expandPath path).run m s).log := by
  simp only [expandPath, Script.run_bind, run_kind h, Run.follow]
  rcases hfound : fs.kind path with _ | kind
  · exact .neither (by rw [hfound]; nofun) (by rw [hfound]; nofun)
  · cases kind with
    | file =>
      by_cases hname : Path.IsDocument path
      · have hmarkdown := (isMarkdown_iff path).2 hname
        simp only [hmarkdown]
        exact .document hfound hname
      · have hmarkdown : isMarkdown path = false :=
          Bool.eq_false_iff.2 fun h => hname ((isMarkdown_iff path).1 h)
        simp only [hmarkdown]
        exact .otherFile hfound hname
    | directory => exact .directory hfound (run_markdownIn (h.next (.kind path)) path)
    | other => exact .neither (by rw [hfound]; nofun) (by rw [hfound]; nofun)

theorem run_expandAll (h : m.Shows fs s) (paths : List String) :
    fs.Joins paths ((expandAll paths).run m s).value ((expandAll paths).run m s).log := by
  induction paths generalizing s with
  | nil => exact .nil
  | cons path rest ih =>
    have hrest := ih (h.run (expandPath path))
    simp only [expandAll, Script.run_bind, Script.run_pure, Run.follow, List.append_nil]
    exact .cons (run_expandPath h path) hrest

/-- The expansion of paths: on every machine of a file system. -/
theorem run_expandPaths (h : m.Shows fs s) (paths : List String) :
    fs.Expands paths ((expandPaths paths).run m s).value ((expandPaths paths).run m s).log := by
  unfold FileSystem.Expands expandPaths
  by_cases hpaths : paths = []
  · rw [if_pos hpaths, if_pos (List.isEmpty_iff.2 hpaths)]
    exact run_markdownIn h "."
  · rw [if_neg hpaths, if_neg (mt List.isEmpty_iff.1 hpaths)]
    exact run_expandAll h paths

end

/-! ### A directory with two documents -/

/-- The names in a directory with two documents and what only looks like some: a name without a
stem, an extension in capital letters, a directory and a named pipe. -/
def shelfNames : List String := ["b.md", "old.md", ".md", "a.md", "pipe.md", "C.MD"]

/-- The file system with that directory. -/
def shelf : FileSystem where
  kind path :=
    if path ∈ ["docs", "docs/old.md"] then some .directory
    else if path ∈ ["docs/b.md", "docs/.md", "docs/a.md", "docs/C.MD"] then some .file
    else if path = "docs/pipe.md" then some .other
    else none
  names dir := if dir = "docs" then .ok shelfNames.toFinset else .error FileTree.notFound
  isName {dir among} h name hname := by
    have hproper : ∀ name ∈ shelfNames, '/' ∉ name.toList ∧ name ∉ ["", ".", ".."] := by decide
    split at h
    · cases h
      rcases hproper name (List.mem_toFinset.1 hname) with ⟨hpart, hdown⟩
      exact ⟨hpart, hdown⟩
    · cases h

/-- A machine that enumerates the directory in an order of its own. -/
def shelfMachine (names : List String) : Machine Files Unit where
  answer
    | .kind path, s => (shelf.kind path, s)
    | .names dir, s => (if dir = "docs" then .ok names else .error FileTree.notFound, s)
    | .read _, s => (.error FileTree.notFound, s)

theorem shelfMachine_shows {names : List String} (hnodup : names.Nodup)
    (hnames : names.toFinset = shelfNames.toFinset) : (shelfMachine names).Shows shelf () := by
  refine Machine.Shows.of_answer (fun _ => rfl) fun q => ?_
  cases q with
  | kind path => rfl
  | read path => trivial
  | names dir =>
    simp only [FileSystem.Allows, shelf, shelfMachine, ← hnames]
    by_cases hdir : dir = "docs"
    · rw [if_pos hdir, if_pos hdir]
      exact .ok hnodup
    · rw [if_neg hdir, if_neg hdir]
      exact .error _

theorem shelf_documents :
    shelf.Documents "docs" shelfNames.toFinset ["docs/a.md", "docs/b.md"] := by
  refine ⟨fun file => ⟨fun hfile => ?_, ?_⟩, ?_⟩
  · simp only [List.mem_cons, List.not_mem_nil, or_false] at hfile
    rcases hfile with rfl | rfl
    · exact ⟨"a", by decide, by decide, by decide +kernel, by decide⟩
    · exact ⟨"b", by decide, by decide, by decide +kernel, by decide⟩
  · rintro ⟨stem, hstem, hmem, rfl, hkind⟩
    simp only [shelfNames, List.mem_toFinset, List.mem_cons, List.not_mem_nil, or_false] at hmem
    rcases hmem with hname | hname | hname | hname | hname | hname
    · rw [hname]
      decide +kernel
    · -- The directory is no file.
      rw [hname] at hkind
      exact absurd hkind (by decide +kernel)
    · -- Nothing stands in front of the dot.
      exact absurd ((String.append_left_inj ".md").1 (hname.trans (String.empty_append).symm)) hstem
    · rw [hname]
      decide +kernel
    · -- Neither is the pipe.
      rw [hname] at hkind
      exact absurd hkind (by decide +kernel)
    · -- The extension is another one.
      have hlast := congrArg (fun s => s.toList.getLast?) hname
      simp at hlast
  · have ha : Path.IsName "a.md" := ⟨by decide, by decide⟩
    have hb : Path.IsName "b.md" := ⟨by decide, by decide⟩
    have hjoin : Path.join "docs" "a.md" = "docs/a.md" ∧ Path.join "docs" "b.md" = "docs/b.md" := by
      decide +kernel
    have hbefore := Path.before_join "docs" ha hb (by decide)
    rw [hjoin.1, hjoin.2] at hbefore
    exact List.pairwise_pair.2 hbefore

/-! ### The documents of paths -/

/-- Paths stand for what they contribute, one after the other. Two machines of one file system
come to the same documents and log the same, in whatever order they enumerate directories. -/
theorem expandPaths_expands {fs : FileSystem} {σ τ : Type} {m : Machine Files σ}
    {m' : Machine Files τ} {s : σ} {s' : τ} (h : m.Shows fs s) (h' : m'.Shows fs s')
    (paths : List String) :
    fs.Expands paths ((expandPaths paths).run m s).value ((expandPaths paths).run m s).log ∧
      ((expandPaths paths).run m' s').value = ((expandPaths paths).run m s).value ∧
      ((expandPaths paths).run m' s').log = ((expandPaths paths).run m s).log := by
  have hexpands := run_expandPaths h paths
  exact ⟨hexpands, (run_expandPaths h' paths).unique hexpands⟩

/-- The documents are the same from either end of the directory. -/
theorem expandPaths_expands_shelf :
    (shelfMachine shelfNames).Shows shelf () ∧ (shelfMachine shelfNames.reverse).Shows shelf () ∧
      ((expandPaths ["docs", "gone.md", "docs/b.md"]).run (shelfMachine shelfNames) ()).value =
        ["docs/a.md", "docs/b.md", "docs/b.md"] ∧
      ((expandPaths ["docs", "gone.md", "docs/b.md"]).run (shelfMachine shelfNames) ()).log =
        [⟨.warn, "File not found: gone.md", []⟩] ∧
      ((expandPaths ["docs", "gone.md", "docs/b.md"]).run
        (shelfMachine shelfNames.reverse) ()).value = ["docs/a.md", "docs/b.md", "docs/b.md"] := by
  have hshows : (shelfMachine shelfNames).Shows shelf () := shelfMachine_shows (by decide) rfl
  have hreverse : (shelfMachine shelfNames.reverse).Shows shelf () :=
    shelfMachine_shows (by decide) (List.toFinset_reverse)
  have hname : Path.IsName "b.md" := ⟨by decide, by decide⟩
  have hdocument : Path.IsDocument "docs/b.md" := by
    have hjoin : Path.join "docs" "b.md" = "docs/b.md" := by decide +kernel
    exact ⟨"b", by decide, hjoin ▸ Path.fileName?_join "docs" hname⟩
  have hjoins : shelf.Joins ["docs", "gone.md", "docs/b.md"] ["docs/a.md", "docs/b.md", "docs/b.md"]
      [⟨.warn, "File not found: gone.md", []⟩] :=
    .cons (.directory (by decide) (.readable rfl shelf_documents))
      (.cons (.neither (by decide) (by decide)) (.cons (.document (by decide) hdocument) .nil))
  rcases expandPaths_expands hshows hreverse ["docs", "gone.md", "docs/b.md"] with
    ⟨hexpands, hvalue, _⟩
  rcases hexpands.unique hjoins with ⟨hfiles, hlog⟩
  exact ⟨hshows, hreverse, hfiles, hlog, hvalue.trans hfiles⟩

end WikiSync
