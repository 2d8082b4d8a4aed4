import Mathlib.Data.List.Infix
import Mathlib.Data.List.Perm.Subperm
import WikiSync.Proofs.Config.Expansion
import WikiSync.Proofs.Config.Usable
import WikiSync.Proofs.Files.Directory

/-!
# Finding the File with Settings

Where the settings come from when no file is asked for. The search goes up from the working
directory and stops at the first directory that has a file with the right name, so it comes to
a directory exactly if none of those below it, down to the working directory, has one. As
directories are lists of names, "nearer" is "longer", and the nearest directory is the one that
every other one with such a file is an initial segment of. There is at most one.

The induction is on the names of the working directory, from the last one on: either the search
ends at once, or it goes on as it would from the directory above. What a search comes to is said
without an order of steps, so both directions of `reaches_concat_iff` are needed for one step.

## Main definitions

* `Config.Reaches`: The search comes to a directory.
* `Config.Nearest`: The nearest directory with a file of settings.
* `Config.Searched`: What a search looks at, in order.

## Theorems

* `Config.reaches_concat_iff`: One step of the search.
* `Config.run_firstExisting`: The search.
* `Config.load_nearest`: The file that settings are loaded from.
-/

namespace WikiSync

namespace Config

variable {fs : FileSystem}

theorem isName_fileName : Path.IsName fileName :=
  ⟨by decide, by decide⟩

/-- The path of the file with settings that a directory may have. -/
def pathIn (dir : List String) : String :=
  Path.join (Path.ofNames dir) fileName

/-- The search comes to a directory at or above the working directory: no nearer one has a file
with settings. -/
structure Reaches (fs : FileSystem) (names dir : List String) : Prop where
  above : dir <+: names
  noneNearer : ∀ other, other <+: names → fs.Has other fileName → other <+: dir

/-- The nearest directory, at or above the working directory, that has a file with settings. -/
structure Nearest (fs : FileSystem) (names dir : List String) : Prop extends
    Reaches fs names dir where
  has : fs.Has dir fileName

/-- What a search looks at: it goes up, and stops at the nearest directory that has a file with
settings. -/
structure Searched (fs : FileSystem) (names : List String) (looked : List (List String)) :
    Prop where
  mem_iff (dir : List String) : dir ∈ looked ↔ Reaches fs names dir
  upwards : looked.Pairwise fun near far => far <+: near ∧ far ≠ near

/-- There is one at most. -/
theorem Nearest.unique {names dir dir' : List String} (h : Nearest fs names dir)
    (h' : Nearest fs names dir') : dir = dir' :=
  (h'.noneNearer dir h.above h.has).sublist.antisymm
    (h.noneNearer dir' h'.above h'.has).sublist

/-- No directory is looked at twice, so there is an end. -/
theorem Searched.length_le {names : List String} {looked : List (List String)}
    (h : Searched fs names looked) : looked.length ≤ names.length + 1 := by
  have hnodup : looked.Nodup := h.upwards.imp fun hup => hup.2.symm
  have hsub : looked ⊆ names.inits := fun dir hdir =>
    (List.mem_inits dir names).2 ((h.mem_iff dir).1 hdir).above
  have hlength := (hnodup.subperm hsub).length_le
  rwa [List.length_inits] at hlength

/-! ### One step -/

theorem reaches_nil_iff {dir : List String} : Reaches fs [] dir ↔ dir = [] :=
  ⟨fun h => List.prefix_nil.1 h.above,
    fun h => h ▸ ⟨List.prefix_rfl, fun _ hother _ => hother⟩⟩

/-- The search comes to the working directory, and to what it comes to from the directory above
if there is no file with settings yet. -/
theorem reaches_concat_iff {above dir : List String} {name : String} :
    Reaches fs (above ++ [name]) dir ↔
      dir = above ++ [name] ∨ ¬ fs.Has (above ++ [name]) fileName ∧ Reaches fs above dir := by
  -- A file in the working directory itself keeps the search from all that is above.
  have hlonger {part : List String} (hpart : part <+: above) : ¬ above ++ [name] <+: part :=
    fun h => by
      have hlength := h.length_le.trans hpart.length_le
      rw [List.length_append, List.length_singleton] at hlength
      omega
  have hup : above <+: above ++ [name] := List.prefix_append above [name]
  constructor
  · intro h
    rcases List.prefix_concat_iff.1 h.above with heq | habove
    · exact .inl heq
    · refine .inr ⟨fun hhas => hlonger habove (h.noneNearer _ List.prefix_rfl hhas), habove, ?_⟩
      exact fun other hother => h.noneNearer other (hother.trans hup)
  · rintro (rfl | ⟨hnone, h⟩)
    · exact ⟨List.prefix_rfl, fun other hother _ => hother⟩
    · refine ⟨h.above.trans hup, fun other hother hhas => ?_⟩
      rcases List.prefix_concat_iff.1 hother with rfl | hother
      · exact absurd hhas hnone
      · exact h.noneNearer other hother hhas

theorem searched_nil : Searched fs [] [[]] :=
  ⟨fun _ => List.mem_singleton.trans reaches_nil_iff.symm, List.pairwise_singleton _ _⟩

/-- The search ends where there is a file with settings. -/
theorem searched_of_has {names : List String} (h : fs.Has names fileName) :
    Searched fs names [names] := by
  refine ⟨fun dir => List.mem_singleton.trans ⟨?_, fun hdir => ?_⟩, List.pairwise_singleton _ _⟩
  · rintro rfl
    exact ⟨List.prefix_rfl, fun other hother _ => hother⟩
  · exact hdir.above.sublist.antisymm (hdir.noneNearer names List.prefix_rfl h).sublist

/-- Otherwise it goes on above. -/
theorem Searched.concat {above : List String} {name : String} {looked : List (List String)}
    (h : Searched fs above looked) (hnone : ¬ fs.Has (above ++ [name]) fileName) :
    Searched fs (above ++ [name]) ((above ++ [name]) :: looked) := by
  refine ⟨fun dir => ?_, List.pairwise_cons.2 ⟨fun far hfar => ?_, h.upwards⟩⟩
  · rw [List.mem_cons, h.mem_iff, reaches_concat_iff]
    exact or_congr_right (and_iff_right hnone).symm
  · have hfar := ((h.mem_iff far).1 hfar).above
    refine ⟨hfar.trans (List.prefix_append above [name]), ?_⟩
    rintro rfl
    exact absurd hfar.length_le (by rw [List.length_append, List.length_singleton]; omega)

/-! ### The search -/

/-- What a search finds: the nearest directory, or that there is none. -/
inductive Finds (fs : FileSystem) (names : List String) : Option String → Prop
  | nearest {dir : List String} (h : Nearest fs names dir) : Finds fs names (some (pathIn dir))
  | nowhere (h : ∀ dir, dir <+: names → ¬ fs.Has dir fileName) : Finds fs names none

theorem Finds.concat {above : List String} {name : String} {found : Option String}
    (h : Finds fs above found) (hnone : ¬ fs.Has (above ++ [name]) fileName) :
    Finds fs (above ++ [name]) found := by
  cases h with
  | nearest h => exact .nearest ⟨reaches_concat_iff.2 (.inr ⟨hnone, h.toReaches⟩), h.has⟩
  | nowhere h =>
    refine .nowhere fun dir hdir => ?_
    rcases List.prefix_concat_iff.1 hdir with rfl | hdir
    · exact hnone
    · exact h dir hdir

theorem Finds.eq_some_iff {names : List String} {found : Option String} (h : Finds fs names found)
    (path : String) : found = some path ↔ ∃ dir, Nearest fs names dir ∧ path = pathIn dir := by
  cases h with
  | nearest hdir =>
    constructor
    · exact fun hpath => ⟨_, hdir, (Option.some.inj hpath).symm⟩
    · rintro ⟨dir, hdir', rfl⟩
      rw [hdir.unique hdir']
  | nowhere hnone =>
    constructor
    · exact fun hpath => nomatch hpath
    · rintro ⟨dir, hdir, -⟩
      exact absurd hdir.has (hnone dir hdir.above)

theorem Finds.eq_none_iff {names : List String} {found : Option String}
    (h : Finds fs names found) :
    found = none ↔ ∀ dir, dir <+: names → ¬ fs.Has dir fileName := by
  cases h with
  | nearest hdir =>
    exact iff_of_false (Option.some_ne_none _) fun hnone => hnone _ hdir.above hdir.has
  | nowhere hnone => exact iff_of_true rfl hnone

theorem candidates_nil : candidates (Path.ofNames []) = [pathIn []] := by
  rw [candidates, Path.ancestors_ofNames_nil]
  rfl

theorem candidates_concat {above : List String} {name : String}
    (h : ∀ part ∈ above ++ [name], Path.IsName part) :
    candidates (Path.ofNames (above ++ [name])) =
      pathIn (above ++ [name]) :: candidates (Path.ofNames above) := by
  rw [candidates, Path.ancestors_ofNames_concat h]
  rfl

section

variable {σ : Type} {m : Machine Files σ} {s : σ}

theorem run_firstExisting_of_some (h : m.Shows fs s) {path : String} (hpath : fs.kind path ≠ none)
    (rest : List String) :
    (firstExisting (path :: rest)).run m s =
      ⟨some path, (m.answer (.kind path) s).2, [], [.kind path]⟩ := by
  rcases Option.ne_none_iff_exists'.1 hpath with ⟨kind, hkind⟩
  rw [firstExisting, Script.run_bind, run_kind h, hkind]
  rfl

theorem run_firstExisting_of_none (h : m.Shows fs s) {path : String} (hpath : fs.kind path = none)
    (rest : List String) :
    (firstExisting (path :: rest)).run m s =
      { (firstExisting rest).run m (m.answer (.kind path) s).2 with
        asked := .kind path ::
          ((firstExisting rest).run m (m.answer (.kind path) s).2).asked } := by
  rw [firstExisting, Script.run_bind, run_kind h, hpath]
  rfl

/-- The search finds what there is to find. -/
theorem run_firstExisting (h : m.Shows fs s) {names : List String}
    (hnames : ∀ name ∈ names, Path.IsName name) :
    Finds fs names ((firstExisting (candidates (Path.ofNames names))).run m s).value ∧
      ∃ looked, Searched fs names looked ∧
        ((firstExisting (candidates (Path.ofNames names))).run m s).asked =
          looked.map fun dir => .kind (pathIn dir) := by
  induction names using List.reverseRecOn generalizing s with
  | nil =>
    rw [candidates_nil]
    by_cases hhas : fs.kind (pathIn []) = none
    · rw [run_firstExisting_of_none h hhas]
      refine ⟨.nowhere fun dir hdir => ?_, [[]], searched_nil, rfl⟩
      rw [List.prefix_nil.1 hdir]
      exact fun h => h hhas
    · rw [run_firstExisting_of_some h hhas]
      exact ⟨.nearest ⟨reaches_nil_iff.2 rfl, hhas⟩, [[]], searched_nil, rfl⟩
  | append_singleton above name ih =>
    rw [candidates_concat hnames]
    by_cases hhas : fs.kind (pathIn (above ++ [name])) = none
    · -- Nothing is here, so the search goes on above.
      have hnone : ¬ fs.Has (above ++ [name]) fileName := fun h => h hhas
      rcases ih (h.next (.kind (pathIn (above ++ [name]))))
        (fun part hpart => hnames part (List.mem_append_left [name] hpart)) with
        ⟨hfinds, looked, hlooked, hasked⟩
      rw [run_firstExisting_of_none h hhas]
      exact ⟨hfinds.concat hnone, _, hlooked.concat hnone, congrArg _ hasked⟩
    · have hsearched : Searched fs (above ++ [name]) [above ++ [name]] := searched_of_has hhas
      rw [run_firstExisting_of_some h hhas]
      exact ⟨.nearest ⟨(hsearched.mem_iff _).1 List.mem_cons_self, hhas⟩, _, hsearched, rfl⟩

/-! ### Loading -/

theorem asked_readLayer (m : Machine Files σ) (vars : Variables) (path : String) (s : σ) :
    ((readLayer vars path).run m s).asked = [.read path] := by
  have htext : ((readText path).run m s).asked = [.read path] := by
    unfold readText
    rw [Script.run_bind]
    simp only [Script.question, Script.run, Run.follow]
    rcases (m.answer (.read path) s).1 with reason | bytes
    · rfl
    · simp only
      rcases Text.ofUtf8? bytes with _ | text
      · rfl
      · rfl
  unfold readLayer
  rw [Script.run_bind]
  simp only [Run.follow, htext]
  rcases ((readText path).run m s).value with reason | text
  · rfl
  · rfl

/-- A configuration says which file it was loaded with. -/
theorem locate_of_load (m : Machine Files σ) {e : Environment} {asked : Option String}
    {env cli : ConfigLayer} {s : σ} {c : Config}
    (h : ((load e asked env cli).run m s).value = .ok c) :
    ((locate e asked).run m s).value = .ok c.path := by
  rcases exists_of_load m e asked h with ⟨path, file, hlocate, -, hlayers⟩
  have hresolved : Resolved (ConfigLayer.winners [cli, file, env]) path (.ok c) :=
    hlayers ▸ resolved_ofLayers cli file env path
  rw [hlocate, hresolved.follows.path]

/-- Besides looking for the file, loading reads the one that is found. -/
theorem asked_load (m : Machine Files σ) (e : Environment) (asked : Option String)
    (env cli : ConfigLayer) (s : σ) {path : Option String}
    (h : ((locate e asked).run m s).value = .ok path) :
    ((load e asked env cli).run m s).asked =
      ((locate e asked).run m s).asked ++ path.toList.map .read := by
  have hfile (s : σ) : ((fileLayer e path).run m s).asked = path.toList.map .read := by
    rcases path with _ | path
    · rfl
    · exact asked_readLayer m e.vars path s
  unfold load
  rw [Script.run_bind, h]
  simp only [Run.follow]
  rw [Script.run_bind]
  simp only [Run.follow, hfile]
  rcases ((fileLayer e path).run m ((locate e asked).run m s).state).value with problem | file
  · simp
  · simp

theorem run_locate_none (m : Machine Files σ) (e : Environment) (s : σ) :
    (locate e none).run m s = ((discover e).run m s).map .ok := by
  change (discover e >>= fun found => pure (Except.ok found)).run m s = _
  rw [Script.run_bind]
  simp only [Script.run_pure, Run.follow, Run.map, List.append_nil]

theorem run_locate_some (h : m.Shows fs s) (e : Environment) (path : String) :
    (locate e (some path)).run m s =
      ⟨if fs.kind path = none then .error (.notFound path) else .ok (some path),
        (m.answer (.kind path) s).2, [], [.kind path]⟩ := by
  unfold locate
  simp only
  rw [Script.run_bind, run_kind h]
  rcases hkind : fs.kind path with _ | kind
  · rfl
  · rfl

end

/-- The file that settings are loaded from. If none is asked for, it is the one in the nearest
directory, among the working directory and those above it, that has something under the name of
such files, and there is none if and only if no directory has. The search looks at one directory
after the other, up to the nearest one, and at no directory twice. Only the file that is found
is read, and the configuration says which one it is. A path that is asked for is not searched
for: no other one is looked at, wherever the working directory is, and without a file there is
an error. In a tree, a directory has something under a name if the name is one of those in it;
elsewhere a name may be that of a link that leads nowhere, which counts as none. -/
theorem load_nearest {σ : Type} {m : Machine Files σ} {fs : FileSystem} {s : σ} (h : m.Shows fs s)
    (env cli : ConfigLayer) :
    (∀ (e : Environment) (names : List String), (∀ name ∈ names, Path.IsName name) →
      e.workingDirectory = some (Path.ofNames names) →
      let found := (discover e).run m s
      let loaded := (load e none env cli).run m s
      (∀ path, found.value = some path ↔ ∃ dir, Nearest fs names dir ∧ path = pathIn dir) ∧
      (found.value = none ↔ ∀ dir, dir <+: names → ¬ fs.Has dir fileName) ∧
      (∃ looked, Searched fs names looked ∧ looked.length ≤ names.length + 1 ∧
        found.asked = looked.map fun dir => .kind (pathIn dir)) ∧
      loaded.asked = found.asked ++ found.value.toList.map .read ∧
      ∀ c, loaded.value = .ok c → c.path = found.value) ∧
    (∀ (e : Environment) (path : String),
      let loaded := (load e (some path) env cli).run m s
      (fs.kind path = none → loaded.value = .error (.notFound path) ∧ loaded.asked = [.kind path]) ∧
      (fs.kind path ≠ none → loaded.asked = [.kind path, .read path]) ∧
      ∀ c, loaded.value = .ok c → c.path = some path) ∧
    ∀ (t : FileTree) (ht : t.Proper) (dir : List String) (among : Finset String),
      (t.system ht).names (Path.ofNames dir) = .ok among →
        ((t.system ht).Has dir fileName ↔ fileName ∈ among) := by
  refine ⟨fun e names hnames hdir => ?_, fun e path => ?_, fun t ht dir among hamong => ?_⟩
  · have hdiscover : discover e = firstExisting (candidates (Path.ofNames names)) := by
      rw [discover, hdir]
    have hlocate := run_locate_none m e s
    have hasked := asked_load m e none env cli s (congrArg Run.value hlocate)
    rcases run_firstExisting h hnames with ⟨hfinds, looked, hlooked, hkinds⟩
    rw [← hdiscover] at hfinds hkinds
    refine ⟨fun path => ?_, ?_, ⟨looked, hlooked, hlooked.length_le, hkinds⟩, ?_, fun c hc => ?_⟩
    · exact hfinds.eq_some_iff path
    · exact hfinds.eq_none_iff
    · rw [hasked, hlocate]
      rfl
    · have hpath := locate_of_load m hc
      rw [hlocate] at hpath
      exact (Except.ok.inj hpath).symm
  · have hlocate := run_locate_some h e path
    refine ⟨fun hnone => ?_, fun hsome => ?_, fun c hc => ?_⟩
    · rw [if_pos hnone] at hlocate
      unfold load
      rw [Script.run_bind, hlocate]
      exact ⟨rfl, rfl⟩
    · rw [if_neg hsome] at hlocate
      rw [asked_load m e (some path) env cli s (congrArg Run.value hlocate), hlocate]
      rfl
    · have hpath := locate_of_load m hc
      rw [hlocate] at hpath
      split at hpath
      · cases hpath
      · exact (Except.ok.inj hpath).symm
  · exact FileTree.system_has_iff ht isName_fileName hamong

/-! ### Settings of a team -/

/-- The text of a file with settings. -/
def teamText : String := "[confluence]\nspace = \"TEAM\"\n"

/-- A tree with two files of settings: one at the root, and one in a directory that holds
the working directory, which has none. -/
def teamTree : FileTree where
  entries := SortedMap.ofList
    [("", none), ("/mdconf.toml", some []), ("/team", none), ("/team/docs", none),
      ("/team/mdconf.toml", some (Text.utf8 teamText))]
  workingDirectory := "/team/docs"

/-- The places in the tree that matter. -/
def teamPlaces : List (List String) :=
  [["mdconf.toml"], ["team"], ["team", "docs"], ["team", "mdconf.toml"]]

theorem isName_teamPlaces : ∀ names ∈ teamPlaces, ∀ name ∈ names, Path.IsName name := by
  have hall : ∀ names ∈ teamPlaces, ∀ name ∈ names,
      '/' ∉ name.toList ∧ name ∉ ["", ".", ".."] := by decide
  exact fun names hnames name hname =>
    ⟨(hall names hnames name hname).1, (hall names hnames name hname).2⟩

/-- The tree without its working directory, as it is built up. -/
def teamFiles : FileTree :=
  ((FileTree.empty.addFile (Path.ofNames ["mdconf.toml"]) []).addFile
    (Path.ofNames ["team", "mdconf.toml"]) (Text.utf8 teamText)).addDirectory
      (Path.ofNames ["team", "docs"])

theorem entries_teamTree : teamTree.entries = teamFiles.entries := by
  have hroot := FileTree.above_ofNames (isName_teamPlaces ["mdconf.toml"] (by decide))
  have hfile := FileTree.above_ofNames (isName_teamPlaces ["team", "mdconf.toml"] (by decide))
  have hdocs := FileTree.above_ofNames (isName_teamPlaces ["team", "docs"] (by decide))
  simp only [teamFiles, FileTree.addFile, FileTree.addDirectory, hroot, hfile, hdocs]
  rfl

theorem proper_teamTree : teamTree.Proper := by
  have hdown {names : List String} (h : names ∈ teamPlaces) :
      ".." ∉ Path.parts (Path.ofNames names) := Path.up_not_mem_parts (isName_teamPlaces names h)
  have hfiles : teamFiles.Proper :=
    ((FileTree.proper_empty.addFile (hdown (by decide)) []).addFile (hdown (by decide))
      (Text.utf8 teamText)).addDirectory (hdown (by decide))
  unfold FileTree.Proper
  rw [entries_teamTree]
  exact hfiles

theorem locate?_teamTree {names : List String} (h : names ∈ teamPlaces) :
    teamTree.locate? (Path.ofNames names) = some (Path.ofNames names) := by
  have hne : ∀ names ∈ teamPlaces, Path.ofNames names ≠ "" := by decide +kernel
  rw [FileTree.locate?_eq (hne names h), Path.parts_ofNames (isName_teamPlaces names h)]
  revert names
  decide +kernel

/-- The names in a directory of the tree. -/
theorem names_teamTree {dir : List String} (h : dir ∈ teamPlaces)
    (hdir : teamTree.entries.get? (Path.ofNames dir) = some none) :
    (teamTree.system proper_teamTree).names (Path.ofNames dir) =
      .ok (teamTree.names (Path.ofNames dir)).toFinset := by
  have hkind : teamTree.kind? (Path.ofNames dir) = some .directory := by
    rw [FileTree.kind?_eq, locate?_teamTree h, Option.bind_some, hdir]
    rfl
  change (teamTree.answer (.names (Path.ofNames dir))).map List.toFinset = _
  simp only [FileTree.answer, locate?_teamTree h, hkind]
  rfl

/-- The settings in the file of the team. -/
def teamLayer : ConfigLayer :=
  { ConfigLayer.empty with space := some "TEAM" }

/-- The file of the team can be read. -/
theorem readText_teamTree :
    ((readText "/team/mdconf.toml").run FileTree.machine teamTree).value = .ok teamText := by
  have hpath : Path.ofNames ["team", "mdconf.toml"] = "/team/mdconf.toml" := by decide +kernel
  have hlocate : teamTree.locate? (Path.ofNames ["team", "mdconf.toml"]) =
      some (Path.ofNames ["team", "mdconf.toml"]) := locate?_teamTree (by decide)
  have hread : teamTree.answer (.read "/team/mdconf.toml") = .ok (Text.utf8 teamText) := by
    rw [hpath] at hlocate
    simp only [FileTree.answer, hlocate, Option.bind_some]
    have hentry : teamTree.entries.get? "/team/mdconf.toml" = some (some (Text.utf8 teamText)) := by
      decide +kernel
    rw [hentry]
  have htext : Text.ofUtf8? (Text.utf8 teamText) = some teamText := by decide +kernel
  unfold readText
  rw [Script.run_bind]
  simp only [Script.question, Script.run, Run.follow, FileTree.machine, hread, htext,
    Script.run_pure]

/-- Settings for all that is required. -/
def requiredLayer : ConfigLayer :=
  { ConfigLayer.empty with
    domain := some "team.example", space := some "OLD", email := some "me@team.example",
    apiToken := some "secret" }

/-- The working directory has no file with settings, so the file of the team is found in the
directory above it, and not the one at the root. Another file that is asked for is not there. -/
theorem load_nearest_team :
    let m := FileTree.machine
    let e : Environment := ⟨fun _ => none, some "/team/docs"⟩
    ((discover e).run m teamTree).value = some "/team/mdconf.toml" ∧
      (∃ c, ((load e none requiredLayer .empty).run m teamTree).value = .ok c ∧
        c.space = "TEAM" ∧ c.path = some "/team/mdconf.toml") ∧
      ((load e (some "team.toml") requiredLayer .empty).run m teamTree).value =
        .error (.notFound "team.toml") ∧
      ((load e (some "team.toml") requiredLayer .empty).run m teamTree).asked =
        [.kind "team.toml"] := by
  intro m e
  have hdir : e.workingDirectory = some (Path.ofNames ["team", "docs"]) := by decide +kernel
  rcases load_nearest (FileTree.shows proper_teamTree) requiredLayer .empty with
    ⟨hsearch, hasked, htree⟩
  rcases hsearch e _ (isName_teamPlaces _ (by decide)) hdir with ⟨hfound, -, -, -, hpath⟩
  have hnearest : Nearest (teamTree.system proper_teamTree) ["team", "docs"] ["team"] := by
    refine ⟨⟨⟨["docs"], rfl⟩, fun other hother hhas => ?_⟩, ?_⟩
    · have hconcat : other <+: ["team"] ++ ["docs"] := hother
      rcases List.prefix_concat_iff.1 hconcat with rfl | hother
      · have hlisted :=
          (htree teamTree _ _ _ (names_teamTree (by decide) (by decide +kernel))).1 hhas
        exact absurd hlisted (by decide +kernel)
      · exact hother
    · refine (htree teamTree _ _ _ (names_teamTree (by decide) (by decide +kernel))).2 ?_
      decide +kernel
  have hteam : ((discover e).run m teamTree).value = some "/team/mdconf.toml" :=
    (hfound _).2 ⟨["team"], hnearest, by decide +kernel⟩
  refine ⟨hteam, ?_, ?_⟩
  · have hlocate : ((locate e none).run m teamTree).value = .ok (some "/team/mdconf.toml") := by
      rw [run_locate_none]
      exact congrArg Except.ok hteam
    have hread : ((readText "/team/mdconf.toml").run m
        ((locate e none).run m teamTree).state).value = .ok teamText := by
      rw [FileTree.state_run]
      exact readText_teamTree
    have hlayer : (Toml.read? teamText).bind ConfigLayer.ofToml? = some teamLayer := by
      decide +kernel
    have hspace : ((load e none requiredLayer .empty).run m teamTree).value.toOption.map
        (·.space) = some "TEAM" := by
      rw [value_load_file m e none hlocate hread hlayer]
      decide +kernel
    rcases hload : ((load e none requiredLayer .empty).run m teamTree).value with problem | c
    · rw [hload] at hspace
      cases hspace
    · rw [hload] at hspace
      exact ⟨c, rfl, Option.some.inj hspace, (hpath c hload).trans hteam⟩
  · refine (hasked e "team.toml").1 ?_
    have hname : Path.IsName "team.toml" := ⟨by decide, by decide⟩
    change teamTree.kind? "team.toml" = none
    rw [FileTree.kind?_eq, FileTree.locate?_eq (by decide), hname.parts_eq]
    decide +kernel

end Config

end WikiSync
