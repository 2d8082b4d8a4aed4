import WikiSync.Command.Sync
import WikiSync.Proofs.Script.Serve
import WikiSync.Proofs.Sync.Batch
import WikiSync.Proofs.Sync.Fold

/-!
# The Command and Its Batch

What the command makes of its batch. The command runs on files and the web; the
batch asks for files, a diagram backend and a page store. Two clients stand
between them, and to the batch they are a machine like any other
(`Machine.serving`). So what is known about batches on every machine is known of
the batch of the command, and the rest is to follow its result to the end of the
command.

## Main definitions

* `Config.batch`: The batch of the command.
* `Arguments.loading`, `Arguments.expansion`: What comes before it.

## Theorems

* `Config.value_sync`, `Arguments.value_execute`: The command in terms of its
  batch.
* `Arguments.error_eq_none_iff`, `Arguments.error_eq_failed_iff`: How it ends.
* `Batch.run_in_order`: Documents are worked off from the left to the right.
-/

namespace WikiSync

variable {τ : Type}

/-- The batch that the command works off, on the servers of its configuration. -/
def Config.batch (c : Config) (boundary : Nat → String) (files : List String)
    (n : Machine Outside τ) (t : τ) :
    Run Workplace (τ × Servers.Knowledge) (Except BatchError SyncReport) :=
  let servers := Servers.ofConfig c boundary
  ((Batch.ofConfig c servers).run files).run (n.serving servers.answer) (t, .empty)

/-- What becomes of the batch is what becomes of the command. -/
theorem Config.value_sync (c : Config) (boundary : Nat → String) (files : List String)
    (n : Machine Outside τ) (t : τ) :
    ((c.sync boundary files).run n t).value =
      match (c.batch boundary files n t).value with
      | .ok report => report.outcome c.dryRun
      | .error e => ⟨[], some (.batch e)⟩ := by
  unfold sync batch
  simp only [Script.run_bind, Run.follow]
  rw [(Script.run_serve n _ _ _ t).1]
  rcases (((Batch.ofConfig c (Servers.ofConfig c boundary)).run files).run
    (n.serving (Servers.ofConfig c boundary).answer) (t, .empty)).value with e | report
  · rfl
  · rfl

namespace Arguments

variable (a : Arguments) (e : Environment) (boundary : Nat → String) (n : Machine Outside τ) (t : τ)

/-- How the command loads its configuration. -/
def loading : Run Outside τ (Except ConfigError Config) :=
  (a.config e).inl.run n t

/-- How the command finds its documents after that. -/
def expansion : Run Outside τ (List String) :=
  (expandPaths a.files).inl.run n (a.loading e n t).state

/-- With a configuration and documents, the command is the sync of these. -/
theorem value_execute {c : Config} (hload : (a.loading e n t).value = .ok c)
    (hfound : (a.expansion e n t).value ≠ []) :
    ((a.execute e boundary).run n t).value =
      ((c.sync boundary (a.expansion e n t).value).run n (a.expansion e n t).state).value := by
  have hempty : ¬ (a.expansion e n t).value.isEmpty = true :=
    fun h => hfound (List.isEmpty_iff.1 h)
  unfold execute
  unfold expansion loading at *
  rw [Script.run_bind, hload]
  simp only [Script.run_bind, Run.follow, if_neg hempty]

/-- With a configuration and documents, the command succeeds if every document
has an outcome. -/
theorem error_eq_none_iff {c : Config} (hload : (a.loading e n t).value = .ok c)
    (hfound : (a.expansion e n t).value ≠ []) :
    ((a.execute e boundary).run n t).value.error = none ↔
      ∃ report, (c.batch boundary (a.expansion e n t).value n (a.expansion e n t).state).value =
          .ok report ∧
        report.outcomes.map (·.file) = (a.expansion e n t).value := by
  rw [value_execute a e boundary n t hload hfound, Config.value_sync]
  rcases hvalue : (c.batch boundary (a.expansion e n t).value n (a.expansion e n t).state).value
    with problem | report
  · simp
  · -- All documents have an outcome if none failed.
    have hshuffle := (Batch.ofConfig c (Servers.ofConfig c boundary)).shuffle_of_ok _ hvalue
    simp [SyncReport.outcome, SyncReport.isSuccess, hshuffle.eq_iff]

/-- It fails with a number of documents if that many failed, and otherwise it
does not. -/
theorem error_eq_failed_iff {c : Config} (hload : (a.loading e n t).value = .ok c)
    (hfound : (a.expansion e n t).value ≠ []) (k : Nat) :
    ((a.execute e boundary).run n t).value.error = some (.failed k) ↔
      ∃ report, (c.batch boundary (a.expansion e n t).value n (a.expansion e n t).state).value =
          .ok report ∧
        report.failures.length = k ∧ 1 ≤ k := by
  rw [value_execute a e boundary n t hload hfound, Config.value_sync]
  rcases hvalue : (c.batch boundary (a.expansion e n t).value n (a.expansion e n t).state).value
    with problem | report
  · simp
  · simp only [SyncReport.outcome, SyncReport.isSuccess, List.isEmpty_iff, Except.ok.injEq,
      exists_eq_left']
    rcases report.failures with _ | ⟨f, fs⟩
    · simp
      omega
    · simp
      omega

end Arguments

/-- A batch works its documents off from the left to the right, on any files,
any diagram backend and any store. The batch of two lists is that of the first
one and, unless this ends early, that of the second one. If a document ends it
early, the store was called for the documents before that one only. Otherwise
each document has an outcome or a failure, in order. The command succeeds if
each has an outcome, and counts the failures if there are any. -/
theorem Batch.run_in_order :
    (∀ (b : Batch) {σ : Type} (m : Machine Workplace σ) (xs ys : List String) (s : σ),
      (b.run (xs ++ ys)).run m s =
        let first := (b.run xs).run m s
        match first.value with
        | .error _ => first
        | .ok report =>
          first.follow (((b.run ys).run m first.state).map (Except.map report.append))) ∧
    (∀ (b : Batch) {σ : Type} (m : Machine Workplace σ) (files : List String) (s : σ)
        (e : BatchError), ((b.run files).run m s).value = .error e →
      ∃ before file after report, files = before ++ file :: after ∧
        ((b.run before).run m s).value = .ok report ∧
        ((b.renderFile file).run m ((b.run before).run m s).state).value = .error e ∧
        ((b.run files).run m s).storeCalls = ((b.run before).run m s).storeCalls) ∧
    (∀ (b : Batch) {σ : Type} (m : Machine Workplace σ) (files : List String) (s : σ)
        (report : SyncReport), ((b.run files).run m s).value = .ok report →
      Shuffle (report.outcomes.map (·.file)) (report.failures.map (·.file)) files ∧
        report.count .created + report.count .updated + report.count .skipped +
          report.failures.length = files.length) ∧
    (∀ (a : Arguments) (e : Environment) (boundary : Nat → String) {τ : Type}
        (n : Machine Outside τ) (t : τ) (c : Config), (a.loading e n t).value = .ok c →
      (a.expansion e n t).value ≠ [] →
      let error := ((a.execute e boundary).run n t).value.error
      let documents := (a.expansion e n t).value
      let batch := c.batch boundary documents n (a.expansion e n t).state
      (error = none ↔
        ∃ report, batch.value = .ok report ∧ report.outcomes.map (·.file) = documents) ∧
      ∀ k, error = some (.failed k) ↔
        ∃ report, batch.value = .ok report ∧ report.failures.length = k ∧ 1 ≤ k) := by
  refine ⟨fun b _ m xs ys s => b.run_append m xs ys s,
    fun b _ m files s e h => b.stopped_of_error m h, fun b _ m files s report h => ?_,
    fun a e boundary _ n t c hload hfound => ?_⟩
  · have hshuffle := b.shuffle_of_ok m h
    have hlength := hshuffle.length_add
    rw [List.length_map, List.length_map] at hlength
    exact ⟨hshuffle, by rw [report.count_add, hlength]⟩
  · exact ⟨a.error_eq_none_iff e boundary n t hload hfound,
      a.error_eq_failed_iff e boundary n t hload hfound⟩

/-! ### A dry run -/

/-- The name of a file is that of a Markdown file if it has one dot, with `md`
behind it. -/
theorem isMarkdown_of_split {name : String} (stem : String) (hslash : name.splitOn "/" = [name])
    (hdot : name.splitOn "." = [stem, "md"]) (hstem : stem ≠ "")
    (hname : name ∉ ["", ".", ".."]) : isMarkdown name = true := by
  simp only [List.mem_cons, List.not_mem_nil, or_false, not_or] at hname
  rcases hname with ⟨hempty, hhere, habove⟩
  simp [isMarkdown, Path.extension?, Path.fileName?, Path.parts, Path.splitName, hslash, hdot,
    hstem, hempty, hhere, habove]

/-- Arguments that ask for a dry run of two documents. -/
def dryArguments : Arguments :=
  ⟨["alpha.md", "beta.md"],
    [(.domain, "docs.example"), (.space, "DOCS"), (.user, "ada"), (.token, "key")],
    [.dryRun, .noMermaid]⟩

/-- The configuration that they give. -/
def dryConfig : Config :=
  ⟨"docs.example", "DOCS", "ada", "key", none, false, "https://kroki.io", 30, true, false, none⟩

/-- The two documents, and another one that cannot be read. -/
def threeFiles : (q : Files.Question) → Files.Answer q
  | .kind _ => some .file
  | .read "gone.md" => .error FileTree.notFound
  | q => Batch.twoFiles q

/-- A wiki without pages: a search finds nothing, and a look-up by id fails. -/
def emptyWiki : (q : Web.Question) → Web.Answer q := fun r =>
  if r.url.endsWith Client.pageExpand then .ok ⟨404, .ok []⟩
  else .ok ⟨200, .ok (Text.utf8 "\x7b\"results\":[]\x7d")⟩

/-- The first document names a page that does not exist, and the second one would
be created. A document that cannot be read ends a batch after the second one. -/
theorem Batch.run_in_order_dryRun :
    let place := (Machine.fixed threeFiles).sum (Machine.fixed emptyWiki)
    let batch := fun files => dryConfig.batch (fun _ => "mark") files place ((), ())
    let report : SyncReport :=
      ⟨[⟨"beta.md", "Beta", "new", "", .created⟩], [⟨"alpha.md", .refused 404 "Not Found"⟩]⟩
    (batch ["alpha.md", "beta.md"]).value = .ok report ∧
      Shuffle ["beta.md"] ["alpha.md"] ["alpha.md", "beta.md"] ∧
      ((dryArguments.execute ⟨fun _ => none, none⟩ fun _ => "mark").run place
        ((), ())).value.error = some (.failed 1) ∧
      (batch ["beta.md", "gone.md"]).value = .error (.read "gone.md" FileTree.notFound) ∧
      ∃ before file after, ["beta.md", "gone.md"] = before ++ file :: after ∧
        (batch ["beta.md", "gone.md"]).storeCalls = (batch before).storeCalls := by
  intro place batch report
  rcases run_in_order with ⟨-, hstopped, hreport, hcommand⟩
  have hok : (batch ["alpha.md", "beta.md"]).value = .ok report := by decide +kernel
  have hearly : (batch ["beta.md", "gone.md"]).value =
      .error (.read "gone.md" FileTree.notFound) := by decide +kernel
  have hload : (dryArguments.loading ⟨fun _ => none, none⟩ place ((), ())).value =
      .ok dryConfig := by decide +kernel
  have hfound : (dryArguments.expansion ⟨fun _ => none, none⟩ place ((), ())).value =
      ["alpha.md", "beta.md"] := by
    have halpha : isMarkdown "alpha.md" = true :=
      isMarkdown_of_split "alpha" (by simp +decide [String.splitOn, String.splitOnAux])
        (by simp +decide [String.splitOn, String.splitOnAux]) (by decide) (by decide)
    have hbeta : isMarkdown "beta.md" = true :=
      isMarkdown_of_split "beta" (by simp +decide [String.splitOn, String.splitOnAux])
        (by simp +decide [String.splitOn, String.splitOnAux]) (by decide) (by decide)
    change (if isMarkdown "alpha.md" then ["alpha.md"] else []) ++
      ((if isMarkdown "beta.md" then ["beta.md"] else []) ++ []) = _
    rw [halpha, hbeta]
    rfl
  refine ⟨hok, (hreport _ _ _ _ _ hok).1, ?_, hearly, ?_⟩
  · -- The command is followed to its end by the result of its batch alone.
    have hends := (hcommand _ _ (fun _ => "mark") _ _ _ hload (by rw [hfound]; decide)).2 1
    rw [hfound] at hends
    exact hends.2 ⟨report, hok, rfl, Nat.le_refl 1⟩
  · rcases hstopped _ _ _ _ _ hearly with ⟨before, file, after, _, hsplit, -, -, hcalls⟩
    exact ⟨before, file, after, hsplit, hcalls⟩

end WikiSync
