import Mathlib.Data.List.Forall2
import WikiSync.Files.Tree
import WikiSync.Proofs.Sync.Again
import WikiSync.Sync.Batch

/-!
# Syncing a Batch Again

A batch of documents that is synced twice, with the same files, to one store. A
first run without failures leaves the page of every document current, so a second
run skips them all and changes nothing.

The files and the diagram backend always answer alike, so they are filled into
the batch, and a script over the store is left (`onStore`). Of the documents
only their pages matter from there on (`pageFor`). The first run is an induction
along the documents. A page that was synced has to stay current while the
documents behind it are synced, and it does because each document has a title
and a page of its own: `settled_of_others` carries it through the rest of the
batch. Without that condition, two documents for one page would overwrite each
other in every run.

## Main definitions

* `Batch.pageFor`: The page of a document.
* `Batch.onStore`: A batch as a script over the store alone.

## Theorems

* `Batch.run_onStore_cons`, `Batch.ok_onStore_cons`, `Batch.run_eq_onStore`: A
  batch, document by document.
* `Batch.settled_of_others`, `Batch.settled_of_run`: What the first run leaves.
* `Batch.run_of_settled`: The second run.
* `Batch.run_again`: Both.
-/

namespace WikiSync.Batch

variable (b : Batch) (files : (q : Files.Question) → Files.Answer q)
  (draw : (q : Diagram.Backend.Question) → Diagram.Backend.Answer q)

/-! ### Batches on a store -/

/-- The page of a document, by the files and the images there are. -/
def pageFor (file : String) : Except BatchError RenderedPage :=
  match (readText file).given files with
  | .error reason => .error (.read file reason)
  | .ok text =>
    match (renderPage b.backend b.options text (some file)).given draw with
    | .error e => .error (.render file e)
    | .ok page => .ok page

/-- A batch as a script over the store alone. -/
def onStore (paths : List String) : Script Store (Except BatchError SyncReport) :=
  ((b.run paths).supply files).supply draw

/-- Reading and rendering a document does not ask the store. -/
theorem gives_renderFile (file : String) :
    (((b.renderFile file).supply files).supply draw : Script Store _).Gives
      (b.pageFor files draw file) := by
  unfold renderFile pageFor
  rw [Script.supply_bind, Script.supply_bind]
  refine (Script.gives_supply_inl (readText file)).supply.bind ?_
  rcases (readText file).given files with reason | text
  · rfl
  · simp only [Script.supply_bind, Script.supply_inr]
    refine (Script.gives_supply_inl (renderPage b.backend b.options text (some file))).bind ?_
    rcases (renderPage b.backend b.options text (some file)).given draw with e | page
    · rfl
    · rfl

section Runs

variable {σ : Type} (m : Machine Store σ)

/-- Logging a failure does not ask the store. -/
theorem run_syncPage (file : String) (page : RenderedPage) (s : σ) :
    ((((b.syncPage file page).supply files).supply draw).run m s).value =
        ((b.target.reconcile file page).run.run m s).value ∧
      ((((b.syncPage file page).supply files).supply draw).run m s).state =
        ((b.target.reconcile file page).run.run m s).state ∧
      ((((b.syncPage file page).supply files).supply draw).run m s).asked =
        ((b.target.reconcile file page).run.run m s).asked := by
  unfold syncPage
  rw [Script.supply_bind, Script.supply_bind, Script.supply_inr, Script.supply_inr, Script.run_bind]
  rcases hvalue : ((b.target.reconcile file page).run.run m s).value with e | o
  · exact ⟨rfl, rfl, List.append_nil _⟩
  · exact ⟨rfl, rfl, List.append_nil _⟩

/-- A document and then the others. One that cannot be rendered ends the
batch. -/
theorem run_onStore_cons (file : String) (rest : List String) (s : σ) :
    match b.pageFor files draw file with
    | .error e => ((b.onStore files draw (file :: rest)).run m s).value = .error e
    | .ok page =>
      let r := (b.target.reconcile file page).run.run m s
      let more := (b.onStore files draw rest).run m r.state
      ((b.onStore files draw (file :: rest)).run m s).value =
          more.value.map (·.cons file r.value) ∧
        ((b.onStore files draw (file :: rest)).run m s).state = more.state ∧
        ((b.onStore files draw (file :: rest)).run m s).asked = r.asked ++ more.asked := by
  have hlog : (((Script.log (.info ("Processing: " ++ file)) :
      Script Workplace Unit).supply files).supply draw).Gives () := rfl
  unfold onStore
  rw [run, Script.supply_bind, Script.supply_bind]
  rcases hlog.run_bind _ m s with ⟨hvalue, hstate, hasked⟩
  rw [hvalue, hstate, hasked, Script.supply_bind, Script.supply_bind]
  rcases (b.gives_renderFile files draw file).run_bind _ m s with ⟨hvalue, hstate, hasked⟩
  rw [hvalue, hstate, hasked]
  rcases b.pageFor files draw file with e | page
  · rfl
  · simp only [Script.supply_bind]
    rw [Script.run_bind]
    rcases b.run_syncPage files draw m file page s with ⟨hresult, hafter, hcalls⟩
    rw [hresult, hafter, Script.run_bind]
    simp only [Run.follow, hcalls]
    -- A document that cannot be rendered may still end the batch.
    rcases (Script.run m (((b.run rest).supply files).supply draw)
      ((b.target.reconcile file page).run.run m s).state).value with e | report
    · exact ⟨rfl, rfl, congrArg (_ ++ ·) (List.append_nil _)⟩
    · exact ⟨rfl, rfl, congrArg (_ ++ ·) (List.append_nil _)⟩

/-- A batch that does not end early has rendered its first document and gone on
with the others, whatever became of the first one. -/
theorem ok_onStore_cons {file : String} {rest : List String} {s : σ} {report : SyncReport}
    (h : ((b.onStore files draw (file :: rest)).run m s).value = .ok report) :
    ∃ page more, b.pageFor files draw file = .ok page ∧
      let r := (b.target.reconcile file page).run.run m s
      ((b.onStore files draw rest).run m r.state).value = .ok more ∧
        report = more.cons file r.value ∧
        ((b.onStore files draw (file :: rest)).run m s).state =
          ((b.onStore files draw rest).run m r.state).state := by
  have hrun := b.run_onStore_cons files draw m file rest s
  rcases hpage : b.pageFor files draw file with e | page
  · simp only [hpage] at hrun
    rw [hrun] at h
    cases h
  · simp only [hpage] at hrun
    rcases hrun with ⟨hvalue, hstate, -⟩
    rw [hvalue] at h
    rcases hmore : ((b.onStore files draw rest).run m
      ((b.target.reconcile file page).run.run m s).state).value with e | more
    · rw [hmore] at h
      cases h
    · rw [hmore] at h
      cases h
      exact ⟨page, more, rfl, hmore, rfl, hstate⟩

end Runs

/-- With files and a backend that always answer alike, a batch is what it is on
the store alone, and they will go on to answer alike. -/
theorem run_eq_onStore {σ τ ρ : Type} {m : Machine Files σ} {n : Machine Diagram.Backend τ}
    {files : (q : Files.Question) → Files.Answer q}
    {draw : (q : Diagram.Backend.Question) → Diagram.Backend.Answer q} {disk : σ} {backend : τ}
    (hfiles : m.Answers files disk) (hdraw : n.Answers draw backend) (k : Machine Store ρ)
    (store : ρ) (paths : List String) :
    let r := (b.run paths).run (m.sum (n.sum k)) (disk, backend, store)
    let r' := (b.onStore files draw paths).run k store
    r.value = r'.value ∧ r.state.2.2 = r'.state ∧
      (∀ c, .inr (.inr c) ∈ r.asked → c ∈ r'.asked) ∧
      m.Answers files r.state.1 ∧ n.Answers draw r.state.2.1 := by
  intro r r'
  rcases hfiles.run (b.run paths) (n := n.sum k) (backend, store) with
    ⟨hvalue, hstate, hasked, hdisk⟩
  rcases hdraw.run ((b.run paths).supply files) (n := k) store with
    ⟨hvalue', hstate', hasked', hbackend⟩
  refine ⟨hvalue.trans hvalue', ?_, fun c hc => ?_, hdisk, ?_⟩
  · exact (congrArg Prod.snd hstate).trans hstate'
  · have hsecond : .inr c ∈ (((b.run paths).supply files).run (n.sum k) (backend, store)).asked :=
      hasked ▸ List.mem_filterMap.2 ⟨_, hc, rfl⟩
    exact hasked' ▸ List.mem_filterMap.2 ⟨_, hsecond, rfl⟩
  · exact (congrArg Prod.fst hstate) ▸ hbackend

/-! ### The first run -/

/-- A batch without failures has synced its first document and then the
others. -/
theorem carried_of_run (hdry : b.target.dryRun = false) {file : String} {rest : List String}
    {s : MemoryStore} {report : SyncReport}
    (hok : ((b.onStore files draw (file :: rest)).run MemoryStore.machine s).value = .ok report)
    (hall : report.failures = []) :
    ∃ page found o s' more, b.pageFor files draw file = .ok page ∧
      b.target.existing page s = .ok found ∧
      b.target.Carried file page s found o s' ∧
      ((b.onStore files draw rest).run MemoryStore.machine s').value = .ok more ∧
      more.failures = [] ∧ report.outcomes = o :: more.outcomes ∧
      ((b.onStore files draw (file :: rest)).run MemoryStore.machine s).state =
        ((b.onStore files draw rest).run MemoryStore.machine s').state := by
  rcases b.ok_onStore_cons files draw MemoryStore.machine hok with
    ⟨page, more, hpage, hmore, rfl, hstate⟩
  rcases hresult : ((b.target.reconcile file page).run.run MemoryStore.machine s).value with
    e | o
  · -- A document that fails is in the report.
    rw [hresult] at hall
    cases hall
  · rw [hresult] at hall
    rcases b.target.carried_of_reconcile file page hdry hresult with ⟨found, hfound, hcarried⟩
    exact ⟨page, found, o, _, more, hpage, hfound, hcarried, hmore, hall, rfl, hstate⟩

/-- The page of a document stays current during a batch of documents with other
titles and other pages. -/
theorem settled_of_others (hdry : b.target.dryRun = false) {rest : List String} {s : MemoryStore}
    (hkeyed : s.Keyed) {report : SyncReport}
    (hok : ((b.onStore files draw rest).run MemoryStore.machine s).value = .ok report)
    (hall : report.failures = []) {file : String} {page : RenderedPage} {o : SyncOutcome}
    (h : b.target.Settled file page o s)
    (hothers : ∀ other ∈ report.outcomes, other.title ≠ o.title ∧ other.pageId ≠ o.pageId) :
    b.target.Settled file page o
      ((b.onStore files draw rest).run MemoryStore.machine s).state := by
  induction rest generalizing s report with
  | nil => exact h
  | cons next rest ih =>
    rcases b.carried_of_run files draw hdry hok hall with
      ⟨_, _, other, s', more, -, -, hcarried, hmore, hnone, houtcomes, hstate⟩
    rw [houtcomes] at hothers
    rcases hothers other List.mem_cons_self with ⟨htitle, hid⟩
    rw [hstate]
    exact ih (hcarried.keyed hkeyed) hmore hnone (h.carried hkeyed hcarried htitle hid)
      fun o' ho' => hothers o' (List.mem_cons_of_mem _ ho')

/-- After a batch without failures, the page of every document is current. -/
theorem settled_of_run (hdry : b.target.dryRun = false) {paths : List String} {s : MemoryStore}
    (hkeyed : s.Keyed) {report : SyncReport}
    (hok : ((b.onStore files draw paths).run MemoryStore.machine s).value = .ok report)
    (hall : report.failures = []) (htitles : (report.outcomes.map (·.title)).Nodup)
    (hids : (report.outcomes.map (·.pageId)).Nodup) :
    List.Forall₂ (fun file o => ∃ page, b.pageFor files draw file = .ok page ∧
        b.target.Settled file page o
          ((b.onStore files draw paths).run MemoryStore.machine s).state)
      paths report.outcomes := by
  induction paths generalizing s report with
  | nil =>
    cases hok
    exact List.Forall₂.nil
  | cons file rest ih =>
    rcases b.carried_of_run files draw hdry hok hall with
      ⟨page, found, o, s', more, hpage, hfound, hcarried, hmore, hnone, houtcomes, hstate⟩
    rw [houtcomes, List.map_cons, List.nodup_cons] at htitles hids
    rw [houtcomes, hstate]
    refine List.Forall₂.cons ⟨page, hpage, ?_⟩
      (ih (hcarried.keyed hkeyed) hmore hnone htitles.2 hids.2)
    -- The first page is current at once, and the others leave it alone.
    refine b.settled_of_others files draw hdry (hcarried.keyed hkeyed) hmore hnone
      (hcarried.settled hkeyed hfound) fun other hother => ⟨fun heq => ?_, fun heq => ?_⟩
    · exact htitles.1 (heq ▸ List.mem_map_of_mem hother)
    · exact hids.1 (heq ▸ List.mem_map_of_mem hother)

/-! ### The second run -/

/-- If the page of every document is current, a batch skips all of them and
changes nothing. -/
theorem run_of_settled (hdry : b.target.dryRun = false) {paths : List String}
    {outcomes : List SyncOutcome} {s : MemoryStore}
    (h : List.Forall₂ (fun file o => ∃ page, b.pageFor files draw file = .ok page ∧
      b.target.Settled file page o s) paths outcomes) :
    ((b.onStore files draw paths).run MemoryStore.machine s).value =
        .ok ⟨outcomes.map fun o => { o with action := .skipped }, []⟩ ∧
      ((b.onStore files draw paths).run MemoryStore.machine s).state = s ∧
      ∀ c ∈ ((b.onStore files draw paths).run MemoryStore.machine s).asked,
        c.isMutation = false := by
  induction h with
  | nil => exact ⟨rfl, rfl, fun c hc => absurd hc List.not_mem_nil⟩
  | @cons file o rest outcomes hfirst hrest ih =>
    rcases hfirst with ⟨page, hpage, hsettled⟩
    rcases ih with ⟨hvalue, hstate, hcalls⟩
    have hrun := b.run_onStore_cons files draw MemoryStore.machine file rest s
    simp only [hpage, hsettled.run_reconcile hdry, hvalue, hstate] at hrun
    rcases hrun with ⟨hvalue', hstate', hasked⟩
    refine ⟨hvalue', hstate', fun c hc => ?_⟩
    rw [hasked, List.singleton_append] at hc
    rcases List.mem_cons.1 hc with rfl | hc
    · exact b.target.isMutation_lookup page
    · exact hcalls c hc

/-- A batch that was synced without failures, each document to a page and under
a title of its own, is synced again with the same files. Every document is
skipped, the outcomes are otherwise the same, no call changes the store, and it
stays as it is. -/
theorem run_again (b : Batch) (hdry : b.target.dryRun = false) {σ τ : Type}
    {m : Machine Files σ} {n : Machine Diagram.Backend τ}
    {files : (q : Files.Question) → Files.Answer q}
    {draw : (q : Diagram.Backend.Question) → Diagram.Backend.Answer q} {disk : σ} {backend : τ}
    (hfiles : m.Answers files disk) (hdraw : n.Answers draw backend) {store : MemoryStore}
    (hkeyed : store.Keyed) (paths : List String) {report : SyncReport}
    (hok : ((b.run paths).run (m.sum (n.sum MemoryStore.machine)) (disk, backend, store)).value =
      .ok report)
    (hall : report.failures = []) (htitles : (report.outcomes.map (·.title)).Nodup)
    (hids : (report.outcomes.map (·.pageId)).Nodup) :
    let first := (b.run paths).run (m.sum (n.sum MemoryStore.machine)) (disk, backend, store)
    let second := (b.run paths).run (m.sum (n.sum MemoryStore.machine)) first.state
    report.outcomes.map (·.file) = paths ∧
      second.value = .ok ⟨report.outcomes.map fun o => { o with action := .skipped }, []⟩ ∧
      (∀ c, .inr (.inr c) ∈ second.asked → c.isMutation = false) ∧
      second.state.2.2 = first.state.2.2 := by
  intro first second
  rcases b.run_eq_onStore hfiles hdraw MemoryStore.machine store paths with
    ⟨hvalue, hstate, -, hdisk, hbackend⟩
  have hsettled := b.settled_of_run files draw hdry hkeyed (hvalue ▸ hok) hall htitles hids
  rcases b.run_of_settled files draw hdry hsettled with ⟨hvalue', hstate', hcalls⟩
  -- The second run starts where the first one ended.
  rcases b.run_eq_onStore hdisk hbackend MemoryStore.machine first.state.2.2 paths with
    ⟨hagain, hunchanged, hasked, -, -⟩
  rw [← hstate] at hvalue' hstate' hcalls
  refine ⟨?_, hagain.trans hvalue', fun c hc => hcalls c (hasked c hc), ?_⟩
  · have hfile : List.Forall₂ (fun file o => file = SyncOutcome.file o) paths report.outcomes :=
      hsettled.imp fun file o ⟨_, _, _, _, _, ho⟩ => congrArg SyncOutcome.file ho
    exact (List.forall₂_eq_eq_eq ▸ List.forall₂_map_right_iff.2 hfile : paths = _).symm
  · exact hunchanged.trans hstate'

/-! ### Two documents -/

/-- The files of two documents. One names its page by the id and has a diagram,
the other one has neither. -/
def twoFiles : (q : Files.Question) → Files.Answer q
  | .read "alpha.md" =>
    .ok (Text.utf8
      "---\nconfluence-page-id: \"42\"\n---\n# Alpha\n\n```mermaid\ngraph TD\n```")
  | .read "beta.md" => .ok (Text.utf8 "# Beta")
  | .read _ => .error FileTree.notFound
  | .names _ => .error FileTree.notFound
  | .kind _ => none

/-- A backend that gives the same image for every diagram. -/
def sameImage : (q : Diagram.Backend.Question) → Diagram.Backend.Answer q
  | .available => true
  | .render _ => .ok [1]

/-- A batch that goes to one space. -/
def docsBatch : Batch :=
  ⟨"kroki", ⟨true, false⟩, SyncTarget.docs⟩

/-- What becomes of the two documents. -/
def twoSynced : SyncReport :=
  ⟨[⟨"alpha.md", "Alpha", "42", "https://mock.atlassian.net/wiki/spaces/DOCS/pages/42", .updated⟩,
    ⟨"beta.md", "Beta", "1002", "https://mock.atlassian.net/wiki/spaces/DOCS/pages/1002",
      .created⟩], []⟩

/-- The first run renames a page, attaches an image and creates a page. The
second one skips both documents. -/
theorem run_again_twoDocuments :
    let places := (Machine.fixed twoFiles).sum
      ((Machine.fixed sameImage).sum MemoryStore.machine)
    let first := (docsBatch.run ["alpha.md", "beta.md"]).run places
      ((), (), SyncTarget.oldTitle "<p>Draft</p>")
    let second := (docsBatch.run ["alpha.md", "beta.md"]).run places first.state
    first.value = .ok twoSynced ∧
      second.value = .ok ⟨twoSynced.outcomes.map fun o => { o with action := .skipped }, []⟩ ∧
      second.state.2.2 = first.state.2.2 := by
  intro places first second
  have hkeyed : (SyncTarget.oldTitle "<p>Draft</p>").Keyed :=
    (MemoryStore.Built.empty.page _ _ _ _).keyed
  have hok : first.value = .ok twoSynced := by decide +kernel
  rcases run_again docsBatch rfl (.fixed twoFiles) (.fixed sameImage) hkeyed
      ["alpha.md", "beta.md"] hok rfl (by decide) (by decide) with
    ⟨-, hvalue, -, hstate⟩
  exact ⟨hok, hvalue, hstate⟩

end WikiSync.Batch
