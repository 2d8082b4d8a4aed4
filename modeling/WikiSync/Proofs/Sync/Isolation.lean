import WikiSync.Proofs.Sync.Attachments
import WikiSync.Proofs.Sync.Batch
import WikiSync.Proofs.Sync.Fold

/-!
# Documents That Fail Alone

A document that a store in memory fails for leaves no trace in it. So the
documents that fail can be taken out of a batch, and the others go the same way
as before.

That a failure leaves no trace is not a matter of undoing anything. A reconcile
writes the page first and the attachments after that, and a failure in between
would leave a page without them. The store has only two ways to fail, though:
the lookup, which comes before any change, and the update of the page, which is
the first change. Attachments never fail, since the list of them was asked for
and none of them ever goes away (`run_putAttachments`). On a store that can
fail anywhere this would be false.

The two batches part ways in the list of documents, so the induction is along
the first one: where a document fails, the second batch stays where it is.

## Main definitions

* `Batch.synced`: The documents of a batch without those that fail.

## Theorems

* `SyncTarget.not_failed_after_write`: Once a page is written, nothing fails.
* `SyncTarget.state_of_failure`: A document that fails leaves the store alone.
* `Batch.run_onStore_outcomes`, `Batch.run_synced`: A batch without the
  documents that fail.
-/

namespace WikiSync

namespace SyncTarget

variable (t : SyncTarget) (file : String) (page : RenderedPage)

/-! ### Failures -/

/-- Once a page is written, nothing fails any more. -/
theorem not_failed_after_write (message : String) {remote : Page} {o : SyncOutcome}
    {s : MemoryStore} {e : StoreError}
    (h : ((do
      StoreScript.info message
      syncAttachments remote.id page.attachments
      pure o : StoreScript SyncOutcome).run.run MemoryStore.machine s).value = .error e) :
    False := by
  rw [(run_after_write MemoryStore.machine page message remote o s).2,
    (run_syncAttachments remote.id page.attachments s).1] at h
  cases h

/-- Carrying out a reconcile fails if an update is refused, and in no other way. -/
theorem state_carryOut_of_failure {found : Option Page} {s : MemoryStore} {e : StoreError}
    (h : ((t.carryOut file page found).run.run MemoryStore.machine s).value = .error e) :
    ((t.carryOut file page found).run.run MemoryStore.machine s).state = s := by
  rcases found with _ | p
  · have hrun := StoreScript.run_ask_bind MemoryStore.machine
      (.createPage t.space page.title page.markup t.parent)
      (fun created => do
        StoreScript.info ("Created: " ++ page.title)
        syncAttachments created.id page.attachments
        pure (t.outcome file page created .created)) s
    unfold carryOut at h
    simp only [plan, hrun, Run.follow] at h
    -- The store takes every new page, so the page was written.
    exact (not_failed_after_write page ("Created: " ++ page.title) h).elim
  · by_cases hsame : contentHash p.markup = contentHash page.markup
    · rw [run_carryOut_current t file page hsame]
    · have hrun := StoreScript.run_ask_bind MemoryStore.machine
        (.updatePage p.id page.title page.markup p.version.number)
        (fun updated => do
          StoreScript.info ("Updated: " ++ page.title)
          syncAttachments updated.id page.attachments
          pure (t.outcome file page updated .updated)) s
      have hanswer : MemoryStore.machine.answer
          (.updatePage p.id page.title page.markup p.version.number) s =
            s.updatePage p.id page.title page.markup p.version.number := rfl
      unfold carryOut at h ⊢
      simp only [plan_some, if_neg hsame, reduceCtorEq, if_false, hrun, hanswer] at h ⊢
      rcases s.updatePage_cases p.id page.title page.markup p.version.number with
        ⟨old, -, -, -, hupdate⟩ | ⟨refusal, hrefused⟩
      · simp only [hupdate, Run.follow] at h
        exact (not_failed_after_write page ("Updated: " ++ page.title) h).elim
      · simp only [hrefused]

/-- A document that fails leaves the store alone. -/
theorem state_of_failure {s : MemoryStore} {e : StoreError}
    (h : ((t.reconcile file page).run.run MemoryStore.machine s).value = .error e) :
    ((t.reconcile file page).run.run MemoryStore.machine s).state = s := by
  unfold reconcile at h ⊢
  rw [Script.run_bindExcept, run_findExisting_memory] at h ⊢
  rcases hfound : t.existing page s with problem | found
  · rfl
  · simp only [hfound, Run.follow] at h ⊢
    split
    · -- A dry run does not fail at all.
      rcases found with _ | p
      · rfl
      · rfl
    · next hdry =>
      rw [if_neg hdry] at h
      exact t.state_carryOut_of_failure file page h

end SyncTarget

namespace Batch

/-! ### The documents that are synced -/

/-- The documents of a batch without those that fail. -/
def synced (b : Batch) {σ : Type} (m : Machine Workplace σ) : List String → σ → List String
  | [], _ => []
  | file :: rest, s =>
    let r := (b.document file).run m s
    match r.value with
    | .ok (.ok _) => file :: b.synced m rest r.state
    | _ => b.synced m rest r.state

variable (b : Batch)

/-- They are the ones with an outcome. -/
theorem synced_of_ok {σ : Type} (m : Machine Workplace σ) {files : List String} {s : σ}
    {report : SyncReport} (h : ((b.run files).run m s).value = .ok report) :
    b.synced m files s = report.outcomes.map (·.file) := by
  induction files generalizing s report with
  | nil =>
    cases h
    rfl
  | cons file rest ih =>
    rcases b.ok_cons m h with ⟨result, more, hfirst, hrest, rfl⟩
    have htail := ih hrest
    rw [synced, hfirst]
    rcases result with e | o
    · exact htail
    · cases b.file_of_document m hfirst
      exact congrArg (o.file :: ·) htail

variable (files : (q : Files.Question) → Files.Answer q)
  (draw : (q : Diagram.Backend.Question) → Diagram.Backend.Answer q)

/-- Without the documents that fail, a batch goes the same way. -/
theorem run_onStore_outcomes {paths : List String} {s : MemoryStore} {report : SyncReport}
    (h : ((b.onStore files draw paths).run MemoryStore.machine s).value = .ok report) :
    let kept := b.onStore files draw (report.outcomes.map (·.file))
    (kept.run MemoryStore.machine s).value = .ok ⟨report.outcomes, []⟩ ∧
      (kept.run MemoryStore.machine s).state =
        ((b.onStore files draw paths).run MemoryStore.machine s).state := by
  induction paths generalizing s report with
  | nil =>
    cases h
    exact ⟨rfl, rfl⟩
  | cons file rest ih =>
    rcases b.ok_onStore_cons files draw MemoryStore.machine h with
      ⟨page, more, hpage, hmore, rfl, hstate⟩
    rcases ih hmore with ⟨hkept, hafter⟩
    rcases hresult : ((b.target.reconcile file page).run.run MemoryStore.machine s).value with
      e | o
    · -- A document that fails has left the store where the others start.
      have hsame := b.target.state_of_failure file page hresult
      rw [hsame] at hkept hafter hstate
      exact ⟨hkept, hafter.trans hstate.symm⟩
    · -- One that does not is the first of both batches.
      have hfile := b.target.file_of_reconcile MemoryStore.machine hresult
      have hrun := b.run_onStore_cons files draw MemoryStore.machine file
        (more.outcomes.map (·.file)) s
      simp only [hpage, hresult, hkept, hafter] at hrun
      rcases hrun with ⟨hvalue, hstate', -⟩
      simp only [SyncReport.cons, List.map_cons, hfile]
      exact ⟨hvalue, hstate'.trans hstate.symm⟩

/-- A batch on a store in memory that does not end early, and the same batch
without the documents that failed: it starts from the same store, with the same
files and the same diagrams. It has the same outcomes and no failures, and it
leaves the same store. -/
theorem run_synced {σ τ : Type} {m : Machine Files σ} {n : Machine Diagram.Backend τ}
    {files : (q : Files.Question) → Files.Answer q}
    {draw : (q : Diagram.Backend.Question) → Diagram.Backend.Answer q} {disk : σ} {backend : τ}
    (hfiles : m.Answers files disk) (hdraw : n.Answers draw backend) (store : MemoryStore)
    (paths : List String) {report : SyncReport}
    (hok : ((b.run paths).run (m.sum (n.sum MemoryStore.machine)) (disk, backend, store)).value =
      .ok report) :
    let places := m.sum (n.sum MemoryStore.machine)
    let kept := b.synced places paths (disk, backend, store)
    let all := (b.run paths).run places (disk, backend, store)
    let others := (b.run kept).run places (disk, backend, store)
    Shuffle kept (report.failures.map (·.file)) paths ∧
      others.value = .ok ⟨report.outcomes, []⟩ ∧ others.state.2.2 = all.state.2.2 := by
  intro places kept all others
  have hkept : kept = report.outcomes.map (·.file) := b.synced_of_ok places hok
  rcases b.run_eq_onStore hfiles hdraw MemoryStore.machine store paths with
    ⟨hvalue, hstate, -, -, -⟩
  rcases b.run_eq_onStore hfiles hdraw MemoryStore.machine store kept with
    ⟨hvalue', hstate', -, -, -⟩
  rcases b.run_onStore_outcomes files draw (hvalue ▸ hok) with ⟨hothers, hafter⟩
  rw [← hkept] at hothers hafter
  -- Both batches are what they are on the store alone.
  refine ⟨?_, hvalue'.trans hothers, (hstate'.trans hafter).trans hstate.symm⟩
  rw [hkept]
  exact b.shuffle_of_ok places hok

/-! ### Two refusals -/

/-- The files of three documents. One names its page by the id, one has a
diagram, and one has the title of a page. -/
def refusedFiles : (q : Files.Question) → Files.Answer q
  | .read "secret.md" => .ok (Text.utf8 "---\nconfluence-page-id: \"13\"\n---\n# Secret")
  | .read "fine.md" => .ok (Text.utf8 "# Fine\n\n```mermaid\ngraph TD\n```")
  | .read "shared.md" => .ok (Text.utf8 "# Shared\n\nNew body")
  | .read _ => .error FileTree.notFound
  | .names _ => .error FileTree.notFound
  | .kind _ => none

/-- A store with a page that cannot be updated, and another one that cannot be
read. -/
def refusing : MemoryStore :=
  { MemoryStore.empty.withPage "21" "DOCS" "Shared" "<p>old</p>" with
    unreadable := SortedMap.empty.insert "13" 403
    locked := SortedMap.empty.insert "21" 409 }

/-- What becomes of the documents. One of them is there twice. -/
def refusedReport : SyncReport :=
  ⟨[⟨"fine.md", "Fine", "1001", "https://mock.atlassian.net/wiki/spaces/DOCS/pages/1001",
      .created⟩,
    ⟨"fine.md", "Fine", "1001", "https://mock.atlassian.net/wiki/spaces/DOCS/pages/1001",
      .skipped⟩],
    [⟨"secret.md", .refused 403 "Injected failure for page 13"⟩,
      ⟨"shared.md", .refused 409 "Injected update failure for page 21"⟩]⟩

/-- Two documents are refused. The other one is created before the second of
them, and skipped after it. -/
theorem run_synced_refusals :
    let places := (Machine.fixed refusedFiles).sum
      ((Machine.fixed sameImage).sum MemoryStore.machine)
    let all := (docsBatch.run ["secret.md", "fine.md", "shared.md", "fine.md"]).run places
      ((), (), refusing)
    let others := (docsBatch.run ["fine.md", "fine.md"]).run places ((), (), refusing)
    all.value = .ok refusedReport ∧ others.value = .ok ⟨refusedReport.outcomes, []⟩ ∧
      others.state.2.2 = all.state.2.2 := by
  -- The lets are not introduced, so that the runs below are the same terms as those
  -- in the statement and need not be compared by running them.
  have hok : ((docsBatch.run ["secret.md", "fine.md", "shared.md", "fine.md"]).run
      ((Machine.fixed refusedFiles).sum ((Machine.fixed sameImage).sum MemoryStore.machine))
      ((), (), refusing)).value = .ok refusedReport := by decide +kernel
  have hkept : docsBatch.synced
      ((Machine.fixed refusedFiles).sum ((Machine.fixed sameImage).sum MemoryStore.machine))
      ["secret.md", "fine.md", "shared.md", "fine.md"] ((), (), refusing) =
        ["fine.md", "fine.md"] := docsBatch.synced_of_ok _ hok
  rcases docsBatch.run_synced (.fixed refusedFiles) (.fixed sameImage) refusing
      ["secret.md", "fine.md", "shared.md", "fine.md"] hok with ⟨-, hothers, hstate⟩
  rw [hkept] at hothers hstate
  exact ⟨hok, hothers, hstate⟩

end Batch

end WikiSync
