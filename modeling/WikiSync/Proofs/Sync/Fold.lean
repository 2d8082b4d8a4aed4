import WikiSync.Proofs.Script.Asks
import WikiSync.Proofs.Script.Yields
import WikiSync.Proofs.Sync.Report
import WikiSync.Sync.Batch

/-!
# Batches as Folds

A batch works off its documents one after the other, on any machine that has
files, a diagram backend and a store. `Batch.document` is what it does for one
of them, and `Batch.run_cons` is the only place where the recursion of a batch is
opened. All that follows goes by it: a batch of two lists is one batch after the
other, a batch that ends early has stopped at a document, and a batch that does
not has an entry in its report for each.

A document can fail in two ways, and they are told apart by the nesting of the
result. The outer failure ends the batch, and it happens before the document
calls the store, because reading and rendering ask for files and diagrams only
(`Batch.asks_renderFile`). The inner one goes into the report.

## Main definitions

* `Run.storeCalls`: The calls to the store in a run.
* `Batch.document`: The part of a batch that is about one document.

## Theorems

* `Batch.run_cons`, `Batch.run_append`: A batch, document by document and list
  by list.
* `Batch.document_error`, `Batch.stopped_of_error`: Early ends.
* `SyncTarget.file_of_reconcile`, `Batch.file_of_document`: An outcome names its
  document.
* `Batch.ok_cons`, `Batch.shuffle_of_ok`: The documents of a report.
-/

namespace WikiSync

/-- The calls to the store among the questions of a run. -/
def Run.storeCalls {σ α : Type} (r : Run Workplace σ α) : List StoreCall :=
  r.asked.filterMap fun
    | .inr (.inr c) => some c
    | _ => none

theorem Run.storeCalls_follow {σ α β : Type} (r : Run Workplace σ α) (r' : Run Workplace σ β) :
    (r.follow r').storeCalls = r.storeCalls ++ r'.storeCalls :=
  List.filterMap_append

theorem Run.storeCalls_eq_nil {σ α : Type} {r : Run Workplace σ α}
    (h : ∀ q ∈ r.asked, ∀ c, q ≠ Sum.inr (Sum.inr c)) : r.storeCalls = [] := by
  refine List.filterMap_eq_nil_iff.2 fun q hq => ?_
  rcases q with q | q | c
  · rfl
  · rfl
  · exact absurd rfl (h _ hq c)

namespace Batch

variable (b : Batch) {σ : Type} (m : Machine Workplace σ)

/-! ### One document -/

/-- Reads, renders and syncs one document. -/
def document (file : String) :
    Script Workplace (Except BatchError (Except StoreError SyncOutcome)) := do
  Script.log (.info ("Processing: " ++ file))
  match ← b.renderFile file with
  | .error e => pure (.error e)
  | .ok page =>
    let result ← b.syncPage file page
    pure (.ok result)

/-- A batch is its first document and then, unless that ends it, the others. -/
theorem run_cons (file : String) (rest : List String) (s : σ) :
    (b.run (file :: rest)).run m s =
      let first := (b.document file).run m s
      match first.value with
      | .error e => first.map fun _ => .error e
      | .ok result =>
        first.follow (((b.run rest).run m first.state).map (Except.map (·.cons file result))) := by
  rw [run]
  unfold document
  simp only [Script.run_bind, Script.run_log]
  rcases ((b.renderFile file).run m s).value with e | page
  · rfl
  · simp only [Script.run_bind, Script.run_pure, Run.follow]
    generalize (b.syncPage file page).run m ((b.renderFile file).run m s).state = synced
    rcases (b.run rest).run m synced.state with ⟨e | report, s', log, asked⟩
    · simp only [Script.run_pure, Run.map, Except.map, List.append_nil, List.append_assoc]
    · simp only [Script.run_pure, Run.map, Except.map, List.append_nil, List.append_assoc]

/-- A batch of two lists of documents is the batch of the first one and then,
unless that ends early, the batch of the second one. -/
theorem run_append (xs ys : List String) (s : σ) :
    (b.run (xs ++ ys)).run m s =
      let first := (b.run xs).run m s
      match first.value with
      | .error _ => first
      | .ok report =>
        first.follow (((b.run ys).run m first.state).map (Except.map report.append)) := by
  induction xs generalizing s with
  | nil =>
    simp only [run, List.nil_append, Script.run_pure, Run.follow, Run.map]
    rcases (b.run ys).run m s with ⟨e | report, s', log, asked⟩
    · rfl
    · rfl
  | cons file xs ih =>
    rw [List.cons_append, run_cons, run_cons]
    -- The document ends both batches, or both go on from the state it leaves.
    rcases (b.document file).run m s with ⟨e | result, s', log, asked⟩
    · rfl
    · simp only [ih s']
      rcases (b.run xs).run m s' with ⟨e | report, s'', log', asked'⟩
      · rfl
      · rcases hmore : (b.run ys).run m s'' with ⟨e | more, t, log'', asked''⟩
        · simp only [Run.follow, Run.map, Except.map, hmore, List.append_assoc]
        · simp only [Run.follow, Run.map, Except.map, hmore, List.append_assoc,
            SyncReport.cons_append]

/-! ### Early ends -/

/-- Reading and rendering a document calls no store. -/
theorem asks_renderFile (file : String) :
    (b.renderFile file).Asks fun q => ∀ c, q ≠ Sum.inr (Sum.inr c) := by
  unfold renderFile
  -- Reading asks for files, rendering for diagrams.
  refine Script.asks_bind ((Script.asks_inl _).imp ?_) fun r => ?_
  · rintro _ ⟨r, rfl⟩ c hc
    cases hc
  · rcases r with reason | text
    · exact Script.asks_pure _
    · refine Script.asks_bind (Script.asks_inr ((Script.asks_inl _).imp ?_)) fun r => ?_
      · rintro _ ⟨r, rfl⟩ c hc
        cases hc
      · rcases r with e | page
        · exact Script.asks_pure _
        · exact Script.asks_pure _

/-- A document ends a batch if it cannot be read or rendered, and before it
calls the store. -/
theorem document_error {file : String} {s : σ} {e : BatchError}
    (h : ((b.document file).run m s).value = .error e) :
    ((b.renderFile file).run m s).value = .error e ∧
      ((b.document file).run m s).storeCalls = [] := by
  have hnone := Run.storeCalls_eq_nil ((b.asks_renderFile file).asked m s)
  unfold document at h ⊢
  simp only [Script.run_bind, Script.run_log, Run.follow] at h ⊢
  rcases hrender : (b.renderFile file).run m s with ⟨e' | page, s', log, asked⟩
  · simp only [hrender, Script.run_pure] at h hnone ⊢
    cases h
    refine ⟨rfl, ?_⟩
    simpa only [Run.storeCalls, List.nil_append, List.append_nil] using hnone
  · -- Syncing a page that was rendered gives a result in any case.
    simp only [hrender, Script.run_bind, Script.run_pure, Run.follow, reduceCtorEq] at h

/-- A batch that ends early has done what the documents before the last one
did. -/
theorem stopped_of_error {files : List String} {s : σ} {e : BatchError}
    (h : ((b.run files).run m s).value = .error e) :
    ∃ before file after report, files = before ++ file :: after ∧
      ((b.run before).run m s).value = .ok report ∧
      ((b.renderFile file).run m ((b.run before).run m s).state).value = .error e ∧
      ((b.run files).run m s).storeCalls = ((b.run before).run m s).storeCalls := by
  induction files generalizing s with
  | nil => cases h
  | cons file rest ih =>
    rw [run_cons] at h ⊢
    rcases hfirst : ((b.document file).run m s).value with e' | result
    · -- The first document ends the batch, with none before it.
      simp only [hfirst] at h ⊢
      cases h
      rcases b.document_error m hfirst with ⟨hrender, hnone⟩
      exact ⟨[], file, rest, .empty, rfl, rfl, hrender, hnone⟩
    · simp only [hfirst] at h ⊢
      rcases hrest : ((b.run rest).run m ((b.document file).run m s).state).value with e' | report
      · simp only [Run.follow, Run.map, hrest, Except.map] at h
        cases h
        rcases ih hrest with ⟨before, last, after, report, rfl, hok, hrender, hcalls⟩
        -- A later one does. The first document belongs to those before it.
        have hrun := b.run_cons m file before s
        simp only [hfirst] at hrun
        refine ⟨file :: before, last, after, report.cons file result, rfl, ?_, ?_, ?_⟩
        · rw [hrun]
          simp only [Run.follow, Run.map, hok, Except.map]
        · rw [hrun]
          exact hrender
        · rw [hrun, Run.storeCalls_follow, Run.storeCalls_follow]
          exact congrArg (_ ++ ·) hcalls
      · simp only [Run.follow, Run.map, hrest, Except.map, reduceCtorEq] at h

end Batch

/-! ### Reports -/

/-- An outcome is about the document that was synced. -/
theorem SyncTarget.yields_reconcile (t : SyncTarget) (file : String) (page : RenderedPage) :
    (t.reconcile file page).run.Yields (IfOk fun o => o.file = file) := by
  unfold reconcile
  refine Script.yields_bindExcept fun found => ?_
  split
  · unfold foresee
    refine Script.yields_bindExcept fun _ => ?_
    rcases found with _ | remote
    · rfl
    · rfl
  · unfold carryOut
    rcases found with _ | remote
    · exact Script.yields_bindExcept fun _ => Script.yields_bindExcept fun _ =>
        Script.yields_bindExcept fun _ => rfl
    · simp only []
      generalize plan (some remote) page.markup = action
      by_cases haction : action = .skipped
      · rw [if_pos haction]
        exact Script.yields_bindExcept fun _ => rfl
      · rw [if_neg haction]
        exact Script.yields_bindExcept fun _ => Script.yields_bindExcept fun _ =>
          Script.yields_bindExcept fun _ => rfl

theorem SyncTarget.file_of_reconcile (t : SyncTarget) {file : String} {page : RenderedPage}
    {σ : Type} (m : Machine Store σ) {s : σ} {o : SyncOutcome}
    (h : ((t.reconcile file page).run.run m s).value = .ok o) : o.file = file := by
  have hfile := (t.yields_reconcile file page).run m s
  rw [h] at hfile
  exact hfile

namespace Batch

variable (b : Batch) {σ : Type} (m : Machine Workplace σ)

theorem yields_syncPage (file : String) (page : RenderedPage) :
    (b.syncPage file page).Yields (IfOk fun o => o.file = file) := by
  unfold syncPage
  refine Script.yields_bind
    (Script.yields_inr (Script.yields_inr (b.target.yields_reconcile file page))) fun r hr => ?_
  rcases r with e | o
  · trivial
  · exact hr

theorem yields_document (file : String) :
    (b.document file).Yields (IfOk (IfOk fun o => o.file = file)) := by
  unfold document
  refine Script.yields_bind (Script.yields_true _) fun _ _ =>
    Script.yields_bind (Script.yields_true _) fun rendered _ => ?_
  rcases rendered with e | page
  · trivial
  · exact Script.yields_bind (b.yields_syncPage file page) fun result h => h

theorem file_of_document {file : String} {s : σ} {o : SyncOutcome}
    (h : ((b.document file).run m s).value = .ok (.ok o)) : o.file = file := by
  have hfile := (b.yields_document file).run m s
  rw [h] at hfile
  exact hfile

/-- A batch that does not end early has a result for its first document. -/
theorem ok_cons {file : String} {rest : List String} {s : σ} {report : SyncReport}
    (h : ((b.run (file :: rest)).run m s).value = .ok report) :
    ∃ result more, ((b.document file).run m s).value = .ok result ∧
      ((b.run rest).run m ((b.document file).run m s).state).value = .ok more ∧
      report = more.cons file result := by
  rw [run_cons] at h
  rcases hfirst : ((b.document file).run m s).value with e | result
  · simp only [hfirst, Run.map, reduceCtorEq] at h
  · rcases hrest : ((b.run rest).run m ((b.document file).run m s).state).value with e | more
    · simp only [hfirst, Run.follow, Run.map, hrest, Except.map, reduceCtorEq] at h
    · simp only [hfirst, Run.follow, Run.map, hrest, Except.map] at h
      cases h
      exact ⟨result, more, rfl, rfl, rfl⟩

/-- The documents of a report are those of the batch. -/
theorem shuffle_of_ok {files : List String} {s : σ} {report : SyncReport}
    (h : ((b.run files).run m s).value = .ok report) :
    Shuffle (report.outcomes.map (·.file)) (report.failures.map (·.file)) files := by
  induction files generalizing s report with
  | nil =>
    cases h
    exact Shuffle.nil
  | cons file rest ih =>
    rcases b.ok_cons m h with ⟨result, more, hfirst, hrest, rfl⟩
    rcases result with e | o
    · exact Shuffle.right file (ih hrest)
    · cases b.file_of_document m hfirst
      exact Shuffle.left o.file (ih hrest)

end Batch

end WikiSync
