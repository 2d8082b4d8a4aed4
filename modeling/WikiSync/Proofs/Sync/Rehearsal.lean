import WikiSync.Proofs.Sync.Batch
import WikiSync.Proofs.Sync.DryRun
import WikiSync.Proofs.Sync.Fold

/-!
# Dry Runs of a Batch

A dry run of a batch beside the run that it stands for. The dry run looks up
every document in the store as it is at the start. The other run looks up each
of them in the store that the documents before it have left. So they differ where
a document has a bearing on the lookup of a later one, and nowhere else.

A document can do so in two ways. It can write the page that a later document
names by its id, and it can change which pages have the title of a later
document, by giving that title to a page or by taking it from one. `BearsOn`
says this of an outcome, from the store at the start alone. Between the two runs
stands `WrittenBy`: every page of the present store is as it was at the start, or
it was written by a document and has its title.

Two documents with one title and no page show that something like this is
needed. The first one creates the page and the second one finds it, while the dry
run says that both would create one.

## Main definitions

* `SyncOutcome.decision`: What an outcome says about its document.
* `SyncReport.ofResults`: The report on documents with their results.
* `SyncOutcome.BearsOn`, `Batch.Undisturbed`: Documents that matter to others.
* `MemoryStore.WrittenBy`: A store that documents were synced to.
* `Batch.dry`: The same batch as a dry run.

## Theorems

* `SyncTarget.existing_of_writtenBy`: A lookup that no document bears on.
* `Batch.foreseen_of_run`: Both runs, along the documents.
* `Batch.run_dry`: What a dry run of a batch says about the other one.
* `Batch.not_every_action_foreseen`: What it does not say.
-/

namespace WikiSync

/-- What an outcome says about its document: all but the page. -/
def SyncOutcome.decision (o : SyncOutcome) : String × String × SyncAction :=
  (o.file, o.title, o.action)

/-- The report on documents with their results, in order. -/
def SyncReport.ofResults (rs : List (String × Except StoreError SyncOutcome)) : SyncReport :=
  rs.foldr (fun r report => report.cons r.1 r.2) .empty

/-- If every document succeeds, the report has no failures. -/
theorem SyncReport.ofResults_of_ok {results : List (String × Except StoreError SyncOutcome)}
    {outcomes : List SyncOutcome} (hlength : results.length = outcomes.length)
    (h : ∀ (i : Nat) (o : SyncOutcome), outcomes[i]? = some o →
      ∃ o', results[i]? = some (o.file, .ok o') ∧ o'.decision = o.decision) :
    ∃ predicted, SyncReport.ofResults results = ⟨predicted, []⟩ ∧
      predicted.map (·.decision) = outcomes.map (·.decision) := by
  induction outcomes generalizing results with
  | nil =>
    rw [List.eq_nil_of_length_eq_zero hlength]
    exact ⟨[], rfl, rfl⟩
  | cons o outcomes ih =>
    rcases results with _ | ⟨r, results⟩
    · cases hlength
    · rcases h 0 o rfl with ⟨o', hfirst, hdecision⟩
      cases hfirst
      rcases ih (Nat.succ.inj hlength) fun i p hp => h (i + 1) p hp with
        ⟨predicted, hreport, hsame⟩
      refine ⟨o' :: predicted, ?_, ?_⟩
      · change (SyncReport.ofResults results).cons o.file (.ok o') = _
        rw [hreport]
        rfl
      · rw [List.map_cons, List.map_cons, hsame, hdecision]

/-- A document that was synced has a bearing on the lookup of another. It wrote
the page that is named, or gave its page the title that is searched for, or took
that title from a page. -/
def SyncOutcome.BearsOn (w : SyncOutcome) (start : MemoryStore) (t : SyncTarget)
    (page : RenderedPage) : Prop :=
  w.action ≠ .skipped ∧
    match page.frontMatter.pageId with
    | some pageId => w.pageId = pageId
    | none => w.title = page.title ∨ ∃ p, start.pages.get? w.pageId = some p ∧
        p.title = page.title ∧ p.space = some t.space

/-! ### The store between the documents -/

/-- A store that documents were synced to. A page that is not as it was at the
start was written by one of them. -/
structure MemoryStore.WrittenBy (start : MemoryStore) (past : List SyncOutcome)
    (s : MemoryStore) : Prop where
  unreadable : s.unreadable = start.unreadable
  page : ∀ id, s.pages.get? id = start.pages.get? id ∨
    ∃ w ∈ past, w.action ≠ .skipped ∧ w.pageId = id ∧
      ∃ p, s.pages.get? id = some p ∧ p.title = w.title

namespace SyncTarget

variable {t : SyncTarget} {file : String} {page : RenderedPage}

theorem writtenBy_nil (start : MemoryStore) : start.WrittenBy [] start :=
  ⟨rfl, fun _ => Or.inl rfl⟩

theorem decision_foreseen (t : SyncTarget) (file : String) (page : RenderedPage)
    (found : Option Page) :
    (t.foreseen file page found).decision = (file, page.title, plan found page.markup) := by
  rcases found with _ | remote
  · rfl
  · rfl

theorem Carried.decision {s s' : MemoryStore} {found : Option Page} {o : SyncOutcome}
    (h : Carried t file page s found o s') :
    o.decision = (file, page.title, plan found page.markup) := by
  cases h with
  | skipped p hsame => rw [plan_some, if_pos hsame]; rfl
  | updated p old _ hother hold hpages hunreadable => rw [plan_some, if_neg hother]; rfl
  | created _ hpages hunreadable => rfl

/-- One more document wrote a page. -/
theorem writtenBy_insert {start s s' : MemoryStore} {past : List SyncOutcome}
    (h : start.WrittenBy past s) {o : SyncOutcome} (haction : o.action ≠ .skipped) {p : Page}
    (htitle : p.title = o.title) (hpages : s'.pages = s.pages.insert o.pageId p)
    (hunreadable : s'.unreadable = s.unreadable) : start.WrittenBy (past ++ [o]) s' := by
  refine ⟨hunreadable.trans h.unreadable, fun id => ?_⟩
  rw [hpages]
  by_cases hid : id = o.pageId
  · subst hid
    rw [SortedMap.get?_insert_self]
    exact Or.inr ⟨o, List.mem_append_right _ List.mem_cons_self, haction, rfl, p, rfl, htitle⟩
  · rw [SortedMap.get?_insert_of_ne _ hid]
    refine (h.page id).imp_right ?_
    rintro ⟨w, hw, hwritten⟩
    exact ⟨w, List.mem_append_left _ hw, hwritten⟩

theorem writtenBy_carried {start s s' : MemoryStore} {past : List SyncOutcome}
    (h : start.WrittenBy past s) {found : Option Page} {o : SyncOutcome}
    (hcarried : Carried t file page s found o s') : start.WrittenBy (past ++ [o]) s' := by
  cases hcarried with
  | skipped p hsame =>
    refine ⟨h.unreadable, fun id => (h.page id).imp_right ?_⟩
    rintro ⟨w, hw, hwritten⟩
    exact ⟨w, List.mem_append_left _ hw, hwritten⟩
  | updated p old _ hother hold hpages hunreadable =>
    exact writtenBy_insert h (fun hskip => nomatch hskip) rfl hpages hunreadable
  | created _ hpages hunreadable =>
    exact writtenBy_insert h (fun hskip => nomatch hskip) rfl hpages hunreadable

/-- A lookup that no document bears on finds what it would have found at the
start. -/
theorem existing_of_writtenBy {start s : MemoryStore} {past : List SyncOutcome}
    (h : start.WrittenBy past s) (hfree : ∀ w ∈ past, ¬ w.BearsOn start t page) :
    t.existing page s = t.existing page start := by
  rcases hid : page.frontMatter.pageId with _ | pageId
  · rw [existing_by_title t page hid, existing_by_title t page hid]
    unfold MemoryStore.findPage
    refine congrArg Except.ok (SortedMap.find?_values_congr fun id => ?_)
    rcases h.page id with heq | ⟨w, hw, haction, rfl, p, hp, htitle⟩
    · rw [heq]
    · have hbears := hfree w hw
      simp only [SyncOutcome.BearsOn, hid, not_and, not_or, not_exists] at hbears
      rcases hbears haction with ⟨hother, hbefore⟩
      -- The page has another title now, and it had another one at the start.
      have hnow : (s.pages.get? w.pageId).filter
          (fun p => p.title == page.title && p.space == some t.space) = none := by
        simp [hp, htitle, hother]
      have hthen : (start.pages.get? w.pageId).filter
          (fun p => p.title == page.title && p.space == some t.space) = none := by
        rcases hq : start.pages.get? w.pageId with _ | q
        · rfl
        · simpa using hbefore q hq
      rw [hnow, hthen]
  · unfold existing MemoryStore.getPage
    simp only [hid, h.unreadable]
    rcases h.page pageId with heq | ⟨w, hw, haction, hwrote, -⟩
    · rw [heq]
    · have hbears := hfree w hw
      simp only [SyncOutcome.BearsOn, hid, not_and] at hbears
      exact absurd hwrote (hbears haction)

end SyncTarget

namespace Batch

variable (b : Batch) (files : (q : Files.Question) → Files.Answer q)
  (draw : (q : Diagram.Backend.Question) → Diagram.Backend.Answer q)

/-- The same batch as a dry run. -/
def dry : Batch :=
  { b with target := b.target.withDryRun true }

/-- No document bears on the lookup of the one at a place. -/
def Undisturbed (start : MemoryStore) (outcomes : List SyncOutcome) (i : Nat)
    (o : SyncOutcome) : Prop :=
  ∀ page, b.pageFor files draw o.file = .ok page →
    ∀ w ∈ outcomes.take i, ¬ w.BearsOn start b.target page

/-- A dry run of a document, and then the others from the same store. -/
theorem run_dry_cons {file : String} {page : RenderedPage}
    (hpage : b.pageFor files draw file = .ok page) (rest : List String) (s : MemoryStore) :
    let more := (b.dry.onStore files draw rest).run MemoryStore.machine s
    ((b.dry.onStore files draw (file :: rest)).run MemoryStore.machine s).value =
        more.value.map
          (·.cons file ((b.target.existing page s).map (b.target.foreseen file page))) ∧
      ((b.dry.onStore files draw (file :: rest)).run MemoryStore.machine s).state =
        more.state := by
  have hrun := b.dry.run_onStore_cons files draw MemoryStore.machine file rest s
  have hpage' : b.dry.pageFor files draw file = .ok page := hpage
  rcases b.dry.target.run_reconcile_dry file page rfl s with ⟨hvalue, hstate⟩
  simp only [hpage', hvalue, hstate] at hrun
  exact ⟨hrun.1, hrun.2.1⟩

/-- Both runs, along the documents. The one starts where some documents have been
synced already, the other one where none of them was. -/
theorem foreseen_of_run (hdry : b.target.dryRun = false) {start s : MemoryStore}
    {past : List SyncOutcome} (hpast : start.WrittenBy past s) {paths : List String}
    {report : SyncReport}
    (hok : ((b.onStore files draw paths).run MemoryStore.machine s).value = .ok report)
    (hall : report.failures = []) :
    ∃ results, ((b.dry.onStore files draw paths).run MemoryStore.machine start).value =
        .ok (.ofResults results) ∧
      ((b.dry.onStore files draw paths).run MemoryStore.machine start).state = start ∧
      results.map (·.1) = paths ∧
      ∀ i o, report.outcomes[i]? = some o →
        (∀ page, b.pageFor files draw o.file = .ok page →
          ∀ w ∈ past ++ report.outcomes.take i, ¬ w.BearsOn start b.target page) →
        ∃ o', results[i]? = some (o.file, .ok o') ∧ o'.decision = o.decision := by
  induction paths generalizing s past report with
  | nil =>
    cases hok
    exact ⟨[], rfl, rfl, rfl, fun i o ho => nomatch ho⟩
  | cons file rest ih =>
    rcases b.carried_of_run files draw hdry hok hall with
      ⟨page, found, o, s', more, hpage, hfound, hcarried, hmore, hnone, houtcomes, -⟩
    rcases ih (SyncTarget.writtenBy_carried hpast hcarried) hmore hnone with
      ⟨results, hvalue, hstate, hfiles, hresults⟩
    rcases b.run_dry_cons files draw hpage rest start with ⟨hvalue', hstate'⟩
    rw [hvalue] at hvalue'
    have hfile : o.file = file := congrArg Prod.fst hcarried.decision
    refine ⟨(file, (b.target.existing page start).map (b.target.foreseen file page)) :: results,
      hvalue', hstate'.trans hstate, congrArg (file :: ·) hfiles, fun i o' ho' hfree => ?_⟩
    rw [houtcomes] at ho' hfree
    rcases i with _ | i
    · -- The first document. What the two runs look up is the same page.
      cases ho'
      rw [hfile] at hfree ⊢
      have hsame : b.target.existing page s = b.target.existing page start :=
        SyncTarget.existing_of_writtenBy hpast fun w hw =>
          hfree page hpage w (List.mem_append_left _ hw)
      rw [← hsame, hfound]
      refine ⟨_, rfl, ?_⟩
      rw [b.target.decision_foreseen, hcarried.decision]
    · -- A later one. The first document counts among those that came before it.
      refine hresults i o' ho' fun page' hpage' w hw => hfree page' hpage' w ?_
      rwa [List.take_succ_cons, List.append_cons]

/-- A batch on a store in memory without failures, and a dry run of it from the
same store with the same files and the same diagrams. The dry run does not end
early, and it has a result for every document in order. If no earlier document
bears on the lookup of a document, its result is an outcome with the same action.
If that is so for all of them, the dry run has no failures, and its outcomes are
those of the batch but for page ids and addresses. It leaves the store as it is. -/
theorem run_dry (b : Batch) (hdry : b.target.dryRun = false) {σ τ : Type}
    {m : Machine Files σ} {n : Machine Diagram.Backend τ}
    {files : (q : Files.Question) → Files.Answer q}
    {draw : (q : Diagram.Backend.Question) → Diagram.Backend.Answer q} {disk : σ} {backend : τ}
    (hfiles : m.Answers files disk) (hdraw : n.Answers draw backend) (store : MemoryStore)
    (paths : List String) {report : SyncReport}
    (hok : ((b.run paths).run (m.sum (n.sum MemoryStore.machine)) (disk, backend, store)).value =
      .ok report)
    (hall : report.failures = []) :
    let places := m.sum (n.sum MemoryStore.machine)
    let rehearsal := (b.dry.run paths).run places (disk, backend, store)
    (∃ results, rehearsal.value = .ok (.ofResults results) ∧ results.map (·.1) = paths ∧
      ∀ i o, report.outcomes[i]? = some o →
        b.Undisturbed files draw store report.outcomes i o →
        ∃ o', results[i]? = some (o.file, .ok o') ∧ o'.decision = o.decision) ∧
    ((∀ i o, report.outcomes[i]? = some o → b.Undisturbed files draw store report.outcomes i o) →
      ∃ predicted, rehearsal.value = .ok ⟨predicted, []⟩ ∧
        predicted.map (·.decision) = report.outcomes.map (·.decision)) ∧
    rehearsal.state.2.2 = store := by
  intro places rehearsal
  rcases b.run_eq_onStore hfiles hdraw MemoryStore.machine store paths with ⟨hvalue, -, -, -, -⟩
  rcases b.dry.run_eq_onStore hfiles hdraw MemoryStore.machine store paths with
    ⟨hvalue', hstate', -, -, -⟩
  rcases b.foreseen_of_run files draw hdry (SyncTarget.writtenBy_nil store) (hvalue ▸ hok) hall with
    ⟨results, hdried, hstate, hpaths, hresults⟩
  have hlength : results.length = report.outcomes.length := by
    have hboth : results.map (·.1) = report.outcomes.map (·.file) :=
      hpaths.trans ((b.shuffle_of_ok places hok).eq_iff.2 (congrArg (List.map _) hall)).symm
    simpa only [List.length_map] using congrArg List.length hboth
  refine ⟨⟨results, hvalue'.trans hdried, hpaths, hresults⟩, fun hfree => ?_,
    hstate'.trans hstate⟩
  rcases SyncReport.ofResults_of_ok hlength fun i o ho => hresults i o ho (hfree i o ho) with
    ⟨predicted, hreport, hsame⟩
  exact ⟨predicted, hvalue'.trans (hdried.trans (congrArg Except.ok hreport)), hsame⟩

/-! ### Two documents -/

/-- The files of three documents. One names its page by the id, and two have the
same title. -/
def titledFiles : (q : Files.Question) → Files.Answer q
  | .read "named.md" => .ok (Text.utf8 "---\nconfluence-page-id: \"42\"\n---\n# Named")
  | .read "first.md" => .ok (Text.utf8 "# Guide\n\nOne")
  | .read "second.md" => .ok (Text.utf8 "# Guide\n\nTwo")
  | .read _ => .error FileTree.notFound
  | .names _ => .error FileTree.notFound
  | .kind _ => none

/-- What becomes of the first two. -/
def namedSynced : List SyncOutcome :=
  [⟨"named.md", "Named", "42", "https://mock.atlassian.net/wiki/spaces/DOCS/pages/42", .updated⟩,
    ⟨"first.md", "Guide", "1001", "https://mock.atlassian.net/wiki/spaces/DOCS/pages/1001",
      .created⟩]

theorem undisturbed_named (i : Nat) (o : SyncOutcome) (ho : namedSynced[i]? = some o) :
    docsBatch.Undisturbed titledFiles sameImage (SyncTarget.oldTitle "<p>Draft</p>")
      namedSynced i o := by
  have hlookup : (docsBatch.pageFor titledFiles sameImage "first.md").toOption.map
      (fun page => (page.frontMatter.pageId, page.title)) = some (none, "Guide") := by
    decide +kernel
  intro page hpage w hw
  rcases i with _ | _ | i
  · exact absurd hw List.not_mem_nil
  · cases ho
    cases List.mem_singleton.1 hw
    rw [hpage] at hlookup
    simp only [Except.toOption, Option.map_some, Option.some.injEq, Prod.mk.injEq] at hlookup
    -- The page that is renamed had another title, and it gets another one.
    simp only [SyncOutcome.BearsOn, hlookup.1, hlookup.2]
    decide
  · cases ho

/-- One document renames a page and another one creates a page. Neither bears on
the other, so the dry run says both. -/
theorem run_dry_named :
    let places := (Machine.fixed titledFiles).sum
      ((Machine.fixed sameImage).sum MemoryStore.machine)
    let store := SyncTarget.oldTitle "<p>Draft</p>"
    ((docsBatch.run ["named.md", "first.md"]).run places ((), (), store)).value =
        .ok ⟨namedSynced, []⟩ ∧
      ∃ predicted, ((docsBatch.dry.run ["named.md", "first.md"]).run places ((), (), store)).value =
          .ok ⟨predicted, []⟩ ∧
        predicted.map (·.decision) =
          [("named.md", "Named", .updated), ("first.md", "Guide", .created)] := by
  intro places store
  have hok : ((docsBatch.run ["named.md", "first.md"]).run places ((), (), store)).value =
      .ok ⟨namedSynced, []⟩ := by decide +kernel
  rcases run_dry docsBatch rfl (.fixed titledFiles) (.fixed sameImage) store
      ["named.md", "first.md"] hok rfl with ⟨-, hall, -⟩
  rcases hall undisturbed_named with ⟨predicted, hvalue, hdecisions⟩
  exact ⟨hok, predicted, hvalue, hdecisions⟩

/-- It is not so that a dry run says what becomes of every document. Of two with
one title, the first one creates the page and the second one updates it. The dry
run says that both would create it. -/
theorem not_every_action_foreseen :
    ¬ ∀ (c : Batch) (places : (q : Files.Question) → Files.Answer q)
      (image : (q : Diagram.Backend.Question) → Diagram.Backend.Answer q) (store : MemoryStore)
      (paths : List String) (report : SyncReport), c.target.dryRun = false → store.Built →
      ((c.run paths).run ((Machine.fixed places).sum
        ((Machine.fixed image).sum MemoryStore.machine)) ((), (), store)).value = .ok report →
      report.failures = [] →
      ∃ predicted, ((c.dry.run paths).run ((Machine.fixed places).sum
          ((Machine.fixed image).sum MemoryStore.machine)) ((), (), store)).value =
          .ok ⟨predicted, []⟩ ∧
        predicted.map (·.decision) = report.outcomes.map (·.decision) := by
  intro h
  have hreal : ((docsBatch.run ["first.md", "second.md"]).run ((Machine.fixed titledFiles).sum
      ((Machine.fixed sameImage).sum MemoryStore.machine)) ((), (), MemoryStore.empty)).value =
        .ok ⟨[⟨"first.md", "Guide", "1001",
            "https://mock.atlassian.net/wiki/spaces/DOCS/pages/1001", .created⟩,
          ⟨"second.md", "Guide", "1001",
            "https://mock.atlassian.net/wiki/spaces/DOCS/pages/1001", .updated⟩], []⟩ := by
    decide +kernel
  have hforeseen : ((docsBatch.dry.run ["first.md", "second.md"]).run
      ((Machine.fixed titledFiles).sum ((Machine.fixed sameImage).sum MemoryStore.machine))
      ((), (), MemoryStore.empty)).value =
        .ok ⟨[⟨"first.md", "Guide", "new", "", .created⟩,
          ⟨"second.md", "Guide", "new", "", .created⟩], []⟩ := by
    decide +kernel
  rcases h docsBatch titledFiles sameImage .empty _ _ rfl .empty hreal rfl with
    ⟨predicted, hvalue, hdecisions⟩
  cases hforeseen.symm.trans hvalue
  exact absurd hdecisions (by decide)

end Batch

end WikiSync
