import WikiSync.Proofs.Store.Pages
import WikiSync.Proofs.Sync.Asks

/-!
# What a Reconcile Leaves in the Store

The page that a store in memory has once a document was synced to it. A
reconcile that succeeds has gone one of three ways: it found the page current
and did nothing, it made the next version of the page it found, or it made a
new page. `Carried` has one case for each, with all that changes in the store;
the attachments, which come last, change no page.

A page is current if its markup is that of the document. Its title does not
count. A page that was looked up by its title has that title, but one that was
looked up by its id may have any, and keeps it. So the title in the store is
that of the document unless a page with a given id was skipped, and
`not_every_title_stored` is a page that keeps its old title.

## Main definitions

* `SyncTarget.existing`: The page that a document belongs to.
* `SyncTarget.Carried`: The ways to succeed.
* `SyncTarget.Wrote`: The ways to write a page.

## Theorems

* `SyncTarget.run_reconcile`: The lookup leaves the store alone.
* `SyncTarget.pages_syncAttachments`: Attachments change no page.
* `SyncTarget.wrote_of_ok`, `SyncTarget.carried_of_ok`: What a success says.
* `SyncTarget.stored_of_ok`: The page after a success.
* `SyncTarget.not_every_title_stored`: A title that is not brought up to date.
-/

namespace WikiSync.SyncTarget

variable (t : SyncTarget) (file : String) (page : RenderedPage)

/-! ### The lookup -/

/-- The page that a document belongs to, as a store in memory gives it. -/
def existing (s : MemoryStore) : Except StoreError (Option Page) :=
  match page.frontMatter.pageId with
  | some pageId => (s.getPage pageId).map some
  | none => .ok (s.findPage t.space page.title)

/-- The lookup leaves the store alone. -/
theorem run_findExisting_memory (s : MemoryStore) :
    (t.findExisting page).run.run MemoryStore.machine s =
      ⟨t.existing page s, s, [], [t.lookup page]⟩ := by
  unfold findExisting existing lookup
  rcases page.frontMatter.pageId with _ | pageId
  · rfl
  · have hrun := StoreScript.run_ask_bind MemoryStore.machine (.getPage pageId)
      (fun p => pure (some p)) s
    have hanswer : MemoryStore.machine.answer (.getPage pageId) s = (s.getPage pageId, s) := rfl
    simp only [hrun, hanswer]
    rcases s.getPage pageId with e | p
    · rfl
    · rfl

theorem run_reconcile (ht : t.dryRun = false) (s : MemoryStore) :
    (t.reconcile file page).run.run MemoryStore.machine s =
      match t.existing page s with
      | .error e => ⟨.error e, s, [], [t.lookup page]⟩
      | .ok found =>
        (Run.mk () s [] [t.lookup page]).follow
          ((t.carryOut file page found).run.run MemoryStore.machine s) := by
  unfold reconcile
  rw [Script.run_bindExcept, run_findExisting_memory]
  rcases t.existing page s with e | found
  · rfl
  · simp only [ht, Bool.false_eq_true, if_false]
    rfl

theorem existing_by_title (hid : page.frontMatter.pageId = none) (s : MemoryStore) :
    t.existing page s = .ok (s.findPage t.space page.title) := by
  unfold existing
  rw [hid]

/-- By id, a page is found if it is there and can be read. -/
theorem existing_by_id {pageId : String} (hid : page.frontMatter.pageId = some pageId)
    (s : MemoryStore) (found : Option Page) :
    t.existing page s = .ok found ↔
      s.unreadable.get? pageId = none ∧ ∃ p, s.pages.get? pageId = some p ∧ found = some p := by
  unfold existing MemoryStore.getPage
  simp only [hid]
  rcases s.unreadable.get? pageId with _ | status
  · rcases s.pages.get? pageId with _ | p
    · simp [Except.map]
    · simp [Except.map, eq_comm]
  · simp [Except.map]

/-- The exchange of a lookup shows the page that was found. -/
theorem found?_lookup (s : MemoryStore) (p : Page) :
    Exchange.found? ⟨t.lookup page, (s.answer (t.lookup page)).1⟩ = some p ↔
      t.existing page s = .ok (some p) := by
  unfold lookup existing
  rcases page.frontMatter.pageId with _ | pageId
  · simp [MemoryStore.answer, Exchange.found?]
  · simp only [MemoryStore.answer]
    rcases s.getPage pageId with e | q
    · simp [Exchange.found?, Except.map]
    · simp [Exchange.found?, Except.map]

/-- A page that a document belongs to is kept under its id. If no id is given,
it has the title of the document. -/
theorem get?_of_existing {s : MemoryStore} (h : s.Keyed) {p : Page}
    (hfound : t.existing page s = .ok (some p)) :
    s.pages.get? p.id = some p ∧ (page.frontMatter.pageId = none → p.title = page.title) := by
  rcases hid : page.frontMatter.pageId with _ | pageId
  · rw [existing_by_title t page hid] at hfound
    rcases MemoryStore.get?_of_findPage h (Except.ok.inj hfound) with ⟨hget, htitle, -⟩
    exact ⟨hget, fun _ => htitle⟩
  · rcases (existing_by_id t page hid s _).1 hfound with ⟨-, q, hget, hq⟩
    cases hq
    rw [h pageId p hget]
    exact ⟨hget, fun hnone => nomatch hnone⟩

/-! ### Success -/

/-- Attachments change no page. -/
theorem pages_syncAttachments (pageId : String) (attachments : SortedMap Attachment)
    (s : MemoryStore) :
    ((syncAttachments pageId attachments).run.run MemoryStore.machine s).state.pages = s.pages ∧
      ((syncAttachments pageId attachments).run.run MemoryStore.machine s).state.unreadable =
        s.unreadable := by
  have hasks : (syncAttachments pageId attachments).run.Asks
      fun c => ∀ s : MemoryStore, (s.answer c).2.pages = s.pages := by
    refine asks_syncAttachments pageId (fun _ => rfl) (fun id a s => ?_) (fun _ _ => rfl) _
    rcases s.pages_answer_cases (.replace pageId id a) with
      hsame | ⟨_, _, _, _, hc, -⟩ | ⟨_, _, _, _, hc, -⟩
    · exact hsame
    · cases hc
    · cases hc
  refine hasks.state MemoryStore.machine
    (fun s' => s'.pages = s.pages ∧ s'.unreadable = s.unreadable) ?_ ⟨rfl, rfl⟩
  rintro c s' hc ⟨hpages, hunreadable⟩
  exact ⟨(hc s').trans hpages, (s'.answer_frame c).2.1.trans hunreadable⟩

/-- The ways in which a reconcile succeeds once the page is looked up. -/
inductive Carried (s : MemoryStore) : Option Page → SyncOutcome → MemoryStore → Prop
  | skipped (p : Page) (hsame : contentHash p.markup = contentHash page.markup) :
      Carried s (some p) (t.outcome file page p .skipped) s
  | updated (p old : Page) (s' : MemoryStore)
      (hother : contentHash p.markup ≠ contentHash page.markup)
      (hold : s.pages.get? p.id = some old)
      (hpages : s'.pages =
        s.pages.insert p.id (MemoryStore.updated old p.id page.title page.markup))
      (hunreadable : s'.unreadable = s.unreadable) :
      Carried s (some p)
        (t.outcome file page (MemoryStore.updated old p.id page.title page.markup) .updated) s'
  | created (s' : MemoryStore)
      (hpages : s'.pages = s.pages.insert (s.nextId "")
        (MemoryStore.buildPage (s.nextId "") t.space page.title page.markup 1 t.parent))
      (hunreadable : s'.unreadable = s.unreadable) :
      Carried s none
        (t.outcome file page
          (MemoryStore.buildPage (s.nextId "") t.space page.title page.markup 1 t.parent)
          .created) s'

theorem plan_some (p : Page) (markup : String) :
    plan (some p) markup =
      if contentHash p.markup = contentHash markup then .skipped else .updated := rfl

/-- A page that is current is left alone. -/
theorem run_carryOut_current {p : Page} (hsame : contentHash p.markup = contentHash page.markup)
    (s : MemoryStore) :
    (t.carryOut file page (some p)).run.run MemoryStore.machine s =
      ⟨.ok (t.outcome file page p .skipped), s,
        [.info ("Skipped (no changes): " ++ page.title)], []⟩ := by
  unfold carryOut
  simp only [plan_some, if_pos hsame, if_true]
  rfl

/-- The ways in which a page is written once it is looked up, with the store before
its attachments are put. -/
inductive Wrote (s : MemoryStore) : Option Page → Page → SyncAction → MemoryStore → Prop
  | updated (p old : Page) (hother : contentHash p.markup ≠ contentHash page.markup)
      (hold : s.pages.get? p.id = some old) :
      Wrote s (some p) (MemoryStore.updated old p.id page.title page.markup) .updated
        { s with
          pages := s.pages.insert p.id (MemoryStore.updated old p.id page.title page.markup) }
  | created :
      Wrote s none (MemoryStore.buildPage (s.nextId "") t.space page.title page.markup 1 t.parent)
        .created (s.createPage t.space page.title page.markup t.parent).2

/-- After a page is written, its attachments decide about success, and about the store. -/
theorem after_write_ok (message : String) {remote : Page} {o o' : SyncOutcome} {s : MemoryStore}
    (h : ((do
      StoreScript.info message
      syncAttachments remote.id page.attachments
      pure o : StoreScript SyncOutcome).run.run MemoryStore.machine s).value = .ok o') :
    o' = o ∧
      ((do
        StoreScript.info message
        syncAttachments remote.id page.attachments
        pure o : StoreScript SyncOutcome).run.run MemoryStore.machine s).state =
          ((syncAttachments remote.id page.attachments).run.run MemoryStore.machine s).state := by
  rcases run_after_write MemoryStore.machine page message remote o s with ⟨hstate, hvalue⟩
  rw [hvalue] at h
  refine ⟨?_, hstate⟩
  rcases hattached : ((syncAttachments remote.id page.attachments).run.run
      MemoryStore.machine s).value with e | u
  · rw [hattached] at h
    cases h
  · rw [hattached] at h
    exact (Except.ok.inj h).symm

/-- A success says that the page was current, or that it was written and attachments
were put after that. -/
theorem wrote_of_ok {found : Option Page} {s : MemoryStore} {o : SyncOutcome}
    (h : ((t.carryOut file page found).run.run MemoryStore.machine s).value = .ok o) :
    (∃ p, found = some p ∧ contentHash p.markup = contentHash page.markup ∧
        o = t.outcome file page p .skipped ∧
        ((t.carryOut file page found).run.run MemoryStore.machine s).state = s) ∨
      ∃ remote action s₁, Wrote t page s found remote action s₁ ∧
        o = t.outcome file page remote action ∧
        ((t.carryOut file page found).run.run MemoryStore.machine s).state =
          ((syncAttachments remote.id page.attachments).run.run MemoryStore.machine s₁).state := by
  rcases found with _ | p
  · -- The store takes every new page.
    have hrun := StoreScript.run_ask_bind MemoryStore.machine
      (.createPage t.space page.title page.markup t.parent)
      (fun created => do
        StoreScript.info ("Created: " ++ page.title)
        syncAttachments created.id page.attachments
        pure (t.outcome file page created .created)) s
    unfold carryOut at h ⊢
    simp only [plan, hrun] at h ⊢
    rcases after_write_ok page ("Created: " ++ page.title) h with ⟨ho, hstate⟩
    exact Or.inr ⟨_, _, _, .created, ho, hstate⟩
  · by_cases hsame : contentHash p.markup = contentHash page.markup
    · rw [run_carryOut_current t file page hsame] at h ⊢
      exact Or.inl ⟨p, rfl, hsame, (Except.ok.inj h).symm, rfl⟩
    · have hrun := StoreScript.run_ask_bind MemoryStore.machine
        (.updatePage p.id page.title page.markup p.version.number)
        (fun updated => do
          StoreScript.info ("Updated: " ++ page.title)
          syncAttachments updated.id page.attachments
          pure (t.outcome file page updated .updated)) s
      have hanswer : MemoryStore.machine.answer
          (.updatePage p.id page.title page.markup p.version.number) s =
            s.updatePage p.id page.title page.markup p.version.number := rfl
      unfold carryOut at h ⊢
      simp only [plan_some, if_neg hsame, reduceCtorEq, if_false, hrun, hanswer] at h ⊢
      rcases s.updatePage_cases p.id page.title page.markup p.version.number with
        ⟨old, -, hold, -, hupdate⟩ | ⟨e, hrefused⟩
      · simp only [hupdate] at h ⊢
        rcases after_write_ok page ("Updated: " ++ page.title) h with ⟨ho, hstate⟩
        exact Or.inr ⟨_, _, _, .updated p old hsame hold, ho, hstate⟩
      · simp only [hrefused, reduceCtorEq] at h

/-- What a success says about pages. -/
theorem carried_of_ok {found : Option Page} {s : MemoryStore} {o : SyncOutcome}
    (h : ((t.carryOut file page found).run.run MemoryStore.machine s).value = .ok o) :
    Carried t file page s found o
      ((t.carryOut file page found).run.run MemoryStore.machine s).state := by
  rcases wrote_of_ok t file page h with ⟨p, rfl, hsame, rfl, hstate⟩ |
    ⟨remote, action, s₁, hwrote, rfl, hstate⟩
  · rw [hstate]
    exact Carried.skipped p hsame
  · rw [hstate]
    rcases pages_syncAttachments remote.id page.attachments s₁ with ⟨hpages, hunreadable⟩
    cases hwrote with
    | updated p old hother hold => exact Carried.updated p old _ hother hold hpages hunreadable
    | created => exact Carried.created _ hpages hunreadable

/-- The same with the lookup. -/
theorem carried_of_reconcile (ht : t.dryRun = false) {s : MemoryStore} {o : SyncOutcome}
    (h : ((t.reconcile file page).run.run MemoryStore.machine s).value = .ok o) :
    ∃ found, t.existing page s = .ok found ∧
      Carried t file page s found o
        ((t.reconcile file page).run.run MemoryStore.machine s).state := by
  rw [run_reconcile t file page ht] at h ⊢
  rcases hfound : t.existing page s with e | found
  · simp only [hfound, reduceCtorEq] at h
  · simp only [hfound] at h ⊢
    exact ⟨found, rfl, carried_of_ok t file page h⟩

/-- The page after a success. -/
theorem Carried.stored {s s' : MemoryStore} {found : Option Page} {o : SyncOutcome}
    (h : Carried t file page s found o s') (hkeyed : s.Keyed)
    (hfound : t.existing page s = .ok found)
    (hdigest : ∀ p, t.existing page s = .ok (some p) →
      contentHash p.markup = contentHash page.markup → p.markup = page.markup) :
    ∃ p, s'.pages.get? o.pageId = some p ∧ p.markup = page.markup ∧
      (o.action ≠ .skipped ∨ page.frontMatter.pageId = none → p.title = page.title) ∧
      (o.action = .skipped → s' = s) := by
  cases h with
  | skipped p hsame =>
    -- Nothing was written, so the page is what the lookup found.
    rcases get?_of_existing t page hkeyed hfound with ⟨hget, htitle⟩
    refine ⟨p, hget, hdigest p hfound hsame, ?_, fun _ => rfl⟩
    rintro (hwritten | hid)
    · exact absurd rfl hwritten
    · exact htitle hid
  | updated p old _ hother hold hpages hunreadable =>
    rw [hpages]
    exact ⟨_, SortedMap.get?_insert_self _ _ _, rfl, fun _ => rfl, fun h => nomatch h⟩
  | created _ hpages hunreadable =>
    rw [hpages]
    exact ⟨_, SortedMap.get?_insert_self _ _ _, rfl, fun _ => rfl, fun h => nomatch h⟩

/-- After a reconcile that succeeds, the page in the outcome has the markup of
the document, unless two different texts have the same digest. It has the title
of the document as well, unless its id was given and nothing was written. What is
skipped leaves the store as it is. -/
theorem stored_of_ok (ht : t.dryRun = false) {s : MemoryStore} (hkeyed : s.Keyed)
    (hdigest : ∀ p, t.existing page s = .ok (some p) →
      contentHash p.markup = contentHash page.markup → p.markup = page.markup)
    {o : SyncOutcome}
    (hok : ((t.reconcile file page).run.run MemoryStore.machine s).value = .ok o) :
    ∃ p, ((t.reconcile file page).run.run MemoryStore.machine s).state.pages.get? o.pageId =
        some p ∧
      p.markup = page.markup ∧
      (o.action ≠ .skipped ∨ page.frontMatter.pageId = none → p.title = page.title) ∧
      (o.action = .skipped →
        ((t.reconcile file page).run.run MemoryStore.machine s).state = s) := by
  rcases carried_of_reconcile t file page ht hok with ⟨found, hfound, hcarried⟩
  exact hcarried.stored t file page hkeyed hfound hdigest

/-! ### A page with an old title -/

/-- A document that names its page by the id. -/
def retitled : RenderedPage :=
  ⟨"New", ⟨none, some "42", []⟩, "<p>Body</p>", .empty⟩

/-- A store with the page under another title. -/
def oldTitle (markup : String) : MemoryStore :=
  MemoryStore.empty.withPage "42" "DOCS" "Old" markup

theorem existing_oldTitle (markup : String) :
    docs.existing retitled (oldTitle markup) =
      .ok (some (MemoryStore.buildPage "42" "DOCS" "Old" markup 1 none)) := rfl

/-- With other markup, the page is updated and gets its new title. -/
theorem stored_of_ok_retitled :
    ∃ o p, ((docs.reconcile "guide.md" retitled).run.run MemoryStore.machine
        (oldTitle "<p>Draft</p>")).value = .ok o ∧
      o.action = .updated ∧
      ((docs.reconcile "guide.md" retitled).run.run MemoryStore.machine
        (oldTitle "<p>Draft</p>")).state.pages.get? o.pageId = some p ∧
      p.markup = "<p>Body</p>" ∧ p.title = "New" := by
  have hkeyed : (oldTitle "<p>Draft</p>").Keyed := (MemoryStore.Built.empty.page _ _ _ _).keyed
  have hother : contentHash (MemoryStore.buildPage "42" "DOCS" "Old" "<p>Draft</p>" 1 none).markup ≠
      contentHash retitled.markup := by decide +kernel
  have hok : ((docs.reconcile "guide.md" retitled).run.run MemoryStore.machine
      (oldTitle "<p>Draft</p>")).value =
        .ok ⟨"guide.md", "New", "42", "https://mock.atlassian.net/wiki/spaces/DOCS/pages/42",
          .updated⟩ := by
    have hplan : plan (some (MemoryStore.buildPage "42" "DOCS" "Old" "<p>Draft</p>" 1 none))
        retitled.markup = .updated := by
      rw [plan_some, if_neg hother]
    rw [run_reconcile docs "guide.md" retitled rfl, existing_oldTitle]
    simp only [carryOut, hplan, reduceCtorEq, if_false]
    rfl
  have hdigest : ∀ p, docs.existing retitled (oldTitle "<p>Draft</p>") = .ok (some p) →
      contentHash p.markup = contentHash retitled.markup → p.markup = retitled.markup := by
    intro p hp hsame
    rw [existing_oldTitle] at hp
    cases hp
    exact absurd hsame hother
  rcases stored_of_ok docs "guide.md" retitled rfl hkeyed hdigest hok with
    ⟨p, hget, hmarkup, htitle, -⟩
  exact ⟨_, p, hok, rfl, hget, hmarkup, htitle (Or.inl (by decide))⟩

/-- It is not so that the page always has the title of the document: with the
same markup it is skipped and keeps its old title. -/
theorem not_every_title_stored :
    ¬ ∀ (u : SyncTarget) (file : String) (document : RenderedPage) (s : MemoryStore)
      (o : SyncOutcome), u.dryRun = false → s.Built →
        (∀ p, u.existing document s = .ok (some p) →
          contentHash p.markup = contentHash document.markup → p.markup = document.markup) →
        ((u.reconcile file document).run.run MemoryStore.machine s).value = .ok o →
        ∃ p, ((u.reconcile file document).run.run MemoryStore.machine s).state.pages.get? o.pageId =
            some p ∧ p.title = document.title ∧ p.markup = document.markup := by
  intro h
  have hrun : (docs.reconcile "guide.md" retitled).run.run MemoryStore.machine
      (oldTitle "<p>Body</p>") =
        ⟨.ok ⟨"guide.md", "New", "42", "https://mock.atlassian.net/wiki/spaces/DOCS/pages/42",
          .skipped⟩, oldTitle "<p>Body</p>", [.info "Skipped (no changes): New"],
          [.getPage "42"]⟩ := by
    -- The digests are equal, whatever they are.
    have hsame : contentHash
        (MemoryStore.buildPage "42" "DOCS" "Old" "<p>Body</p>" 1 none).markup =
          contentHash retitled.markup := congrArg contentHash rfl
    rw [run_reconcile docs "guide.md" retitled rfl, existing_oldTitle]
    simp only [run_carryOut_current docs "guide.md" retitled hsame]
    rfl
  have hdigest : ∀ p, docs.existing retitled (oldTitle "<p>Body</p>") = .ok (some p) →
      contentHash p.markup = contentHash retitled.markup → p.markup = retitled.markup := by
    intro p hp _
    rw [existing_oldTitle] at hp
    cases hp
    rfl
  rcases h docs "guide.md" retitled (oldTitle "<p>Body</p>") _ rfl
      (MemoryStore.Built.empty.page _ _ _ _) hdigest (congrArg Run.value hrun) with
    ⟨p, hget, htitle, -⟩
  rw [hrun] at hget
  have hold : (oldTitle "<p>Body</p>").pages.get? "42" =
      some (MemoryStore.buildPage "42" "DOCS" "Old" "<p>Body</p>" 1 none) := rfl
  rw [hold] at hget
  cases hget
  exact absurd htitle (by decide)

end WikiSync.SyncTarget
