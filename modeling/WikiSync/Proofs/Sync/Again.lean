import WikiSync.Proofs.Script.Supply
import WikiSync.Proofs.Sync.Stored

/-!
# Syncing Again without a Change

What a second reconcile finds after a first one that succeeded. The page of the
document is in the store with the markup of the document, so it is current, and
the second reconcile skips it. `Settled` is that state of the store, and it does
not mention how it came about.

Between the two, other documents may have been synced to the same store. They
may have renamed pages and created new ones, and a page with the same title and
a smaller id would come first in a lookup by title. `existing_written` says what
keeps the page from being lost: what is written has another title and another
id.

## Main definitions

* `SyncTarget.Settled`: The page of a document is current.

## Theorems

* `SyncTarget.Carried.settled`: After a success, the page is current.
* `SyncTarget.Settled.carried`: It stays so if other pages are written.
* `SyncTarget.Settled.run_reconcile`: A document whose page is current is
  skipped.
-/

namespace WikiSync.SyncTarget

variable (t : SyncTarget) (file : String) (page : RenderedPage)

/-- The page of a document is current, and it is the one in an outcome. -/
def Settled (o : SyncOutcome) (s : MemoryStore) : Prop :=
  ∃ p, t.existing page s = .ok (some p) ∧ contentHash p.markup = contentHash page.markup ∧
    t.outcome file page p .skipped = { o with action := .skipped }

variable {t file page}

/-- A document whose page is current is skipped, by one call that changes
nothing. -/
theorem Settled.run_reconcile {o : SyncOutcome} {s : MemoryStore} (ht : t.dryRun = false)
    (h : Settled t file page o s) :
    (t.reconcile file page).run.run MemoryStore.machine s =
      ⟨.ok { o with action := .skipped }, s, [.info ("Skipped (no changes): " ++ page.title)],
        [t.lookup page]⟩ := by
  rcases h with ⟨p, hfound, hsame, ho⟩
  rw [SyncTarget.run_reconcile t file page ht, hfound]
  simp only [run_carryOut_current t file page hsame, Run.follow, ho, List.nil_append,
    List.append_nil]

variable (t page) in
theorem isMutation_lookup : (t.lookup page).isMutation = false := by
  unfold lookup
  rcases page.frontMatter.pageId with _ | pageId
  · rfl
  · rfl

/-! ### After a success -/

/-- A page that was found is found again when its next version takes its
place. -/
theorem existing_updated {s s' : MemoryStore} (hkeyed : s.Keyed) {p old : Page}
    (hfound : t.existing page s = .ok (some p)) (hold : s.pages.get? p.id = some old)
    (hpages : s'.pages =
      s.pages.insert p.id (MemoryStore.updated old p.id page.title page.markup))
    (hunreadable : s'.unreadable = s.unreadable) :
    t.existing page s' = .ok (some (MemoryStore.updated old p.id page.title page.markup)) := by
  rcases hid : page.frontMatter.pageId with _ | pageId
  · rw [existing_by_title t page hid] at hfound ⊢
    rcases MemoryStore.get?_of_findPage hkeyed (Except.ok.inj hfound) with ⟨hget, -, hspace⟩
    cases hget.symm.trans hold
    unfold MemoryStore.findPage
    rw [hpages]
    -- Its title and its space are those that are searched for.
    refine congrArg Except.ok (SortedMap.find?_values_insert_found _ ?_ ?_ (Except.ok.inj hfound))
    · simp [MemoryStore.updated, MemoryStore.buildPage, hspace]
    · exact fun k hk => (hkeyed k p hk).symm
  · rcases (existing_by_id t page hid s _).1 hfound with ⟨hreadable, q, hget, hq⟩
    cases hq
    refine (existing_by_id t page hid s' _).2 ⟨hunreadable ▸ hreadable, _, ?_, rfl⟩
    rw [hpages, hkeyed pageId p hget]
    exact SortedMap.get?_insert_self _ _ _

/-- A page that is created is found. -/
theorem existing_created {s s' : MemoryStore} (hfound : t.existing page s = .ok none)
    {id : String} (hpages : s'.pages = s.pages.insert id
      (MemoryStore.buildPage id t.space page.title page.markup 1 t.parent)) :
    t.existing page s' =
      .ok (some (MemoryStore.buildPage id t.space page.title page.markup 1 t.parent)) := by
  rcases hid : page.frontMatter.pageId with _ | pageId
  · rw [existing_by_title t page hid] at hfound ⊢
    unfold MemoryStore.findPage
    rw [hpages]
    refine congrArg Except.ok (SortedMap.find?_values_insert _ _ _ _ ?_ (Except.ok.inj hfound))
    simp [MemoryStore.buildPage]
  · -- By id there would be a page or an error.
    rcases (existing_by_id t page hid s _).1 hfound with ⟨-, q, -, hq⟩
    cases hq

/-- After a success, the page is current. -/
theorem Carried.settled {s s' : MemoryStore} {found : Option Page} {o : SyncOutcome}
    (h : Carried t file page s found o s') (hkeyed : s.Keyed)
    (hfound : t.existing page s = .ok found) : Settled t file page o s' := by
  cases h with
  | skipped p hsame => exact ⟨p, hfound, hsame, rfl⟩
  | updated p old _ hother hold hpages hunreadable =>
    exact ⟨_, existing_updated hkeyed hfound hold hpages hunreadable, rfl, rfl⟩
  | created _ hpages hunreadable =>
    exact ⟨_, existing_created hfound hpages, rfl, rfl⟩

/-! ### Other documents -/

/-- A success leaves the store alone or writes one page, which has the title
and the id in the outcome. -/
theorem Carried.writes {s s' : MemoryStore} {found : Option Page} {o : SyncOutcome}
    (h : Carried t file page s found o s') :
    s' = s ∨ ∃ w : Page, w.id = o.pageId ∧ w.title = o.title ∧
      s'.pages = s.pages.insert w.id w ∧ s'.unreadable = s.unreadable := by
  cases h with
  | skipped p hsame => exact Or.inl rfl
  | updated p old _ hother hold hpages hunreadable =>
    exact Or.inr ⟨_, rfl, rfl, hpages, hunreadable⟩
  | created _ hpages hunreadable => exact Or.inr ⟨_, rfl, rfl, hpages, hunreadable⟩

theorem Carried.keyed {s s' : MemoryStore} {found : Option Page} {o : SyncOutcome}
    (h : Carried t file page s found o s') (hkeyed : s.Keyed) : s'.Keyed := by
  rcases h.writes with rfl | ⟨w, -, -, hpages, -⟩
  · exact hkeyed
  · exact hkeyed.insert hpages rfl

/-- A page that was found is found again when a page with another title is
written under another id. -/
theorem existing_written {s s' : MemoryStore} (hkeyed : s.Keyed) {p w : Page}
    (hfound : t.existing page s = .ok (some p)) (hother : w.id ≠ p.id)
    (htitle : w.title ≠ page.title) (hpages : s'.pages = s.pages.insert w.id w)
    (hunreadable : s'.unreadable = s.unreadable) : t.existing page s' = .ok (some p) := by
  rcases hid : page.frontMatter.pageId with _ | pageId
  · rw [existing_by_title t page hid] at hfound ⊢
    unfold MemoryStore.findPage
    rw [hpages]
    refine congrArg Except.ok
      (SortedMap.find?_values_insert_of_ne _ _ ?_ ?_ (Except.ok.inj hfound))
    · simp [htitle]
    · -- The page that is written over has another id, too.
      exact fun old hold heq => hother ((hkeyed w.id old hold).symm.trans (congrArg Page.id heq))
  · rcases (existing_by_id t page hid s _).1 hfound with ⟨hreadable, q, hget, hq⟩
    cases hq
    refine (existing_by_id t page hid s' _).2 ⟨hunreadable ▸ hreadable, p, ?_, rfl⟩
    rw [hpages, SortedMap.get?_insert_of_ne _ fun heq => hother ?_]
    · exact hget
    · rw [← heq, hkeyed pageId p hget]

/-- The page of a document stays current while documents with other titles and
other pages are synced. -/
theorem Settled.carried {o : SyncOutcome} {s s' : MemoryStore} (h : Settled t file page o s)
    (hkeyed : s.Keyed) {otherTarget : SyncTarget} {otherFile : String} {otherPage : RenderedPage}
    {found : Option Page} {other : SyncOutcome}
    (hcarried : Carried otherTarget otherFile otherPage s found other s')
    (htitle : other.title ≠ o.title) (hid : other.pageId ≠ o.pageId) :
    Settled t file page o s' := by
  rcases hcarried.writes with rfl | ⟨w, hwid, hwtitle, hpages, hunreadable⟩
  · exact h
  · rcases h with ⟨p, hfound, hsame, ho⟩
    have hoid : p.id = o.pageId := congrArg SyncOutcome.pageId ho
    have hotitle : page.title = o.title := congrArg SyncOutcome.title ho
    refine ⟨p, existing_written hkeyed hfound ?_ ?_ hpages hunreadable, hsame, ho⟩
    · rw [hwid, hoid]
      exact hid
    · rw [hwtitle, hotitle]
      exact htitle

end WikiSync.SyncTarget
