import Mathlib.Data.List.Basic
import WikiSync.Proofs.Script.Along
import WikiSync.Proofs.Store.Names
import WikiSync.Proofs.Sync.Asks
import WikiSync.Proofs.Sync.Repair

/-!
# One Page for a Document

Documents that are synced one after the other, each to a place of its own, and
none of them names its page by an id. The store is one in memory, in front of
which any call can fail. A document finds its page by space and title, so what
must not happen is that two pages come to have the same ones.

It does not happen if it was not so at the start. A reconcile writes a page only
after a lookup. Where the lookup found nothing, the name is free, and the page is
created under it; where it found a page, that page has the name already and keeps
it. So every call suits the names in the store that it is asked of, and the rest
is what calls like these preserve. A call that fails changes nothing, and neither
do attachments.

A name has one page from the first success on. `named_syncInTurn` says that every
outcome names the page that has the name in the end, and so any two outcomes for
one name agree.

## Main definitions

* `Submission`: A document with the place where it goes.
* `syncInTurn`: Syncs documents one after the other.

## Theorems

* `SyncTarget.along_reconcile`: The calls of a reconcile suit the names.
* `SyncTarget.named_of_reconcile`: The page of a success.
* `along_syncInTurn`, `named_syncInTurn`: The same for many documents.
* `one_page`: One page for a name.
-/

namespace WikiSync

namespace FaultyStore

/-- A call that suits the names in the store. -/
def Spares (c : StoreCall) (s : FaultyStore) : Prop :=
  s.store.Spares c

theorem wellNamed_answer (c : StoreCall) (s : FaultyStore) (hc : Spares c s)
    (h : s.store.WellNamed) : (machine.answer c s).2.store.WellNamed :=
  store_answer MemoryStore.WellNamed c h (h.answer hc)

/-- A name stays with its page. -/
theorem named_answer {id space title : String} (c : StoreCall) (s : FaultyStore) (hc : Spares c s)
    (h : s.store.WellNamed ∧ s.store.Named id space title) :
    (machine.answer c s).2.store.WellNamed ∧
      (machine.answer c s).2.store.Named id space title :=
  ⟨wellNamed_answer c s hc h.1,
    store_answer (fun s => s.Named id space title) c h.2 (h.2.answer h.1.fresh hc)⟩

end FaultyStore

/-- A call with what follows it. -/
theorem StoreScript.along_ask_bind {σ β : Type} (m : Machine Store σ)
    {P : StoreCall → σ → Prop} {c : StoreCall} {f : c.Result → StoreScript β} {s : σ} (hc : P c s)
    (hf : ∀ r, (m.answer c s).1 = .ok r → (f r).run.Along m P (m.answer c s).2) :
    (c.ask >>= f).run.Along m P s :=
  Script.along_bindExcept m ⟨hc, trivial⟩ hf

namespace SyncTarget

variable (t : SyncTarget) (file : String) (page : RenderedPage)

/-! ### The calls -/

/-- After a page is written, no call matters to names. -/
theorem along_after_write (message pageId : String) (o : SyncOutcome) (s : FaultyStore) :
    (do
      StoreScript.info message
      syncAttachments pageId page.attachments
      pure o : StoreScript SyncOutcome).run.Along FaultyStore.machine FaultyStore.Spares s :=
  (asks_after_write (P := fun c => ∀ s : MemoryStore, s.Spares c) message pageId page.attachments o
    (fun _ => trivial) (fun _ _ _ => trivial) fun _ _ => trivial).along FaultyStore.machine
    (fun _ s hc => hc s.store) s

/-- Carrying out a reconcile suits the names, if the page that was found is the
one with the name. -/
theorem along_carryOut (found : Option Page) {s : FaultyStore}
    (hfree : found = none → ∀ id, ¬ s.store.Named id t.space page.title)
    (hnamed : ∀ p, found = some p → s.store.Named p.id t.space page.title) :
    (t.carryOut file page found).run.Along FaultyStore.machine FaultyStore.Spares s := by
  unfold carryOut
  rcases found with _ | remote
  · exact StoreScript.along_ask_bind _ (hfree rfl) fun created _ =>
      along_after_write page _ created.id _ _
  · simp only []
    generalize plan (some remote) page.markup = action
    by_cases haction : action = .skipped
    · rw [if_pos haction]
      exact Script.along_bindExcept _ (x := StoreScript.info _) trivial fun _ _ => trivial
    · rw [if_neg haction]
      exact StoreScript.along_ask_bind _ ⟨t.space, hnamed remote rfl⟩ fun updated _ =>
        along_after_write page _ updated.id _ _

variable {t file page}

/-- What a lookup by title finds is the page with the name, and it leaves the
store alone. -/
theorem found_by_title (hid : page.frontMatter.pageId = none) {s : FaultyStore}
    (hs : s.store.WellNamed) {found : Option Page}
    (hfound : ((t.findExisting page).run.run FaultyStore.machine s).value = .ok found) :
    let after := ((t.findExisting page).run.run FaultyStore.machine s).state.store
    after.WellNamed ∧ (found = none → ∀ id, ¬ after.Named id t.space page.title) ∧
      ∀ p, found = some p → after.Named p.id t.space page.title := by
  intro after
  have hpage : t.pageOf page s.store = s.store.findPage t.space page.title := by
    unfold pageOf
    rw [hid]
  rcases findExisting_faulty t page s with ⟨hstore, ⟨e, hvalue⟩ | ⟨hvalue, -⟩⟩
  · cases hvalue.symm.trans hfound
  · have hsame : s.store.findPage t.space page.title = found :=
      hpage.symm.trans (Except.ok.inj (hvalue.symm.trans hfound))
    have hafter : after = s.store := hstore
    rw [hafter]
    exact ⟨hs, fun hnone => (MemoryStore.findPage_eq_none_iff _ _ _).1 (hsame.trans hnone),
      fun p hp => MemoryStore.named_of_findPage hs.keyed (hsame.trans hp)⟩

variable (file) in
theorem along_reconcile (ht : t.dryRun = false) (hid : page.frontMatter.pageId = none)
    {s : FaultyStore} (hs : s.store.WellNamed) :
    (t.reconcile file page).run.Along FaultyStore.machine FaultyStore.Spares s := by
  unfold reconcile
  refine Script.along_bindExcept _ ?_ fun found hfound => ?_
  · unfold findExisting
    rw [hid]
    exact ⟨trivial, trivial⟩
  · simp only [ht, Bool.false_eq_true, if_false]
    rcases found_by_title hid hs hfound with ⟨-, hfree, hnamed⟩
    exact along_carryOut t file page found hfree hnamed

/-! ### The page of a success -/

/-- If a page is written and all that follows succeeds, the page in the outcome is
the one that was written, and it still has its name. -/
theorem named_of_write {c : StoreCall} (written : c.Result → Page) (message : String)
    (action : SyncAction) {script : StoreScript SyncOutcome}
    (hscript : script = do
      let r ← c.ask
      StoreScript.info message
      syncAttachments (written r).id page.attachments
      pure (t.outcome file page (written r) action))
    {s : FaultyStore} (hs : s.store.WellNamed) (hc : s.store.Spares c) {space title : String}
    (hnamed : ∀ r, (s.store.answer c).1 = .ok r →
      (s.store.answer c).2.Named (written r).id space title)
    {o : SyncOutcome} (hok : (script.run.run FaultyStore.machine s).value = .ok o) :
    (script.run.run FaultyStore.machine s).state.store.Named o.pageId space title := by
  subst hscript
  rw [StoreScript.run_ask_bind] at hok ⊢
  rcases FaultyStore.answer_cases s c with ⟨e, hanswer⟩ | hanswer
  · rw [hanswer] at hok
    cases hok
  · rw [hanswer] at hok ⊢
    rcases hresult : (s.store.answer c).1 with e | r
    · rw [hresult] at hok
      cases hok
    · simp only [hresult, Run.follow] at hok ⊢
      have hkept := (along_after_write page message (written r).id
        (t.outcome file page (written r) action) ⟨(s.store.answer c).2, s.faults.tail⟩).state
        (fun s => s.store.WellNamed ∧ s.store.Named (written r).id space title)
        FaultyStore.named_answer ⟨hs.answer hc, hnamed r hresult⟩
      rw [(run_after_write FaultyStore.machine page message (written r) _ _).2] at hok
      rcases hattached : ((syncAttachments (written r).id page.attachments).run.run
          FaultyStore.machine ⟨(s.store.answer c).2, s.faults.tail⟩).value with e | u
      · rw [hattached] at hok
        cases hok
      · rw [hattached] at hok
        cases hok
        exact hkept.2

/-- If carrying out a reconcile succeeds, the page in the outcome has the name. -/
theorem named_of_carryOut {found : Option Page} {s : FaultyStore} (hs : s.store.WellNamed)
    (hfree : found = none → ∀ id, ¬ s.store.Named id t.space page.title)
    (hnamed : ∀ p, found = some p → s.store.Named p.id t.space page.title) {o : SyncOutcome}
    (hok : ((t.carryOut file page found).run.run FaultyStore.machine s).value = .ok o) :
    ((t.carryOut file page found).run.run FaultyStore.machine s).state.store.Named o.pageId t.space
      page.title := by
  rcases found with _ | remote
  · refine named_of_write (c := .createPage t.space page.title page.markup t.parent) (fun p => p)
      ("Created: " ++ page.title) .created rfl hs (hfree rfl) (fun created hcreated => ?_) hok
    cases hcreated
    exact (MemoryStore.named_insert rfl _ _ _).2 (Or.inl ⟨rfl, rfl, rfl⟩)
  · by_cases haction : plan (some remote) page.markup = .skipped
    · unfold carryOut at hok ⊢
      simp only [haction, if_true, StoreScript.run_info_bind, StoreScript.run_pure,
        Run.follow] at hok ⊢
      cases hok
      exact hnamed remote rfl
    · have hc : s.store.Spares (.updatePage remote.id page.title page.markup
          remote.version.number) := ⟨t.space, hnamed remote rfl⟩
      have hscript : t.carryOut file page (some remote) = (do
          let updated ←
            (StoreCall.updatePage remote.id page.title page.markup remote.version.number).ask
          StoreScript.info ("Updated: " ++ page.title)
          syncAttachments updated.id page.attachments
          pure (t.outcome file page updated (plan (some remote) page.markup))) := by
        unfold carryOut
        simp only [haction, if_false]
      refine named_of_write
        (c := .updatePage remote.id page.title page.markup remote.version.number) (fun p => p)
        ("Updated: " ++ page.title) (plan (some remote) page.markup) hscript hs hc
        (fun updated hupdated => ?_) hok
      -- The store answers with the page that it was asked to update.
      rcases s.store.updatePage_cases remote.id page.title page.markup remote.version.number with
        ⟨old, -, -, -, hupdate⟩ | ⟨e, hrefused⟩
      · cases (congrArg Prod.fst hupdate).symm.trans hupdated
        exact (hnamed remote rfl).answer hs.fresh hc
      · cases (congrArg Prod.fst hrefused).symm.trans hupdated

theorem named_of_reconcile (ht : t.dryRun = false) (hid : page.frontMatter.pageId = none)
    {s : FaultyStore} (hs : s.store.WellNamed) {o : SyncOutcome}
    (hok : ((t.reconcile file page).run.run FaultyStore.machine s).value = .ok o) :
    ((t.reconcile file page).run.run FaultyStore.machine s).state.store.Named o.pageId t.space
      page.title := by
  unfold reconcile at hok ⊢
  simp only [ht, Bool.false_eq_true, if_false] at hok ⊢
  rw [Script.run_bindExcept] at hok ⊢
  rcases hfound : ((t.findExisting page).run.run FaultyStore.machine s).value with e | found
  · rw [hfound] at hok
    cases hok
  · rw [hfound] at hok
    rcases found_by_title hid hs hfound with ⟨hgood, hfree, hnamed⟩
    exact named_of_carryOut hgood hfree hnamed hok

end SyncTarget

/-! ### Many documents -/

/-- A document with the place where it goes. -/
structure Submission where
  target : SyncTarget
  file : String
  page : RenderedPage

/-- A document that is looked up by its name and is to be written. -/
def Submission.ByName (d : Submission) : Prop :=
  d.target.dryRun = false ∧ d.page.frontMatter.pageId = none

/-- Syncs documents one after the other, whatever becomes of each. -/
def syncInTurn : List Submission → Script Store (List (Except StoreError SyncOutcome))
  | [] => pure []
  | d :: rest => do
    let result ← (d.target.reconcile d.file d.page).run
    let results ← syncInTurn rest
    pure (result :: results)

theorem run_syncInTurn_cons {σ : Type} (m : Machine Store σ) (d : Submission)
    (rest : List Submission) (s : σ) :
    let first := (d.target.reconcile d.file d.page).run.run m s
    let more := (syncInTurn rest).run m first.state
    ((syncInTurn (d :: rest)).run m s).value = first.value :: more.value ∧
      ((syncInTurn (d :: rest)).run m s).state = more.state := by
  intro first more
  rw [syncInTurn, Script.run_bind, Script.run_bind]
  exact ⟨rfl, rfl⟩

variable {ds : List Submission}

/-- Every call suits the names in the store that it is asked of. -/
theorem along_syncInTurn (hds : ∀ d ∈ ds, d.ByName) {s : FaultyStore} (hs : s.store.WellNamed) :
    (syncInTurn ds).Along FaultyStore.machine FaultyStore.Spares s := by
  induction ds generalizing s with
  | nil => trivial
  | cons d rest ih =>
    rcases hds d List.mem_cons_self with ⟨ht, hid⟩
    have hfirst := SyncTarget.along_reconcile d.file ht hid hs
    have hafter := hfirst.state (fun s => s.store.WellNamed) FaultyStore.wellNamed_answer hs
    exact Script.along_bind _ hfirst <| Script.along_bind _
      (ih (fun d hd => hds d (List.mem_cons_of_mem _ hd)) hafter) trivial

/-- In the end, the page of every success has the name of its document. -/
theorem named_syncInTurn (hds : ∀ d ∈ ds, d.ByName) {s : FaultyStore} (hs : s.store.WellNamed) :
    let r := (syncInTurn ds).run FaultyStore.machine s
    r.value.length = ds.length ∧
      ∀ (i : Nat) (d : Submission) (o : SyncOutcome), ds[i]? = some d →
        r.value[i]? = some (.ok o) → r.state.store.Named o.pageId d.target.space d.page.title := by
  induction ds generalizing s with
  | nil => exact ⟨rfl, fun i d o hd => nomatch hd⟩
  | cons d rest ih =>
    intro r
    rcases hds d List.mem_cons_self with ⟨ht, hid⟩
    have hrest : ∀ d ∈ rest, d.ByName := fun d hd => hds d (List.mem_cons_of_mem _ hd)
    rcases run_syncInTurn_cons FaultyStore.machine d rest s with ⟨hvalue, hstate⟩
    have hafter := (SyncTarget.along_reconcile d.file ht hid hs).state
      (fun s => s.store.WellNamed) FaultyStore.wellNamed_answer hs
    rcases ih hrest hafter with ⟨hlength, hnamed⟩
    have hr : r = (syncInTurn (d :: rest)).run FaultyStore.machine s := rfl
    rw [hr, hvalue, hstate]
    refine ⟨congrArg Nat.succ hlength, fun i d' o hd' ho => ?_⟩
    rcases i with _ | i
    · -- The page of the first document keeps its name while the others are synced.
      cases hd'
      have hfirst := SyncTarget.named_of_reconcile ht hid hs (Option.some.inj ho)
      exact ((along_syncInTurn hrest hafter).state _ FaultyStore.named_answer ⟨hafter, hfirst⟩).2
    · exact hnamed i d' o hd' ho

/-- Documents are synced one after the other, to a store in memory in which every
call may fail. None of them names its page by an id. The store keeps its pages
under their ids, as all of them do. To begin with, no two pages share a space and
a title, and no page has an id that the store is going to give out. Then no two
pages ever share a space and a title: not before any call, and not in the end. A
page is created only if no page has its space and its title. And any two documents
for one space and one title that succeed have the same page. -/
theorem one_page (hds : ∀ d ∈ ds, d.ByName) (s : FaultyStore) (hkeyed : s.store.Keyed)
    (hdistinct : s.store.Distinct) (hfresh : s.store.Fresh) :
    let r := (syncInTurn ds).run FaultyStore.machine s
    (syncInTurn ds).Along FaultyStore.machine (fun c before =>
        before.store.Distinct ∧ ∀ space title markup parent,
          c = .createPage space title markup parent → ∀ id, ¬ before.store.Named id space title) s ∧
      r.state.store.Distinct ∧
      r.value.length = ds.length ∧
      ∀ (i j : Nat) (d d' : Submission) (o o' : SyncOutcome),
        ds[i]? = some d → ds[j]? = some d' →
        r.value[i]? = some (.ok o) → r.value[j]? = some (.ok o') →
        d.target.space = d'.target.space → d.page.title = d'.page.title → o.pageId = o'.pageId := by
  intro r
  have hs : s.store.WellNamed := ⟨hkeyed, hdistinct, hfresh⟩
  have halong := along_syncInTurn hds hs
  have hend := halong.state (fun s => s.store.WellNamed) FaultyStore.wellNamed_answer hs
  rcases named_syncInTurn hds hs with ⟨hlength, hnamed⟩
  refine ⟨?_, hend.distinct, hlength, fun i j d d' o o' hd hd' ho ho' hspace htitle => ?_⟩
  · refine (halong.and (fun s => s.store.WellNamed) FaultyStore.wellNamed_answer hs).imp ?_
    rintro c before ⟨hc, hbefore⟩
    refine ⟨hbefore.distinct, ?_⟩
    rintro space title markup parent rfl
    exact hc
  · have hfirst := hnamed i d o hd ho
    rw [hspace, htitle] at hfirst
    exact hend.distinct _ _ _ _ hfirst (hnamed j d' o' hd' ho')

/-! ### Two documents with one title -/

/-- A page without attachments that is looked up by its title. -/
def RenderedPage.titled (title markup : String) : RenderedPage :=
  ⟨title, .empty, markup, .empty⟩

/-- Four documents. The first one is tried twice, and the last one has the same
title. -/
def guides : List Submission :=
  [⟨.docs, "guide.md", .titled "Guide" "<p>Body</p>"⟩,
    ⟨.docs, "guide.md", .titled "Guide" "<p>Body</p>"⟩,
    ⟨.docs, "old.md", .titled "Old" "<p>New</p>"⟩,
    ⟨.docs, "other.md", .titled "Guide" "<p>Other</p>"⟩]

/-- A store with one page, which is down when the first document is to be
created. -/
def guidesStore : FaultyStore :=
  ⟨(MemoryStore.empty.answer (.createPage "DOCS" "Old" "<p>Draft</p>" none)).2,
    [none, some (.refused 503 "down")]⟩

/-- The document that failed is created by the second attempt, and the last one
updates its page. -/
theorem one_page_guides :
    let r := (syncInTurn guides).run FaultyStore.machine guidesStore
    (∀ d ∈ guides, d.ByName) ∧ guidesStore.store.Distinct ∧ guidesStore.store.Fresh ∧
      r.state.store.Distinct ∧
      ∃ first last : SyncOutcome,
        r.value[0]? = some (.error (.refused 503 "down")) ∧ r.value[1]? = some (.ok first) ∧
          r.value[3]? = some (.ok last) ∧ first.action = .created ∧ last.action = .updated ∧
          first.pageId = last.pageId := by
  intro r
  have hds : ∀ d ∈ guides, d.ByName := by
    unfold Submission.ByName
    decide
  have hs : guidesStore.store.WellNamed :=
    MemoryStore.wellNamed_empty.answer ((MemoryStore.findPage_eq_none_iff _ _ _).1 rfl)
  have hvalue : r.value = [.error (.refused 503 "down"),
      .ok ⟨"guide.md", "Guide", "1002", "https://mock.atlassian.net/wiki/spaces/DOCS/pages/1002",
        .created⟩,
      .ok ⟨"old.md", "Old", "1001", "https://mock.atlassian.net/wiki/spaces/DOCS/pages/1001",
        .updated⟩,
      .ok ⟨"other.md", "Guide", "1002", "https://mock.atlassian.net/wiki/spaces/DOCS/pages/1002",
        .updated⟩] := by
    decide +kernel
  rcases one_page hds guidesStore hs.keyed hs.distinct hs.fresh with
    ⟨-, hdistinct, -, hsame⟩
  have hfirst : r.value[1]? = some (.ok ⟨"guide.md", "Guide", "1002",
      "https://mock.atlassian.net/wiki/spaces/DOCS/pages/1002", .created⟩) := by rw [hvalue]; rfl
  have hlast : r.value[3]? = some (.ok ⟨"other.md", "Guide", "1002",
      "https://mock.atlassian.net/wiki/spaces/DOCS/pages/1002", .updated⟩) := by rw [hvalue]; rfl
  refine ⟨hds, hs.distinct, hs.fresh, hdistinct, _, _, ?_, hfirst, hlast, rfl, rfl,
    hsame 1 3 _ _ _ _ rfl rfl hfirst hlast rfl rfl⟩
  rw [hvalue]
  rfl

end WikiSync
