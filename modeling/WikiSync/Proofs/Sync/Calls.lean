import WikiSync.Proofs.Store.Call
import WikiSync.Proofs.Store.Faulty
import WikiSync.Sync.Reconcile

/-!
# The Calls of a Reconcile

Which calls bring a page up to date, on any store. The store is an arbitrary
machine: it may answer anything to any call, fail any call, and change as it
likes. So the calls cannot be listed in advance. What can be said in advance
is how each call follows from the answers before it, and `sequence` says it:
it reads the page that was found, the page that was written and the list of
attachments off the exchanges of the run, and names the calls that they ask
for. `reconcile_calls` says that the calls of a run are that sequence, cut off
behind the first call that fails.

The cut is needed. A store that refuses the first of two attachments is not
asked about the second, and `not_every_attachment_called` shows it.

## Main definitions

* `Exchange.found?`, `Exchange.written?`, `Exchange.listed?`: What an exchange
  says about pages and attachments.
* `SyncTarget.lookup`, `SyncTarget.mutation`, `SyncTarget.attachmentCall`: The
  calls.
* `SyncTarget.sequence`: All calls that the answers of a run ask for.

## Theorems

* `SyncTarget.attachmentId?_eq`: The last attachment with a title counts.
* `SyncTarget.plan_eq_skipped_iff`: A page that is current is left alone.
* `SyncTarget.upToFailure_syncAttachments`: The calls about attachments.
* `SyncTarget.upToFailure_carryOut`: The calls after the lookup.
* `SyncTarget.reconcile_calls`: The calls of a reconcile.
* `SyncTarget.not_every_attachment_called`: A failed call ends them.
-/

namespace WikiSync

namespace Exchange

/-- The page that a lookup found. -/
def found? : Exchange Store → Option Page
  | ⟨.getPage _, .ok p⟩ => some p
  | ⟨.findPage _ _, .ok found⟩ => found
  | _ => none

/-- The page that a page mutation returned. -/
def written? : Exchange Store → Option Page
  | ⟨.createPage _ _ _ _, .ok p⟩ => some p
  | ⟨.updatePage _ _ _ _, .ok p⟩ => some p
  | _ => none

/-- The attachments that a listing returned. -/
def listed? : Exchange Store → Option (List StoredAttachment)
  | ⟨.listAttachments _, .ok known⟩ => some known
  | _ => none

end Exchange

/-- Whether the page that was found has the markup of a document, by digest. -/
def RenderedPage.isCurrent (page : RenderedPage) (found : Option Page) : Bool :=
  found.any fun p => contentHash p.markup == contentHash page.markup

namespace SyncTarget

variable {σ : Type} (m : Machine Store σ) (t : SyncTarget) (page : RenderedPage)

/-! ### The calls -/

/-- The call that looks for the page of a document. -/
def lookup : StoreCall :=
  match page.frontMatter.pageId with
  | some pageId => .getPage pageId
  | none => .findPage t.space page.title

/-- The call that writes the page of a document. -/
def mutation : Option Page → StoreCall
  | some p => .updatePage p.id page.title page.markup p.version.number
  | none => .createPage t.space page.title page.markup t.parent

/-- The call that writes an attachment. -/
def attachmentCall (pageId : String) (known : List StoredAttachment) :
    String × Attachment → StoreCall
  | (filename, a) =>
    match (known.filter fun stored => stored.title == filename).getLast? with
    | some stored => .replace pageId stored.id a
    | none => .upload pageId a

/-- The calls about the attachments of a page that was written, read off the
exchanges from the listing on. -/
def attachmentCalls (remote : Page) (es : List (Exchange Store)) : List StoreCall :=
  if page.attachments.isEmpty then []
  else
    let known := (es.head?.bind Exchange.listed?).getD []
    .listAttachments remote.id :: page.attachments.entries.map (attachmentCall remote.id known)

/-- The calls after the lookup, read off the exchanges after it. -/
def changeCalls (found : Option Page) (es : List (Exchange Store)) : List StoreCall :=
  if page.isCurrent found then []
  else t.mutation page found ::
    match es.head?.bind Exchange.written? with
    | some remote => attachmentCalls page remote es.tail
    | none => []

/-- All calls that the answers of a run ask for. -/
def sequence (es : List (Exchange Store)) : List StoreCall :=
  t.lookup page :: t.changeCalls page (es.head?.bind Exchange.found?) es.tail

/-! ### The decisions -/

/-- The identity that is looked up is that of the last attachment with the
title. -/
theorem attachmentId?_eq (known : List StoredAttachment) (title : String) :
    attachmentId? known title =
      ((known.filter fun a => a.title == title).getLast?).map (·.id) := by
  rw [attachmentId?, List.getLast?_filter]

theorem plan_eq_skipped_iff (found : Option Page) (markup : String) :
    plan found markup = .skipped ↔
      found.any (fun p => contentHash p.markup == contentHash markup) = true := by
  rcases found with _ | p
  · simp only [plan, Option.any_none, reduceCtorEq]
  · by_cases h : contentHash p.markup = contentHash markup
    · simp only [plan, h, if_true, Option.any_some, beq_self_eq_true]
    · simp only [plan, h, if_false, reduceCtorEq, Option.any_some, beq_iff_eq]

/-! ### The calls of a run -/

/-- The calls that put attachments follow the list that is known, whatever the
store answers to them. -/
theorem upToFailure_putAttachments (pageId : String) (known : List StoredAttachment)
    (entries : List (String × Attachment)) (s : σ) :
    UpToFailure (entries.map (attachmentCall pageId known))
      ((putAttachments pageId known entries).run.exchanges m s) := by
  induction entries generalizing s with
  | nil => exact UpToFailure.nil
  | cons entry rest ih =>
    rcases entry with ⟨filename, a⟩
    rw [List.map_cons, putAttachments, attachmentId?_eq]
    unfold attachmentCall
    -- The call depends on the list alone; the rest runs on whatever comes back.
    rcases hlast : (known.filter fun stored => stored.title == filename).getLast? with _ | stored
    · simp only [hlast, Option.map_none]
      refine StoreScript.upToFailure_ask m _ _ _ s fun r _ => ?_
      rw [StoreScript.exchanges_info_bind]
      exact ih _
    · simp only [hlast, Option.map_some]
      refine StoreScript.upToFailure_ask m _ _ _ s fun r _ => ?_
      rw [StoreScript.exchanges_info_bind]
      exact ih _

/-- The calls about attachments: one listing, then one call for each. -/
theorem upToFailure_syncAttachments (remote : Page) (s : σ) :
    UpToFailure
      (attachmentCalls page remote
        ((syncAttachments remote.id page.attachments).run.exchanges m s))
      ((syncAttachments remote.id page.attachments).run.exchanges m s) := by
  unfold syncAttachments attachmentCalls
  by_cases hempty : page.attachments.isEmpty
  · rw [if_pos hempty, if_pos hempty]
    exact UpToFailure.nil
  · rw [if_neg hempty, if_neg hempty]
    refine StoreScript.upToFailure_ask m _ _ _ s fun known hknown => ?_
    rw [StoreScript.exchanges_ask_bind, hknown]
    exact upToFailure_putAttachments m remote.id known _ _

/-- After a page is written, only its attachments are left to ask about. -/
theorem exchanges_after_write (message : String) (remote : Page) (o : SyncOutcome) (s : σ) :
    (do
      StoreScript.info message
      syncAttachments remote.id page.attachments
      pure o : StoreScript SyncOutcome).run.exchanges m s =
      (syncAttachments remote.id page.attachments).run.exchanges m s := by
  rw [StoreScript.exchanges_info_bind, StoreScript.exchanges_bind_pure]

/-- The attachments decide whether it succeeds. -/
theorem run_after_write (message : String) (remote : Page) (o : SyncOutcome) (s : σ) :
    ((do
      StoreScript.info message
      syncAttachments remote.id page.attachments
      pure o : StoreScript SyncOutcome).run.run m s).state =
        ((syncAttachments remote.id page.attachments).run.run m s).state ∧
      ((do
        StoreScript.info message
        syncAttachments remote.id page.attachments
        pure o : StoreScript SyncOutcome).run.run m s).value =
        ((syncAttachments remote.id page.attachments).run.run m s).value.map fun _ => o := by
  rw [StoreScript.run_info_bind]
  exact StoreScript.run_bind_pure m _ (fun _ => o) s

/-- The calls after the lookup: none for a page that is current, else a page
mutation and the calls about attachments. -/
theorem upToFailure_carryOut (file : String) (found : Option Page) (s : σ) :
    UpToFailure (t.changeCalls page found ((t.carryOut file page found).run.exchanges m s))
      ((t.carryOut file page found).run.exchanges m s) := by
  unfold carryOut changeCalls
  rcases found with _ | remote
  · -- Nothing was found: the page is created.
    have hcurrent : ¬ page.isCurrent none := by
      simp only [RenderedPage.isCurrent, Option.any_none, Bool.false_eq_true, not_false_eq_true]
    rw [if_neg hcurrent]
    simp only [mutation]
    refine StoreScript.upToFailure_ask m _ _ _ s fun created hcreated => ?_
    rw [StoreScript.exchanges_ask_bind, hcreated]
    simp only [exchanges_after_write]
    exact upToFailure_syncAttachments m page created _
  · by_cases hcurrent : page.isCurrent (some remote)
    · have hplan := (plan_eq_skipped_iff (some remote) page.markup).2 hcurrent
      rw [if_pos hcurrent]
      simp only [hplan, if_true, StoreScript.exchanges_info_bind, StoreScript.exchanges_pure]
      exact UpToFailure.nil
    · have hplan : plan (some remote) page.markup ≠ .skipped :=
        fun h => hcurrent ((plan_eq_skipped_iff (some remote) page.markup).1 h)
      rw [if_neg hcurrent]
      simp only [mutation, hplan, if_false]
      refine StoreScript.upToFailure_ask m _ _ _ s fun updated hupdated => ?_
      rw [StoreScript.exchanges_ask_bind, hupdated]
      simp only [exchanges_after_write]
      exact upToFailure_syncAttachments m page updated _

/-- Looking for a page is one call. -/
theorem exchanges_findExisting (s : σ) :
    (t.findExisting page).run.exchanges m s =
      [⟨t.lookup page, (m.answer (t.lookup page) s).1⟩] := by
  unfold findExisting lookup
  rcases page.frontMatter.pageId with _ | pageId
  · rfl
  · exact StoreScript.exchanges_bind_pure m _ _ s

/-- Looking for a page changes the machine as its call does, and hands on the
page that its exchange found. -/
theorem run_findExisting (s : σ) :
    ((t.findExisting page).run.run m s).state = (m.answer (t.lookup page) s).2 ∧
      ((t.findExisting page).run.run m s).value =
        (m.answer (t.lookup page) s).1.map
          fun r => Exchange.found? ⟨t.lookup page, .ok r⟩ := by
  unfold findExisting lookup
  rcases page.frontMatter.pageId with _ | pageId
  · refine ⟨rfl, ?_⟩
    change (m.answer (.findPage t.space page.title) s).1 = _
    rcases (m.answer (.findPage t.space page.title) s).1 with e | found
    · rfl
    · rfl
  · have hrun := StoreScript.run_ask_bind m (.getPage pageId) (fun p => pure (some p)) s
    simp only [hrun]
    rcases (m.answer (.getPage pageId) s).1 with e | p
    · exact ⟨rfl, rfl⟩
    · exact ⟨rfl, rfl⟩

/-- The calls of a reconcile, on any store: the lookup; nothing more if the
page that was found is current, else one page mutation; then, if there are
attachments, one listing and one call for each in the order of their names,
which replaces the last attachment listed under the name or else uploads. A
call that fails ends them, and nothing else does. -/
theorem reconcile_calls (ht : t.dryRun = false) (file : String) (s : σ) :
    let es := (t.reconcile file page).run.exchanges m s
    ((t.reconcile file page).run.run m s).asked = es.map (·.question) ∧
      UpToFailure (t.sequence page es) es ∧
      ((∀ x ∈ es, x.failed = false) →
        ((t.reconcile file page).run.run m s).asked = t.sequence page es) := by
  have hcalls : UpToFailure (t.sequence page ((t.reconcile file page).run.exchanges m s))
      ((t.reconcile file page).run.exchanges m s) := by
    unfold reconcile sequence
    simp only [ht, Bool.false_eq_true, if_false]
    rcases run_findExisting m t page s with ⟨hstate, hvalue⟩
    -- The lookup is one exchange, and its page decides about the others.
    rw [Script.exchanges_bindExcept, exchanges_findExisting, hstate, hvalue]
    rcases m.answer (t.lookup page) s with ⟨answer, s'⟩
    rcases answer with e | r
    · exact UpToFailure.stop _ e _
    · exact UpToFailure.go _ r _ _ (upToFailure_carryOut m t page file _ s')
  have hasked := Script.asked_eq_exchanges m (t.reconcile file page).run s
  refine ⟨hasked, hcalls, fun hok => ?_⟩
  rw [hasked]
  exact hcalls.map_question hok

/-! ### A page with two attachments -/

/-- A space to sync to. -/
def docs : SyncTarget :=
  ⟨"DOCS", none, false, MemoryStore.pageUrl⟩

/-- A page with two attachments. -/
def twoFigures : RenderedPage :=
  ⟨"Guide", ⟨none, none, []⟩, "<p>Body</p>",
    .ofList [("a.png", ⟨"a.png", [1], "image/png"⟩), ("b.png", ⟨"b.png", [2], "image/png"⟩)]⟩

/-- On an empty store where nothing fails, all five calls are made. -/
theorem reconcile_calls_twoFigures :
    docs.dryRun = false ∧
      ((docs.reconcile "guide.md" twoFigures).run.run FaultyStore.machine ⟨.empty, []⟩).asked =
        [.findPage "DOCS" "Guide", .createPage "DOCS" "Guide" "<p>Body</p>" none,
          .listAttachments "1001", .upload "1001" ⟨"a.png", [1], "image/png"⟩,
          .upload "1001" ⟨"b.png", [2], "image/png"⟩] := by
  refine ⟨rfl, ?_⟩
  have hcalls := reconcile_calls FaultyStore.machine docs twoFigures rfl "guide.md" ⟨.empty, []⟩
  -- Which calls the answers ask for does not need the digests.
  rw [hcalls.2.2 (by decide)]
  decide

/-- An empty store where the fourth call fails, which is the first upload. -/
def firstUploadFails : FaultyStore :=
  ⟨.empty, [none, none, none, some (.refused 500 "down")]⟩

/-- It is not so that every call that the answers ask for is made: after a
failed upload the next attachment is not tried. -/
theorem not_every_attachment_called :
    ¬ ∀ (τ : Type) (n : Machine Store τ) (u : SyncTarget) (document : RenderedPage)
      (file : String) (s : τ), u.dryRun = false →
        ((u.reconcile file document).run.run n s).asked =
          u.sequence document ((u.reconcile file document).run.exchanges n s) := by
  intro h
  have hcalls := h FaultyStore FaultyStore.machine docs twoFigures "guide.md" firstUploadFails rfl
  -- Four calls are made, and the answers ask for five.
  have hmade : ((docs.reconcile "guide.md" twoFigures).run.run FaultyStore.machine
      firstUploadFails).asked.length = 4 := by decide
  have hmeant : (docs.sequence twoFigures ((docs.reconcile "guide.md" twoFigures).run.exchanges
      FaultyStore.machine firstUploadFails)).length = 5 := by decide
  rw [hcalls, hmeant] at hmade
  omega

end SyncTarget

end WikiSync
