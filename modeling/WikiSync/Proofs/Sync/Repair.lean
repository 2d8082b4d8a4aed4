import WikiSync.Proofs.Page.Render
import WikiSync.Proofs.Store.Memory
import WikiSync.Proofs.Sync.Calls

/-!
# Syncing Again after a Failure

What becomes of the attachments of a page when a document is synced again and
again to one store, and any call may fail. The store starts without the page.
As long as no attempt gets as far as creating it, the store does not change.
The first attempt that creates it uploads attachments up to the first call
that fails. From then on the page has the markup of the document, so every
later attempt finds it current and changes nothing.

So an attempt that succeeds says that all attachments are there exactly if no
attempt before it created the page and then failed. `successful_iff` says so,
and `failed_upload_not_repaired` is a run of two attempts in which the second
succeeds and an attachment is missing.

## Main definitions

* `SyncTarget.pageOf`: The page of a document in a store.
* `SyncTarget.attempt`, `SyncTarget.afterAttempts`: Syncing a document, once
  and several times.
* `SyncTarget.Interrupted`: An attempt creates the page and then fails.
* `GotThrough`: What comes of a list of uploads.

## Theorems

* `SyncTarget.attempt_missing`: An attempt on a store without the page.
* `SyncTarget.attempt_current`: An attempt on a store with the page.
* `SyncTarget.afterAttempts_cases`: The store after any number of attempts.
* `SyncTarget.successful_iff`: The attachments after a success.
* `SyncTarget.failed_upload_not_repaired`: A failure that is not repaired.
-/

namespace WikiSync

namespace SyncTarget

variable (t : SyncTarget) (file : String) (page : RenderedPage)

/-! ### Attempts -/

/-- The page of a document in a store. -/
def pageOf (s : MemoryStore) : Option Page :=
  match page.frontMatter.pageId with
  | some pageId => s.pages.get? pageId
  | none => s.findPage t.space page.title

/-- Syncing a document to a store with faults. -/
def attempt (s : FaultyStore) : Run Store FaultyStore (Except StoreError SyncOutcome) :=
  (t.reconcile file page).run.run FaultyStore.machine s

/-- The store after a number of attempts. -/
def afterAttempts (s : FaultyStore) : Nat → FaultyStore
  | 0 => s
  | n + 1 => (attempt t file page (afterAttempts s n)).state

/-- An attempt creates the page of a document and then fails. -/
def Interrupted (s : FaultyStore) : Prop :=
  t.pageOf page s.store = none ∧
    t.pageOf page (t.attempt file page s).state.store ≠ none ∧
    ∃ e, (t.attempt file page s).value = .error e

/-- The page that a store creates for a document, and the store with it. -/
def create (s : MemoryStore) : Page × MemoryStore :=
  s.createPage t.space page.title page.markup t.parent

/-- The store that has the page of a document and the first of its
attachments. -/
def createWith (s : MemoryStore) (k : Nat) : MemoryStore :=
  (t.create page s).2.uploadAll (t.create page s).1.id (page.attachments.entries.take k)

/-- A page that was created is found, with whatever attachments. -/
theorem pageOf_createWith (hid : page.frontMatter.pageId = none) (s : MemoryStore)
    (hmissing : t.pageOf page s = none) (k : Nat) :
    t.pageOf page (t.createWith page s k) = some (t.create page s).1 := by
  unfold pageOf at hmissing ⊢
  simp only [hid] at hmissing ⊢
  rw [createWith, MemoryStore.findPage_uploadAll]
  exact MemoryStore.findPage_createPage s t.space page.title page.markup t.parent hmissing

/-! ### The parts of an attempt -/

/-- What comes of a list of uploads: the value if all of them were made, or an
error behind the first few. -/
def GotThrough {α : Type} (outcome : Except StoreError α) (value : α) (k length : Nat) : Prop :=
  outcome = .ok value ∧ k = length ∨ (∃ e, outcome = .error e) ∧ k < length

theorem GotThrough.succ {α : Type} {outcome : Except StoreError α} {value : α} {k length : Nat}
    (h : GotThrough outcome value k length) : GotThrough outcome value (k + 1) (length + 1) := by
  rcases h with ⟨hvalue, hall⟩ | ⟨herror, hlt⟩
  · exact Or.inl ⟨hvalue, congrArg (· + 1) hall⟩
  · exact Or.inr ⟨herror, Nat.succ_lt_succ hlt⟩

/-- Another value in place of the first does not change when there is one. -/
theorem GotThrough.map {α β : Type} {outcome : Except StoreError α} {value : α} {k length : Nat}
    (h : GotThrough outcome value k length) (f : α → β) :
    GotThrough (outcome.map f) (f value) k length := by
  rcases h with ⟨rfl, hall⟩ | ⟨⟨e, rfl⟩, hlt⟩
  · exact Or.inl ⟨rfl, hall⟩
  · exact Or.inr ⟨⟨e, rfl⟩, hlt⟩

/-- The lookup leaves the store alone. It fails or finds the page of the
document; a lookup by id fails if there is none. -/
theorem findExisting_faulty (s : FaultyStore) :
    ((t.findExisting page).run.run FaultyStore.machine s).state.store = s.store ∧
      ((∃ e, ((t.findExisting page).run.run FaultyStore.machine s).value = .error e) ∨
        (((t.findExisting page).run.run FaultyStore.machine s).value =
            .ok (t.pageOf page s.store) ∧
          (t.pageOf page s.store = none → page.frontMatter.pageId = none))) := by
  rcases run_findExisting FaultyStore.machine t page s with ⟨hstate, hvalue⟩
  rw [hstate, hvalue]
  rcases FaultyStore.answer_cases s (t.lookup page) with ⟨e, hanswer⟩ | hanswer
  · rw [hanswer]
    exact ⟨rfl, Or.inl ⟨e, rfl⟩⟩
  · rw [hanswer]
    unfold lookup pageOf
    rcases page.frontMatter.pageId with _ | pageId
    · exact ⟨rfl, Or.inr ⟨rfl, fun _ => rfl⟩⟩
    · -- By id, a page that is missing or cannot be read is an error.
      refine ⟨rfl, ?_⟩
      simp only [MemoryStore.answer, MemoryStore.getPage]
      rcases s.store.unreadable.get? pageId with _ | status
      · rcases s.store.pages.get? pageId with _ | p
        · exact Or.inl ⟨_, rfl⟩
        · exact Or.inr ⟨rfl, fun h => nomatch h⟩
      · exact Or.inl ⟨_, rfl⟩

/-- To a page without attachments they are uploaded in order, up to the first
that fails. -/
theorem putAttachments_faulty (pageId : String) (entries : List (String × Attachment))
    (s : FaultyStore) :
    ∃ k ≤ entries.length,
      ((putAttachments pageId [] entries).run.run FaultyStore.machine s).state.store =
          s.store.uploadAll pageId (entries.take k) ∧
        GotThrough ((putAttachments pageId [] entries).run.run FaultyStore.machine s).value ()
          k entries.length := by
  induction entries generalizing s with
  | nil => exact ⟨0, Nat.le_refl 0, rfl, Or.inl ⟨rfl, rfl⟩⟩
  | cons entry rest ih =>
    rcases entry with ⟨filename, a⟩
    have hunknown : attachmentId? [] filename = none := rfl
    have hrun := StoreScript.run_ask_bind FaultyStore.machine (.upload pageId a)
      (fun _ => do
        StoreScript.info ("  Uploaded attachment: " ++ filename)
        putAttachments pageId [] rest) s
    rw [putAttachments, hunknown]
    simp only [hrun]
    rcases FaultyStore.answer_cases s (.upload pageId a) with ⟨e, hanswer⟩ | hanswer
    · -- The call failed and did not reach the store.
      rw [hanswer]
      exact ⟨0, Nat.zero_le _, rfl, Or.inr ⟨⟨e, rfl⟩, Nat.succ_pos _⟩⟩
    · -- The rest is put into the store with this attachment.
      rw [hanswer]
      rcases ih ⟨(s.store.upload pageId a).2, s.faults.tail⟩ with ⟨k, hk, hstore, hvalue⟩
      exact ⟨k + 1, Nat.succ_le_succ hk, hstore, hvalue.succ⟩

/-- The same with the listing that comes first. -/
theorem syncAttachments_faulty (pageId : String) (s : FaultyStore)
    (hfree : s.store.attachmentsOf pageId = []) :
    ∃ k ≤ page.attachments.entries.length,
      ((syncAttachments pageId page.attachments).run.run FaultyStore.machine s).state.store =
          s.store.uploadAll pageId (page.attachments.entries.take k) ∧
        GotThrough ((syncAttachments pageId page.attachments).run.run FaultyStore.machine s).value
          () k page.attachments.entries.length := by
  unfold syncAttachments
  by_cases hempty : page.attachments.isEmpty
  · have hnone : page.attachments.entries = [] := List.isEmpty_iff.1 hempty
    rw [if_pos hempty, hnone]
    exact ⟨0, Nat.le_refl 0, rfl, Or.inl ⟨rfl, rfl⟩⟩
  · have hsome : 0 < page.attachments.entries.length :=
      List.length_pos_iff.2 fun hnone => hempty (List.isEmpty_iff.2 hnone)
    have hrun := StoreScript.run_ask_bind FaultyStore.machine (.listAttachments pageId)
      (fun known => putAttachments pageId known page.attachments.entries) s
    rw [if_neg hempty]
    simp only [hrun]
    rcases FaultyStore.answer_cases s (.listAttachments pageId) with ⟨e, hanswer⟩ | hanswer
    · rw [hanswer]
      exact ⟨0, Nat.zero_le _, rfl, Or.inr ⟨⟨e, rfl⟩, hsome⟩⟩
    · rw [hanswer]
      -- Nothing is listed, so every attachment is uploaded.
      simp only [MemoryStore.answer, hfree]
      exact putAttachments_faulty pageId page.attachments.entries ⟨s.store, s.faults.tail⟩

/-- Creating a page: the store refuses it and stays as it is, or has it with
the attachments up to the first that fails. -/
theorem carryOut_missing (s : FaultyStore)
    (hfree : s.store.attachmentsOf (s.store.nextId "") = []) :
    ((∃ e, ((t.carryOut file page none).run.run FaultyStore.machine s).value = .error e) ∧
        ((t.carryOut file page none).run.run FaultyStore.machine s).state.store = s.store) ∨
      ∃ k ≤ page.attachments.entries.length,
        ((t.carryOut file page none).run.run FaultyStore.machine s).state.store =
            t.createWith page s.store k ∧
          GotThrough ((t.carryOut file page none).run.run FaultyStore.machine s).value
            (t.outcome file page (t.create page s.store).1 .created) k
            page.attachments.entries.length := by
  have hrun := StoreScript.run_ask_bind FaultyStore.machine
    (.createPage t.space page.title page.markup t.parent)
    (fun created => do
      StoreScript.info ("Created: " ++ page.title)
      syncAttachments created.id page.attachments
      pure (t.outcome file page created .created)) s
  unfold carryOut
  simp only [plan, hrun]
  rcases FaultyStore.answer_cases s (.createPage t.space page.title page.markup t.parent) with
    ⟨e, hanswer⟩ | hanswer
  · rw [hanswer]
    exact Or.inl ⟨⟨e, rfl⟩, rfl⟩
  · rw [hanswer]
    refine Or.inr ?_
    rcases syncAttachments_faulty page (t.create page s.store).1.id
        ⟨(t.create page s.store).2, s.faults.tail⟩ hfree with ⟨k, hk, hstore, hvalue⟩
    rcases run_after_write FaultyStore.machine page ("Created: " ++ page.title)
        (t.create page s.store).1 (t.outcome file page (t.create page s.store).1 .created)
        ⟨(t.create page s.store).2, s.faults.tail⟩ with ⟨hwritten, hresult⟩
    refine ⟨k, hk, hwritten ▸ hstore, ?_⟩
    have hmapped := hvalue.map fun _ => t.outcome file page (t.create page s.store).1 .created
    rw [← hresult] at hmapped
    exact hmapped

/-! ### One attempt -/

/-- An attempt that starts with a failed lookup fails, and otherwise goes on
with the page that the store has. -/
theorem attempt_cases (ht : t.dryRun = false) (s : FaultyStore) :
    ((∃ e, (t.attempt file page s).value = .error e) ∧
        (t.attempt file page s).state.store = s.store) ∨
      ((t.pageOf page s.store = none → page.frontMatter.pageId = none) ∧
        ∃ s' : FaultyStore, s'.store = s.store ∧
          (t.attempt file page s).value =
            ((t.carryOut file page (t.pageOf page s.store)).run.run FaultyStore.machine s').value ∧
          (t.attempt file page s).state =
            ((t.carryOut file page (t.pageOf page s.store)).run.run FaultyStore.machine
              s').state) := by
  rcases findExisting_faulty t page s with ⟨hstore, ⟨e, hvalue⟩ | ⟨hvalue, hid⟩⟩
  · have hrun : t.attempt file page s = ((t.findExisting page).run.run FaultyStore.machine s).follow
        ⟨.error e, ((t.findExisting page).run.run FaultyStore.machine s).state, [], []⟩ := by
      unfold attempt reconcile
      rw [Script.run_bindExcept]
      simp only [hvalue]
    rw [hrun]
    exact Or.inl ⟨⟨e, rfl⟩, hstore⟩
  · have hrun : t.attempt file page s = ((t.findExisting page).run.run FaultyStore.machine s).follow
        ((t.carryOut file page (t.pageOf page s.store)).run.run FaultyStore.machine
          ((t.findExisting page).run.run FaultyStore.machine s).state) := by
      unfold attempt reconcile
      rw [Script.run_bindExcept]
      simp only [hvalue, ht, Bool.false_eq_true, if_false]
    rw [hrun]
    exact Or.inr ⟨hid, _, hstore, rfl, rfl⟩

/-- An attempt on a store without the page fails and changes nothing, or
creates the page with its attachments up to the first that fails. -/
theorem attempt_missing (ht : t.dryRun = false) (s : FaultyStore)
    (hmissing : t.pageOf page s.store = none)
    (hfree : s.store.attachmentsOf (s.store.nextId "") = []) :
    ((∃ e, (t.attempt file page s).value = .error e) ∧
        (t.attempt file page s).state.store = s.store) ∨
      (page.frontMatter.pageId = none ∧ ∃ k ≤ page.attachments.entries.length,
        (t.attempt file page s).state.store = t.createWith page s.store k ∧
          GotThrough (t.attempt file page s).value
            (t.outcome file page (t.create page s.store).1 .created) k
            page.attachments.entries.length) := by
  rcases attempt_cases t file page ht s with hfailed | ⟨hid, s', hsame, hvalue, hstate⟩
  · exact Or.inl hfailed
  · rw [hmissing] at hvalue hstate
    -- The lookup left the store alone, so what holds of it still holds.
    have hfree' : s'.store.attachmentsOf (s'.store.nextId "") = [] := hsame.symm ▸ hfree
    rw [hvalue, hstate]
    rcases carryOut_missing t file page s' hfree' with ⟨hfailed, hstore⟩ | ⟨k, hk, hstore, hresult⟩
    · exact Or.inl ⟨hfailed, hstore.trans hsame⟩
    · rw [hsame] at hstore hresult
      exact Or.inr ⟨hid hmissing, k, hk, hstore, hresult⟩

/-- An attempt on a store with the page, in the markup of the document,
changes nothing; it fails or skips the page. -/
theorem attempt_current (ht : t.dryRun = false) (s : FaultyStore) (p : Page)
    (hpresent : t.pageOf page s.store = some p) (hmarkup : p.markup = page.markup) :
    (t.attempt file page s).state.store = s.store ∧
      ((∃ e, (t.attempt file page s).value = .error e) ∨
        (t.attempt file page s).value = .ok (t.outcome file page p .skipped)) := by
  rcases attempt_cases t file page ht s with ⟨hfailed, hstore⟩ | ⟨-, s', hsame, hvalue, hstate⟩
  · exact ⟨hstore, Or.inl hfailed⟩
  · have hplan : plan (some p) page.markup = .skipped := by
      simp only [plan, hmarkup, if_true]
    rw [hpresent] at hvalue hstate
    unfold carryOut at hvalue hstate
    simp only [hplan, if_true, StoreScript.run_info_bind, StoreScript.run_pure,
      Run.follow] at hvalue hstate
    rw [hvalue, hstate]
    exact ⟨hsame, Or.inr rfl⟩

/-! ### Many attempts -/

/-- The store after any number of attempts: untouched, or with the page and
the attachments up to the first that failed. All of them are there exactly if
no attempt was interrupted. -/
theorem afterAttempts_cases (ht : t.dryRun = false) (s : FaultyStore)
    (hmissing : t.pageOf page s.store = none)
    (hfree : s.store.attachmentsOf (s.store.nextId "") = []) (n : Nat) :
    ((t.afterAttempts file page s n).store = s.store ∧
        ∀ j < n, ¬ t.Interrupted file page (t.afterAttempts file page s j)) ∨
      (page.frontMatter.pageId = none ∧ ∃ k ≤ page.attachments.entries.length,
        (t.afterAttempts file page s n).store = t.createWith page s.store k ∧
          (k = page.attachments.entries.length ↔
            ∀ j < n, ¬ t.Interrupted file page (t.afterAttempts file page s j))) := by
  induction n with
  | zero => exact Or.inl ⟨rfl, fun j hj => absurd hj (Nat.not_lt_zero j)⟩
  | succ n ih =>
    rcases ih with ⟨hstore, hnone⟩ | ⟨hid, k, hk, hstore, hall⟩
    · have hmissing' : t.pageOf page (t.afterAttempts file page s n).store = none :=
        hstore.symm ▸ hmissing
      rcases attempt_missing t file page ht (t.afterAttempts file page s n) hmissing'
          (hstore.symm ▸ hfree) with ⟨-, hsame⟩ | ⟨hid, k, hk, hstore', hresult⟩
      · -- The page is still missing, so this attempt was not interrupted.
        refine Or.inl ⟨hsame.trans hstore, fun j hj => ?_⟩
        rcases Nat.lt_succ_iff_lt_or_eq.1 hj with hlt | rfl
        · exact hnone j hlt
        · exact fun hint => hint.2.1 (hsame.symm ▸ hmissing')
      · rw [hstore] at hstore'
        refine Or.inr ⟨hid, k, hk, hstore', ?_⟩
        -- This attempt created the page. It was interrupted if it failed, and no
        -- attempt before it was.
        have hfound : t.pageOf page
            (t.attempt file page (t.afterAttempts file page s n)).state.store ≠ none := by
          rw [hstore', pageOf_createWith t page hid s.store hmissing k]
          exact Option.some_ne_none _
        constructor
        · intro hlen j hj
          rcases Nat.lt_succ_iff_lt_or_eq.1 hj with hlt | rfl
          · exact hnone j hlt
          · rintro ⟨-, -, e, herror⟩
            rcases hresult with ⟨hok, -⟩ | ⟨-, hlt⟩
            · rw [hok] at herror
              cases herror
            · omega
        · intro hnone'
          rcases hresult with ⟨-, hlen⟩ | ⟨herror, -⟩
          · exact hlen
          · exact absurd ⟨hmissing', hfound, herror⟩ (hnone' n (Nat.lt_succ_self n))
    · -- The page is there and stays as it is.
      have hfound := pageOf_createWith t page hid s.store hmissing k
      rw [← hstore] at hfound
      rcases attempt_current t file page ht _ _ hfound rfl with ⟨hsame, -⟩
      refine Or.inr ⟨hid, k, hk, hsame.trans hstore, hall.trans ⟨fun h j hj => ?_, fun h j hj =>
        h j (Nat.lt_succ_of_lt hj)⟩⟩
      rcases Nat.lt_succ_iff_lt_or_eq.1 hj with hlt | rfl
      · exact h j hlt
      · rintro ⟨habsent, -⟩
        rw [hfound] at habsent
        cases habsent

/-- A document is synced over and over to a store that starts without its page
and may fail any call. An attempt that succeeds created the page, or skipped it
and changed nothing. After it, all attachments are on the page with their
content if no attempt before it was interrupted, and only then. -/
theorem successful_iff (ht : t.dryRun = false) (s : FaultyStore)
    (hmissing : t.pageOf page s.store = none)
    (hfree : s.store.attachmentsOf (s.store.nextId "") = []) (n : Nat) (o : SyncOutcome)
    (hok : (t.attempt file page (t.afterAttempts file page s n)).value = .ok o) :
    let before := (t.afterAttempts file page s n).store
    let after := (t.afterAttempts file page s (n + 1)).store
    (o.action = .created ∨ o.action = .skipped ∧ after = before) ∧
      ((∀ j < n, ¬ t.Interrupted file page (t.afterAttempts file page s j)) →
        ∀ e ∈ page.attachments.entries, after.Holds o.pageId e.2) ∧
      (ByFilename page.attachments → (∀ e ∈ page.attachments.entries, after.Holds o.pageId e.2) →
        ∀ j < n, ¬ t.Interrupted file page (t.afterAttempts file page s j)) := by
  intro before after
  have hafter : after = (t.attempt file page (t.afterAttempts file page s n)).state.store := rfl
  rcases afterAttempts_cases t file page ht s hmissing hfree n with
    ⟨hstore, hnone⟩ | ⟨hid, k, hk, hstore, hall⟩
  · -- The store is as it was, so the success is that of the creation.
    rcases attempt_missing t file page ht (t.afterAttempts file page s n) (hstore.symm ▸ hmissing)
        (hstore.symm ▸ hfree) with ⟨⟨e, herror⟩, -⟩ | ⟨hid, k, hk, hstore', hresult⟩
    · rw [herror] at hok
      cases hok
    · rcases hresult with ⟨hvalue, hlen⟩ | ⟨⟨e, herror⟩, -⟩
      · rw [hvalue] at hok
        cases hok
        refine ⟨Or.inl rfl, fun _ e he => ?_, fun _ _ => hnone⟩
        rw [hafter, hstore', createWith, hlen, List.take_length]
        exact MemoryStore.holds_uploadAll _ _ _ e he
      · rw [herror] at hok
        cases hok
  · -- The page was created before, and this attempt skips it.
    have hfound := pageOf_createWith t page hid s.store hmissing k
    rw [← hstore] at hfound
    rcases attempt_current t file page ht _ _ hfound rfl with ⟨hsame, ⟨e, herror⟩ | hvalue⟩
    · rw [herror] at hok
      cases hok
    · rw [hvalue] at hok
      cases hok
      refine ⟨Or.inr ⟨rfl, hsame⟩, fun hnone e he => ?_, fun hnames hholds => hall.1 ?_⟩
      · rw [hafter, hsame, hstore, createWith, hall.2 hnone, List.take_length]
        exact MemoryStore.holds_uploadAll _ _ _ e he
      · rw [hafter, hsame, hstore] at hholds
        exact (MemoryStore.holds_uploadAll_iff (t.create page s.store).2
          (t.create page s.store).1.id _ hnames.nodup hfree k hk).1 hholds

/-- An empty store that is down when the page is first created. -/
def creationFails : FaultyStore :=
  ⟨.empty, [none, some (.refused 503 "down")]⟩

/-- A failure to create the page is repaired by the second attempt, with both
attachments. -/
theorem successful_iff_creationFails :
    docs.dryRun = false ∧ docs.pageOf twoFigures creationFails.store = none ∧
      creationFails.store.attachmentsOf (creationFails.store.nextId "") = [] ∧
      (docs.attempt "guide.md" twoFigures
          (docs.afterAttempts "guide.md" twoFigures creationFails 1)).value =
        .ok ⟨"guide.md", "Guide", "1001",
          "https://mock.atlassian.net/wiki/spaces/DOCS/pages/1001", .created⟩ ∧
      ∀ e ∈ twoFigures.attachments.entries,
        (docs.afterAttempts "guide.md" twoFigures creationFails 2).store.Holds "1001" e.2 := by
  have hok : (docs.attempt "guide.md" twoFigures
      (docs.afterAttempts "guide.md" twoFigures creationFails 1)).value =
        .ok ⟨"guide.md", "Guide", "1001",
          "https://mock.atlassian.net/wiki/spaces/DOCS/pages/1001", .created⟩ := by rfl
  have hnone : ∀ j < 1, ¬ docs.Interrupted "guide.md" twoFigures
      (docs.afterAttempts "guide.md" twoFigures creationFails j) := by
    intro j hj
    rw [Nat.lt_one_iff.1 hj]
    exact fun hint => hint.2.1 (by decide)
  exact ⟨rfl, by decide, by decide, hok,
    (successful_iff docs "guide.md" twoFigures rfl creationFails (by decide) (by decide) 1 _
      hok).2.1 hnone⟩

/-- It is not so that an attempt that succeeds has put every attachment on the
page. After an upload that failed, the next attempt finds the page current and
skips it. -/
theorem failed_upload_not_repaired :
    ¬ ∀ (u : SyncTarget) (name : String) (document : RenderedPage) (s : FaultyStore) (n : Nat)
      (o : SyncOutcome), u.dryRun = false → ByFilename document.attachments →
        u.pageOf document s.store = none → s.store.attachmentsOf (s.store.nextId "") = [] →
        (u.attempt name document (u.afterAttempts name document s n)).value = .ok o →
        ∀ e ∈ document.attachments.entries,
          (u.afterAttempts name document s (n + 1)).store.Holds o.pageId e.2 := by
  intro h
  -- The digests of the second attempt are equal, whatever they are.
  have hskip : (docs.attempt "guide.md" twoFigures
      (docs.afterAttempts "guide.md" twoFigures firstUploadFails 1)).value =
        .ok (docs.outcome "guide.md" twoFigures (docs.create twoFigures .empty).1 .skipped) := by
    have hfound : ((docs.findExisting twoFigures).run.run FaultyStore.machine
        (docs.afterAttempts "guide.md" twoFigures firstUploadFails 1)).value =
          .ok (some (docs.create twoFigures .empty).1) := by rfl
    have hmarkup : (docs.create twoFigures .empty).1.markup = twoFigures.markup := rfl
    have hplan : plan (some (docs.create twoFigures .empty).1) twoFigures.markup = .skipped := by
      simp only [plan, hmarkup, if_true]
    have hdry : docs.dryRun = false := rfl
    unfold attempt reconcile
    rw [Script.run_bindExcept]
    simp only [hfound, hdry, Bool.false_eq_true, if_false, carryOut, hplan, if_true]
    rfl
  have hnames : ByFilename twoFigures.attachments := by unfold ByFilename; decide
  -- If it were so, the page would have the attachment. Its list is empty.
  have hholds := h docs "guide.md" twoFigures firstUploadFails 1 _ rfl hnames (by decide)
    (by decide) hskip ("a.png", ⟨"a.png", [1], "image/png"⟩) (by decide)
  have hsame := (attempt_current docs "guide.md" twoFigures rfl
    (docs.afterAttempts "guide.md" twoFigures firstUploadFails 1) _ rfl rfl).1
  rcases hholds with ⟨stored, hstored, -, -⟩
  have hempty : (docs.afterAttempts "guide.md" twoFigures firstUploadFails
      1).store.attachmentsOf (docs.create twoFigures .empty).1.id = [] := by decide
  rw [afterAttempts, hsame, outcome, hempty] at hstored
  cases hstored

end SyncTarget

end WikiSync
