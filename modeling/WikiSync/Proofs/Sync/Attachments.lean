import WikiSync.Proofs.Page.Render
import WikiSync.Proofs.Store.Attachments
import WikiSync.Proofs.Sync.Stored

/-!
# What a Reconcile Does to Attachments

The attachments in a store in memory once a document was synced to it. The list of
attachments is read once, and what is to be done about each file name is decided by
that list, while the store changes underneath. That this comes out right has two
reasons. A page only ever gets attachments at the end of its list, so what was listed
is still there when its turn comes. And every attachment has an id of its own, so
what is written for one file name is not written over by another.

`MemoryStore.put` is one step of this on a store, and what is said about it is said
about all steps by induction on the attachments of the document. The statements about
one step and about all of them come in pairs: which attachments a page has, what they
hold, and which of them holds the content of a document.

A page can have several attachments with one title. The last of them counts, and the
others are left alone, like those with other titles.

## Main definitions

* `MemoryStore.put`, `MemoryStore.putAll`: Attachments put in their place.
* `AttachmentsSynced`: What becomes of the attachments of a page and of others.

## Theorems

* `MemoryStore.attachmentsOf_putAll`, `MemoryStore.data_putAll`: What a page has, and what
  stays as it was.
* `MemoryStore.held_putAll`: Every attachment is held, by an old one if there is one.
* `SyncTarget.run_putAttachments`: Attachments never fail, and are all put.
* `SyncTarget.state_of_written`: They are put once the page is written.
* `SyncTarget.attachmentsSynced_of_ok`: The attachments after a success.
-/

namespace WikiSync

open SyncTarget (attachmentId?)

/-- The id that is found for a title is that of an attachment with the title. -/
theorem SyncTarget.exists_of_attachmentId? {known : List StoredAttachment} {title id : String}
    (h : attachmentId? known title = some id) :
    ∃ stored ∈ known, stored.id = id ∧ stored.title = title := by
  rcases Option.map_eq_some_iff.1 h with ⟨stored, hstored, hid⟩
  have htitle := List.find?_some hstored
  exact ⟨stored, List.mem_reverse.1 (List.mem_of_find?_eq_some hstored), hid,
    beq_iff_eq.1 htitle⟩

theorem SyncTarget.attachmentId?_eq_none {known : List StoredAttachment} {title : String} :
    attachmentId? known title = none ↔ ∀ stored ∈ known, stored.title ≠ title := by
  rw [attachmentId?, Option.map_eq_none_iff, List.find?_eq_none]
  simp

namespace MemoryStore

/-! ### One attachment -/

/-- Puts an attachment in its place on a page: the id that is known for its file name
gets its content, or it is uploaded. -/
def put (s : MemoryStore) (pageId : String) (known : List StoredAttachment)
    (e : String × Attachment) : MemoryStore :=
  match attachmentId? known e.1 with
  | some id => { s with data := s.data.insert id e.2.data }
  | none => (s.upload pageId e.2).2

section Put

variable {s : MemoryStore} {pageId : String} {known : List StoredAttachment}
  {e : String × Attachment}

theorem attachmentsOf_put_of_ne {other : String} (h : other ≠ pageId) :
    (s.put pageId known e).attachmentsOf other = s.attachmentsOf other := by
  unfold put
  split
  · rfl
  · exact attachmentsOf_upload_of_ne s h e.2

/-- A page gets one attachment more, or none. -/
theorem attachmentsOf_put :
    (s.put pageId known e).attachmentsOf pageId = s.attachmentsOf pageId ++
      if attachmentId? known e.1 = none then [⟨s.nextId "att", e.2.filename, none⟩] else [] := by
  unfold put
  rcases attachmentId? known e.1 with _ | id
  · exact attachmentsOf_upload s pageId e.2
  · exact (List.append_nil _).symm

/-- What a page had stays listed. -/
theorem listed_put {as : List StoredAttachment} (h : ∀ a ∈ as, a ∈ s.attachmentsOf pageId) :
    ∀ a ∈ as, a ∈ (s.put pageId known e).attachmentsOf pageId := by
  intro a ha
  rw [attachmentsOf_put]
  exact List.mem_append_left _ (h a ha)

theorem issued_put : s.issued ≤ (s.put pageId known e).issued := by
  unfold put
  split
  · exact Nat.le_refl _
  · exact Nat.le_succ _

theorem OwnIds.put (h : s.OwnIds) : (s.put pageId known e).OwnIds := by
  unfold MemoryStore.put
  split
  · exact h.of_attachments rfl (Nat.le_refl _)
  · exact h.upload pageId e.2

/-- Nothing is written under an id that is neither new nor known for the file name. -/
theorem data_put_of_ne {id : String} (hnew : id ≠ s.nextId "att")
    (hknown : attachmentId? known e.1 ≠ some id) :
    (s.put pageId known e).data.get? id = s.data.get? id := by
  unfold MemoryStore.put
  rcases hid : attachmentId? known e.1 with _ | id'
  · exact SortedMap.get?_insert_of_ne s.data hnew e.2.data
  · refine SortedMap.get?_insert_of_ne s.data (fun heq => hknown ?_) e.2.data
    rw [hid, heq]

/-- The attachment is held afterwards, by an old one if there is one. -/
theorem held_put (hlisted : ∀ a ∈ known, a ∈ s.attachmentsOf pageId) (hname : e.1 = e.2.filename) :
    ∃ stored ∈ (s.put pageId known e).attachmentsOf pageId, stored.title = e.1 ∧
      (s.put pageId known e).data.get? stored.id = some e.2.data ∧
      ∀ id, attachmentId? known e.1 = some id → stored.id = id := by
  rw [attachmentsOf_put]
  unfold MemoryStore.put
  rcases hid : attachmentId? known e.1 with _ | id
  · refine ⟨⟨s.nextId "att", e.2.filename, none⟩,
      List.mem_append_right _ (List.mem_singleton.2 rfl), hname.symm,
      SortedMap.get?_insert_self _ _ _, fun id h => (nomatch h)⟩
  · rcases SyncTarget.exists_of_attachmentId? hid with ⟨stored, hstored, rfl, htitle⟩
    exact ⟨stored, List.mem_append_left _ (hlisted stored hstored), htitle,
      SortedMap.get?_insert_self _ _ _, fun _ h => Option.some.inj h⟩

end Put

/-! ### All attachments -/

/-- Puts attachments in their places, one after the other, by what is known at first. -/
def putAll (s : MemoryStore) (pageId : String) (known : List StoredAttachment)
    (es : List (String × Attachment)) : MemoryStore :=
  es.foldl (fun s e => s.put pageId known e) s

section PutAll

variable {s : MemoryStore} {pageId : String} {known : List StoredAttachment}
  {es : List (String × Attachment)}

theorem attachmentsOf_putAll_of_ne {other : String} (h : other ≠ pageId) :
    (s.putAll pageId known es).attachmentsOf other = s.attachmentsOf other := by
  induction es generalizing s with
  | nil => rfl
  | cons e rest ih => exact ih.trans (attachmentsOf_put_of_ne h)

variable (s pageId known es) in
/-- A page gets one attachment more for each file name that is not known. -/
theorem attachmentsOf_putAll :
    ∃ added, (s.putAll pageId known es).attachmentsOf pageId = s.attachmentsOf pageId ++ added ∧
      added.map (·.title) =
        (es.filter fun e => attachmentId? known e.1 = none).map (·.2.filename) := by
  -- Whether a name is known was settled at first, so the store does not matter to it.
  induction es generalizing s with
  | nil => exact ⟨[], (List.append_nil _).symm, rfl⟩
  | cons e rest ih =>
    rcases ih (s.put pageId known e) with ⟨added, hlist, htitles⟩
    rw [attachmentsOf_put, List.append_assoc] at hlist
    refine ⟨_, hlist, ?_⟩
    rw [List.map_append, htitles, List.filter_cons]
    by_cases hid : attachmentId? known e.1 = none
    · simp [hid]
    · simp [hid]

theorem OwnIds.putAll (h : s.OwnIds) : (s.putAll pageId known es).OwnIds := by
  induction es generalizing s with
  | nil => exact h
  | cons e rest ih => exact ih h.put

/-- Nothing is written under an id that is neither new nor known for one of the file
names. -/
theorem data_putAll {id : String} (hnew : ∀ n, s.issued ≤ n → id ≠ issuedId "att" n)
    (hknown : ∀ e ∈ es, attachmentId? known e.1 ≠ some id) :
    (s.putAll pageId known es).data.get? id = s.data.get? id := by
  induction es generalizing s with
  | nil => rfl
  | cons e rest ih =>
    have hrest := ih (s := s.put pageId known e)
      (fun n hn => hnew n (Nat.le_trans issued_put hn))
      fun e' he' => hknown e' (List.mem_cons_of_mem _ he')
    exact hrest.trans (data_put_of_ne (hnew s.issued (Nat.le_refl _))
      (hknown e List.mem_cons_self))

/-- Every attachment is held afterwards, by an old one if there is one. -/
theorem held_putAll (hids : s.OwnIds) (hlisted : ∀ a ∈ known, a ∈ s.attachmentsOf pageId)
    (hkeys : es.Pairwise fun a b => a.1 ≠ b.1) (hnames : ∀ e ∈ es, e.1 = e.2.filename)
    {e : String × Attachment} (he : e ∈ es) :
    ∃ stored ∈ (s.putAll pageId known es).attachmentsOf pageId, stored.title = e.1 ∧
      (s.putAll pageId known es).data.get? stored.id = some e.2.data ∧
      ∀ id, attachmentId? known e.1 = some id → stored.id = id := by
  induction es generalizing s with
  | nil => cases he
  | cons first rest ih =>
    rcases List.pairwise_cons.1 hkeys with ⟨hfirst, hrest⟩
    have hlater : ∀ a ∈ known, a ∈ (s.put pageId known first).attachmentsOf pageId :=
      listed_put hlisted
    rcases List.mem_cons.1 he with rfl | he
    · rcases held_put hlisted (hnames e List.mem_cons_self) with
        ⟨stored, hstored, htitle, hdata, hold⟩
      rcases attachmentsOf_putAll (s.put pageId known e) pageId known rest with ⟨added, hlist, -⟩
      refine ⟨stored, ?_, htitle, ?_, hold⟩
      · exact hlist ▸ List.mem_append_left _ hstored
      · -- No other file name is known by the id of this attachment.
        refine (data_putAll (hids.put.fresh pageId stored hstored) fun e' he' hid => ?_).trans hdata
        rcases SyncTarget.exists_of_attachmentId? hid with ⟨other, hother, hsame, htitle'⟩
        cases hids.put.eq_of_id (hlater other hother) hstored hsame
        exact hfirst e' he' (htitle.symm.trans htitle')
    · exact ih hids.put hlater hrest (fun e he => hnames e (List.mem_cons_of_mem _ he)) he

end PutAll

end MemoryStore

namespace SyncTarget

variable (t : SyncTarget) (file : String) (page : RenderedPage)

/-! ### Runs -/

/-- Attachments are put where they are known to be, or under new ids, and none of them
fails: what was listed is still listed. -/
theorem run_putAttachments (pageId : String) (known : List StoredAttachment)
    (es : List (String × Attachment)) {s : MemoryStore}
    (hlisted : ∀ a ∈ known, a ∈ s.attachmentsOf pageId) :
    ((putAttachments pageId known es).run.run MemoryStore.machine s).value = .ok () ∧
      ((putAttachments pageId known es).run.run MemoryStore.machine s).state =
        s.putAll pageId known es := by
  induction es generalizing s with
  | nil => exact ⟨rfl, rfl⟩
  | cons e rest ih =>
    rcases e with ⟨filename, a⟩
    have hlater : ∀ b ∈ known, b ∈ (s.put pageId known (filename, a)).attachmentsOf pageId :=
      MemoryStore.listed_put hlisted
    have hrest := ih hlater
    rw [MemoryStore.putAll, List.foldl_cons, ← MemoryStore.putAll]
    unfold MemoryStore.put at hrest ⊢
    -- What is asked next and what is done to the store are decided by the same lookup.
    rcases hid : attachmentId? known filename with _ | id
    · have hrun := StoreScript.run_ask_bind MemoryStore.machine (.upload pageId a)
        (fun _ => do
          StoreScript.info ("  Uploaded attachment: " ++ filename)
          putAttachments pageId known rest) s
      simp only [hid] at hrest ⊢
      rw [putAttachments, hid]
      simp only [hrun]
      exact hrest
    · have hrun := StoreScript.run_ask_bind MemoryStore.machine (.replace pageId id a)
        (fun _ => do
          StoreScript.info ("  Updated attachment: " ++ filename)
          putAttachments pageId known rest) s
      rcases exists_of_attachmentId? hid with ⟨stored, hstored, hsame, -⟩
      -- The store only refuses to replace what it does not list.
      rcases MemoryStore.replace_listed ⟨stored, hlisted stored hstored, hsame⟩ a with
        ⟨other, hreplace⟩
      have hanswer : MemoryStore.machine.answer (.replace pageId id a) s = _ := hreplace
      simp only [hid] at hrest ⊢
      rw [putAttachments, hid]
      simp only [hrun, hanswer]
      exact hrest

theorem run_syncAttachments (pageId : String) (attachments : SortedMap Attachment)
    (s : MemoryStore) :
    ((syncAttachments pageId attachments).run.run MemoryStore.machine s).value = .ok () ∧
      ((syncAttachments pageId attachments).run.run MemoryStore.machine s).state =
        s.putAll pageId (s.attachmentsOf pageId) attachments.entries := by
  unfold syncAttachments
  split
  · next hempty =>
    have hentries : attachments.entries = [] := List.isEmpty_iff.1 hempty
    rw [hentries]
    exact ⟨rfl, rfl⟩
  · have hrun := StoreScript.run_ask_bind MemoryStore.machine (.listAttachments pageId)
      (fun known => putAttachments pageId known attachments.entries) s
    simp only [hrun]
    exact run_putAttachments pageId _ _ fun _ h => h

/-- Writing a page leaves attachments alone. -/
theorem Wrote.attachments {s s₁ : MemoryStore} {found : Option Page} {remote : Page}
    {action : SyncAction} (h : Wrote t page s found remote action s₁) :
    s₁.attachments = s.attachments ∧ s₁.data = s.data ∧ s.issued ≤ s₁.issued := by
  cases h with
  | updated p old hother hold => exact ⟨rfl, rfl, Nat.le_refl _⟩
  | created => exact ⟨rfl, rfl, Nat.le_succ _⟩

/-- A reconcile that writes the page puts the attachments of the document after that. -/
theorem state_of_written (ht : t.dryRun = false) {s : MemoryStore} {o : SyncOutcome}
    (hok : ((t.reconcile file page).run.run MemoryStore.machine s).value = .ok o)
    (hwritten : o.action ≠ .skipped) :
    ∃ found remote s₁, Wrote t page s found remote o.action s₁ ∧
      ((t.reconcile file page).run.run MemoryStore.machine s).state =
        s₁.putAll o.pageId (s₁.attachmentsOf o.pageId) page.attachments.entries := by
  rw [run_reconcile t file page ht] at hok ⊢
  rcases hfound : t.existing page s with e | found
  · rw [hfound] at hok
    cases hok
  · simp only [hfound, Run.follow] at hok ⊢
    rcases wrote_of_ok t file page hok with ⟨p, -, -, rfl, -⟩ |
      ⟨remote, action, s₁, hwrote, rfl, hstate⟩
    · exact absurd rfl hwritten
    · exact ⟨found, remote, s₁, hwrote,
        hstate.trans (run_syncAttachments remote.id page.attachments s₁).2⟩

end SyncTarget

/-! ### All of it -/

/-- What becomes of the attachments in a store when those of a document are put on a
page. -/
structure AttachmentsSynced (s s' : MemoryStore) (pageId : String)
    (attachments : SortedMap Attachment) : Prop where
  /-- The page has every file under its name, in the attachment that had the name last
  if one had it. -/
  held : ∀ e ∈ attachments.entries, ∃ stored ∈ s'.attachmentsOf pageId, stored.title = e.1 ∧
    s'.data.get? stored.id = some e.2.data ∧
    ∀ id, attachmentId? (s.attachmentsOf pageId) e.1 = some id → stored.id = id
  /-- The attachments of the page stay as they are, and after them comes one for each
  name that none of them had. -/
  listed : ∃ added, s'.attachmentsOf pageId = s.attachmentsOf pageId ++ added ∧
    added.map (·.title) =
      attachments.keys.filter fun name => (s.attachmentsOf pageId).all (·.title ≠ name)
  elsewhere : ∀ other, other ≠ pageId → s'.attachmentsOf other = s.attachmentsOf other
  /-- What an attachment holds stays the same, on this page and on all others, unless it
  is the last one on this page with one of the names. -/
  content : ∀ other, ∀ stored ∈ s.attachmentsOf other,
    (other = pageId → stored.title ∈ attachments.keys →
      attachmentId? (s.attachmentsOf pageId) stored.title ≠ some stored.id) →
    s'.data.get? stored.id = s.data.get? stored.id
  ids : s'.OwnIds

/-- It does not matter what else is in the store. -/
theorem AttachmentsSynced.of_eq {s s₁ s' : MemoryStore} {pageId : String}
    {attachments : SortedMap Attachment} (h : AttachmentsSynced s₁ s' pageId attachments)
    (hattachments : s₁.attachments = s.attachments) (hdata : s₁.data = s.data) :
    AttachmentsSynced s s' pageId attachments := by
  -- No clause reads another field of the store before.
  rcases s with ⟨pages, old, data, unreadable, locked, issued⟩
  rcases s₁ with ⟨pages₁, old₁, data₁, unreadable₁, locked₁, issued₁⟩
  cases hattachments
  cases hdata
  exact ⟨h.held, h.listed, h.elsewhere, h.content, h.ids⟩

theorem MemoryStore.attachmentsSynced_putAll {s : MemoryStore} (hids : s.OwnIds)
    (pageId : String) {attachments : SortedMap Attachment} (hnames : ByFilename attachments) :
    AttachmentsSynced s (s.putAll pageId (s.attachmentsOf pageId) attachments.entries) pageId
      attachments where
  held e he :=
    held_putAll hids (fun _ ha => ha) attachments.pairwise_ne hnames he
  listed := by
    rcases attachmentsOf_putAll s pageId (s.attachmentsOf pageId) attachments.entries with
      ⟨added, hlist, htitles⟩
    refine ⟨added, hlist, htitles.trans ?_⟩
    have habsent : ∀ e : String × Attachment,
        decide (attachmentId? (s.attachmentsOf pageId) e.1 = none) =
          (s.attachmentsOf pageId).all (·.title ≠ e.1) := fun e => by
      rw [Bool.eq_iff_iff, decide_eq_true_iff, SyncTarget.attachmentId?_eq_none, List.all_eq_true]
      simp only [decide_eq_true_iff]
    rw [SortedMap.keys, List.filter_map]
    simp only [habsent]
    exact List.map_congr_left fun e he => (hnames e (List.mem_filter.1 he).1).symm
  elsewhere other hother := attachmentsOf_putAll_of_ne hother
  content other stored hstored hkept := by
    refine data_putAll (hids.fresh other stored hstored) fun e he hid => ?_
    rcases SyncTarget.exists_of_attachmentId? hid with ⟨old, hold, hsame, htitle⟩
    by_cases hother : other = pageId
    · -- It would be the attachment that counts for its name, which is ruled out.
      subst hother
      cases hids.eq_of_id hold hstored hsame
      have hkey : stored.title ∈ attachments.keys := htitle ▸ List.mem_map_of_mem he
      exact hkept rfl hkey (htitle ▸ hid)
    · exact hids.apart other pageId hother stored hstored old hold hsame.symm
  ids := hids.putAll

namespace SyncTarget

/-- After a reconcile that wrote the page, the page in the outcome has all files of the
document, with their content. Of what was there before, nothing is gone or has another
name, on any page, and nothing has other content but the attachments that had one of the
names, of several with one name the last. All this needs is that attachments had ids of
their own, and they still have. -/
theorem attachmentsSynced_of_ok (t : SyncTarget) (file : String) (page : RenderedPage)
    (ht : t.dryRun = false) (hnames : ByFilename page.attachments) {s : MemoryStore}
    (hids : s.OwnIds) {o : SyncOutcome}
    (hok : ((t.reconcile file page).run.run MemoryStore.machine s).value = .ok o)
    (hwritten : o.action = .created ∨ o.action = .updated) :
    AttachmentsSynced s ((t.reconcile file page).run.run MemoryStore.machine s).state o.pageId
      page.attachments := by
  have hchanged : o.action ≠ .skipped := by
    rcases hwritten with h | h
    · rw [h]
      exact SyncAction.noConfusion
    · rw [h]
      exact SyncAction.noConfusion
  rcases state_of_written t file page ht hok hchanged with ⟨found, remote, s₁, hwrote, hstate⟩
  rcases hwrote.attachments t page with ⟨hattachments, hdata, hissued⟩
  have hsynced := MemoryStore.attachmentsSynced_putAll (hids.of_attachments hattachments hissued)
    o.pageId hnames
  rw [hstate]
  exact hsynced.of_eq hattachments hdata

/-! ### Two charts with one name -/

/-- A file with a name and a content of one byte. -/
def oneByte (filename : String) (byte : UInt8) : Attachment :=
  ⟨filename, [byte], "image/png"⟩

/-- A page with two attachments of one name, and one of that name on another page. -/
def charted : MemoryStore :=
  ((((oldTitle "<p>Draft</p>").upload "42" (oneByte "chart.png" 1)).2.upload "42"
    (oneByte "chart.png" 2)).2.upload "7" (oneByte "chart.png" 3)).2

/-- A document with a file of that name and with another one. -/
def chartAndPlan : RenderedPage :=
  ⟨"New", ⟨none, some "42", []⟩, "<p>Body</p>",
    (SortedMap.empty.insert "chart.png" (oneByte "chart.png" 8)).insert "plan.png"
      (oneByte "plan.png" 9)⟩

theorem attachmentsSynced_of_ok_chartAndPlan :
    let r := (docs.reconcile "guide.md" chartAndPlan).run.run MemoryStore.machine charted
    charted.OwnIds ∧ ByFilename chartAndPlan.attachments ∧
      (∃ o, r.value = .ok o ∧ o.action = .updated ∧
        AttachmentsSynced charted r.state o.pageId chartAndPlan.attachments) ∧
      ((r.state.attachmentsOf "42").map fun a => (a.title, r.state.data.get? a.id)) =
        [("chart.png", some [1]), ("chart.png", some [8]), ("plan.png", some [9])] := by
  intro r
  have hids : charted.OwnIds := by
    have hnone : (oldTitle "<p>Draft</p>").OwnIds :=
      ⟨fun _ => List.nodup_nil, fun _ _ _ _ ha => (nomatch ha), fun _ _ ha => (nomatch ha)⟩
    exact ((hnone.upload _ _).upload _ _).upload _ _
  have hnames : ByFilename chartAndPlan.attachments :=
    (ByFilename.empty.insert (oneByte "chart.png" 8)).insert (oneByte "plan.png" 9)
  have hok : r.value = .ok ⟨"guide.md", "New", "42",
      "https://mock.atlassian.net/wiki/spaces/DOCS/pages/42", .updated⟩ := by decide +kernel
  exact ⟨hids, hnames, ⟨_, hok, rfl, attachmentsSynced_of_ok docs "guide.md" chartAndPlan rfl
    hnames hids hok (Or.inr rfl)⟩, by decide +kernel⟩

end SyncTarget

end WikiSync
