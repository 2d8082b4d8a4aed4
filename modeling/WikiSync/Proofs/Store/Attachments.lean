import Mathlib.Data.List.Nodup
import WikiSync.Proofs.Store.Memory
import WikiSync.Proofs.Store.Pages

/-!
# The Ids of Attachments

The content of an attachment is kept under its id, and nothing in a store in memory
keeps two attachments from having the same one. They would then share their content,
and giving one of them new content would change the other. `OwnIds` rules this out:
every attachment has an id of its own, on its page and across all pages, and none has
an id that the store is going to give out.

The store takes care of this itself from then on. An upload is the one call that adds
an attachment, it adds it under the next id, and no call takes attachments away. So
ids stay apart whatever a store is asked (`OwnIds.answer`), and it does not matter in
which order.

## Main definitions

* `OwnIds`: Every attachment has an id of its own.

## Theorems

* `attachments_answer_cases`: A call adds an attachment or leaves the lists alone.
* `OwnIds.eq_of_id`: An id stands for one attachment.
* `OwnIds.answer`: Ids stay apart.
-/

namespace WikiSync.MemoryStore

/-- Every attachment has an id of its own, and none has one that the store is going to
give out. -/
structure OwnIds (s : MemoryStore) : Prop where
  nodup : ∀ pageId, ((s.attachmentsOf pageId).map (·.id)).Nodup
  apart : ∀ pageId other, pageId ≠ other →
    ∀ a ∈ s.attachmentsOf pageId, ∀ b ∈ s.attachmentsOf other, a.id ≠ b.id
  fresh : ∀ pageId, ∀ a ∈ s.attachmentsOf pageId, ∀ n, s.issued ≤ n → a.id ≠ issuedId "att" n

/-! ### Calls -/

/-- An upload leaves other pages alone. -/
theorem attachmentsOf_upload_of_ne (s : MemoryStore) {pageId other : String}
    (h : other ≠ pageId) (a : Attachment) :
    (s.upload pageId a).2.attachmentsOf other = s.attachmentsOf other := by
  simp only [upload, attachmentsOf, SortedMap.get?_insert_of_ne _ h]

/-- A call adds an attachment to the end of a list, or leaves all lists alone. -/
theorem attachments_answer_cases (s : MemoryStore) (c : StoreCall) :
    (s.answer c).2.attachments = s.attachments ∨
      ∃ pageId a, (s.answer c).2 = (s.upload pageId a).2 := by
  cases c with
  | upload pageId a => exact Or.inr ⟨pageId, a, rfl⟩
  | updatePage pageId title markup base =>
    refine Or.inl ?_
    simp only [answer]
    rcases updatePage_cases s pageId title markup base with ⟨old, -, -, -, h⟩ | ⟨e, h⟩
    · rw [h]
    · rw [h]
  | replace pageId attachmentId a =>
    refine Or.inl ?_
    simp only [answer, replace]
    split <;> rfl
  | createPage space title markup parent => exact Or.inl rfl
  | getPage pageId => exact Or.inl rfl
  | findPage space title => exact Or.inl rfl
  | listAttachments pageId => exact Or.inl rfl

/-! ### Ids -/

namespace OwnIds

variable {s s' : MemoryStore}

/-- An id stands for one attachment of a page. -/
theorem eq_of_id (h : s.OwnIds) {pageId : String} {a b : StoredAttachment}
    (ha : a ∈ s.attachmentsOf pageId) (hb : b ∈ s.attachmentsOf pageId) (hid : a.id = b.id) :
    a = b :=
  List.inj_on_of_nodup_map (h.nodup pageId) ha hb hid

/-- Without new attachments, it is enough that no ids are taken back. -/
theorem of_attachments (h : s.OwnIds) (hsame : s'.attachments = s.attachments)
    (hissued : s.issued ≤ s'.issued) : s'.OwnIds := by
  have hlists : ∀ pageId, s'.attachmentsOf pageId = s.attachmentsOf pageId := fun pageId => by
    rw [attachmentsOf, hsame]
    rfl
  constructor
  · intro pageId
    rw [hlists]
    exact h.nodup pageId
  · intro pageId other hne
    rw [hlists, hlists]
    exact h.apart pageId other hne
  · intro pageId a ha n hn
    rw [hlists] at ha
    exact h.fresh pageId a ha n (Nat.le_trans hissued hn)

/-- After an upload, the attachments of a page are those before it and the new one, if
it is that page. -/
theorem mem_upload {pageId other : String} {a : Attachment} {b : StoredAttachment} :
    b ∈ (s.upload pageId a).2.attachmentsOf other ↔
      b ∈ s.attachmentsOf other ∨
        other = pageId ∧ b = ⟨issuedId "att" s.issued, a.filename, none⟩ := by
  by_cases hother : other = pageId
  · subst hother
    rw [attachmentsOf_upload, List.mem_append, List.mem_singleton, nextId_eq]
    exact or_congr_right (and_iff_right rfl).symm
  · rw [attachmentsOf_upload_of_ne s hother]
    exact (or_iff_left fun hnew => hother hnew.1).symm

/-- A new attachment gets an id that no other one has. -/
theorem upload (h : s.OwnIds) (pageId : String) (a : Attachment) :
    (s.upload pageId a).2.OwnIds := by
  have hnew : ∀ other, ∀ b ∈ s.attachmentsOf other, b.id ≠ issuedId "att" s.issued :=
    fun other b hb => h.fresh other b hb s.issued (Nat.le_refl _)
  constructor
  · intro other
    by_cases hother : other = pageId
    · subst hother
      rw [attachmentsOf_upload, List.map_append, List.nodup_append]
      refine ⟨h.nodup other, List.nodup_singleton _, fun id hid id' hid' => ?_⟩
      rcases List.mem_map.1 hid with ⟨b, hb, rfl⟩
      rw [List.mem_singleton.1 hid']
      exact hnew other b hb
    · rw [attachmentsOf_upload_of_ne s hother]
      exact h.nodup other
  · intro page other hne b hb c hc
    -- At most one of the two is the new attachment.
    rcases mem_upload.1 hb with hb | ⟨hpage, rfl⟩
    · rcases mem_upload.1 hc with hc | ⟨-, rfl⟩
      · exact h.apart page other hne b hb c hc
      · exact hnew page b hb
    · rcases mem_upload.1 hc with hc | ⟨hother, rfl⟩
      · exact (hnew other c hc).symm
      · exact absurd (hpage.trans hother.symm) hne
  · intro other b hb n hn
    have hissued : s.issued + 1 ≤ n := hn
    rcases mem_upload.1 hb with hb | ⟨-, rfl⟩
    · exact h.fresh other b hb n (Nat.le_of_succ_le hissued)
    · -- The new id has been counted, and ids differ if their numbers do.
      intro hid
      have := issuedId_inj hid
      omega

/-- Ids stay apart, whatever a store is asked. -/
theorem answer (h : s.OwnIds) (c : StoreCall) : (s.answer c).2.OwnIds := by
  rcases attachments_answer_cases s c with hsame | ⟨pageId, a, hupload⟩
  · exact h.of_attachments hsame (answer_frame s c).2.2
  · rw [hupload]
    exact h.upload pageId a

end OwnIds

end WikiSync.MemoryStore
