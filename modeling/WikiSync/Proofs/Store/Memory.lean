import WikiSync.Proofs.Data.SortedMap
import WikiSync.Store.Memory

/-!
# Stores in Memory, by Operation

What each operation of a store in memory does to what can be read off it:
which pages it has, which attachments a page has, and what they hold. Proofs
about scripts cite these and leave the operations folded.

An attachment is uploaded under an id that the store makes up. The ids are
told apart by a counter, so a later upload never overwrites the content of an
earlier one; `issuedId_inj` is where the decimal form of the counter comes in,
and nothing else depends on it.

## Main definitions

* `issuedId`: The id that is given out after a number of others.
* `Holds`: A page has an attachment under its file name, with its content.
* `uploadAll`: Uploads one after the other.

## Theorems

* `issuedId_inj`: Ids behind one lead differ.
* `findPage_createPage`: A page that was missing is found once it is created.
* `replace_listed`: An attachment that is listed can be replaced.
* `attachmentsOf_uploadAll`: Uploads go to the end of the list.
* `holds_uploadAll`: Every uploaded attachment is there afterwards.
* `holds_uploadAll_iff`: On a page without attachments, nothing else is.
-/

namespace WikiSync.MemoryStore

/-! ### Ids -/

/-- The id that is given out after a number of others, behind a lead. -/
def issuedId (lead : String) (count : Nat) : String :=
  lead ++ toString (1001 + count)

theorem nextId_eq (s : MemoryStore) (lead : String) : s.nextId lead = issuedId lead s.issued := rfl

theorem issuedId_inj {lead : String} {m n : Nat} (h : issuedId lead m = issuedId lead n) :
    m = n := by
  have hdigits : Nat.toDigits 10 (1001 + m) = Nat.toDigits 10 (1001 + n) := by
    have hlists := congrArg String.toList h
    simp only [issuedId, String.toList_append, Nat.toString_eq_repr, Nat.toList_repr] at hlists
    exact List.append_cancel_left hlists
  -- The digits of a number read back as the number.
  have hvalue := congrArg (fun ds => Nat.ofDigitChars 10 ds 0) hdigits
  simp only [Nat.ofDigitChars_ten_toDigits] at hvalue
  omega

/-! ### Pages -/

/-- A page that was missing is found once it is created, whatever ids the
other pages have. -/
theorem findPage_createPage (s : MemoryStore) (space title markup : String)
    (parent : Option String) (h : s.findPage space title = none) :
    (s.createPage space title markup parent).2.findPage space title =
      some (s.createPage space title markup parent).1 := by
  refine SortedMap.find?_values_insert s.pages _ _ _ ?_ h
  simp only [buildPage, beq_self_eq_true, Bool.and_self]

/-! ### Attachments -/

/-- A page has an attachment under its file name, with its content. -/
def Holds (s : MemoryStore) (pageId : String) (a : Attachment) : Prop :=
  ∃ stored ∈ s.attachmentsOf pageId, stored.title = a.filename ∧
    s.data.get? stored.id = some a.data

/-- An upload goes to the end of the list, under the next id. -/
theorem attachmentsOf_upload (s : MemoryStore) (pageId : String) (a : Attachment) :
    (s.upload pageId a).2.attachmentsOf pageId =
      s.attachmentsOf pageId ++ [⟨s.nextId "att", a.filename, none⟩] := by
  simp only [upload, attachmentsOf, SortedMap.get?_insert_self, Option.getD_some]

/-- An upload leaves the content under every id alone that was given out
before. -/
theorem data_upload_of_lt (s : MemoryStore) (pageId : String) (a : Attachment) (n : Nat)
    (h : n < s.issued) :
    (s.upload pageId a).2.data.get? (issuedId "att" n) = s.data.get? (issuedId "att" n) := by
  refine SortedMap.get?_insert_of_ne s.data (fun heq => ?_) a.data
  have := issuedId_inj (heq.trans (nextId_eq s "att"))
  omega

/-- An attachment that is listed can be replaced. -/
theorem replace_listed {s : MemoryStore} {pageId id : String}
    (h : ∃ stored ∈ s.attachmentsOf pageId, stored.id = id) (a : Attachment) :
    ∃ stored, s.replace pageId id a = (.ok stored, { s with data := s.data.insert id a.data }) := by
  rcases h with ⟨stored, hstored, hid⟩
  unfold replace
  rcases hfind : (s.attachmentsOf pageId).find? fun other => other.id == id with _ | other
  · exact absurd (beq_iff_eq.2 hid) (List.find?_eq_none.1 hfind stored hstored)
  · exact ⟨other, by rw [hfind]⟩

/-- Uploads attachments one after the other. -/
def uploadAll (s : MemoryStore) (pageId : String) : List (String × Attachment) → MemoryStore
  | [] => s
  | e :: rest => (s.upload pageId e.2).2.uploadAll pageId rest

theorem pages_uploadAll (s : MemoryStore) (pageId : String) (es : List (String × Attachment)) :
    (s.uploadAll pageId es).pages = s.pages := by
  induction es generalizing s with
  | nil => rfl
  | cons e rest ih =>
    rw [uploadAll, ih]
    rfl

theorem findPage_uploadAll (s : MemoryStore) (pageId : String)
    (es : List (String × Attachment)) (space title : String) :
    (s.uploadAll pageId es).findPage space title = s.findPage space title := by
  rw [findPage, pages_uploadAll]
  rfl

/-- What was there stays, and the uploads come after it with their names. -/
theorem attachmentsOf_uploadAll (s : MemoryStore) (pageId : String)
    (es : List (String × Attachment)) :
    ∃ added, (s.uploadAll pageId es).attachmentsOf pageId = s.attachmentsOf pageId ++ added ∧
      added.map (·.title) = es.map (·.2.filename) := by
  induction es generalizing s with
  | nil => exact ⟨[], (List.append_nil _).symm, rfl⟩
  | cons e rest ih =>
    rcases ih (s.upload pageId e.2).2 with ⟨added, hlist, htitles⟩
    refine ⟨⟨s.nextId "att", e.2.filename, none⟩ :: added, ?_, ?_⟩
    · rw [uploadAll, hlist, attachmentsOf_upload, List.append_assoc]
      rfl
    · rw [List.map_cons, List.map_cons, htitles]

theorem data_uploadAll_of_lt (s : MemoryStore) (pageId : String)
    (es : List (String × Attachment)) (n : Nat) (h : n < s.issued) :
    (s.uploadAll pageId es).data.get? (issuedId "att" n) = s.data.get? (issuedId "att" n) := by
  induction es generalizing s with
  | nil => rfl
  | cons e rest ih =>
    have hissued : n < (s.upload pageId e.2).2.issued := Nat.lt_succ_of_lt h
    rw [uploadAll, ih _ hissued, data_upload_of_lt s pageId e.2 n h]

/-- Every uploaded attachment is there afterwards: its entry stays in the list,
and no later upload writes to its id. -/
theorem holds_uploadAll (s : MemoryStore) (pageId : String) (es : List (String × Attachment))
    (e : String × Attachment) (he : e ∈ es) : (s.uploadAll pageId es).Holds pageId e.2 := by
  induction es generalizing s with
  | nil => cases he
  | cons first rest ih =>
    rcases List.mem_cons.1 he with rfl | hrest
    · rcases attachmentsOf_uploadAll (s.upload pageId e.2).2 pageId rest with ⟨added, hlist, -⟩
      refine ⟨⟨s.nextId "att", e.2.filename, none⟩, ?_, rfl, ?_⟩
      · rw [uploadAll, hlist, attachmentsOf_upload]
        exact List.mem_append_left _ (List.mem_append_right _ (List.mem_singleton.2 rfl))
      · rw [uploadAll, nextId_eq]
        rw [data_uploadAll_of_lt _ pageId rest s.issued (Nat.lt_succ_self _)]
        exact SortedMap.get?_insert_self s.data _ e.2.data
    · exact ih _ hrest

/-- On a page without attachments, the first attachments of a list are all of
it only if there are no others. The names tell them apart. -/
theorem holds_uploadAll_iff (s : MemoryStore) (pageId : String)
    (es : List (String × Attachment)) (hdistinct : (es.map (·.2.filename)).Nodup)
    (hfree : s.attachmentsOf pageId = []) (k : Nat) (hk : k ≤ es.length) :
    (∀ e ∈ es, (s.uploadAll pageId (es.take k)).Holds pageId e.2) ↔ k = es.length := by
  constructor
  · intro hall
    rcases Nat.lt_or_ge k es.length with hlt | hge
    · -- The first attachment that was not uploaded has a name of its own.
      rcases hall es[k] (List.getElem_mem hlt) with ⟨stored, hstored, htitle, -⟩
      rcases attachmentsOf_uploadAll s pageId (es.take k) with ⟨added, hlist, htitles⟩
      rw [hlist, hfree, List.nil_append] at hstored
      have hname : es[k].2.filename ∈ (es.take k).map (·.2.filename) := by
        rw [← htitles, ← htitle]
        exact List.mem_map_of_mem hstored
      have hdrop : es[k].2.filename ∈ (es.drop k).map (·.2.filename) := by
        rw [List.drop_eq_getElem_cons hlt]
        exact List.mem_map_of_mem List.mem_cons_self
      rw [← List.take_append_drop k es, List.map_append, List.nodup_append] at hdistinct
      exact absurd rfl (hdistinct.2.2 _ hname _ hdrop)
    · omega
  · rintro rfl e he
    rw [List.take_length]
    exact holds_uploadAll s pageId es e he

end WikiSync.MemoryStore
