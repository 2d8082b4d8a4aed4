import WikiSync.Proofs.Store.Memory

/-!
# The Pages of Stores in Memory

How the pages of a store in memory come about and change. A store is built by
putting pages into an empty one and by the calls it answers. Either way a page
is kept under its own id, and `Built.keyed` says so. What is stated about a
store with this property is stated about every store there is.

A call changes at most one page, and there are two ways to do it: a new page at
the next id, or the next version of a page that the call names.
`pages_answer_cases` lists them with everything that a refusal rules out. The
other modules read off it what a call can do to pages.

## Main definitions

* `Keyed`: Every page is kept under its own id.
* `Built`: How a store comes about.

## Theorems

* `pages_answer_cases`: What a call does to pages.
* `Built.keyed`: Every store keeps its pages under their own ids.
* `updatePage_stale`: An update that is based on another version.
* `get?_of_findPage`: A page that is found by its title.
-/

namespace WikiSync.MemoryStore

/-- Every page is kept under its own id. -/
def Keyed (s : MemoryStore) : Prop :=
  ∀ id p, s.pages.get? id = some p → p.id = id

/-! ### Calls -/

/-- The page that an update makes of the page before it. -/
def updated (old : Page) (pageId title markup : String) : Page :=
  buildPage pageId (old.space.getD "") title markup (old.version.number + 1) old.ancestors.getLast?

/-- An update makes the next version of the page that it is based on, or fails
and changes nothing. -/
theorem updatePage_cases (s : MemoryStore) (pageId title markup : String) (base : UInt32) :
    (∃ old, s.locked.get? pageId = none ∧ s.pages.get? pageId = some old ∧
        old.version.number = base ∧
        s.updatePage pageId title markup base =
          (.ok (updated old pageId title markup),
            { s with pages := s.pages.insert pageId (updated old pageId title markup) })) ∨
      ∃ e, s.updatePage pageId title markup base = (.error e, s) := by
  unfold updatePage
  rcases hlocked : s.locked.get? pageId with _ | status
  · rcases hold : s.pages.get? pageId with _ | old
    · exact Or.inr ⟨_, rfl⟩
    · by_cases hbase : old.version.number = base
      · subst hbase
        simp [updated]
      · exact Or.inr ⟨conflict old.version.number, by simp [hbase]⟩
  · exact Or.inr ⟨_, rfl⟩

/-- An update that is based on another version than the current one is
refused. -/
theorem updatePage_stale (s : MemoryStore) {pageId : String} (title markup : String)
    {base : UInt32} {current : Page} (hunlocked : s.locked.get? pageId = none)
    (hcurrent : s.pages.get? pageId = some current) (hstale : current.version.number ≠ base) :
    s.updatePage pageId title markup base = (.error (conflict current.version.number), s) := by
  simp [updatePage, hunlocked, hcurrent, hstale]

/-- A call changes at most one page: it adds one at the next id, or it makes
the next version of one that is there. -/
theorem pages_answer_cases (s : MemoryStore) (c : StoreCall) :
    (s.answer c).2.pages = s.pages ∨
      (∃ space title markup parent, c = .createPage space title markup parent ∧
        (s.answer c).2.issued = s.issued + 1 ∧
        (s.answer c).2.pages = s.pages.insert (s.nextId "")
          (buildPage (s.nextId "") space title markup 1 parent)) ∨
      ∃ pageId title markup old, c = .updatePage pageId title markup old.version.number ∧
        s.locked.get? pageId = none ∧ s.pages.get? pageId = some old ∧
        (s.answer c).2.pages = s.pages.insert pageId (updated old pageId title markup) := by
  cases c with
  | createPage space title markup parent =>
    exact Or.inr (Or.inl ⟨space, title, markup, parent, rfl, rfl, rfl⟩)
  | updatePage pageId title markup base =>
    simp only [answer]
    rcases updatePage_cases s pageId title markup base with
      ⟨old, hunlocked, hold, rfl, hupdate⟩ | ⟨e, hrefused⟩
    · exact Or.inr (Or.inr ⟨pageId, title, markup, old, rfl, hunlocked, hold, by rw [hupdate]⟩)
    · exact Or.inl (by rw [hrefused])
  | replace pageId attachmentId a =>
    refine Or.inl ?_
    simp only [answer, replace]
    split <;> rfl
  | getPage pageId => exact Or.inl rfl
  | findPage space title => exact Or.inl rfl
  | listAttachments pageId => exact Or.inl rfl
  | upload pageId a => exact Or.inl rfl

/-- No call changes what cannot be read or updated, and ids are never taken
back. -/
theorem answer_frame (s : MemoryStore) (c : StoreCall) :
    (s.answer c).2.locked = s.locked ∧ (s.answer c).2.unreadable = s.unreadable ∧
      s.issued ≤ (s.answer c).2.issued := by
  cases c with
  | updatePage pageId title markup base =>
    simp only [answer]
    rcases updatePage_cases s pageId title markup base with ⟨old, -, -, -, h⟩ | ⟨e, h⟩
    · simp [h]
    · simp [h]
  | replace pageId attachmentId a =>
    simp only [answer, replace]
    split
    · exact ⟨rfl, rfl, Nat.le_refl _⟩
    · exact ⟨rfl, rfl, Nat.le_refl _⟩
  | createPage space title markup parent => exact ⟨rfl, rfl, Nat.le_succ _⟩
  | upload pageId a => exact ⟨rfl, rfl, Nat.le_succ _⟩
  | getPage pageId => exact ⟨rfl, rfl, Nat.le_refl _⟩
  | findPage space title => exact ⟨rfl, rfl, Nat.le_refl _⟩
  | listAttachments pageId => exact ⟨rfl, rfl, Nat.le_refl _⟩

/-! ### Pages under their own ids -/

theorem Keyed.insert {s s' : MemoryStore} (h : s.Keyed) {id : String} {p : Page}
    (hpages : s'.pages = s.pages.insert id p) (hid : p.id = id) : s'.Keyed := by
  intro other q hq
  rw [hpages] at hq
  by_cases hkey : other = id
  · rw [hkey, SortedMap.get?_insert_self] at hq
    rw [hkey, ← Option.some.inj hq, hid]
  · rw [SortedMap.get?_insert_of_ne _ hkey] at hq
    exact h other q hq

theorem Keyed.answer {s : MemoryStore} (h : s.Keyed) (c : StoreCall) : (s.answer c).2.Keyed := by
  rcases pages_answer_cases s c with hsame | ⟨_, _, _, _, -, -, hnew⟩ | ⟨_, _, _, _, -, -, -, hnext⟩
  · unfold Keyed
    rw [hsame]
    exact h
  · exact h.insert hnew rfl
  · exact h.insert hnext rfl

/-- How a store comes about: pages, attachments and refusals are put into an
empty store, and it answers calls. -/
inductive Built : MemoryStore → Prop
  | empty : Built .empty
  | page {s : MemoryStore} (h : Built s) (id space title markup : String) :
      Built (s.withPage id space title markup)
  | attachment {s : MemoryStore} (h : Built s) (pageId id title : String) :
      Built (s.withAttachment pageId id title)
  | unreadable {s : MemoryStore} (h : Built s) (pageId : String) (status : Nat) :
      Built { s with unreadable := s.unreadable.insert pageId status }
  | locked {s : MemoryStore} (h : Built s) (pageId : String) (status : Nat) :
      Built { s with locked := s.locked.insert pageId status }
  | answer {s : MemoryStore} (h : Built s) (c : StoreCall) : Built (s.answer c).2

/-- Every store keeps its pages under their own ids. -/
theorem Built.keyed {s : MemoryStore} (h : Built s) : s.Keyed := by
  induction h with
  | empty => exact fun id p hp => nomatch hp
  | page h id space title markup ih => exact ih.insert rfl rfl
  | attachment h pageId id title ih => exact ih
  | unreadable h pageId status ih => exact ih
  | locked h pageId status ih => exact ih
  | answer h c ih => exact ih.answer c

/-! ### Lookups -/

/-- A page that is found by its title has that title and is kept under its
id. -/
theorem get?_of_findPage {s : MemoryStore} (h : s.Keyed) {space title : String} {p : Page}
    (hfound : s.findPage space title = some p) :
    s.pages.get? p.id = some p ∧ p.title = title ∧ p.space = some space := by
  unfold findPage at hfound
  have hmatch := List.find?_some hfound
  rw [Bool.and_eq_true, beq_iff_eq, beq_iff_eq] at hmatch
  rcases List.mem_map.1 (List.mem_of_find?_eq_some hfound) with ⟨e, he, rfl⟩
  have hget := SortedMap.get?_of_mem he
  refine ⟨?_, hmatch⟩
  rw [h e.1 e.2 hget]
  exact hget

end WikiSync.MemoryStore
