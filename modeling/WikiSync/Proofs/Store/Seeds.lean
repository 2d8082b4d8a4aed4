import WikiSync.Proofs.Store.Attachments

/-!
# What a Store in Memory Keeps

A store in memory is set up with pages and attachments, under ids that whoever sets it
up may choose. The ids of what is added later come from the store itself. It counts
them, and it does not look at those that are there. So a new page may get the id of a
page from the start. As pages are kept under their ids, the old one is then gone. A new
attachment with the id of another one takes over its content.

This is the only way to lose something. No call removes an id, and every id that was
not there at the start came from the counter, which has passed it since. So the next id
is taken after any number of calls exactly if it was taken at the start
(`IdsSince.has_nextId_iff`), and what has another id stays as it is. The start matters
and the calls do not.

## Main definitions

* `Seed`, `seeded`: What a store is set up with.
* `answerAll`: A store after a number of calls.
* `HasPage`, `HasAttachment`: The ids in a store.
* `IdsSince`: The ids in a store some calls later.
* `AddsPage`, `AddsAttachment`: What is added, and all else that stays.

## Theorems

* `hasPage_seeded_iff`, `hasAttachment_seeded_iff`: The ids at the start.
* `IdsSince.has_nextId_iff`: The next id is as new as it was at the start.
* `idsSince_page`, `idsSince_attachment`: The ids after a number of calls.
* `seeded_keeps`: What becomes of the pages and attachments in a store.
* `not_every_id_new`: A page and an attachment that are lost.
-/

namespace WikiSync.MemoryStore

/-! ### Setting up -/

/-- Something that a store is set up with. -/
inductive Seed where
  | page (id space title markup : String)
  | attachment (pageId id title : String)
  /-- A page that cannot be read. -/
  | unreadable (pageId : String) (status : Nat)
  /-- A page that cannot be updated. -/
  | locked (pageId : String) (status : Nat)
deriving DecidableEq, Repr

/-- Sets a store up with one thing more. -/
def plant (s : MemoryStore) : Seed → MemoryStore
  | .page id space title markup => s.withPage id space title markup
  | .attachment pageId id title => s.withAttachment pageId id title
  | .unreadable pageId status => { s with unreadable := s.unreadable.insert pageId status }
  | .locked pageId status => { s with locked := s.locked.insert pageId status }

/-- A store that was set up. -/
def seeded (seeds : List Seed) : MemoryStore :=
  seeds.foldl plant .empty

/-- A store after a number of calls. -/
def answerAll (s : MemoryStore) (calls : List StoreCall) : MemoryStore :=
  calls.foldl (fun s c => (s.answer c).2) s

theorem answerAll_cons (s : MemoryStore) (c : StoreCall) (calls : List StoreCall) :
    s.answerAll (c :: calls) = (s.answer c).2.answerAll calls := rfl

/-! ### Ids -/

/-- A page has an id. -/
def HasPage (s : MemoryStore) (id : String) : Prop :=
  ∃ key p, s.pages.get? key = some p ∧ p.id = id

/-- An attachment of some page has an id. -/
def HasAttachment (s : MemoryStore) (id : String) : Prop :=
  ∃ pageId, ∃ a ∈ s.attachmentsOf pageId, a.id = id

theorem Keyed.hasPage_iff {s : MemoryStore} (h : s.Keyed) (id : String) :
    s.HasPage id ↔ ∃ p, s.pages.get? id = some p := by
  constructor
  · rintro ⟨key, p, hp, rfl⟩
    rw [h key p hp]
    exact ⟨p, hp⟩
  · rintro ⟨p, hp⟩
    exact ⟨id, p, hp, h id p hp⟩

/-- Putting a page in a place gives its id to the store, and takes none. -/
theorem hasPage_insert_iff {s s' : MemoryStore} (h : s.Keyed) {key : String} {p : Page}
    (hpages : s'.pages = s.pages.insert key p) (hid : p.id = key) (id : String) :
    s'.HasPage id ↔ s.HasPage id ∨ id = key := by
  rw [h.hasPage_iff, (h.insert hpages hid).hasPage_iff, hpages]
  by_cases hkey : id = key
  · subst hkey
    simp only [SortedMap.get?_insert_self, Option.some.injEq, exists_eq', or_true]
  · simp only [SortedMap.get?_insert_of_ne _ hkey, hkey, or_false]

/-- Putting an attachment at the end of a list gives its id to the store. -/
theorem hasAttachment_append_iff {s s' : MemoryStore} {pageId : String} {a : StoredAttachment}
    (hlist : s'.attachments = s.attachments.insert pageId (s.attachmentsOf pageId ++ [a]))
    (id : String) : s'.HasAttachment id ↔ s.HasAttachment id ∨ id = a.id := by
  have hmem : ∀ other b, b ∈ s'.attachmentsOf other ↔
      b ∈ s.attachmentsOf other ∨ other = pageId ∧ b = a := by
    intro other b
    by_cases hother : other = pageId
    · subst hother
      rw [attachmentsOf, hlist, SortedMap.get?_insert_self, Option.getD_some, List.mem_append,
        List.mem_singleton]
      exact or_congr_right (and_iff_right rfl).symm
    · rw [attachmentsOf, hlist, SortedMap.get?_insert_of_ne _ hother]
      exact (or_iff_left fun hnew => hother hnew.1).symm
  constructor
  · rintro ⟨other, b, hb, rfl⟩
    rcases (hmem other b).1 hb with hb | ⟨-, rfl⟩
    · exact Or.inl ⟨other, b, hb, rfl⟩
    · exact Or.inr rfl
  · rintro (⟨other, b, hb, rfl⟩ | rfl)
    · exact ⟨other, b, (hmem other b).2 (Or.inl hb), rfl⟩
    · exact ⟨pageId, a, (hmem pageId a).2 (Or.inr ⟨rfl, rfl⟩), rfl⟩

/-! ### Ids at the start -/

theorem built_plant {s : MemoryStore} (h : s.Built) (seed : Seed) : (s.plant seed).Built := by
  cases seed with
  | page id space title markup => exact h.page id space title markup
  | attachment pageId id title => exact h.attachment pageId id title
  | unreadable pageId status => exact h.unreadable pageId status
  | locked pageId status => exact h.locked pageId status

theorem built_plantAll {s : MemoryStore} (h : s.Built) (seeds : List Seed) :
    (seeds.foldl plant s).Built := by
  induction seeds generalizing s with
  | nil => exact h
  | cons seed seeds ih => exact ih (built_plant h seed)

theorem built_seeded (seeds : List Seed) : (seeded seeds).Built :=
  built_plantAll .empty seeds

theorem hasPage_plant_iff {s : MemoryStore} (h : s.Keyed) (seed : Seed) (id : String) :
    (s.plant seed).HasPage id ↔
      s.HasPage id ∨ ∃ space title markup, Seed.page id space title markup = seed := by
  cases seed with
  | page key space title markup =>
    rw [plant, hasPage_insert_iff h (p := buildPage key space title markup 1 none) rfl rfl]
    refine or_congr_right ⟨?_, ?_⟩
    · rintro rfl
      exact ⟨space, title, markup, rfl⟩
    · rintro ⟨_, _, _, heq⟩
      cases heq
      rfl
  | attachment pageId key title => exact (or_iff_left fun ⟨_, _, _, heq⟩ => nomatch heq).symm
  | unreadable pageId status => exact (or_iff_left fun ⟨_, _, _, heq⟩ => nomatch heq).symm
  | locked pageId status => exact (or_iff_left fun ⟨_, _, _, heq⟩ => nomatch heq).symm

theorem hasAttachment_plant_iff (s : MemoryStore) (seed : Seed) (id : String) :
    (s.plant seed).HasAttachment id ↔
      s.HasAttachment id ∨ ∃ pageId title, Seed.attachment pageId id title = seed := by
  cases seed with
  | attachment pageId key title =>
    rw [plant, withAttachment, hasAttachment_append_iff rfl]
    refine or_congr_right ⟨?_, ?_⟩
    · rintro rfl
      exact ⟨pageId, title, rfl⟩
    · rintro ⟨_, _, heq⟩
      cases heq
      rfl
  | page key space title markup => exact (or_iff_left fun ⟨_, _, heq⟩ => nomatch heq).symm
  | unreadable pageId status => exact (or_iff_left fun ⟨_, _, heq⟩ => nomatch heq).symm
  | locked pageId status => exact (or_iff_left fun ⟨_, _, heq⟩ => nomatch heq).symm

/-- The ids that were put in one after the other. -/
theorem has_plantAll_iff {Has : MemoryStore → String → Prop} {Puts : Seed → String → Prop}
    (hstep : ∀ s : MemoryStore, s.Built → ∀ seed id,
      Has (s.plant seed) id ↔ Has s id ∨ Puts seed id)
    {s : MemoryStore} (h : s.Built) (seeds : List Seed) (id : String) :
    Has (seeds.foldl plant s) id ↔ Has s id ∨ ∃ seed ∈ seeds, Puts seed id := by
  induction seeds generalizing s with
  | nil => simp only [List.foldl_nil, List.not_mem_nil, false_and, exists_false, or_false]
  | cons seed seeds ih =>
    rw [List.foldl_cons, ih (built_plant h seed), hstep s h, or_assoc]
    simp only [List.mem_cons, exists_eq_or_imp]

/-- The ids of the pages at the start. -/
theorem hasPage_seeded_iff (seeds : List Seed) (id : String) :
    (seeded seeds).HasPage id ↔ ∃ space title markup, Seed.page id space title markup ∈ seeds := by
  have hempty : ¬ MemoryStore.empty.HasPage id := fun ⟨_, _, hp, _⟩ => nomatch hp
  rw [seeded, has_plantAll_iff (fun s hs => hasPage_plant_iff hs.keyed) .empty, or_iff_right hempty]
  constructor
  · rintro ⟨_, hseed, space, title, markup, rfl⟩
    exact ⟨space, title, markup, hseed⟩
  · rintro ⟨space, title, markup, hseed⟩
    exact ⟨_, hseed, space, title, markup, rfl⟩

/-- The ids of the attachments at the start. -/
theorem hasAttachment_seeded_iff (seeds : List Seed) (id : String) :
    (seeded seeds).HasAttachment id ↔ ∃ pageId title, Seed.attachment pageId id title ∈ seeds := by
  have hempty : ¬ MemoryStore.empty.HasAttachment id := fun ⟨_, _, ha, _⟩ => nomatch ha
  rw [seeded, has_plantAll_iff (fun s _ => hasAttachment_plant_iff s) .empty, or_iff_right hempty]
  constructor
  · rintro ⟨_, hseed, pageId, title, rfl⟩
    exact ⟨pageId, title, hseed⟩
  · rintro ⟨pageId, title, hseed⟩
    exact ⟨_, hseed, pageId, title, rfl⟩

/-! ### Ids after a number of calls -/

/-- The ids of one kind in a store some calls later: none was lost, and every other
one has been given out. -/
structure IdsSince (Has : MemoryStore → String → Prop) (lead : String)
    (start s : MemoryStore) : Prop where
  kept : ∀ id, Has start id → Has s id
  added : ∀ id, Has s id → Has start id ∨ ∃ n < s.issued, id = issuedId lead n

namespace IdsSince

variable {Has : MemoryStore → String → Prop} {lead : String} {start s s' : MemoryStore}

theorem refl (s : MemoryStore) : IdsSince Has lead s s :=
  ⟨fun _ h => h, fun _ h => Or.inl h⟩

/-- A call takes no id away and adds the next one at most. -/
theorem step (h : IdsSince Has lead start s) (hissued : s.issued ≤ s'.issued)
    (hstep : (∀ id, Has s' id ↔ Has s id) ∨
      s.issued < s'.issued ∧ ∀ id, Has s' id ↔ Has s id ∨ id = s.nextId lead) :
    IdsSince Has lead start s' := by
  -- What has been given out before has been given out now.
  have hold : ∀ id, Has s id → Has start id ∨ ∃ n < s'.issued, id = issuedId lead n := by
    intro id hid
    refine (h.added id hid).imp_right ?_
    rintro ⟨n, hn, rfl⟩
    exact ⟨n, Nat.lt_of_lt_of_le hn hissued, rfl⟩
  rcases hstep with hsame | ⟨hnext, hids⟩
  · exact ⟨fun id hid => (hsame id).2 (h.kept id hid), fun id hid => hold id ((hsame id).1 hid)⟩
  · refine ⟨fun id hid => (hids id).2 (Or.inl (h.kept id hid)), fun id hid => ?_⟩
    rcases (hids id).1 hid with hid | rfl
    · exact hold id hid
    · exact Or.inr ⟨s.issued, hnext, rfl⟩

/-- The next id is as new as it was at the start: the counter has passed all that it
gave out. -/
theorem has_nextId_iff (h : IdsSince Has lead start s) :
    Has s (s.nextId lead) ↔ Has start (s.nextId lead) := by
  refine ⟨fun hid => ?_, h.kept _⟩
  rcases h.added _ hid with hstart | ⟨n, hn, heq⟩
  · exact hstart
  · have hsame := issuedId_inj ((nextId_eq s lead).symm.trans heq)
    omega

end IdsSince

/-- What every call preserves holds after all of them. -/
theorem answerAll_induction (Inv : MemoryStore → Prop)
    (step : ∀ s c, Inv s → Inv (s.answer c).2) {s : MemoryStore} (hs : Inv s)
    (calls : List StoreCall) : Inv (s.answerAll calls) := by
  induction calls generalizing s with
  | nil => exact hs
  | cons c calls ih =>
    rw [answerAll_cons]
    exact ih (step s c hs)

/-- A call adds a page under the next id, or leaves the ids of pages as they are. -/
theorem hasPage_answer_cases {s : MemoryStore} (h : s.Keyed) (c : StoreCall) :
    (∀ id, (s.answer c).2.HasPage id ↔ s.HasPage id) ∨
      s.issued < (s.answer c).2.issued ∧
        ∀ id, (s.answer c).2.HasPage id ↔ s.HasPage id ∨ id = s.nextId "" := by
  rcases pages_answer_cases s c with hsame | ⟨_, _, _, _, -, hissued, hpages⟩ |
    ⟨pageId, title, markup, old, -, -, hold, hpages⟩
  · refine Or.inl fun id => ?_
    unfold HasPage
    rw [hsame]
  · exact Or.inr ⟨by omega, hasPage_insert_iff h hpages rfl⟩
  · -- The place of a page that is updated was taken by the page.
    refine Or.inl fun id => ?_
    rw [hasPage_insert_iff h hpages rfl]
    refine or_iff_left_of_imp ?_
    rintro rfl
    exact (h.hasPage_iff _).2 ⟨old, hold⟩

theorem hasAttachment_answer_cases (s : MemoryStore) (c : StoreCall) :
    (∀ id, (s.answer c).2.HasAttachment id ↔ s.HasAttachment id) ∨
      s.issued < (s.answer c).2.issued ∧
        ∀ id, (s.answer c).2.HasAttachment id ↔ s.HasAttachment id ∨ id = s.nextId "att" := by
  rcases attachments_answer_cases s c with hsame | ⟨pageId, a, hupload⟩
  · refine Or.inl fun id => ?_
    unfold HasAttachment attachmentsOf
    rw [hsame]
  · rw [hupload]
    have hids : ∀ id, (s.upload pageId a).2.HasAttachment id ↔
        s.HasAttachment id ∨ id = s.nextId "att" :=
      hasAttachment_append_iff (a := ⟨s.nextId "att", a.filename, none⟩) rfl
    exact Or.inr ⟨Nat.lt_succ_self _, hids⟩

/-- The ids of pages after a number of calls. -/
theorem idsSince_page {start : MemoryStore} (h : start.Keyed) (calls : List StoreCall) :
    IdsSince HasPage "" start (start.answerAll calls) := by
  have hboth := answerAll_induction (fun s => s.Keyed ∧ IdsSince HasPage "" start s)
    (fun s c hs => ⟨hs.1.answer c,
      hs.2.step (answer_frame s c).2.2 (hasPage_answer_cases hs.1 c)⟩) ⟨h, .refl start⟩ calls
  exact hboth.2

/-- The ids of attachments after a number of calls. -/
theorem idsSince_attachment (start : MemoryStore) (calls : List StoreCall) :
    IdsSince HasAttachment "att" start (start.answerAll calls) :=
  answerAll_induction _
    (fun s c hs => hs.step (answer_frame s c).2.2 (hasAttachment_answer_cases s c))
    (.refl start) calls

/-! ### What is added and what stays -/

/-- A store with one page more, which takes the place of those with its id. -/
structure AddsPage (s : MemoryStore) (p : Page) (s' : MemoryStore) : Prop where
  page : s'.pages.get? p.id = some p
  others : ∀ key q, s.pages.get? key = some q → q.id ≠ p.id → s'.pages.get? key = some q
  attachments : s'.attachments = s.attachments
  data : s'.data = s.data

/-- A store with one attachment more, which takes over the content under its id. -/
structure AddsAttachment (s : MemoryStore) (pageId : String) (a : StoredAttachment)
    (content : Bytes) (s' : MemoryStore) : Prop where
  list : s'.attachmentsOf pageId = s.attachmentsOf pageId ++ [a]
  others : ∀ other, other ≠ pageId → s'.attachmentsOf other = s.attachmentsOf other
  content : s'.data.get? a.id = some content
  contents : ∀ id, id ≠ a.id → s'.data.get? id = s.data.get? id
  pages : s'.pages = s.pages

/-- A store with other content in the place of one page at most. -/
structure KeepsOthers (s : MemoryStore) (pageId : String) (s' : MemoryStore) : Prop where
  others : ∀ key, key ≠ pageId → s'.pages.get? key = s.pages.get? key
  attachments : s'.attachments = s.attachments
  data : s'.data = s.data

theorem addsPage_createPage {s : MemoryStore} (h : s.Keyed) (space title markup : String)
    (parent : Option String) :
    AddsPage s (s.createPage space title markup parent).1
      (s.createPage space title markup parent).2 := by
  refine ⟨SortedMap.get?_insert_self _ _ _, fun key q hq hne => ?_, rfl, rfl⟩
  -- The place of a page is its id.
  rw [h key q hq] at hne
  exact (SortedMap.get?_insert_of_ne _ hne _).trans hq

theorem addsAttachment_upload (s : MemoryStore) (pageId : String) (a : Attachment) :
    AddsAttachment s pageId (s.upload pageId a).1 a.data (s.upload pageId a).2 :=
  ⟨attachmentsOf_upload s pageId a, fun _ hother => attachmentsOf_upload_of_ne s hother a,
    SortedMap.get?_insert_self _ _ _, fun _ hid => SortedMap.get?_insert_of_ne _ hid _, rfl⟩

theorem keepsOthers_updatePage (s : MemoryStore) (pageId title markup : String)
    (base : UInt32) : KeepsOthers s pageId (s.updatePage pageId title markup base).2 := by
  rcases updatePage_cases s pageId title markup base with ⟨old, -, -, -, hupdate⟩ | ⟨e, hrefused⟩
  · rw [hupdate]
    exact ⟨fun _ hkey => SortedMap.get?_insert_of_ne _ hkey _, rfl, rfl⟩
  · rw [hrefused]
    exact ⟨fun _ _ => rfl, rfl, rfl⟩

/-- What a store keeps that was set up somehow and has answered any calls since. A new
page has an id that no page had exactly if the store was not set up with a page under
it, and pages with other ids stay as they are. A new attachment has an id that no
attachment had exactly if the store was not set up with one under it; attachments
stay where they are, and the content under other ids stays. An update changes no page
but the one that it names. -/
theorem seeded_keeps (seeds : List Seed) (calls : List StoreCall) :
    let s := (seeded seeds).answerAll calls
    (∀ space title markup parent, ∃ p s',
      s.answer (.createPage space title markup parent) = (.ok p, s') ∧
      (¬ s.HasPage p.id ↔ ∀ space title markup, Seed.page p.id space title markup ∉ seeds) ∧
      AddsPage s p s') ∧
    (∀ pageId a, ∃ b s', s.answer (.upload pageId a) = (.ok b, s') ∧
      (¬ s.HasAttachment b.id ↔ ∀ pageId title, Seed.attachment pageId b.id title ∉ seeds) ∧
      AddsAttachment s pageId b a.data s') ∧
    ∀ pageId title markup base,
      KeepsOthers s pageId (s.answer (.updatePage pageId title markup base)).2 := by
  intro s
  have hstart : (seeded seeds).Keyed := (built_seeded seeds).keyed
  have hpages : IdsSince HasPage "" (seeded seeds) s := idsSince_page hstart calls
  have hattachments : IdsSince HasAttachment "att" (seeded seeds) s := idsSince_attachment _ calls
  have hkeyed : s.Keyed := answerAll_induction _ (fun _ c hs => hs.answer c) hstart calls
  refine ⟨fun space title markup parent => ?_, fun pageId a => ?_, fun pageId title markup base =>
    keepsOthers_updatePage s pageId title markup base⟩
  · refine ⟨_, _, rfl, ?_, addsPage_createPage hkeyed space title markup parent⟩
    change ¬ s.HasPage (s.nextId "") ↔ ∀ space title markup,
      Seed.page (s.nextId "") space title markup ∉ seeds
    rw [hpages.has_nextId_iff, hasPage_seeded_iff]
    simp only [not_exists]
  · refine ⟨_, _, rfl, ?_, addsAttachment_upload s pageId a⟩
    change ¬ s.HasAttachment (s.nextId "att") ↔ ∀ pageId title,
      Seed.attachment pageId (s.nextId "att") title ∉ seeds
    rw [hattachments.has_nextId_iff, hasAttachment_seeded_iff]
    simp only [not_exists]

/-! ### Ids that are taken -/

/-- A page and an attachment under ids that the store is going to give out. -/
def takenIds : List Seed :=
  [.page "1001" "DOCS" "Old" "<p>Old</p>", .attachment "1001" "att1002" "old.png"]

/-- It is not so that new pages and attachments always have new ids and leave all else
as it is. A new page takes the place of one that was there, and a new attachment takes
over the content of one that was there. -/
theorem not_every_id_new :
    (¬ ∀ (seeds : List Seed) (calls : List StoreCall) (space title markup : String)
        (parent : Option String) (p : Page) (s' : MemoryStore),
      ((seeded seeds).answerAll calls).answer (.createPage space title markup parent) =
        (.ok p, s') →
      ¬ ((seeded seeds).answerAll calls).HasPage p.id ∧
        ∀ key q, ((seeded seeds).answerAll calls).pages.get? key = some q →
          s'.pages.get? key = some q) ∧
    ¬ ∀ (seeds : List Seed) (calls : List StoreCall) (pageId : String) (a : Attachment)
        (b : StoredAttachment) (s' : MemoryStore),
      ((seeded seeds).answerAll calls).answer (.upload pageId a) = (.ok b, s') →
      ¬ ((seeded seeds).answerAll calls).HasAttachment b.id ∧
        ∀ page, ∀ old ∈ ((seeded seeds).answerAll calls).attachmentsOf page,
          s'.data.get? old.id = ((seeded seeds).answerAll calls).data.get? old.id := by
  constructor
  · intro h
    rcases h takenIds [] "DOCS" "New" "<p>New</p>" none _ _ rfl with ⟨-, hkept⟩
    -- The old page is gone from its place.
    have hold := hkept "1001" (buildPage "1001" "DOCS" "Old" "<p>Old</p>" 1 none) (by decide)
    exact absurd hold (by decide)
  · intro h
    rcases h takenIds [.createPage "DOCS" "New" "<p>New</p>" none,
        .replace "1001" "att1002" ⟨"old.png", [1], "image/png"⟩] "7" ⟨"new.png", [2], "image/png"⟩
        _ _ rfl with ⟨-, hkept⟩
    have hold := hkept "1001" ⟨"att1002", "old.png", none⟩ (by decide)
    exact absurd hold (by decide)

end WikiSync.MemoryStore
