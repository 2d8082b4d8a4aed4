import WikiSync.Proofs.Store.Pages

/-!
# How Pages Age

What can become of the pages of a store in memory while it answers calls, of
whomever. No page goes away. The version of a page never falls, and as long as
it stays the same, so does the whole page: an update is the only way to change
a page, and it counts the version up. This is what makes a version number
stand for a content, and it is all that a client needs to know about what
others do to a store.

Two things could spoil it. A page that is created gets an id that the store
makes up, and a page with that id could be there already. And versions are 32
bits wide, so the last one is followed by zero. Both are named where they are
ruled out. That created pages do not overwrite each other has to be proved, and
`Grown` is the bookkeeping for it.

## Main definitions

* `Later`: A store, and the same store some calls later.
* `Grown`: Where the pages of a store come from.

## Theorems

* `Later.trans`: More happens.
* `later_answer`: What a call does.
* `Grown.missing_nextId`: A new page has a new id.
-/

namespace WikiSync.MemoryStore

/-! ### Versions -/

/-- Every page has a version that another one can follow. -/
def VersionsBelowLast (s : MemoryStore) : Prop :=
  ∀ id p, s.pages.get? id = some p → p.version.number.toNat < UInt32.size - 1

/-- An update counts the version up by one. -/
theorem toNat_version_updated {old : Page} (h : old.version.number.toNat < UInt32.size - 1)
    (pageId title markup : String) :
    (updated old pageId title markup).version.number.toNat = old.version.number.toNat + 1 := by
  have hsum : (old.version.number + 1).toNat = (old.version.number.toNat + 1) % 2 ^ 32 :=
    UInt32.toNat_add _ _
  have hsize : UInt32.size = 2 ^ 32 := rfl
  change (old.version.number + 1).toNat = _
  rw [hsum, Nat.mod_eq_of_lt]
  omega

/-! ### Later stores -/

/-- A store, and the same store some calls later. -/
structure Later (s s' : MemoryStore) : Prop where
  locked : s'.locked = s.locked
  /-- A page is still there. It is newer, or it is the same; and it is the same
  if it cannot be updated. -/
  page : ∀ id p, s.pages.get? id = some p → ∃ p', s'.pages.get? id = some p' ∧
    p.version.number.toNat ≤ p'.version.number.toNat ∧
    (p'.version.number = p.version.number → p' = p) ∧
    (s.locked.get? id ≠ none → p' = p)

theorem Later.trans {s s' s'' : MemoryStore} (h : Later s s') (h' : Later s' s'') :
    Later s s'' := by
  refine ⟨h'.locked.trans h.locked, fun id p hp => ?_⟩
  rcases h.page id p hp with ⟨p', hp', hle, hsame, hlocked⟩
  rcases h'.page id p' hp' with ⟨p'', hp'', hle', hsame', hlocked'⟩
  refine ⟨p'', hp'', Nat.le_trans hle hle', fun heq => ?_, fun hl => ?_⟩
  · -- The version between two equal ones is the same.
    have hbetween : p'.version.number = p.version.number := by
      rw [heq] at hle'
      exact UInt32.toNat_inj.1 (Nat.le_antisymm hle' hle)
    exact (hsame' (heq.trans hbetween.symm)).trans (hsame hbetween)
  · exact (hlocked' (by rw [h.locked]; exact hl)).trans (hlocked hl)

/-- A page that is put in the place of another leaves every other page as it
is. -/
theorem later_insert {s s' : MemoryStore} {id : String} {new : Page}
    (hlocked : s'.locked = s.locked) (hpages : s'.pages = s.pages.insert id new)
    (hnewer : ∀ old, s.pages.get? id = some old → s.locked.get? id = none ∧
      old.version.number.toNat < new.version.number.toNat) : Later s s' := by
  refine ⟨hlocked, fun other p hp => ?_⟩
  rw [hpages]
  by_cases hother : other = id
  · subst hother
    rcases hnewer p hp with ⟨hunlocked, hlt⟩
    refine ⟨new, SortedMap.get?_insert_self _ _ _, Nat.le_of_lt hlt, fun heq => ?_, fun hl => ?_⟩
    · rw [heq] at hlt
      exact absurd hlt (Nat.lt_irrefl _)
    · exact absurd hunlocked hl
  · refine ⟨p, ?_, Nat.le_refl _, fun _ => rfl, fun _ => rfl⟩
    rw [SortedMap.get?_insert_of_ne _ hother]
    exact hp

/-- A call only makes pages newer, if no page is in the place of a new one. -/
theorem later_answer (s : MemoryStore) (c : StoreCall) (hbelow : s.VersionsBelowLast)
    (hnew : ∀ space title markup parent, c = .createPage space title markup parent →
      s.pages.get? (s.nextId "") = none) : Later s (s.answer c).2 := by
  have hlocked := (answer_frame s c).1
  rcases pages_answer_cases s c with hsame | ⟨_, _, _, _, hc, -, hpages⟩ |
    ⟨_, _, _, old, -, hunlocked, hold, hpages⟩
  · refine ⟨hlocked, fun id p hp => ⟨p, ?_, Nat.le_refl _, fun _ => rfl, fun _ => rfl⟩⟩
    rw [hsame]
    exact hp
  · refine later_insert hlocked hpages fun q hq => ?_
    rw [hnew _ _ _ _ hc] at hq
    cases hq
  · refine later_insert hlocked hpages fun q hq => ⟨hunlocked, ?_⟩
    cases hold.symm.trans hq
    rw [toNat_version_updated (hbelow _ _ hold)]
    exact Nat.lt_succ_self _

/-! ### Where pages come from -/

/-- Every page was there at the start or has an id that was given out since the
store was empty. -/
structure Grown (start s : MemoryStore) : Prop where
  issued : start.issued ≤ s.issued
  page : ∀ id p, s.pages.get? id = some p →
    start.pages.get? id ≠ none ∨ ∃ n < s.issued, id = issuedId "" n

theorem Grown.refl (s : MemoryStore) : Grown s s :=
  ⟨Nat.le_refl _, fun _ _ hp => Or.inl fun hnone => by simp [hnone] at hp⟩

theorem Grown.answer {start s : MemoryStore} (h : Grown start s) (c : StoreCall) :
    Grown start (s.answer c).2 := by
  have hissued := (answer_frame s c).2.2
  -- An id that was given out before is one that was given out before now.
  have hold : ∀ id p, s.pages.get? id = some p →
      start.pages.get? id ≠ none ∨ ∃ n < (s.answer c).2.issued, id = issuedId "" n := by
    intro id p hp
    refine (h.page id p hp).imp_right ?_
    rintro ⟨n, hn, rfl⟩
    exact ⟨n, Nat.lt_of_lt_of_le hn hissued, rfl⟩
  refine ⟨Nat.le_trans h.issued hissued, fun id p hp => ?_⟩
  rcases pages_answer_cases s c with hsame | ⟨_, _, _, _, -, hnext, hpages⟩ |
    ⟨pageId, _, _, old, -, -, hthere, hpages⟩
  · rw [hsame] at hp
    exact hold id p hp
  · by_cases hid : id = s.nextId ""
    · exact Or.inr ⟨s.issued, by omega, hid.trans (nextId_eq s "")⟩
    · rw [hpages, SortedMap.get?_insert_of_ne _ hid] at hp
      exact hold id p hp
  · by_cases hid : id = pageId
    · subst hid
      exact hold id old hthere
    · rw [hpages, SortedMap.get?_insert_of_ne _ hid] at hp
      exact hold id p hp

/-- A new page has a new id, if no page at the start had it. -/
theorem Grown.missing_nextId {start s : MemoryStore} (h : Grown start s)
    (hfree : start.pages.get? (s.nextId "") = none) : s.pages.get? (s.nextId "") = none := by
  rcases hget : s.pages.get? (s.nextId "") with _ | p
  · rfl
  · rcases h.page _ p hget with hthere | ⟨n, hn, heq⟩
    · exact absurd hfree hthere
    · have hsame := issuedId_inj ((nextId_eq s "").symm.trans heq)
      omega

end WikiSync.MemoryStore
