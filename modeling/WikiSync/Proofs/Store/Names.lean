import WikiSync.Proofs.Store.Pages

/-!
# The Names of Pages

A page is looked up by its space and its title, and together they are its name.
Nothing in a store in memory keeps two pages from having the same one. A lookup
then finds one of them, and which it is depends on their ids, so a page that is
written later can hide another.

Calls can be chosen such that this does not happen. A page may be created under a
name that no page has, and a page may be updated under the name that it has
already. `Spares` says this of a call and a store, and from calls like these
every name keeps the page that it has. `named_answer_iff` is the one statement
about a step from which the others are read off.

A new page could still take the place of another one, if a page has an id that
the store is going to give out. `Fresh` rules this out, and it stays ruled out.

## Main definitions

* `Named`: The page with an id has a name.
* `Distinct`, `Fresh`: One page for a name, and one for an id.
* `WellNamed`: Both, for a store that keeps its pages under their ids.
* `Spares`: A call that suits the names in a store.

## Theorems

* `named_answer_iff`: Which names there are after a call.
* `WellNamed.answer`: They are well chosen if they were before.
* `named_of_findPage`, `findPage_eq_none_iff`: Lookups.
-/

namespace WikiSync.MemoryStore

/-- There is a page with an id, and it has a space and a title. -/
def Named (s : MemoryStore) (id space title : String) : Prop :=
  ∃ p, s.pages.get? id = some p ∧ p.space = some space ∧ p.title = title

/-- No two pages share a space and a title. -/
def Distinct (s : MemoryStore) : Prop :=
  ∀ id id' space title, s.Named id space title → s.Named id' space title → id = id'

/-- No page has an id that the store is going to give out. -/
def Fresh (s : MemoryStore) : Prop :=
  ∀ n, s.issued ≤ n → s.pages.get? (issuedId "" n) = none

/-- Names and ids that stand for one page each. -/
structure WellNamed (s : MemoryStore) : Prop where
  keyed : s.Keyed
  distinct : s.Distinct
  fresh : s.Fresh

/-- A call that creates pages only under names that are free, and lets pages keep
the names that they have. -/
def Spares (s : MemoryStore) : StoreCall → Prop
  | .createPage space title _ _ => ∀ id, ¬ s.Named id space title
  | .updatePage pageId title _ _ => ∃ space, s.Named pageId space title
  | _ => True

/-! ### Lookups -/

theorem named_of_findPage {s : MemoryStore} (h : s.Keyed) {space title : String} {p : Page}
    (hfound : s.findPage space title = some p) : s.Named p.id space title := by
  rcases get?_of_findPage h hfound with ⟨hget, htitle, hspace⟩
  exact ⟨p, hget, hspace, htitle⟩

theorem findPage_eq_none_iff (s : MemoryStore) (space title : String) :
    s.findPage space title = none ↔ ∀ id, ¬ s.Named id space title := by
  unfold findPage
  rw [List.find?_eq_none]
  constructor
  · rintro hnone id ⟨p, hget, hspace, htitle⟩
    have hp : p ∈ s.pages.values := List.mem_map.2 ⟨_, SortedMap.mem_of_get? hget, rfl⟩
    exact hnone p hp (by simp [hspace, htitle])
  · intro hnone p hp hmatch
    rcases List.mem_map.1 hp with ⟨e, he, rfl⟩
    rw [Bool.and_eq_true, beq_iff_eq, beq_iff_eq] at hmatch
    exact hnone e.1 ⟨e.2, SortedMap.get?_of_mem he, hmatch.2, hmatch.1⟩

/-! ### Calls -/

/-- Putting a page in a place gives its name to the id of that place. -/
theorem named_insert {s s' : MemoryStore} {key : String} {p : Page}
    (hpages : s'.pages = s.pages.insert key p) (id space title : String) :
    s'.Named id space title ↔
      id = key ∧ p.space = some space ∧ p.title = title ∨ id ≠ key ∧ s.Named id space title := by
  unfold Named
  rw [hpages]
  by_cases hid : id = key
  · subst hid
    simp [SortedMap.get?_insert_self]
  · simp [SortedMap.get?_insert_of_ne _ hid, hid]

/-- A call that suits the names leaves them as they are, but for that of a page
that it creates. -/
theorem named_answer_iff {s : MemoryStore} (h : s.Fresh) {c : StoreCall} (hc : s.Spares c)
    (id space title : String) :
    (s.answer c).2.Named id space title ↔
      s.Named id space title ∨
        id = s.nextId "" ∧ ∃ markup parent, c = .createPage space title markup parent := by
  rcases pages_answer_cases s c with hsame | ⟨space', title', markup, parent, rfl, -, hpages⟩ |
    ⟨pageId, title', markup, old, rfl, -, hold, hpages⟩
  · constructor
    · rintro ⟨p, hget, hname⟩
      rw [hsame] at hget
      exact Or.inl ⟨p, hget, hname⟩
    · rintro (⟨p, hget, hname⟩ | ⟨rfl, markup, parent, rfl⟩)
      · exact ⟨p, hsame ▸ hget, hname⟩
      · exact (named_insert rfl _ _ _).2 (Or.inl ⟨rfl, rfl, rfl⟩)
  · -- The place of the new page was empty.
    have hfree : s.pages.get? (s.nextId "") = none := h s.issued (Nat.le_refl _)
    rw [named_insert hpages]
    constructor
    · rintro (⟨rfl, hspace, htitle⟩ | ⟨-, hnamed⟩)
      · cases hspace
        cases htitle
        exact Or.inr ⟨rfl, markup, parent, rfl⟩
      · exact Or.inl hnamed
    · rintro (⟨p, hget, hname⟩ | ⟨rfl, markup', parent', hc⟩)
      · refine Or.inr ⟨fun heq => ?_, p, hget, hname⟩
        rw [heq, hfree] at hget
        cases hget
      · cases hc
        exact Or.inl ⟨rfl, rfl, rfl⟩
  · -- The page keeps its space in any case, and here its title as well.
    rcases hc with ⟨key, p, hthere, hspace, htitle⟩
    cases hold.symm.trans hthere
    have hkept : ∀ space title, (updated old pageId title' markup).space = some space ∧
        (updated old pageId title' markup).title = title ↔
          old.space = some space ∧ old.title = title := by
      intro space title
      simp [updated, buildPage, hspace, htitle]
    rw [named_insert hpages, hkept]
    constructor
    · rintro (⟨rfl, hname⟩ | ⟨-, hnamed⟩)
      · exact Or.inl ⟨old, hold, hname⟩
      · exact Or.inl hnamed
    · rintro (⟨p, hget, hname⟩ | ⟨-, _, _, hcreate⟩)
      · by_cases hid : id = pageId
        · subst hid
          cases hold.symm.trans hget
          exact Or.inl ⟨rfl, hname⟩
        · exact Or.inr ⟨hid, p, hget, hname⟩
      · cases hcreate

theorem Named.answer {s : MemoryStore} {id space title : String} (h : s.Named id space title)
    (hfresh : s.Fresh) {c : StoreCall} (hc : s.Spares c) :
    (s.answer c).2.Named id space title :=
  (named_answer_iff hfresh hc id space title).2 (Or.inl h)

theorem Fresh.answer {s : MemoryStore} (h : s.Fresh) (c : StoreCall) : (s.answer c).2.Fresh := by
  have hissued := (answer_frame s c).2.2
  intro n hn
  have hfree := h n (Nat.le_trans hissued hn)
  rcases pages_answer_cases s c with hsame | ⟨_, _, _, _, -, hnext, hpages⟩ |
    ⟨pageId, _, _, old, -, -, hold, hpages⟩
  · rw [hsame]
    exact hfree
  · rw [hpages, SortedMap.get?_insert_of_ne _ fun heq => ?_]
    · exact hfree
    · have hsame := issuedId_inj (heq.trans (nextId_eq s ""))
      omega
  · rw [hpages, SortedMap.get?_insert_of_ne _ fun heq => ?_]
    · exact hfree
    · rw [heq, hold] at hfree
      cases hfree

theorem wellNamed_empty : MemoryStore.empty.WellNamed :=
  ⟨Built.empty.keyed, fun _ _ _ _ hnamed => (nomatch hnamed.choose_spec.1), fun _ _ => rfl⟩

/-- Calls that suit the names leave them well chosen. -/
theorem WellNamed.answer {s : MemoryStore} (h : s.WellNamed) {c : StoreCall} (hc : s.Spares c) :
    (s.answer c).2.WellNamed := by
  refine ⟨h.keyed.answer c, fun id id' space title hid hid' => ?_, h.fresh.answer c⟩
  rcases (named_answer_iff h.fresh hc id space title).1 hid with hold | ⟨rfl, _, _, rfl⟩
  · rcases (named_answer_iff h.fresh hc id' space title).1 hid' with hold' | ⟨-, _, _, rfl⟩
    · exact h.distinct id id' space title hold hold'
    · exact absurd hold (hc id)
  · rcases (named_answer_iff h.fresh hc id' space title).1 hid' with hold' | ⟨rfl, -⟩
    · exact absurd hold' (hc id')
    · rfl

end WikiSync.MemoryStore
