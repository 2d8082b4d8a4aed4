import WikiSync.Data.SortedMap

/-!
# Looking up in Sorted Maps

What a sorted map holds after an insertion. An insertion sets one key and
leaves every other key alone, and the entries it leaves are those that were
there before. This does not depend on the order of the entries: the lookup compares
keys for equality only, so an induction along the entries settles it. The order
matters where an entry is to be looked up, because it keeps keys from coming
twice.

## Theorems

* `SortedMap.get?_insert_self`, `SortedMap.get?_insert_of_ne`: The keys after
  an insertion.
* `SortedMap.pairwise_ne`: Keys do not repeat.
* `SortedMap.get?_of_mem`, `SortedMap.mem_of_get?`, `SortedMap.mem_keys_iff`:
  Lookups and entries.
* `SortedMap.find?_values_insert`: A value without a rival is found where it
  was inserted.
* `SortedMap.find?_values_insert_found`: A value is found in place of the one
  that was found before it.
* `SortedMap.find?_values_insert_of_ne`: What is found stays found when another
  entry changes into one that is not searched for.
* `SortedMap.find?_values_congr`: Two maps with the same values to search for.
-/

namespace WikiSync.SortedMap

variable {α : Type}

theorem lookup_insertEntry_self (key : String) (value : α) (es : List (String × α)) :
    (insertEntry key value es).lookup key = some value := by
  induction es with
  | nil => simp only [insertEntry, List.lookup_cons, beq_self_eq_true]
  | cons e rest ih =>
    rw [insertEntry]
    split
    · simp only [List.lookup_cons, beq_self_eq_true]
    · split
      · simp only [List.lookup_cons, beq_self_eq_true]
      · next hne =>
        have hkey : (key == e.1) = false := beq_eq_false_iff_ne.2 hne
        rw [List.lookup_cons, hkey]
        exact ih

theorem lookup_insertEntry_of_ne {key other : String} (h : other ≠ key) (value : α)
    (es : List (String × α)) : (insertEntry key value es).lookup other = es.lookup other := by
  have hkey : (other == key) = false := beq_eq_false_iff_ne.2 h
  induction es with
  | nil => simp only [insertEntry, List.lookup_cons, hkey, List.lookup_nil]
  | cons e rest ih =>
    rw [insertEntry]
    split
    · rw [List.lookup_cons, hkey]
    · split
      · next heq =>
        rw [List.lookup_cons, List.lookup_cons, hkey, ← heq, hkey]
      · rw [List.lookup_cons, List.lookup_cons, ih]

@[simp]
theorem get?_insert_self (m : SortedMap α) (key : String) (value : α) :
    (m.insert key value).get? key = some value :=
  lookup_insertEntry_self key value m.entries

theorem get?_insert_of_ne (m : SortedMap α) {key other : String} (h : other ≠ key) (value : α) :
    (m.insert key value).get? other = m.get? other :=
  lookup_insertEntry_of_ne h value m.entries

/-! ### Entries -/

/-- No key comes twice. -/
theorem pairwise_ne (m : SortedMap α) : m.entries.Pairwise fun a b => a.1 ≠ b.1 :=
  m.sorted.imp fun {a b} (hlt : a.1 < b.1) (heq : a.1 = b.1) => String.lt_irrefl a.1 (heq ▸ hlt)

theorem mem_of_get? {m : SortedMap α} {key : String} {value : α}
    (h : m.get? key = some value) : (key, value) ∈ m.entries := by
  rcases List.lookup_eq_some_iff.1 h with ⟨before, after, hentries, -⟩
  rw [hentries]
  exact List.mem_append_right _ List.mem_cons_self

/-- No key comes twice, so an entry is what is found under its key. -/
theorem get?_of_mem {m : SortedMap α} {e : String × α} (he : e ∈ m.entries) :
    m.get? e.1 = some e.2 := by
  rcases List.append_of_mem he with ⟨before, after, hentries⟩
  refine List.lookup_eq_some_iff.2 ⟨before, after, hentries, fun d hd => ?_⟩
  have hsorted := m.sorted
  rw [hentries] at hsorted
  have hlt := (List.pairwise_append.1 hsorted).2.2 d hd e List.mem_cons_self
  exact bne_iff_ne.2 fun heq => String.lt_irrefl d.1 (heq ▸ hlt)

theorem mem_keys_iff {m : SortedMap α} {key : String} : key ∈ m.keys ↔ m.get? key ≠ none := by
  rw [keys, List.mem_map, Option.ne_none_iff_exists']
  constructor
  · rintro ⟨e, he, rfl⟩
    exact ⟨e.2, get?_of_mem he⟩
  · rintro ⟨value, hvalue⟩
    exact ⟨(key, value), mem_of_get? hvalue, rfl⟩

/-! ### Values -/

theorem find?_insertEntry (key : String) (value : α) (p : α → Bool) (hvalue : p value = true)
    (es : List (String × α)) (h : (es.map (·.2)).find? p = none) :
    ((insertEntry key value es).map (·.2)).find? p = some value := by
  induction es with
  | nil => simp only [insertEntry, List.map_cons, List.find?_cons, hvalue]
  | cons e rest ih =>
    rw [List.map_cons, List.find?_cons] at h
    have hfirst : p e.2 = false := by
      rcases hp : p e.2 with _ | _
      · rfl
      · rw [hp] at h
        cases h
    rw [hfirst] at h
    rw [insertEntry]
    split
    · simp only [List.map_cons, List.find?_cons, hvalue]
    · split
      · simp only [List.map_cons, List.find?_cons, hvalue]
      · rw [List.map_cons, List.find?_cons, hfirst]
        exact ih h

/-- A value without a rival is found where it was inserted. -/
theorem find?_values_insert (m : SortedMap α) (key : String) (value : α) (p : α → Bool)
    (hvalue : p value = true) (h : m.values.find? p = none) :
    (m.insert key value).values.find? p = some value :=
  find?_insertEntry key value p hvalue m.entries h

theorem find?_insertEntry_found {key : String} {value found : α} {p : α → Bool}
    (hvalue : p value = true) (es : List (String × α))
    (hown : ∀ e ∈ es, e.2 = found → e.1 = key) (h : (es.map (·.2)).find? p = some found) :
    ((insertEntry key value es).map (·.2)).find? p = some value := by
  induction es with
  | nil => cases h
  | cons e rest ih =>
    rw [insertEntry]
    split
    · simp only [List.map_cons, List.find?_cons, hvalue]
    · split
      · simp only [List.map_cons, List.find?_cons, hvalue]
      · next hne =>
        rw [List.map_cons, List.find?_cons] at h ⊢
        rcases hp : p e.2 with _ | _
        · rw [hp] at h
          exact ih (fun d hd => hown d (List.mem_cons_of_mem _ hd)) h
        · -- Only the entry that is replaced has the value that was found.
          rw [hp] at h
          exact absurd (hown e List.mem_cons_self (Option.some.inj h)).symm hne

/-- A value is found in place of the one that was found before it. -/
theorem find?_values_insert_found (m : SortedMap α) {key : String} {value found : α}
    {p : α → Bool} (hvalue : p value = true) (hown : ∀ k, m.get? k = some found → k = key)
    (h : m.values.find? p = some found) : (m.insert key value).values.find? p = some value :=
  find?_insertEntry_found hvalue m.entries
    (fun e he hfound => hown e.1 ((get?_of_mem he).trans (congrArg some hfound))) h

theorem find?_insertEntry_of_ne (key : String) {value found : α} {p : α → Bool}
    (hvalue : p value = false) (es : List (String × α))
    (hother : ∀ old, es.lookup key = some old → old ≠ found)
    (h : (es.map (·.2)).find? p = some found) :
    ((insertEntry key value es).map (·.2)).find? p = some found := by
  induction es with
  | nil => cases h
  | cons e rest ih =>
    rw [insertEntry]
    split
    · rw [List.map_cons, List.find?_cons, hvalue]
      exact h
    · split
      · next heq =>
        -- The entry that is replaced is not the one that was found.
        have hfirst : e.2 ≠ found := hother e.2 (by rw [List.lookup_cons, heq, beq_self_eq_true])
        rw [List.map_cons, List.find?_cons] at h
        rw [List.map_cons, List.find?_cons, hvalue]
        rcases hp : p e.2 with _ | _
        · simpa only [hp] using h
        · rw [hp] at h
          exact absurd (Option.some.inj h) hfirst
      · next hne =>
        rw [List.map_cons, List.find?_cons] at h ⊢
        have hkey : (key == e.1) = false := beq_eq_false_iff_ne.2 hne
        rcases hp : p e.2 with _ | _
        · rw [hp] at h
          refine ih (fun old hold => hother old ?_) h
          rw [List.lookup_cons, hkey]
          exact hold
        · rw [hp] at h
          exact h

/-- What is found stays found when another entry changes into one that is not
searched for. -/
theorem find?_values_insert_of_ne (m : SortedMap α) (key : String) {value found : α}
    {p : α → Bool} (hvalue : p value = false)
    (hother : ∀ old, m.get? key = some old → old ≠ found) (h : m.values.find? p = some found) :
    (m.insert key value).values.find? p = some found :=
  find?_insertEntry_of_ne key hvalue m.entries hother h

/-! ### Searches in two maps -/

theorem mem_filter_iff (m : SortedMap α) (p : α → Bool) (e : String × α) :
    (e ∈ m.entries.filter fun e => p e.2) ↔ (m.get? e.1).filter p = some e.2 := by
  rw [List.mem_filter, Option.filter_eq_some_iff]
  exact and_congr_left fun _ => ⟨get?_of_mem, mem_of_get?⟩

/-- Two maps that have the same values to search for, under the same keys, have
the same first one. -/
theorem find?_values_congr {m m' : SortedMap α} {p : α → Bool}
    (h : ∀ k, (m.get? k).filter p = (m'.get? k).filter p) :
    m.values.find? p = m'.values.find? p := by
  have hsorted : ∀ n : SortedMap α,
      (n.entries.filter fun e => p e.2).Pairwise fun a b => a.1 < b.1 := fun n => n.sorted.filter _
  have hnodup : ∀ n : SortedMap α, (n.entries.filter fun e => p e.2).Nodup := fun n =>
    (hsorted n).imp fun {a b} (hlt : a.1 < b.1) (heq : a = b) =>
      String.lt_irrefl a.1 (heq ▸ hlt)
  -- What is left of the entries is the same, and there is only one order for it.
  have hperm : (m.entries.filter fun e => p e.2).Perm (m'.entries.filter fun e => p e.2) :=
    (List.perm_ext_iff_of_nodup (hnodup m) (hnodup m')).2 fun e => by
      rw [mem_filter_iff, mem_filter_iff, h e.1]
  have hentries : (m.entries.filter fun e => p e.2) = m'.entries.filter fun e => p e.2 :=
    hperm.eq_of_pairwise
      (fun a b _ _ hab hba => absurd (String.lt_trans hab hba) (String.lt_irrefl a.1))
      (hsorted m) (hsorted m')
  have hfirst : ∀ n : SortedMap α,
      n.values.find? p = (n.entries.filter fun e => p e.2).head?.map (·.2) := fun n => by
    rw [List.head?_filter, values, List.find?_map]
    rfl
  rw [hfirst m, hfirst m', hentries]

end WikiSync.SortedMap
