import WikiSync.Store.Memory

/-!
# Stores with Faults

A store in memory in front of which any call can fail. What is to go wrong is
written down beforehand, one entry for each call to come: an entry with an
error makes its call fail with that error, and the call does not reach the
store. A call without an entry reaches it. In this way every pattern of
failures over finitely many calls is a list, and a statement about all lists
is a statement about all patterns.

## Main definitions

* `FaultyStore`: The type.
* `FaultyStore.machine`: The store as a machine.

## Theorems

* `FaultyStore.answer_cases`: A call fails and leaves the store alone, or is
  answered by it.
* `FaultyStore.store_answer`: What a call preserves in either case.
-/

namespace WikiSync

/-- A store in memory, with what is to go wrong with the next calls. -/
structure FaultyStore where
  store : MemoryStore
  faults : List (Option StoreError)

namespace FaultyStore

/-- What a call gives and what it does to the store. -/
def answer (s : FaultyStore) (c : StoreCall) : Except StoreError c.Result × FaultyStore :=
  match s.faults.head?.join with
  | some e => (.error e, ⟨s.store, s.faults.tail⟩)
  | none => ((s.store.answer c).1, ⟨(s.store.answer c).2, s.faults.tail⟩)

/-- The store as a machine. -/
def machine : Machine Store FaultyStore where
  answer c s := s.answer c

/-- A call fails and leaves the store alone, or the store answers it. -/
theorem answer_cases (s : FaultyStore) (c : StoreCall) :
    (∃ e, machine.answer c s = (.error e, ⟨s.store, s.faults.tail⟩)) ∨
      machine.answer c s = ((s.store.answer c).1, ⟨(s.store.answer c).2, s.faults.tail⟩) := by
  change (∃ e, s.answer c = (.error e, ⟨s.store, s.faults.tail⟩)) ∨
    s.answer c = ((s.store.answer c).1, ⟨(s.store.answer c).2, s.faults.tail⟩)
  unfold answer
  rcases s.faults.head?.join with _ | e
  · exact Or.inr rfl
  · exact Or.inl ⟨e, rfl⟩

/-- What is true of a store, and is still true if it answers, is true after the
call. -/
theorem store_answer (Inv : MemoryStore → Prop) {s : FaultyStore} (c : StoreCall)
    (hs : Inv s.store) (h : Inv (s.store.answer c).2) : Inv (machine.answer c s).2.store := by
  rcases answer_cases s c with ⟨e, hanswer⟩ | hanswer
  · rw [hanswer]
    exact hs
  · rw [hanswer]
    exact h

end FaultyStore

end WikiSync
