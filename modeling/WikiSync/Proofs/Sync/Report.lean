import Mathlib.Data.List.Basic
import WikiSync.Sync.Outcome

/-!
# Reports of Many Documents

What a report says about the documents it is about. Each of them is either among
the outcomes or among the failures, both in the order of the documents. The two
lists say no more than that: from them alone the documents cannot be put
together again, because nothing tells which of two neighbours came first. So the
documents are a shuffle of the two lists, and `Shuffle` is the relation between
the three.

## Main definitions

* `Shuffle`: A list made of two others, each in order.
* `SyncReport.append`: A report in front of another.

## Theorems

* `Shuffle.length_add`, `Shuffle.eq_iff`: Both lists together are the whole.
* `SyncReport.count_add`: Each outcome has one of three actions.
-/

namespace WikiSync

/-- A list made of two others, each of which keeps its order. -/
inductive Shuffle {α : Type} : List α → List α → List α → Prop
  | nil : Shuffle [] [] []
  | left (x : α) {xs ys zs : List α} (rest : Shuffle xs ys zs) : Shuffle (x :: xs) ys (x :: zs)
  | right (y : α) {xs ys zs : List α} (rest : Shuffle xs ys zs) : Shuffle xs (y :: ys) (y :: zs)

namespace Shuffle

variable {α : Type} {xs ys zs : List α}

theorem length_add (h : Shuffle xs ys zs) : xs.length + ys.length = zs.length := by
  induction h with
  | nil => rfl
  | left x rest ih => simp only [List.length_cons]; omega
  | right y rest ih => simp only [List.length_cons]; omega

theorem sublist (h : Shuffle xs ys zs) : xs.Sublist zs := by
  induction h with
  | nil => exact List.Sublist.slnil
  | left x rest ih => exact ih.cons_cons x
  | right y rest ih => exact ih.cons y

/-- The first list is the whole if the second one is empty. -/
theorem eq_iff (h : Shuffle xs ys zs) : xs = zs ↔ ys = [] := by
  constructor
  · rintro rfl
    have := h.length_add
    exact List.eq_nil_of_length_eq_zero (by omega)
  · rintro rfl
    exact h.sublist.eq_of_length h.length_add

end Shuffle

namespace SyncReport

/-- A report in front of another. -/
def append (r r' : SyncReport) : SyncReport :=
  ⟨r.outcomes ++ r'.outcomes, r.failures ++ r'.failures⟩

theorem cons_append (file : String) (result : Except StoreError SyncOutcome) (r r' : SyncReport) :
    (r.cons file result).append r' = (r.append r').cons file result := by
  rcases result with e | o
  · rfl
  · rfl

/-- Each outcome has one of three actions. -/
theorem count_add (r : SyncReport) :
    r.count .created + r.count .updated + r.count .skipped = r.outcomes.length := by
  unfold count
  induction r.outcomes with
  | nil => rfl
  | cons o os ih =>
    rcases o with ⟨file, title, pageId, url, action⟩
    -- The document counts for its own action only.
    cases action <;>
      simp only [BEq.rfl, beq_iff_eq, reduceCtorEq, not_false_eq_true, List.filter_cons_of_pos,
        List.filter_cons_of_neg, List.length_cons] <;>
      omega

end SyncReport

end WikiSync
