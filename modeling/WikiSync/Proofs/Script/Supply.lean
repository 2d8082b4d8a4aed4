import WikiSync.Proofs.Script.Run

/-!
# Answers That Do Not Change

A script over two environments, where the first one always answers the same
question alike. Files that nobody changes are such an environment, and so is a
diagram backend that draws by the source alone. Its answers can be filled into
the script once and for all, and what is left is a script over the second
environment. `Script.supply` fills them in, and `Machine.Answers.run` says that
nothing is lost by it.

The first machine is arbitrary. It may have a state of its own, a cache for
instance, as long as it does not show. So "it always answers alike" is a
property of a machine in a state, kept by every question, and a second run on
the machine meets the same answers as the first.

## Main definitions

* `Machine.Answers`: Every question has an answer of its own.
* `Machine.fixed`: A machine that answers by a function.
* `Script.supply`: Fills in the answers of the first of two environments.
* `Script.given`: The value of a script by given answers.
* `Script.Gives`: A script that asks nothing.

## Theorems

* `Machine.Answers.run`: A run is that of the script with the answers filled in.
* `Script.supply_bind`, `Script.supply_inr`, `Script.gives_supply_inl`: Filling
  in, part by part.
-/

namespace WikiSync

variable {I J : Interface} {σ τ α β : Type}

/-- Every question has an answer of its own: whatever was asked before, the
machine gives that one. -/
def Machine.Answers (m : Machine I σ) (f : (q : I.Question) → I.Answer q) (s : σ) : Prop :=
  ∀ (asked : List I.Question) (q : I.Question),
    (m.answer q (asked.foldl (fun s q => (m.answer q s).2) s)).1 = f q

/-- A machine that answers by a function. -/
def Machine.fixed (f : (q : I.Question) → I.Answer q) : Machine I Unit where
  answer q s := (f q, s)

namespace Script

/-- Fills in the answers of the first of two environments. -/
def supply (f : (q : I.Question) → I.Answer q) : Script (I.sum J) α → Script J α
  | done value => done value
  | note entry next => note entry (next.supply f)
  | ask (.inl q) next => (next (f q)).supply f
  | ask (.inr q) next => ask q fun a => (next a).supply f

/-- The value of a script by given answers. -/
def given (f : (q : I.Question) → I.Answer q) : Script I α → α
  | done value => value
  | note _ next => next.given f
  | ask q next => (next (f q)).given f

/-- A script that asks nothing, with its value. -/
def Gives : Script I α → α → Prop
  | done value, a => value = a
  | note _ next, a => next.Gives a
  | ask _ _, _ => False

end Script

namespace Machine.Answers

variable {m : Machine I σ} {n : Machine J τ} {f : (q : I.Question) → I.Answer q}

theorem answer {s : σ} (h : m.Answers f s) (q : I.Question) : (m.answer q s).1 = f q :=
  h [] q

theorem next {s : σ} (h : m.Answers f s) (q : I.Question) : m.Answers f (m.answer q s).2 :=
  fun asked r => h (q :: asked) r

/-- A machine that stays as it is has answers that do not change. -/
theorem of_answer {s : σ} (h : ∀ q, m.answer q s = (f q, s)) : m.Answers f s := by
  intro asked
  induction asked with
  | nil => exact fun q => congrArg Prod.fst (h q)
  | cons r asked ih =>
    rw [List.foldl_cons, congrArg Prod.snd (h r)]
    exact ih

theorem fixed (f : (q : I.Question) → I.Answer q) : (Machine.fixed f).Answers f () :=
  of_answer fun _ => rfl

/-- A run on two machines, of which the first always answers alike, is a run on
the second with the answers filled in. -/
theorem run (x : Script (I.sum J) α) {s : σ} (h : m.Answers f s) (t : τ) :
    (x.run (m.sum n) (s, t)).value = ((x.supply f).run n t).value ∧
      (x.run (m.sum n) (s, t)).state.2 = ((x.supply f).run n t).state ∧
      (x.run (m.sum n) (s, t)).asked.filterMap Sum.getRight? = ((x.supply f).run n t).asked ∧
      m.Answers f (x.run (m.sum n) (s, t)).state.1 := by
  induction x generalizing s t with
  | done value => exact ⟨rfl, rfl, rfl, h⟩
  | note entry next ih => exact ih h t
  | ask q next ih =>
    rcases q with q | q
    · -- The answer is the one that was filled in.
      have hnext := ih (m.answer q s).1 (h.next q) t
      rw [h.answer q] at hnext
      simp only [Script.run, Script.supply, Machine.sum]
      rw [h.answer q]
      exact hnext
    · rcases ih (n.answer q t).1 h (n.answer q t).2 with ⟨hvalue, hstate, hasked, hanswers⟩
      exact ⟨hvalue, hstate, congrArg (q :: ·) hasked, hanswers⟩

end Machine.Answers

namespace Script

variable {f : (q : I.Question) → I.Answer q}

/-! ### Filling in, part by part -/

theorem supply_bind (x : Script (I.sum J) α) (g : α → Script (I.sum J) β) :
    (x >>= g).supply f = x.supply f >>= fun a => (g a).supply f := by
  change (x.bind g).supply f = (x.supply f).bind fun a => (g a).supply f
  induction x with
  | done value => rfl
  | note entry next ih => exact congrArg (note entry) ih
  | ask q next ih =>
    rcases q with q | q
    · exact ih (f q)
    · exact congrArg (ask q) (funext fun a => ih a)

/-- What is asked of the second environment is left as it is. -/
theorem supply_inr (x : Script J α) : (x.inr : Script (I.sum J) α).supply f = x := by
  induction x with
  | done value => rfl
  | note entry next ih => exact congrArg (note entry) ih
  | ask q next ih => exact congrArg (ask q) (funext fun a => ih a)

/-- What is asked of the first environment is answered. -/
theorem gives_supply_inl (x : Script I α) :
    ((x.inl : Script (I.sum J) α).supply f).Gives (x.given f) := by
  induction x with
  | done value => rfl
  | note entry next ih => exact ih
  | ask q next ih => exact ih (f q)

/-! ### Scripts that ask nothing -/

theorem Gives.bind {x : Script I α} {a : α} (hx : x.Gives a) {g : α → Script I β} {b : β}
    (hg : (g a).Gives b) : (x >>= g).Gives b := by
  change (x.bind g).Gives b
  induction x with
  | done value =>
    cases hx
    exact hg
  | note entry next ih => exact ih hx
  | ask q next ih => exact hx.elim

/-- Filling in more answers changes nothing. -/
theorem Gives.supply {x : Script (I.sum J) α} {a : α} (hx : x.Gives a) :
    (x.supply f).Gives a := by
  induction x with
  | done value => exact hx
  | note entry next ih => exact ih hx
  | ask q next ih => exact hx.elim

theorem Gives.run {x : Script I α} {a : α} (hx : x.Gives a) (m : Machine I σ) (s : σ) :
    (x.run m s).value = a ∧ (x.run m s).state = s ∧ (x.run m s).asked = [] := by
  induction x with
  | done value => exact ⟨hx, rfl, rfl⟩
  | note entry next ih => exact ih hx
  | ask q next ih => exact hx.elim

/-- A script that asks nothing, with what follows it. -/
theorem Gives.run_bind {x : Script I α} {a : α} (hx : x.Gives a) (g : α → Script I β)
    (m : Machine I σ) (s : σ) :
    ((x >>= g).run m s).value = ((g a).run m s).value ∧
      ((x >>= g).run m s).state = ((g a).run m s).state ∧
      ((x >>= g).run m s).asked = ((g a).run m s).asked := by
  rcases hx.run m s with ⟨hvalue, hstate, hasked⟩
  rw [Script.run_bind, hvalue, hstate]
  refine ⟨rfl, rfl, ?_⟩
  simp only [Run.follow, hasked, List.nil_append]

end Script

end WikiSync
