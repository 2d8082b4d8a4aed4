import WikiSync.Script

/-!
# What Scripts May Give

A bound on the values of a script that holds whatever it is told. It is the
counterpart of a bound on its questions. What is true of every value that a
script may come to is true of the value of every run, on any machine, so a fact
such as "the outcome names the document that was synced" needs no machine at
all.

A script that may fail has such a bound on what it gives if it succeeds. There
the first part of a sequence never matters, which is `yields_bindExcept`.

## Main definitions

* `Script.Yields`: Every value that a script may come to has a property.
* `IfOk`: A property of what a success gives.

## Theorems

* `Script.yields_bind`, `Script.yields_bindExcept`: Sequencing.
* `Script.yields_inr`: A script over the second of two environments.
* `Script.Yields.run`: The value of a run.
-/

namespace WikiSync

/-- A property of what a success gives. -/
def IfOk {ε α : Type} (P : α → Prop) : Except ε α → Prop
  | .ok a => P a
  | .error _ => True

namespace Script

variable {I J : Interface} {σ α β ε : Type} {P : α → Prop} {Q : β → Prop}

/-- Every value that a script may come to has a property, whatever it is told. -/
def Yields (P : α → Prop) : Script I α → Prop
  | done value => P value
  | note _ next => next.Yields P
  | ask _ next => ∀ a, (next a).Yields P

theorem yields_bind {x : Script I α} {f : α → Script I β} (hx : x.Yields P)
    (hf : ∀ a, P a → (f a).Yields Q) : (x >>= f).Yields Q := by
  change (x.bind f).Yields Q
  induction x with
  | done value => exact hf value hx
  | note entry next ih => exact ih hx
  | ask q next ih => exact fun a => ih a (hx a)

theorem yields_true (x : Script I α) : x.Yields fun _ => True := by
  induction x with
  | done value => trivial
  | note entry next ih => exact ih
  | ask q next ih => exact ih

/-- A failure gives nothing. -/
theorem yields_bindExcept {x : ExceptT ε (Script I) α} {f : α → ExceptT ε (Script I) β}
    (hf : ∀ a, (f a).run.Yields (IfOk Q)) : (x >>= f).run.Yields (IfOk Q) := by
  rw [ExceptT.run_bind]
  refine yields_bind (yields_true _) fun r _ => ?_
  rcases r with e | a
  · exact trivial
  · exact hf a

theorem yields_inr {x : Script J α} (hx : x.Yields P) :
    (x.inr : Script (I.sum J) α).Yields P := by
  induction x with
  | done value => exact hx
  | note entry next ih => exact ih hx
  | ask q next ih => exact fun a => ih a (hx a)

/-- The value of a run. -/
theorem Yields.run {x : Script I α} (hx : x.Yields P) (m : Machine I σ) (s : σ) :
    P (x.run m s).value := by
  induction x generalizing s with
  | done value => exact hx
  | note entry next ih => exact ih hx s
  | ask q next ih => exact ih _ (hx _) _

end Script

end WikiSync
