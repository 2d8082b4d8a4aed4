import WikiSync.Proofs.Script.Asks

/-!
# Questions along a Run

What is true of every question of a run, together with the machine that it is
asked of. A bound on what a script may ask does not mention the machine, so it
cannot say that a page is created only where there is none. That is true of the
runs from some machines, and it is true because of what the machine has answered
before.

What every question preserves holds before each of them and after the last one.
A statement of this kind is what an invariant needs: the step may use that the
question suits the machine, and the machine is the one that the steps before have
left.

## Main definitions

* `Script.Along`: Every question of a run suits the machine that it is asked of.

## Theorems

* `Script.along_bind`, `Script.along_bindExcept`: Sequencing.
* `Script.Asks.along`: What suits every machine.
* `Script.Along.state`, `Script.Along.and`: An invariant of a run.
-/

namespace WikiSync.Script

variable {I : Interface} {σ α β ε : Type} (m : Machine I σ) {P : I.Question → σ → Prop}

/-- Every question of a run has a property, with the machine before it. -/
def Along (P : I.Question → σ → Prop) : Script I α → σ → Prop
  | done _, _ => True
  | note _ next, s => next.Along P s
  | ask q next, s => P q s ∧ (next (m.answer q s).1).Along P (m.answer q s).2

/-! ### Sequencing -/

theorem along_bind {x : Script I α} {f : α → Script I β} {s : σ} (hx : x.Along m P s)
    (hf : (f (x.run m s).value).Along m P (x.run m s).state) : (x >>= f).Along m P s := by
  change (x.bind f).Along m P s
  induction x generalizing s with
  | done value => exact hf
  | note entry next ih => exact ih hx hf
  | ask q next ih => exact ⟨hx.1, ih _ hx.2 hf⟩

/-- A failure asks nothing more. -/
theorem along_bindExcept {x : ExceptT ε (Script I) α} {f : α → ExceptT ε (Script I) β} {s : σ}
    (hx : x.run.Along m P s)
    (hf : ∀ a, (x.run.run m s).value = .ok a → (f a).run.Along m P (x.run.run m s).state) :
    (x >>= f).run.Along m P s := by
  rw [ExceptT.run_bind]
  refine along_bind m hx ?_
  rcases hvalue : (x.run.run m s).value with e | a
  · trivial
  · exact hf a hvalue

/-- What may be asked of any machine may be asked of the ones that a run meets. -/
theorem Asks.along {Q : I.Question → Prop} {x : Script I α} (hx : x.Asks Q)
    (h : ∀ q s, Q q → P q s) (s : σ) : x.Along m P s := by
  induction x generalizing s with
  | done value => trivial
  | note entry next ih => exact ih hx s
  | ask q next ih => exact ⟨h q s hx.1, ih _ (hx.2 _) _⟩

/-! ### Invariants -/

variable {m} (Inv : σ → Prop)

/-- What every question preserves holds after a run. -/
theorem Along.state {x : Script I α} {s : σ} (hx : x.Along m P s)
    (hstep : ∀ q s, P q s → Inv s → Inv (m.answer q s).2) (hs : Inv s) :
    Inv (x.run m s).state := by
  induction x generalizing s with
  | done value => exact hs
  | note entry next ih => exact ih hx hs
  | ask q next ih => exact ih _ hx.2 (hstep q s hx.1 hs)

/-- It holds before every question as well. -/
theorem Along.and {x : Script I α} {s : σ} (hx : x.Along m P s)
    (hstep : ∀ q s, P q s → Inv s → Inv (m.answer q s).2) (hs : Inv s) :
    x.Along m (fun q s => P q s ∧ Inv s) s := by
  induction x generalizing s with
  | done value => trivial
  | note entry next ih => exact ih hx hs
  | ask q next ih => exact ⟨⟨hx.1, hs⟩, ih _ hx.2 (hstep q s hx.1 hs)⟩

theorem Along.imp {Q : I.Question → σ → Prop} {x : Script I α} {s : σ} (hx : x.Along m P s)
    (h : ∀ q s, P q s → Q q s) : x.Along m Q s := by
  induction x generalizing s with
  | done value => trivial
  | note entry next ih => exact ih hx
  | ask q next ih => exact ⟨h q s hx.1, ih _ hx.2⟩

end WikiSync.Script
