import WikiSync.Proofs.Script.Run

/-!
# What Scripts May Ask

A bound on the questions of a script that holds whatever it is told. Such a
bound is read off the script once, and says something about every machine that
runs it: a property of machines that no such question destroys holds at the
end of a run if it held at the start. So a script that only looks at a store
leaves the store alone, and a script that only writes attachments leaves the
pages alone.

The bound is on what could be asked, not on what is asked in a run. This makes
it independent of any machine, and it stays true of the rest of a script after
every answer. A script that shares its machine with others needs that form,
because the machine then changes between its questions.

## Main definitions

* `Script.Asks`: Every question that a script may ask has a property.

## Theorems

* `Script.asks_bind`, `Script.asks_bindExcept`: Sequencing.
* `Script.asks_inl`, `Script.asks_inr`: A script over one of two environments.
* `Script.Asks.state`: What no question destroys holds after a run.
* `Script.Asks.asked`: The questions of a run.
-/

namespace WikiSync.Script

variable {I : Interface} {σ α β ε : Type} {P : I.Question → Prop}

/-- Every question that a script may ask has a property, whatever it is told. -/
def Asks (P : I.Question → Prop) : Script I α → Prop
  | done _ => True
  | note _ next => next.Asks P
  | ask q next => P q ∧ ∀ a, (next a).Asks P

/-! ### Sequencing -/

theorem asks_pure (a : α) : (pure a : Script I α).Asks P := trivial

theorem asks_logAll (entries : List LogEntry) : (logAll (I := I) entries).Asks P := by
  induction entries with
  | nil => trivial
  | cons entry entries ih => exact ih

theorem asks_bind {x : Script I α} {f : α → Script I β} (hx : x.Asks P)
    (hf : ∀ a, (f a).Asks P) : (x >>= f).Asks P := by
  change (x.bind f).Asks P
  induction x with
  | done value => exact hf value
  | note entry next ih => exact ih hx
  | ask q next ih => exact ⟨hx.1, fun a => ih a (hx.2 a)⟩

/-- A failure asks nothing more. -/
theorem asks_bindExcept {x : ExceptT ε (Script I) α} {f : α → ExceptT ε (Script I) β}
    (hx : x.run.Asks P) (hf : ∀ a, (f a).run.Asks P) : (x >>= f).run.Asks P := by
  rw [ExceptT.run_bind]
  refine asks_bind hx fun r => ?_
  rcases r with e | a
  · exact asks_pure _
  · exact hf a

/-! ### Two environments -/

/-- A script over the first of two environments asks nothing else. -/
theorem asks_inl {J : Interface} (x : Script I α) :
    (x.inl : Script (I.sum J) α).Asks fun q => ∃ r, q = Sum.inl r := by
  induction x with
  | done value => trivial
  | note entry next ih => exact ih
  | ask q next ih => exact ⟨⟨q, rfl⟩, ih⟩

/-- What is asked of the second environment is what the script asks. -/
theorem asks_inr {J : Interface} {P : (I.sum J).Question → Prop} {x : Script J α}
    (hx : x.Asks fun q => P (.inr q)) : (x.inr : Script (I.sum J) α).Asks P := by
  induction x with
  | done value => trivial
  | note entry next ih => exact ih hx
  | ask q next ih => exact ⟨hx.1, fun a => ih a (hx.2 a)⟩

theorem Asks.imp {P' : I.Question → Prop} {x : Script I α} (hx : x.Asks P)
    (himp : ∀ q, P q → P' q) : x.Asks P' := by
  induction x with
  | done value => trivial
  | note entry next ih => exact ih hx
  | ask q next ih => exact ⟨himp q hx.1, fun a => ih a (hx.2 a)⟩

/-! ### Runs -/

variable (m : Machine I σ)

/-- What no question destroys holds after a run. -/
theorem Asks.state {x : Script I α} (hx : x.Asks P) (Inv : σ → Prop)
    (hstep : ∀ q s, P q → Inv s → Inv (m.answer q s).2) {s : σ} (hs : Inv s) :
    Inv (x.run m s).state := by
  induction x generalizing s with
  | done value => exact hs
  | note entry next ih => exact ih hx hs
  | ask q next ih => exact ih _ (hx.2 _) (hstep q s hx.1 hs)

/-- The questions of a run. -/
theorem Asks.asked {x : Script I α} (hx : x.Asks P) (s : σ) : ∀ q ∈ (x.run m s).asked, P q := by
  induction x generalizing s with
  | done value => exact fun q hq => nomatch hq
  | note entry next ih => exact ih hx s
  | ask q next ih =>
    intro r hr
    rcases List.mem_cons.1 hr with rfl | hr
    · exact hx.1
    · exact ih _ (hx.2 _) _ r hr

end WikiSync.Script
