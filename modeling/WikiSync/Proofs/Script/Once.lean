import WikiSync.Proofs.Script.Interleaving

/-!
# Scripts That Ask One Question

A script that asks one question, always the same, and nothing after it. It may
still log and compute, so its value depends on the answer, but what it does to
its environment is known before it is run.

This is a property of the script and not of a machine, so it survives a change
of the environment. When the question is answered by another script, the
questions of the served script are those of that other one. A lookup in a page
store is one request to a web server for this reason.

## Main definitions

* `Script.AsksOnce`: A script that asks one question.

## Theorems

* `Script.AsksOnce.asked`: Its run asks that question.
* `Script.asks_serve`: What a served script may ask.
* `Script.AsksOnce.asked_serve`: A served script asks what the answer to its
  question takes.
-/

namespace WikiSync.Script

variable {I J : Interface} {σ τ α : Type}

/-- A script that asks one question, and nothing else whatever it is told. -/
def AsksOnce (q : I.Question) (x : Script I α) : Prop :=
  ∃ next, x.next? = some ⟨q, next⟩ ∧ ∀ a, (next a).Asks fun _ => False

theorem asked_of_asks_none (m : Machine I σ) {x : Script I α} (hx : x.Asks fun _ => False) (s : σ) :
    (x.run m s).asked = [] :=
  List.eq_nil_iff_forall_not_mem.2 fun q hq => hx.asked m s q hq

theorem AsksOnce.asked (m : Machine I σ) {q : I.Question} {x : Script I α} (hx : x.AsksOnce q)
    (s : σ) : (x.run m s).asked = [q] ∧ (x.run m s).state = (m.answer q s).2 := by
  rcases hx with ⟨next, hnext, hrest⟩
  induction x with
  | done value => cases hnext
  | note entry rest ih => exact ih hnext
  | ask r rest ih =>
    cases hnext
    have hstate := (hrest (m.answer q s).1).state m (fun s' => s' = (m.answer q s).2)
      (fun _ _ hfalse _ => hfalse.elim) rfl
    exact ⟨congrArg (q :: ·) (asked_of_asks_none m (hrest _) _), hstate⟩

/-! ### Served scripts -/

variable {answer : (q : I.Question) → σ → Script J (I.Answer q × σ)}

/-- What the answers take bounds what a served script may ask. -/
theorem asks_serve {P : I.Question → Prop} {Q : J.Question → Prop} {x : Script I α}
    (hx : x.Asks P) (hanswer : ∀ q s, P q → (answer q s).Asks Q) (s : σ) :
    (x.serve answer s).Asks Q := by
  induction x generalizing s with
  | done value => trivial
  | note entry next ih => exact ih hx s
  | ask q next ih =>
    exact asks_bind (hanswer q s hx.1) fun r => ih r.1 (hx.2 r.1) r.2

theorem AsksOnce.asked_serve (n : Machine J τ) {q : I.Question} {x : Script I α}
    (hx : x.AsksOnce q) (s : σ) (t : τ) :
    ((x.serve answer s).run n t).asked = ((answer q s).run n t).asked := by
  rcases hx with ⟨next, hnext, hrest⟩
  induction x with
  | done value => cases hnext
  | note entry rest ih => exact ih hnext
  | ask r rest ih =>
    cases hnext
    -- The rest is served without a question, because it has none to be answered.
    have hnone : ∀ r : I.Answer q × σ, ((next r.1).serve answer r.2).Asks fun _ => False :=
      fun r => asks_serve (hrest r.1) (fun _ _ hfalse => hfalse.elim) r.2
    have hbind := run_bind n (answer q s) (fun r => (next r.1).serve answer r.2) t
    change ((answer q s >>= fun r => (next r.1).serve answer r.2).run n t).asked = _
    rw [hbind]
    simp only [Run.follow, asked_of_asks_none n (hnone _), List.append_nil]

end WikiSync.Script
