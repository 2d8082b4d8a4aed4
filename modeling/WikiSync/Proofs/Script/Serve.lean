import WikiSync.Proofs.Script.Run

/-!
# Scripts Served by Scripts

A script whose questions are answered by other scripts, run on a machine. The
scripts that answer and the machine below them are one machine to the script
above, and the served script is a run on that machine. So a theorem that holds
on every machine holds of a script that is served, whatever serves it. A page
store behind a web client needs no theorem of its own.

The state of the composite machine is that of the machine below with that of the
scripts that answer. The questions of the run differ: above they are those of
the script, below those that were needed to answer them.

## Main definitions

* `Machine.serving`: A machine with scripts that answer by it.

## Theorems

* `Script.run_serve`: A served script is a run on that machine.
* `Script.filter_asked_serve`: Some of its questions, where each is needed for one
  of the script.
-/

namespace WikiSync

variable {I J : Interface} {σ τ α : Type}

/-- A machine with scripts that answer by it. -/
def Machine.serving (n : Machine J τ) (answer : (q : I.Question) → σ → Script J (I.Answer q × σ)) :
    Machine I (τ × σ) where
  answer q s :=
    let r := (answer q s.2).run n s.1
    (r.value.1, (r.state, r.value.2))

/-- A script that is served gives what it gives on the machine below with the
scripts that answer. -/
theorem Script.run_serve (n : Machine J τ)
    (answer : (q : I.Question) → σ → Script J (I.Answer q × σ)) (x : Script I α) (s : σ) (t : τ) :
    let r := x.run (n.serving answer) (t, s)
    ((x.serve answer s).run n t).value = (r.value, r.state.2) ∧
      ((x.serve answer s).run n t).state = r.state.1 := by
  induction x generalizing s t with
  | done value => exact ⟨rfl, rfl⟩
  | note entry next ih => exact ih s t
  | ask q next ih =>
    -- The scripts that answer run to their end, and the rest goes on from there.
    have hbind := run_bind n (answer q s) (fun a => (next a.1).serve answer a.2) t
    have hnext := ih ((answer q s).run n t).value.1 ((answer q s).run n t).value.2
      ((answer q s).run n t).state
    change (((answer q s >>= fun a => (next a.1).serve answer a.2).run n t).value = _) ∧
      ((answer q s >>= fun a => (next a.1).serve answer a.2).run n t).state = _
    rw [hbind]
    exact hnext

/-- The script that answers the first question comes first. -/
theorem Script.serve_ask (answer : (q : I.Question) → σ → Script J (I.Answer q × σ))
    (q : I.Question) (next : I.Answer q → Script I α) (s : σ) :
    (ask q next).serve answer s =
      answer q s >>= fun a => (next a.1).serve answer a.2 := rfl

/-- A single question is served by the script that answers it. -/
theorem Script.serve_question (answer : (q : I.Question) → σ → Script J (I.Answer q × σ))
    (q : I.Question) (s : σ) : (question q).serve answer s = answer q s :=
  bind_pure (answer q s)

/-- The questions of one kind are those of the script of another kind, in the same
order, if each of these takes one of those and no other question takes any. -/
theorem Script.filter_asked_serve (n : Machine J τ)
    (answer : (q : I.Question) → σ → Script J (I.Answer q × σ)) {below : J.Question → Bool}
    {above : I.Question → Bool} (f : I.Question → J.Question)
    (h : ∀ q s t, ((answer q s).run n t).asked.filter below = if above q then [f q] else [])
    (x : Script I α) (s : σ) (t : τ) :
    ((x.serve answer s).run n t).asked.filter below =
      ((x.run (n.serving answer) (t, s)).asked.filter above).map f := by
  induction x generalizing s t with
  | done value => rfl
  | note entry next ih => exact ih s t
  | ask q next ih =>
    have hbind := run_bind n (answer q s) (fun a => (next a.1).serve answer a.2) t
    have hnext := ih ((answer q s).run n t).value.1 ((answer q s).run n t).value.2
      ((answer q s).run n t).state
    change ((answer q s >>= fun a => (next a.1).serve answer a.2).run n t).asked.filter below = _
    rw [hbind]
    simp only [Run.follow]
    rw [List.filter_append, h, hnext]
    simp only [run, Machine.serving, List.filter_cons]
    split
    · rfl
    · rfl

end WikiSync
