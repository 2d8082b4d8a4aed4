import Mathlib.Logic.Function.Basic
import WikiSync.Proofs.Script.Asks

/-!
# Interleaved Runs

Any number of scripts that share one machine. Each of them is in the middle of
its run, and they take turns: one is picked, it asks its next question, the
machine answers and changes. The order of turns is a list of names. A script
that is picked after it has ended asks nothing, so every list is an order, and
every way in which the questions of finitely many turns can follow each other
is one of them.

What happens is a list of turns, each with the machine before it and after
it. A statement about interleavings is a statement about some turn and those
before it. `interleave_induction` is the induction that such statements share.
It keeps an invariant over the turns so far, the rest of every script and the
machine, and hands it out at the turn in question. What is assumed of the
turns of an interleaving can be used at every step on the way.

## Main definitions

* `Script.next?`: The next question of a script.
* `Turn`: A question of one of the scripts, with the machine around it.
* `interleave`: The turns of an interleaving.

## Theorems

* `interleave_induction`: What every step preserves holds before every turn.
* `Script.Asks.next`: What a script may ask bounds its next question.
-/

namespace WikiSync

namespace Script

variable {I : Interface} {α : Type}

/-- The next question of a script, with what follows its answer. -/
def next? : Script I α → Option ((q : I.Question) × (I.Answer q → Script I α))
  | done _ => none
  | note _ next => next.next?
  | ask q next => some ⟨q, next⟩

end Script

theorem Script.Asks.next {I : Interface} {α : Type} {P : I.Question → Prop} {x : Script I α}
    (hx : x.Asks P) {q : I.Question} {next : I.Answer q → Script I α}
    (h : x.next? = some ⟨q, next⟩) : P q ∧ ∀ a, (next a).Asks P := by
  induction x with
  | done value => cases h
  | note entry rest ih => exact ih hx h
  | ask r rest ih =>
    cases h
    exact hx

/-- A question of one of many scripts, with the machine before and after it. -/
structure Turn (ι : Type) (I : Interface) (σ : Type) where
  name : ι
  before : σ
  exchange : Exchange I
  after : σ

variable {I : Interface} {ι σ α : Type} [DecidableEq ι]

/-- The turns of an interleaving: in the order that is given, each script asks
its next question. -/
def interleave (m : Machine I σ) : List ι → (ι → Script I α) → σ → List (Turn ι I σ)
  | [], _, _ => []
  | i :: order, runs, s =>
    match (runs i).next? with
    | none => interleave m order runs s
    | some ⟨q, next⟩ =>
      let (a, s') := m.answer q s
      ⟨i, s, ⟨q, a⟩, s'⟩ :: interleave m order (Function.update runs i (next a)) s'

/-- What every step preserves holds before every turn, where other turns
may have come first. -/
theorem interleave_induction (m : Machine I σ) (Assumed : Turn ι I σ → Prop)
    (Good : List (Turn ι I σ) → (ι → Script I α) → σ → Prop)
    (step : ∀ past runs (e : Turn ι I σ) next, Good past runs e.before → Assumed e →
      (runs e.name).next? = some ⟨e.exchange.question, next⟩ →
      m.answer e.exchange.question e.before = (e.exchange.answer, e.after) →
      Good (past ++ [e]) (Function.update runs e.name (next e.exchange.answer)) e.after)
    (order : List ι) (past : List (Turn ι I σ)) (runs : ι → Script I α) (s : σ)
    (hstart : Good past runs s) (hassumed : ∀ e ∈ interleave m order runs s, Assumed e)
    {earlier later : List (Turn ι I σ)} {e : Turn ι I σ}
    (hsplit : interleave m order runs s = earlier ++ e :: later) :
    ∃ rest next, Good (past ++ earlier) rest e.before ∧
      (rest e.name).next? = some ⟨e.exchange.question, next⟩ ∧
      m.answer e.exchange.question e.before = (e.exchange.answer, e.after) := by
  induction order generalizing past runs s earlier with
  | nil => exact absurd hsplit.symm (List.append_ne_nil_of_right_ne_nil _ (List.cons_ne_nil _ _))
  | cons i order ih =>
    rcases hnext : (runs i).next? with _ | ⟨q, next⟩
    · -- The script has ended, and its turn changes nothing.
      simp only [interleave, hnext] at hsplit hassumed
      exact ih past runs s hstart hassumed hsplit
    · simp only [interleave, hnext] at hsplit hassumed
      rcases hanswer : m.answer q s with ⟨a, s'⟩
      simp only [hanswer] at hsplit hassumed
      rcases earlier with _ | ⟨first, earlier⟩
      · -- The turn in question is the first one.
        rcases List.cons.inj hsplit with ⟨rfl, -⟩
        rw [List.append_nil]
        exact ⟨runs, next, hstart, hnext, hanswer⟩
      · rcases List.cons.inj hsplit with ⟨rfl, hrest⟩
        have hgood := step past runs _ next hstart (hassumed _ List.mem_cons_self) hnext hanswer
        have hlater := ih _ _ _ hgood (fun e he => hassumed e (List.mem_cons_of_mem _ he)) hrest
        rw [List.append_assoc] at hlater
        exact hlater

end WikiSync
