import Mathlib.Logic.Function.Basic
import WikiSync.Proofs.Script.Asks
import WikiSync.Proofs.Script.Supply

/-!
# Scripts That Never Ask Twice

A machine may change its mind: asked the same question again, it may answer otherwise. A script
that never asks a question twice cannot notice. To such a script every machine is one that has
made all its answers in advance, so what holds of scripts with given answers holds of it on any
machine.

That no question comes again has to hold whatever the script is told, and it has to fit
together: a second part may ask neither what it has asked itself nor what the first part may
have asked. So the property carries the questions that are already past. Answering by other
scripts keeps it, if the answers to different questions take different questions.

## Main definitions

* `Script.AsksFresh`: No question comes again.

## Theorems

* `Script.asksFresh_bind`, `Script.AsksFresh.serve`: Sequencing, and answering by scripts.
* `Script.AsksFresh.exists_fixed`: A run is one with answers made in advance.
-/

namespace WikiSync.Script

variable {I J : Interface} {σ α β : Type} {past : I.Question → Prop}

/-- No question of a script is past, and none comes twice, whatever the script is told. -/
def AsksFresh (past : I.Question → Prop) : Script I α → Prop
  | done _ => True
  | note _ next => next.AsksFresh past
  | ask q next => ¬ past q ∧ ∀ a, (next a).AsksFresh fun r => past r ∨ r = q

/-! ### Sequencing -/

theorem AsksFresh.imp {past' : I.Question → Prop} {x : Script I α} (hx : x.AsksFresh past)
    (himp : ∀ q, past' q → past q) : x.AsksFresh past' := by
  induction x generalizing past past' with
  | done value => trivial
  | note entry next ih => exact ih hx himp
  | ask q next ih =>
    refine ⟨fun hq => hx.1 (himp q hq), fun a => ih a (hx.2 a) fun r hr => ?_⟩
    exact hr.imp_left (himp r)

/-- What is past is not asked. -/
theorem AsksFresh.asks {x : Script I α} (hx : x.AsksFresh past) : x.Asks fun q => ¬ past q := by
  induction x generalizing past with
  | done value => trivial
  | note entry next ih => exact ih hx
  | ask q next ih => exact ⟨hx.1, fun a => (ih a (hx.2 a)).imp fun r hr hpast => hr (.inl hpast)⟩

theorem asksFresh_of_asks_none {x : Script I α} (hx : x.Asks fun _ => False) :
    x.AsksFresh past := by
  induction x with
  | done value => trivial
  | note entry next ih => exact ih hx
  | ask q next ih => exact hx.1.elim

/-- To the second part, what the first one may ask is past as well. -/
theorem asksFresh_bind {P : I.Question → Prop} {x : Script I α} {f : α → Script I β}
    (hx : x.AsksFresh past) (hasks : x.Asks P)
    (hf : ∀ a, (f a).AsksFresh fun q => past q ∨ P q) : (x >>= f).AsksFresh past := by
  change (x.bind f).AsksFresh past
  induction x generalizing past with
  | done value => exact (hf value).imp fun q hq => .inl hq
  | note entry next ih => exact ih hx hasks hf
  | ask q next ih =>
    refine ⟨hx.1, fun a => ih a (hx.2 a) (hasks.2 a) fun b => (hf b).imp fun r hr => ?_⟩
    rcases hr with (hr | rfl) | hr
    · exact .inl hr
    · exact .inr hasks.1
    · exact .inr hr

/-- A second part that asks nothing. -/
theorem AsksFresh.bind_silent {x : Script I α} (hx : x.AsksFresh past) {f : α → Script I β}
    (hf : ∀ a, (f a).Asks fun _ => False) : (x >>= f).AsksFresh past :=
  asksFresh_bind hx hx.asks fun a => asksFresh_of_asks_none (hf a)

/-- Answering by scripts. Each of them asks what belongs to its question. -/
theorem AsksFresh.serve {answer : (q : I.Question) → σ → Script J (I.Answer q × σ)}
    {below : I.Question → J.Question} (hbelow : Function.Injective below)
    (hanswer : ∀ q s, (answer q s).Asks (· = below q) ∧
      ∀ past' : J.Question → Prop, ¬ past' (below q) → (answer q s).AsksFresh past')
    {x : Script I α} (hx : x.AsksFresh past) (s : σ) :
    (x.serve answer s).AsksFresh fun r => ∃ q, past q ∧ below q = r := by
  induction x generalizing past s with
  | done value => trivial
  | note entry next ih => exact ih hx s
  | ask q next ih =>
    have hnew : ¬ ∃ r, past r ∧ below r = below q := by
      rintro ⟨r, hr, hsame⟩
      exact hx.1 (hbelow hsame ▸ hr)
    rcases hanswer q s with ⟨hasks, hfresh⟩
    refine asksFresh_bind (hfresh _ hnew) hasks fun a => ?_
    refine (ih a.1 (hx.2 a.1) a.2).imp fun r hr => ?_
    rcases hr with ⟨r, hr, rfl⟩ | rfl
    · exact ⟨r, .inl hr, rfl⟩
    · exact ⟨q, .inr rfl, rfl⟩

/-- One question, and nothing after it. -/
theorem asks_question_bind (q : I.Question) {f : I.Answer q → Script I β}
    (hf : ∀ a, (f a).Asks fun _ => False) :
    (question q >>= f).Asks (· = q) ∧
      ∀ past : I.Question → Prop, ¬ past q → (question q >>= f).AsksFresh past :=
  ⟨⟨rfl, fun a => (hf a).imp fun _ => False.elim⟩,
    fun _ hnew => ⟨hnew, fun a => asksFresh_of_asks_none (hf a)⟩⟩

/-! ### Answers in advance -/

/-- Only the answers to what a script may ask matter. -/
theorem Asks.run_fixed {P : I.Question → Prop} {x : Script I α} (hx : x.Asks P)
    {f g : (q : I.Question) → I.Answer q} (hfg : ∀ q, P q → f q = g q) :
    x.run (.fixed f) () = x.run (.fixed g) () := by
  induction x with
  | done value => rfl
  | note entry next ih =>
    simp only [run]
    rw [ih hx]
  | ask q next ih =>
    have hrest := ih (f q) (hx.2 _)
    simp only [run, Machine.fixed] at hrest ⊢
    rw [hrest, hfg q hx.1]

/-- A run is one with answers made in advance. The induction makes the answers of the rest
first. The question in front of it is not asked there, so its answer can be set
afterwards. -/
theorem AsksFresh.exists_fixed [DecidableEq I.Question] {x : Script I α} (hx : x.AsksFresh past)
    (m : Machine I σ) (s : σ) :
    ∃ f : (q : I.Question) → I.Answer q,
      (x.run m s).value = (x.run (.fixed f) ()).value ∧
        (x.run m s).asked = (x.run (.fixed f) ()).asked ∧
        x.exchanges m s = (x.run m s).asked.map fun q => ⟨q, f q⟩ := by
  induction x generalizing past s with
  | done value => exact ⟨fun q => (m.answer q s).1, rfl, rfl, rfl⟩
  | note entry next ih => exact ih hx s
  | ask q next ih =>
    rcases ih (m.answer q s).1 (hx.2 _) (m.answer q s).2 with ⟨f, hvalue, hasked, hexchanges⟩
    have hrest : (next (m.answer q s).1).Asks (· ≠ q) :=
      (hx.2 _).asks.imp fun r hr heq => hr (.inr heq)
    have hset (r : I.Question) (hr : r ≠ q) : f r = Function.update f q (m.answer q s).1 r :=
      (Function.update_of_ne hr _ _).symm
    have hrun := hrest.run_fixed hset
    refine ⟨Function.update f q (m.answer q s).1, ?_, ?_, ?_⟩
    · simp only [run, Machine.fixed, Function.update_self]
      rw [hvalue, hrun]
      rfl
    · simp only [run, Machine.fixed, Function.update_self]
      rw [hasked, hrun]
      rfl
    · simp only [run, exchanges, List.map_cons, Function.update_self]
      rw [hexchanges]
      refine congrArg _ (List.map_congr_left fun r hr => ?_)
      rw [← hset r (hrest.asked m _ r hr)]

end WikiSync.Script
