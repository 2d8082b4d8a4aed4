import WikiSync.Script

/-!
# Runs of Scripts

What a run of a composed script shows, in terms of the runs of its parts.
Everything that is said about a page store or a diagram backend is said about
runs, and a proof that unfolds `Script.run` at every step would spend its
length on bookkeeping. The laws here say once how sequencing, logging and a
single question run.

`Run.asked` keeps the questions but forgets the answers. A law about a script
that is served by an arbitrary machine has to speak of both, because the
script decides by what it was told. `Script.exchanges` is the run seen as a
list of questions with their answers, and `asked_eq_exchanges` ties it to the
run.

Scripts are a lawful monad: where sequencing is nested the other way, it is the same script, and
not only one that runs alike.

Scripts that may fail are `ExceptT` over scripts. Their sequencing has two
laws, one for the run and one for the exchanges, with the failure of the first
part as a case of its own.

## Main definitions

* `Exchange`: A question with the answer it got.
* `Script.exchanges`: The exchanges of a run, in order.
* `Run.follow`: A run that goes on after another.
* `Run.map`: A run with its value put through a function.

## Theorems

* `Script.asked_eq_exchanges`: The questions of a run are those of its
  exchanges.
* `Script.run_bind`, `Script.exchanges_bind`: Sequencing.
* `Script.run_bindExcept`, `Script.exchanges_bindExcept`: Sequencing of scripts
  that may fail.
-/

namespace WikiSync

/-- A question with the answer it got. -/
structure Exchange (I : Interface) where
  question : I.Question
  answer : I.Answer question

/-- A run that goes on after another: its value and machine, and what both
logged and asked. -/
def Run.follow {I : Interface} {σ α β : Type} (first : Run I σ α) (second : Run I σ β) :
    Run I σ β :=
  ⟨second.value, second.state, first.log ++ second.log, first.asked ++ second.asked⟩

/-- A run with its value put through a function. -/
def Run.map {I : Interface} {σ α β : Type} (f : α → β) (r : Run I σ α) : Run I σ β :=
  ⟨f r.value, r.state, r.log, r.asked⟩

namespace Script

variable {I : Interface} {σ α β ε : Type} (m : Machine I σ)

/-- The exchanges of a run, in order. -/
def exchanges : Script I α → σ → List (Exchange I)
  | done _, _ => []
  | note _ next, s => next.exchanges s
  | ask q next, s =>
    let (a, s) := m.answer q s
    ⟨q, a⟩ :: (next a).exchanges s

theorem asked_eq_exchanges (x : Script I α) (s : σ) :
    (x.run m s).asked = (x.exchanges m s).map (·.question) := by
  induction x generalizing s with
  | done value => rfl
  | note entry next ih => exact ih s
  | ask q next ih =>
    simp only [run, exchanges, List.map_cons]
    rw [ih]

/-! ### Sequencing -/

@[simp]
theorem run_pure (a : α) (s : σ) : (pure a : Script I α).run m s = ⟨a, s, [], []⟩ := rfl

@[simp]
theorem exchanges_pure (a : α) (s : σ) : (pure a : Script I α).exchanges m s = [] := rfl

@[simp]
theorem run_log (entry : LogEntry) (s : σ) :
    (log (I := I) entry).run m s = ⟨(), s, [entry], []⟩ := rfl

/-- Logging entries asks nothing and changes nothing. -/
theorem run_logAll (entries : List LogEntry) (s : σ) :
    (logAll (I := I) entries).run m s = ⟨(), s, entries, []⟩ := by
  induction entries with
  | nil => rfl
  | cons entry entries ih =>
    change ({ (logAll (I := I) entries).run m s with
      log := entry :: ((logAll (I := I) entries).run m s).log } : Run I σ Unit) = _
    rw [ih]

theorem run_bind (x : Script I α) (f : α → Script I β) (s : σ) :
    (x >>= f).run m s =
      (x.run m s).follow ((f (x.run m s).value).run m (x.run m s).state) := by
  change (x.bind f).run m s = _
  induction x generalizing s with
  | done value => rfl
  | note entry next ih =>
    simp only [bind, run]
    rw [ih]
    rfl
  | ask q next ih =>
    simp only [bind, run]
    rw [ih]
    rfl

theorem exchanges_bind (x : Script I α) (f : α → Script I β) (s : σ) :
    (x >>= f).exchanges m s =
      x.exchanges m s ++ (f (x.run m s).value).exchanges m (x.run m s).state := by
  change (x.bind f).exchanges m s = _
  induction x generalizing s with
  | done value => rfl
  | note entry next ih =>
    simp only [bind, exchanges]
    rw [ih]
    rfl
  | ask q next ih =>
    simp only [bind, exchanges]
    rw [ih]
    rfl

/-- Sequencing is associative: it goes on where a script is done, however deep that is. -/
instance : LawfulMonad (Script I) := by
  refine LawfulMonad.mk' (Script I) (fun x => ?_) (fun _ _ => rfl) (fun x f g => ?_)
  · change x.bind done = x
    induction x with
    | done value => rfl
    | note entry next ih => exact congrArg (note entry) ih
    | ask q next ih => exact congrArg (ask q) (funext ih)
  · change (x.bind f).bind g = x.bind fun a => (f a).bind g
    induction x with
    | done value => rfl
    | note entry next ih => exact congrArg (note entry) ih
    | ask q next ih => exact congrArg (ask q) (funext ih)

/-! ### Scripts that may fail -/

theorem run_bindExcept (x : ExceptT ε (Script I) α) (f : α → ExceptT ε (Script I) β) (s : σ) :
    (x >>= f).run.run m s =
      match (x.run.run m s).value with
      | .ok a => (x.run.run m s).follow ((f a).run.run m (x.run.run m s).state)
      | .error e => (x.run.run m s).follow ⟨.error e, (x.run.run m s).state, [], []⟩ := by
  rw [ExceptT.run_bind, run_bind]
  rcases (x.run.run m s).value with e | a <;> rfl

theorem exchanges_bindExcept (x : ExceptT ε (Script I) α) (f : α → ExceptT ε (Script I) β)
    (s : σ) :
    (x >>= f).run.exchanges m s =
      x.run.exchanges m s ++
        match (x.run.run m s).value with
        | .ok a => (f a).run.exchanges m (x.run.run m s).state
        | .error _ => [] := by
  rw [ExceptT.run_bind, exchanges_bind]
  rcases (x.run.run m s).value with e | a <;> rfl

end Script

end WikiSync
