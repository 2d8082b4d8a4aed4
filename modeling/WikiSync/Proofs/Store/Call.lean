import WikiSync.Proofs.Script.Run
import WikiSync.Store.Call

/-!
# Runs of Store Scripts

How a script over a page store runs: one call, a log entry, and a call with
what follows it. A failed call ends a store script, so the calls of a run can
be compared with a list of calls that are meant to be made: they are made in
order, and a failure cuts the list off behind itself. `UpToFailure` is that
comparison. It is what a statement about calls comes to when every call may
fail.

## Main definitions

* `Exchange.failed`: Whether a call failed.
* `UpToFailure`: Calls made in order, up to the first that fails.

## Theorems

* `UpToFailure.map_question`: Without a failure, every call is made.
* `StoreScript.upToFailure_ask`: A call with what follows it.
-/

namespace WikiSync

/-- Whether a call failed. -/
def Exchange.failed (x : Exchange Store) : Bool :=
  match x.answer with
  | .ok _ => false
  | .error _ => true

/-- Calls made in order, up to and including the first that fails. -/
inductive UpToFailure : List StoreCall → List (Exchange Store) → Prop
  | nil : UpToFailure [] []
  | stop (c : StoreCall) (e : StoreError) (cs : List StoreCall) :
      UpToFailure (c :: cs) [⟨c, .error e⟩]
  | go (c : StoreCall) (r : c.Result) (cs : List StoreCall) (es : List (Exchange Store))
      (rest : UpToFailure cs es) : UpToFailure (c :: cs) (⟨c, .ok r⟩ :: es)

/-- Without a failure, every call is made. -/
theorem UpToFailure.map_question {cs : List StoreCall} {es : List (Exchange Store)}
    (h : UpToFailure cs es) (hok : ∀ x ∈ es, x.failed = false) :
    es.map (·.question) = cs := by
  induction h with
  | nil => rfl
  | stop c e cs =>
    have hfailed := hok ⟨c, .error e⟩ List.mem_cons_self
    exact absurd hfailed (by simp only [Exchange.failed, Bool.true_eq_false, not_false_eq_true])
  | go c r cs es rest ih =>
    rw [List.map_cons, ih fun x hx => hok x (List.mem_cons_of_mem _ hx)]

namespace StoreScript

variable {σ α β : Type} (m : Machine Store σ)

@[simp]
theorem run_pure (a : α) (s : σ) :
    (pure a : StoreScript α).run.run m s = ⟨.ok a, s, [], []⟩ := rfl

@[simp]
theorem exchanges_pure (a : α) (s : σ) :
    (pure a : StoreScript α).run.exchanges m s = [] := rfl

@[simp]
theorem run_ask (c : StoreCall) (s : σ) :
    c.ask.run.run m s = ⟨(m.answer c s).1, (m.answer c s).2, [], [c]⟩ := rfl

@[simp]
theorem exchanges_ask (c : StoreCall) (s : σ) :
    c.ask.run.exchanges m s = [⟨c, (m.answer c s).1⟩] := rfl

/-- Logging asks nothing. -/
theorem exchanges_info_bind (message : String) (f : Unit → StoreScript β) (s : σ) :
    (info message >>= f).run.exchanges m s = (f ()).run.exchanges m s := by
  rw [Script.exchanges_bindExcept]
  rfl

/-- Handing back a value asks nothing. -/
theorem exchanges_bind_pure (x : StoreScript α) (f : α → β) (s : σ) :
    (x >>= fun a => pure (f a)).run.exchanges m s = x.run.exchanges m s := by
  rw [Script.exchanges_bindExcept]
  rcases (x.run.run m s).value with e | a
  · exact List.append_nil _
  · exact List.append_nil _

/-- Logging changes nothing but the log. -/
theorem run_info_bind (message : String) (f : Unit → StoreScript β) (s : σ) :
    (info message >>= f).run.run m s =
      (Run.mk () s [.info message] []).follow ((f ()).run.run m s) := by
  rw [Script.run_bindExcept]
  rfl

/-- Handing back a value leaves the machine and a failure as they are. -/
theorem run_bind_pure (x : StoreScript α) (f : α → β) (s : σ) :
    ((x >>= fun a => pure (f a)).run.run m s).state = (x.run.run m s).state ∧
      ((x >>= fun a => pure (f a)).run.run m s).value = (x.run.run m s).value.map f := by
  rw [Script.run_bindExcept]
  rcases hvalue : (x.run.run m s).value with e | a
  · simp only [Run.follow, Except.map, and_self]
  · simp only [Run.follow, run_pure, Except.map, and_self]

/-- A call with what follows it: the call is the first exchange, and the rest
takes place only if it succeeded. -/
theorem exchanges_ask_bind (c : StoreCall) (f : c.Result → StoreScript β) (s : σ) :
    (c.ask >>= f).run.exchanges m s =
      ⟨c, (m.answer c s).1⟩ ::
        match (m.answer c s).1 with
        | .ok r => (f r).run.exchanges m (m.answer c s).2
        | .error _ => [] := by
  rw [Script.exchanges_bindExcept, exchanges_ask, run_ask]
  rcases (m.answer c s).1 with e | r
  · rfl
  · rfl

/-- The same for the run: a failed call gives its error, and the machine is
what the call made of it. -/
theorem run_ask_bind (c : StoreCall) (f : c.Result → StoreScript β) (s : σ) :
    (c.ask >>= f).run.run m s =
      match (m.answer c s).1 with
      | .ok r =>
        (Run.mk () (m.answer c s).2 [] [c]).follow ((f r).run.run m (m.answer c s).2)
      | .error e => ⟨.error e, (m.answer c s).2, [], [c]⟩ := by
  rw [Script.run_bindExcept, run_ask]
  rcases (m.answer c s).1 with e | r
  · rfl
  · rfl

theorem upToFailure_ask (c : StoreCall) (f : c.Result → StoreScript β) (cs : List StoreCall)
    (s : σ) (h : ∀ r, (m.answer c s).1 = .ok r →
      UpToFailure cs ((f r).run.exchanges m (m.answer c s).2)) :
    UpToFailure (c :: cs) ((c.ask >>= f).run.exchanges m s) := by
  rw [exchanges_ask_bind]
  rcases hanswer : (m.answer c s).1 with e | r
  · exact UpToFailure.stop c e cs
  · exact UpToFailure.go c r cs _ (h r hanswer)

end StoreScript

end WikiSync
