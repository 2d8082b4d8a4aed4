import WikiSync.Log

/-!
# Scripts

A computation that depends on an environment: it asks questions, one after
the other, and goes on with the answers. Rendering asks for images, syncing
asks a page store, a client asks a web server. The environment is not part of
the computation. Any machine that answers the questions can run it, and the
run shows everything that passed between the two: the questions in order and
what was logged.

A script can also be answered by another script. In this way a client that
only knows web requests serves as a page store.

## Main definitions

* `Interface`: The questions of an environment and the types of its answers.
* `Script`: A computation over an interface.
* `Machine`: Answers questions and changes as it does.
* `Script.run`: The run of a script on a machine.
* `Script.serve`: Answers the questions of a script by other scripts.
-/

namespace WikiSync

/-- The questions of an environment and the types of its answers. -/
structure Interface where
  Question : Type
  Answer : Question → Type

/-- Two environments side by side. -/
def Interface.sum (I J : Interface) : Interface :=
  ⟨I.Question ⊕ J.Question, Sum.rec I.Answer J.Answer⟩

/-- A computation that asks questions. -/
inductive Script (I : Interface) (α : Type) where
  | done (value : α)
  | note (entry : LogEntry) (next : Script I α)
  | ask (question : I.Question) (next : I.Answer question → Script I α)

namespace Script

variable {I J : Interface} {α β : Type}

/-- Goes on with the value of a script. -/
def bind (s : Script I α) (f : α → Script I β) : Script I β :=
  match s with
  | done value => f value
  | note entry next => note entry (next.bind f)
  | ask question next => ask question fun a => (next a).bind f

instance : Monad (Script I) where
  pure := done
  bind := bind

/-- Asks one question. -/
def question (q : I.Question) : Script I (I.Answer q) :=
  ask q done

/-- Logs an entry. -/
def log (entry : LogEntry) : Script I Unit :=
  note entry (done ())

/-- Logs entries. -/
def logAll (entries : List LogEntry) : Script I Unit :=
  entries.foldr note (done ())

/-- A script over the first of two environments. -/
def inl (s : Script I α) : Script (I.sum J) α :=
  match s with
  | done value => done value
  | note entry next => note entry next.inl
  | ask question next => ask (.inl question) fun a => (next a).inl

/-- A script over the second of two environments. -/
def inr (s : Script J α) : Script (I.sum J) α :=
  match s with
  | done value => done value
  | note entry next => note entry next.inr
  | ask question next => ask (.inr question) fun a => (next a).inr

/-- Answers the questions of a script by scripts over another environment,
which share a state. -/
def serve {σ : Type} (answer : (q : I.Question) → σ → Script J (I.Answer q × σ))
    (s : Script I α) (state : σ) : Script J (α × σ) :=
  match s with
  | done value => done (value, state)
  | note entry next => note entry (next.serve answer state)
  | ask question next =>
    (answer question state).bind fun (a, state) => (next a).serve answer state

end Script

/-- Something that answers questions and changes as it does. -/
structure Machine (I : Interface) (σ : Type) where
  answer : (q : I.Question) → σ → I.Answer q × σ

/-- Two machines side by side. -/
def Machine.sum {I J : Interface} {σ τ : Type} (m : Machine I σ) (n : Machine J τ) :
    Machine (I.sum J) (σ × τ) where
  answer
    | .inl q, (s, t) =>
      let (a, s) := m.answer q s
      (a, (s, t))
    | .inr q, (s, t) =>
      let (a, t) := n.answer q t
      (a, (s, t))

/-- What a run shows: the value, the machine afterwards, the log and the
questions, both in order. -/
structure Run (I : Interface) (σ α : Type) where
  value : α
  state : σ
  log : List LogEntry
  asked : List I.Question

/-- The run of a script on a machine. -/
def Script.run {I : Interface} {σ α : Type} (m : Machine I σ) : Script I α → σ → Run I σ α
  | .done value, state => ⟨value, state, [], []⟩
  | .note entry next, state =>
    let r := next.run m state
    { r with log := entry :: r.log }
  | .ask question next, state =>
    let (a, state) := m.answer question state
    let r := (next a).run m state
    { r with asked := question :: r.asked }

end WikiSync
