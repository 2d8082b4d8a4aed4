import WikiSync.Document.Node
import WikiSync.Log

/-!
# Emissions

What a conversion yields: markup, or the reason why there is none, and the
nodes it had to report on the way. Emissions are put together in sequence. A
failure ends the sequence, and what was reported before it stays reported.

## Main definitions

* `ConvertError`: Why a conversion fails.
* `Emission`: The type, with its sequencing.
-/

namespace WikiSync

/-- Why a conversion fails. -/
inductive ConvertError where
  /-- A diagram has no image yet. -/
  | missingDiagram (filename : String)
deriving DecidableEq, Repr

/-- The text of a failure. -/
def ConvertError.message : ConvertError → String
  | missingDiagram filename =>
    "Diagram attachment " ++ filename ++
      " missing at conversion time; diagrams must be rendered before conversion"

/-- What a conversion yields: the kinds it reported, in order, and its value
or the reason why it has none. -/
structure Emission (α : Type) where
  reported : List Kind
  outcome : Except ConvertError α

namespace Emission

variable {α β : Type}

/-- A value, with nothing to report. -/
def ok (value : α) : Emission α :=
  ⟨[], .ok value⟩

/-- A failure. -/
def fail (e : ConvertError) : Emission α :=
  ⟨[], .error e⟩

/-- Reports a kind. -/
def report (k : Kind) : Emission Unit :=
  ⟨[k], .ok ()⟩

/-- Goes on with the value of an emission. -/
def bind (m : Emission α) (f : α → Emission β) : Emission β :=
  match m.outcome with
  | .error e => ⟨m.reported, .error e⟩
  | .ok a =>
    let r := f a
    ⟨m.reported ++ r.reported, r.outcome⟩

instance : Monad Emission where
  pure := ok
  bind := bind

end Emission

/-- The log entry for a node without a renderer. -/
def noRenderer (k : Kind) : LogEntry :=
  ⟨.warn, "No converter for node kind", [("kind", k.name)]⟩

end WikiSync
