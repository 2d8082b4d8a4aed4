import WikiSync.Convert.Context
import WikiSync.Diagram.Backend
import WikiSync.Diagram.Source

/-!
# Attaching Diagrams

Before a document is converted, every diagram in it is rendered, and its image
becomes an attachment. One diagram that cannot be rendered does not keep the
others from it. A backend is asked for nothing if there is nothing to render.

## Main definitions

* `Unavailable`: The backend cannot render at all.
* `attach`: Renders the diagrams of a document.
-/

namespace WikiSync.Diagram

/-- There are diagrams, and the backend cannot render. -/
structure Unavailable where
  backend : String
deriving DecidableEq, Repr

/-- The text of the error. -/
def Unavailable.message (e : Unavailable) : String :=
  "Diagram renderer " ++ e.backend ++ " is not available"

/-- What became of a diagram. -/
abbrev Rendered := Source × Except RenderError Bytes

/-- Renders diagrams one after the other. -/
def renderAll : List Source → Script Backend (List Rendered)
  | [] => pure []
  | s :: rest => do
    let result ← Script.question (I := Backend) (.render s.text)
    let more ← renderAll rest
    pure ((s, result) :: more)

/-- Adds an image to a context. -/
def attachImage (ctx : Context) : Rendered → Context
  | (s, .ok data) => ctx.attach ⟨s.filename, data, contentType⟩
  | (_, .error _) => ctx

/-- The log entry for a diagram without an image. -/
def failure? : Rendered → Option LogEntry
  | (s, .error e) =>
    some ⟨.warn, "Failed to render diagram", [("filename", s.filename), ("error", e.message)]⟩
  | (_, .ok _) => none

/-- The log entry for a number of diagrams. -/
def renderingEntry (count : Nat) : LogEntry :=
  ⟨.info, "Rendering diagrams", [("count", toString count)]⟩

/-- Renders the diagrams of a document with the backend of a name. -/
def attach (backend : String) (tree : Node) (ctx : Context) :
    Script Backend (Except Unavailable Context) :=
  let found := sources tree
  if !ctx.options.diagrams || found.isEmpty then pure (.ok ctx)
  else do
    let available ← Script.question (I := Backend) .available
    if !available then pure (.error ⟨backend⟩)
    else do
      Script.log (renderingEntry found.length)
      let results ← renderAll found
      Script.logAll (results.filterMap failure?)
      pure (.ok (results.foldl attachImage ctx))

end WikiSync.Diagram
