import WikiSync.Script
import WikiSync.Text.Hex

/-!
# Diagram Backends

Something that turns the source of a diagram into an image, if it is
available at all.

## Main definitions

* `RenderError`: Why there is no image.
* `Backend`: The questions to a backend.
-/

namespace WikiSync.Diagram

/-- Why a backend gives no image. -/
inductive RenderError where
  | http (reason : String)
  | io (reason : String)
  | invalidPng
deriving DecidableEq, Repr

/-- The text of an error. -/
def RenderError.message : RenderError → String
  | http reason => "HTTP error: " ++ reason
  | io reason => "I/O error: " ++ reason
  | invalidPng => "invalid PNG data"

/-- What a backend can be asked. -/
inductive Request where
  | available
  | render (source : String)
deriving DecidableEq, Repr

/-- The answer to a request. -/
abbrev Request.Answer : Request → Type
  | available => Bool
  | render _ => Except RenderError Bytes

/-- The questions to a backend. -/
abbrev Backend : Interface :=
  ⟨Request, Request.Answer⟩

end WikiSync.Diagram
