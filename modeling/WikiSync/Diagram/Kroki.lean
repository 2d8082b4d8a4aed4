import WikiSync.Diagram.Backend
import WikiSync.Diagram.Identity
import WikiSync.Web.Exchange

/-!
# Rendering Diagrams on a Server

A diagram backend that sends sources to a Kroki server. Whether the server is
healthy is asked once and remembered. What comes back has to be an image in
PNG format: its signature and a header with its size.

## Main definitions

* `Kroki`: Where the server is.
* `isImage`: Whether bytes start like an image.
* `Kroki.answer`: Answers a request to the backend through the web.
-/

namespace WikiSync.Diagram

/-- Where the server is. -/
structure Kroki where
  /-- Its address, without a slash at its end. -/
  url : String

/-- The bytes that every PNG image starts with. -/
def pngSignature : Bytes :=
  [0x89, 0x50, 0x4E, 0x47, 0x0D, 0x0A, 0x1A, 0x0A]

/-- Whether bytes start like an image, up to its size. -/
def isImage (data : Bytes) : Bool :=
  24 ≤ data.length && data.take 8 == pngSignature

namespace Kroki

/-- The server at an address. -/
def new (url : String) : Kroki :=
  ⟨trimSlashes url⟩

/-- The name of the backend. -/
def name (k : Kroki) : String :=
  k.url

/-- The address that answers while the server is healthy. -/
def healthUrl (k : Kroki) : String :=
  k.url ++ "/health"

/-- The address that renders diagrams. -/
def renderUrl (k : Kroki) : String :=
  k.url ++ "/" ++ language ++ "/png"

/-- Asks the server whether it is healthy. -/
def probe (k : Kroki) : Script Web Bool := do
  match ← (WebRequest.mk .get k.healthUrl [] []).send with
  | .ok r =>
    if r.isSuccess then pure true
    else
      Script.log ⟨.warn, "Kroki health check failed",
        [("url", k.healthUrl), ("status", toString r.status)]⟩
      pure false
  | .error reason =>
    Script.log ⟨.warn, "Kroki server unreachable", [("url", k.healthUrl), ("error", reason)]⟩
    pure false

/-- The image in a response. -/
def image (r : WebResponse) : Except RenderError Bytes :=
  if r.isError then .error (.http ("HTTP " ++ toString r.status ++ ": " ++ r.errorText))
  else
    match r.body with
    | .error reason => .error (.io reason)
    | .ok data => if isImage data then .ok data else .error .invalidPng

/-- Has a diagram rendered. -/
def render (k : Kroki) (source : String) : Script Web (Except RenderError Bytes) := do
  let request : WebRequest :=
    ⟨.post, k.renderUrl, [("content-type", "text/plain")], Text.utf8 source⟩
  match ← request.send with
  | .ok r => pure (image r)
  | .error reason => pure (.error (.http reason))

/-- Answers a request through the web. The state is what is known about the
health of the server. -/
def answer (k : Kroki) (q : Request) (health : Option Bool) :
    Script Web (q.Answer × Option Bool) :=
  match q, health with
  | .available, some healthy => pure (healthy, some healthy)
  | .available, none => do
    let healthy ← k.probe
    pure (healthy, some healthy)
  | .render source, health => do
    let result ← k.render source
    pure (result, health)

end Kroki

end WikiSync.Diagram
