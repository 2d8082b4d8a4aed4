import WikiSync.Script
import WikiSync.Text.Hex

/-!
# Web Exchanges

Requests to a web server and what comes back. A server may not be there, and a
body may break off.

## Main definitions

* `WebRequest`, `WebResponse`: The types.
* `Web`: The questions to the web.
* `WebResponse.text?`: The body of a response as text.
-/

namespace WikiSync

/-- What a request does. -/
inductive WebMethod where
  | get
  | post
  | put
deriving DecidableEq, Repr

/-- The word for a method. -/
def WebMethod.name : WebMethod → String
  | get => "GET"
  | post => "POST"
  | put => "PUT"

/-- A request. -/
structure WebRequest where
  method : WebMethod
  url : String
  headers : List (String × String)
  body : Bytes
deriving DecidableEq, Repr

/-- A response. -/
structure WebResponse where
  status : Nat
  /-- The body, or why it cannot be read. -/
  body : Except String Bytes

/-- The questions to the web: a request is answered by a response, or by the
reason why there is none. -/
abbrev Web : Interface :=
  ⟨WebRequest, fun _ => Except String WebResponse⟩

/-- Sends a request. -/
def WebRequest.send (r : WebRequest) : Script Web (Except String WebResponse) :=
  Script.question (I := Web) r

namespace WebResponse

/-- Whether a response reports an error. -/
def isError (r : WebResponse) : Bool :=
  400 ≤ r.status

/-- Whether a response reports success. -/
def isSuccess (r : WebResponse) : Bool :=
  200 ≤ r.status && r.status < 300

/-- The body of a response as text. -/
def text? (r : WebResponse) : Except String String :=
  match r.body with
  | .error reason => .error reason
  | .ok bytes =>
    match Text.ofUtf8? bytes with
    | some text => .ok text
    | none => .error Text.notUtf8

/-- The text that explains an error. -/
def errorText (r : WebResponse) : String :=
  match r.text? with
  | .ok text => text
  | .error _ => "(unable to read error body)"

end WebResponse

/-- An address without slashes at its end. -/
def trimSlashes (url : String) : String :=
  String.ofList (url.toList.reverse.dropWhile (· == '/')).reverse

end WikiSync
