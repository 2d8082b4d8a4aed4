/-!
# Store Errors

Why a call to a page store fails, and what to tell the user. For some
refusals there is advice; for any other error its message has to do.

## Main definitions

* `StoreError`: The type.
* `StoreError.message`, `StoreError.help`: The texts of an error.
-/

namespace WikiSync

/-- Why a call to a page store fails. -/
inductive StoreError where
  /-- The store could not be reached. -/
  | unreachable (reason : String)
  /-- The store refused, with a status and a message. -/
  | refused (status : Nat) (reason : String)
  /-- The answer was not what was expected. -/
  | malformed (reason : String)
  /-- The answer held nothing where something was expected. -/
  | empty (what : String)
deriving DecidableEq, Repr

namespace StoreError

/-- The status of a refusal. -/
def status? : StoreError → Option Nat
  | refused status _ => some status
  | _ => none

/-- The text of an error. -/
def message : StoreError → String
  | unreachable reason => "HTTP request failed: " ++ reason
  | refused status reason => "Confluence API error " ++ toString status ++ ": " ++ reason
  | malformed reason => "JSON error: " ++ reason
  | empty what => "Empty " ++ what ++ " response"

/-- A problem and steps that may solve it. -/
def advice (problem : String) (steps : List String) : String :=
  "\n  → ".intercalate (problem :: steps)

/-- What to tell the user about an error. -/
def help (e : StoreError) : String :=
  match e.status? with
  | some 401 => advice "Authentication failed"
    ["Set CONFLUENCE_EMAIL and CONFLUENCE_API_TOKEN",
      "Generate a token at https://id.atlassian.com/manage-profile/security/api-tokens"]
  | some 403 => advice "Permission denied"
    ["Verify you have access to this space/page",
      "Check that the API token has the required permissions"]
  | some 404 => advice "Page not found"
    ["Check confluence-page-id in front matter", "Verify the page exists and you have access"]
  | some 409 => advice "Version conflict"
    ["The page was changed while syncing", "Run the sync again"]
  | _ => e.message

end StoreError

end WikiSync
