import WikiSync.Client.Decode
import WikiSync.Json.Writer
import WikiSync.Store.Call
import WikiSync.Text.Base64
import WikiSync.Text.Blank
import WikiSync.Web.Exchange
import WikiSync.Web.Multipart
import WikiSync.Web.Percent
import WikiSync.Web.Status

/-!
# The Web Client

A wiki server as a page store. Every call is one request, and its answer is
decoded from one response. Ids and titles are percent-encoded wherever they
stand in an address, so each of them fills the part that it belongs to.

## Main definitions

* `Client`: Where the server is and who asks.
* `Client.request`: The request of a call.
* `Client.decode`: The result of a call out of a response.
* `Client.answer`: Answers a call through the web.
-/

namespace WikiSync

/-- Where a wiki server is and who asks. -/
structure Client where
  /-- The address of the site, without a slash at its end. -/
  siteUrl : String
  /-- The credentials that go with every request. -/
  authorization : String
  /-- What marks the parts of the forms that are sent, one after the other. -/
  boundary : Nat → String

namespace Client

/-- The lead of the marks in forms. -/
def boundaryLead : String := "----MdconfFormBoundary"

/-- A client for a site and an account. -/
def new (siteUrl email token : String) (boundary : Nat → String) : Client :=
  ⟨trimSlashes siteUrl, "Basic " ++ Text.toBase64 (Text.utf8 (email ++ ":" ++ token)), boundary⟩

/-- The address of the interface for programs. -/
def apiUrl (c : Client) : String :=
  c.siteUrl ++ "/rest/api"

/-- The address of a page for readers. -/
def pageUrl (c : Client) (p : Page) : String :=
  match p.webPath? with
  | some path => c.siteUrl ++ path
  | none => c.siteUrl ++ "/pages/viewpage.action?pageId=" ++ p.id

/-- What a look-up by id asks for. -/
def pageExpand : String := "version,body.storage,space,ancestors"

/-- What a search asks for. -/
def searchExpand : String := "version,body.storage"

/-- The address of a page for programs. -/
def contentUrl (c : Client) (pageId : String) : String :=
  c.apiUrl ++ "/content/" ++ Percent.encode pageId

/-- The address of the attachments of a page. -/
def attachmentsUrl (c : Client) (pageId : String) : String :=
  c.contentUrl pageId ++ "/child/attachment"

/-- The address that a call goes to. -/
def target (c : Client) : StoreCall → String
  | .getPage pageId => c.contentUrl pageId ++ "?expand=" ++ pageExpand
  | .findPage space title =>
    c.apiUrl ++ "/content?spaceKey=" ++ Percent.encode space ++ "&title=" ++
      Percent.encode title ++ "&expand=" ++ searchExpand
  | .createPage _ _ _ _ => c.apiUrl ++ "/content"
  | .updatePage pageId _ _ _ => c.contentUrl pageId
  | .listAttachments pageId | .upload pageId _ => c.attachmentsUrl pageId
  | .replace pageId attachmentId _ =>
    c.attachmentsUrl pageId ++ "/" ++ Percent.encode attachmentId ++ "/data"

open JsonValue (ofText ofNat ofFields)

/-- The body of a page as JSON. -/
def bodyJson (markup : String) : JsonValue :=
  ofFields [("storage", ofFields [("value", ofText markup), ("representation", ofText "storage")])]

/-- A new page as JSON. -/
def newPage (space title markup : String) (parent : Option String) : JsonValue :=
  let ancestors := match parent with
    | some id => [("ancestors", JsonValue.array [ofFields [("id", ofText id)]])]
    | none => []
  ofFields ([("type", ofText "page"), ("title", ofText title),
    ("space", ofFields [("key", ofText space)]), ("body", bodyJson markup)] ++ ancestors)

/-- The new content of a page as JSON. Its version follows the one it is based
on. -/
def newVersion (title markup : String) (base : UInt32) : JsonValue :=
  ofFields [("type", ofText "page"), ("title", ofText title), ("body", bodyJson markup),
    ("version", ofFields [("number", ofNat (base + 1).toNat)])]

/-- A request without a body. -/
def look (c : Client) (url : String) : WebRequest :=
  ⟨.get, url, [("authorization", c.authorization), ("accept", "application/json")], []⟩

/-- A request with a JSON body. -/
def submit (c : Client) (method : WebMethod) (url : String) (v : JsonValue) : WebRequest :=
  ⟨method, url, [("authorization", c.authorization), ("content-type", "application/json"),
    ("accept", "application/json")], Text.utf8 v.write⟩

/-- A request with a file. -/
def postFile (c : Client) (url boundary : String) (a : Attachment) : WebRequest :=
  ⟨.post, url, [("authorization", c.authorization),
    ("content-type", Multipart.contentType boundary), ("x-atlassian-token", "nocheck"),
    ("accept", "application/json")],
    Multipart.file boundary a.filename a.data a.contentType⟩

/-- The request of a call, with the mark for its form. -/
def request (c : Client) (boundary : String) (call : StoreCall) : WebRequest :=
  let url := c.target call
  match call with
  | .getPage _ | .findPage _ _ | .listAttachments _ => c.look url
  | .createPage space title markup parent =>
    c.submit .post url (newPage space title markup parent)
  | .updatePage _ title markup base => c.submit .put url (newVersion title markup base)
  | .upload _ a | .replace _ _ a => c.postFile url boundary a

/-- The explanation in the JSON body of an error: the first of two fields that
is a text. -/
def jsonReason? (body : String) : Option String := do
  let v ← JsonValue.read? body
  if v.isProper then ["message", "reason"].findSome? fun key => (v.get? key).bind JsonValue.text?
  else none

/-- The message of a refusal: the explanation in the body, or else the reason
of the status, or else the body itself. -/
def refusalReason (body : String) (reason : Option String) : String :=
  match (jsonReason? body).filter (· != ""), reason with
  | some message, _ => message
  | none, some reason => reason
  | none, none => String.ofList (Text.trim body.toList)

/-- The JSON value in a response. -/
def jsonOf (r : WebResponse) : Except StoreError JsonValue :=
  if r.isError then
    .error (.refused r.status (refusalReason r.errorText (Status.reason? r.status)))
  else
    match r.text? with
    | .error reason => .error (.unreachable reason)
    | .ok text =>
      match JsonValue.read? text with
      | some v => .ok v
      | none => .error (.malformed "invalid value")

/-- Decodes a record out of a response. -/
def record {α : Type} (decode : JsonValue → Option α) (r : WebResponse) : Except StoreError α :=
  match jsonOf r with
  | .error e => .error e
  | .ok v =>
    match decode v with
    | some a => .ok a
    | none => .error (.malformed "unexpected data")

/-- Decodes the answer to an upload. -/
def uploaded (r : WebResponse) : Except StoreError StoredAttachment :=
  match record Upload.ofJson? r with
  | .error e => .error e
  | .ok u =>
    match u.attachment? with
    | some a => .ok a
    | none => .error (.empty "attachment")

/-- The result of a call out of a response. -/
def decode (r : WebResponse) : (call : StoreCall) → Except StoreError call.Result
  | .getPage _ | .createPage _ _ _ _ | .updatePage _ _ _ _ => record Page.ofJson? r
  | .findPage _ _ => record (fun v => (pages? v).map List.head?) r
  | .listAttachments _ => record attachments? r
  | .upload _ _ | .replace _ _ _ => uploaded r

/-- Answers a call through the web. The number counts the forms that were
sent. -/
def answer (c : Client) (call : StoreCall) (sent : Nat) :
    Script Web (Except StoreError call.Result × Nat) := do
  let reply ← (c.request (c.boundary sent) call).send
  let sent := match call with
    | .upload _ _ | .replace _ _ _ => sent + 1
    | _ => sent
  match reply with
  | .ok r => pure (decode r call, sent)
  | .error reason => pure (.error (.unreachable reason), sent)

end Client

end WikiSync
