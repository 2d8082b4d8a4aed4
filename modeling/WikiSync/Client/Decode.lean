import WikiSync.Json.Decode
import WikiSync.Json.Reader
import WikiSync.Store.Page

/-!
# Decoding Answers

Pages and attachments out of the JSON that a wiki server sends.

## Main definitions

* `Page.ofJson?`, `StoredAttachment.ofJson?`: Decode one record.
* `pages?`, `attachments?`: Decode the results of a search and of a list.
* `Upload`: The two forms of the answer to an upload.
-/

namespace WikiSync

open JsonValue (fields? required orElse nullable list? text? natural?)

/-- Decodes a version. -/
def Version.ofJson? (v : JsonValue) : Option Version := do
  match ← fields? ["number", "message"] v with
  | [number, message] =>
    let number ← required (natural? (wordSize 32)) number
    let message ← nullable text? message
    some ⟨UInt32.ofNat number, message⟩
  | _ => none

/-- Decodes stored markup. -/
def StoredMarkup.ofJson? (v : JsonValue) : Option StoredMarkup := do
  match ← fields? ["value", "representation"] v with
  | [value, representation] =>
    let value ← required text? value
    let representation ← required text? representation
    some ⟨value, representation⟩
  | _ => none

/-- Decodes links. -/
def Links.ofJson? (v : JsonValue) : Option Links := do
  match ← fields? ["webui", "self"] v with
  | [webui, self] =>
    let webui ← nullable text? webui
    let self ← nullable text? self
    some ⟨webui, self⟩
  | _ => none

/-- Decodes a record with one field. -/
def single? {α : Type} (name : String) (decode : Option JsonValue → Option α) (v : JsonValue) :
    Option α := do
  match ← fields? [name] v with
  | [field] => decode field
  | _ => none

/-- Decodes a page. -/
def Page.ofJson? (v : JsonValue) : Option Page := do
  match ← fields? ["id", "type", "title", "version", "body", "space", "ancestors", "_links"] v with
  | [id, contentType, title, version, body, space, ancestors, links] =>
    let id ← required text? id
    let contentType ← orElse "page" text? contentType
    let title ← required text? title
    let version ← required Version.ofJson? version
    let body ← nullable (single? "storage" (nullable StoredMarkup.ofJson?)) body
    let space ← nullable (single? "key" (required text?)) space
    let ancestors ← orElse [] (list? (single? "id" (required text?))) ancestors
    let links ← nullable Links.ofJson? links
    some ⟨id, contentType, title, version, body, space, ancestors, links⟩
  | _ => none

/-- Decodes an attachment. -/
def StoredAttachment.ofJson? (v : JsonValue) : Option StoredAttachment := do
  match ← fields? ["id", "title", "metadata"] v with
  | [id, title, metadata] =>
    let id ← required text? id
    let title ← required text? title
    let metadata ← nullable (single? "mediaType" (nullable text?)) metadata
    some ⟨id, title, metadata⟩
  | _ => none

/-- Decodes the results of a search for pages. -/
def pages? : JsonValue → Option (List Page) :=
  single? "results" (required (list? Page.ofJson?))

/-- Decodes a list of attachments. -/
def attachments? : JsonValue → Option (List StoredAttachment) :=
  single? "results" (required (list? StoredAttachment.ofJson?))

/-- The answer to an upload: a list for a new attachment, or the attachment
itself. -/
inductive Upload where
  | list (attachments : List StoredAttachment)
  | single (attachment : StoredAttachment)
deriving DecidableEq, Repr

namespace Upload

/-- Decodes the answer to an upload. As its form is not known in advance, it
has to be held in memory. -/
def ofJson? (v : JsonValue) : Option Upload :=
  if v.isProper then
    match attachments? v with
    | some attachments => some (.list attachments)
    | none => (StoredAttachment.ofJson? v).map .single
  else none

/-- The attachment in an answer. -/
def attachment? : Upload → Option StoredAttachment
  | list attachments => attachments.head?
  | single attachment => some attachment

end Upload

end WikiSync
