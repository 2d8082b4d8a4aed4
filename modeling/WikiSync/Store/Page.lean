/-!
# Stored Pages

Pages and attachments as a wiki keeps them. What a page shows depends on what
was asked for, so most of it may be missing.

## Main definitions

* `Page`, `StoredAttachment`: The types.
* `Page.markup`, `Page.webPath?`: What is read off a page.
-/

namespace WikiSync

/-- The version of a page. -/
structure Version where
  number : UInt32
  message : Option String
deriving DecidableEq, Repr

/-- Markup with the name of its format. -/
structure StoredMarkup where
  value : String
  representation : String
deriving DecidableEq, Repr

/-- The links of a page. -/
structure Links where
  webui : Option String
  self : Option String
deriving DecidableEq, Repr

/-- A page in a wiki. -/
structure Page where
  id : String
  contentType : String
  title : String
  version : Version
  /-- The body, if it was asked for, with its markup, if that was. -/
  body : Option (Option StoredMarkup)
  /-- The key of the space. -/
  space : Option String
  /-- The ids of the pages above it, from the root down. -/
  ancestors : List String
  links : Option Links
deriving DecidableEq, Repr

/-- The markup of a page, empty if it is missing. -/
def Page.markup (p : Page) : String :=
  match p.body with
  | some (some m) => m.value
  | _ => ""

/-- The path of a page below the site. -/
def Page.webPath? (p : Page) : Option String :=
  p.links.bind (·.webui)

/-- An attachment in a wiki. -/
structure StoredAttachment where
  id : String
  title : String
  /-- What is known about its content, with its media type, if that is. -/
  metadata : Option (Option String)
deriving DecidableEq, Repr

/-- The media type of an attachment. -/
def StoredAttachment.mediaType? (a : StoredAttachment) : Option String :=
  a.metadata.join

end WikiSync
