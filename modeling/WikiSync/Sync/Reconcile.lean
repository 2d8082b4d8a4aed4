import WikiSync.Digest.Sha256
import WikiSync.Page.Render
import WikiSync.Store.Call
import WikiSync.Sync.Outcome

/-!
# Reconciling Pages

Brings the page of a document up to date. The page is looked up by the id in
the front matter, or else by title. A page whose markup has the same digest is
left alone, and so are its attachments; any other is updated, and a missing
one is created. After that the attachments follow: one whose file name the
page knows already is replaced, any other is uploaded.

A dry run stops after the decision.

## Main definitions

* `SyncTarget`: Where pages go.
* `plan`: The decision.
* `reconcile`: The whole of it.
-/

namespace WikiSync

/-- Where pages go. -/
structure SyncTarget where
  /-- The space in which titles are looked up and pages are created. -/
  space : String
  /-- The page that new pages are put under. -/
  parent : Option String
  /-- Whether to decide only. -/
  dryRun : Bool
  /-- The address of a page. -/
  pageUrl : Page → String

/-- The page id in the outcome of a dry run that would create a page. -/
def unknownPageId : String := "new"

/-- The digest by which markup is compared. -/
def contentHash (markup : String) : String :=
  Sha256.hexDigest markup

/-- What to do about a document with some markup. -/
def plan (existing : Option Page) (markup : String) : SyncAction :=
  match existing with
  | none => .created
  | some p => if contentHash p.markup = contentHash markup then .skipped else .updated

namespace SyncTarget

/-- The outcome for a page of the store. -/
def outcome (t : SyncTarget) (file : String) (page : RenderedPage) (remote : Page)
    (action : SyncAction) : SyncOutcome :=
  ⟨file, page.title, remote.id, t.pageUrl remote, action⟩

/-- The page that a document belongs to. -/
def findExisting (t : SyncTarget) (page : RenderedPage) : StoreScript (Option Page) :=
  match page.frontMatter.pageId with
  | some pageId => do
    let p ← (StoreCall.getPage pageId).ask
    pure (some p)
  | none => (StoreCall.findPage t.space page.title).ask

/-- The id of the last attachment with a title. -/
def attachmentId? (known : List StoredAttachment) (title : String) : Option String :=
  (known.reverse.find? fun a => a.title == title).map (·.id)

/-- Replaces or uploads attachments, which go by their file names. -/
def putAttachments (pageId : String) (known : List StoredAttachment) :
    List (String × Attachment) → StoreScript Unit
  | [] => pure ()
  | (filename, a) :: rest => do
    match attachmentId? known filename with
    | some id =>
      let _ ← (StoreCall.replace pageId id a).ask
      StoreScript.info ("  Updated attachment: " ++ filename)
    | none =>
      let _ ← (StoreCall.upload pageId a).ask
      StoreScript.info ("  Uploaded attachment: " ++ filename)
    putAttachments pageId known rest

/-- Brings the attachments of a page up to date. -/
def syncAttachments (pageId : String) (attachments : SortedMap Attachment) : StoreScript Unit :=
  if attachments.isEmpty then pure ()
  else do
    let known ← (StoreCall.listAttachments pageId).ask
    putAttachments pageId known attachments.entries

/-- Says what a dry run would do. -/
def foresee (t : SyncTarget) (file : String) (page : RenderedPage) (existing : Option Page) :
    StoreScript SyncOutcome := do
  let action := plan existing page.markup
  StoreScript.info ("[dry run] Would " ++ action.verb ++ ": " ++ page.title)
  match existing with
  | some remote => pure (t.outcome file page remote action)
  | none => pure ⟨file, page.title, unknownPageId, "", action⟩

/-- Creates or updates a page, and its attachments. -/
def carryOut (t : SyncTarget) (file : String) (page : RenderedPage) (existing : Option Page) :
    StoreScript SyncOutcome := do
  let action := plan existing page.markup
  match existing with
  | some remote =>
    if action = .skipped then
      StoreScript.info ("Skipped (no changes): " ++ page.title)
      pure (t.outcome file page remote action)
    else
      let updated ←
        (StoreCall.updatePage remote.id page.title page.markup remote.version.number).ask
      StoreScript.info ("Updated: " ++ page.title)
      syncAttachments updated.id page.attachments
      pure (t.outcome file page updated action)
  | none =>
    let created ← (StoreCall.createPage t.space page.title page.markup t.parent).ask
    StoreScript.info ("Created: " ++ page.title)
    syncAttachments created.id page.attachments
    pure (t.outcome file page created action)

/-- Brings the page of a document up to date. -/
def reconcile (t : SyncTarget) (file : String) (page : RenderedPage) : StoreScript SyncOutcome := do
  let existing ← t.findExisting page
  if t.dryRun then t.foresee file page existing else t.carryOut file page existing

end SyncTarget

end WikiSync
