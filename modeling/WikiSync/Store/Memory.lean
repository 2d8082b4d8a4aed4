import WikiSync.Data.SortedMap
import WikiSync.Store.Call

/-!
# Stores in Memory

A page store without a server. It keeps what it accepts, gives out ids of its
own, and refuses an update that is not based on the current version of the
page. It can be told to refuse calls for certain pages.

## Main definitions

* `MemoryStore`: The type.
* `MemoryStore.answer`: What a call does.
* `MemoryStore.machine`: The store as a machine.
-/

namespace WikiSync

/-- A page store in memory. -/
structure MemoryStore where
  pages : SortedMap Page
  /-- The attachments of each page, the oldest first. -/
  attachments : SortedMap (List StoredAttachment)
  /-- The content of attachments, by attachment id. -/
  data : SortedMap Bytes
  /-- The pages that cannot be read, with the status of the refusal. -/
  unreadable : SortedMap Nat
  /-- The pages that cannot be updated, with the status of the refusal. -/
  locked : SortedMap Nat
  /-- The number of ids given out. -/
  issued : Nat

namespace MemoryStore

/-- A store without pages. -/
def empty : MemoryStore :=
  ⟨.empty, .empty, .empty, .empty, .empty, 0⟩

/-- The address of the site that the pages seem to be on. -/
def siteUrl : String := "https://mock.atlassian.net/wiki"

/-- The address of a page. -/
def pageUrl (p : Page) : String :=
  siteUrl ++ p.webPath?.getD ""

/-- A page as the store keeps it. -/
def buildPage (id space title markup : String) (version : UInt32) (parent : Option String) :
    Page where
  id
  contentType := "page"
  title
  version := ⟨version, none⟩
  body := some (some ⟨markup, "storage"⟩)
  space := some space
  ancestors := parent.toList
  links := some ⟨some ("/spaces/" ++ space ++ "/pages/" ++ id), none⟩

/-- Adds a page at version 1. -/
def withPage (s : MemoryStore) (id space title markup : String) : MemoryStore :=
  { s with pages := s.pages.insert id (buildPage id space title markup 1 none) }

/-- The attachments of a page. -/
def attachmentsOf (s : MemoryStore) (pageId : String) : List StoredAttachment :=
  (s.attachments.get? pageId).getD []

/-- Adds an attachment without content to a page. -/
def withAttachment (s : MemoryStore) (pageId id title : String) : MemoryStore :=
  let attachments := s.attachmentsOf pageId ++ [⟨id, title, none⟩]
  { s with attachments := s.attachments.insert pageId attachments }

/-- The next id, behind a lead. -/
def nextId (s : MemoryStore) (lead : String) : String :=
  lead ++ toString (1001 + s.issued)

/-- The refusal for something that does not exist. -/
def missing (what id : String) : StoreError :=
  .refused 404 ("No " ++ what ++ " with id " ++ id)

/-- Looks up a page by id. -/
def getPage (s : MemoryStore) (pageId : String) : Except StoreError Page :=
  match s.unreadable.get? pageId, s.pages.get? pageId with
  | some status, _ => .error (.refused status ("Injected failure for page " ++ pageId))
  | none, some p => .ok p
  | none, none => .error (missing "page" pageId)

/-- Looks up a page by title; of several it is the one with the least id. -/
def findPage (s : MemoryStore) (space title : String) : Option Page :=
  s.pages.values.find? fun p => p.title == title && p.space == some space

/-- Creates a page. -/
def createPage (s : MemoryStore) (space title markup : String) (parent : Option String) :
    Page × MemoryStore :=
  let id := s.nextId ""
  let p := buildPage id space title markup 1 parent
  (p, { s with pages := s.pages.insert id p, issued := s.issued + 1 })

/-- The refusal of an update that is based on another version. -/
def conflict (current : UInt32) : StoreError :=
  .refused 409
    ("Version must be incremented on update. Current version is: " ++ toString current.toNat)

/-- Updates a page. -/
def updatePage (s : MemoryStore) (pageId title markup : String) (base : UInt32) :
    Except StoreError Page × MemoryStore :=
  match s.locked.get? pageId, s.pages.get? pageId with
  | some status, _ =>
    (.error (.refused status ("Injected update failure for page " ++ pageId)), s)
  | none, none => (.error (missing "page" pageId), s)
  | none, some old =>
    if old.version.number != base then (.error (conflict old.version.number), s)
    else
      let p := buildPage pageId (old.space.getD "") title markup (base + 1) old.ancestors.getLast?
      (.ok p, { s with pages := s.pages.insert pageId p })

/-- Adds an attachment to a page, which need not exist. -/
def upload (s : MemoryStore) (pageId : String) (a : Attachment) :
    StoredAttachment × MemoryStore :=
  let id := s.nextId "att"
  let stored : StoredAttachment := ⟨id, a.filename, none⟩
  (stored,
    { s with
      attachments := s.attachments.insert pageId (s.attachmentsOf pageId ++ [stored])
      data := s.data.insert id a.data
      issued := s.issued + 1 })

/-- Gives an attachment new content. -/
def replace (s : MemoryStore) (pageId attachmentId : String) (a : Attachment) :
    Except StoreError StoredAttachment × MemoryStore :=
  match (s.attachmentsOf pageId).find? fun stored => stored.id == attachmentId with
  | some stored => (.ok stored, { s with data := s.data.insert attachmentId a.data })
  | none => (.error (missing "attachment" attachmentId), s)

/-- What a call gives and what it does to the store. -/
def answer (s : MemoryStore) : (c : StoreCall) → Except StoreError c.Result × MemoryStore
  | .getPage pageId => (s.getPage pageId, s)
  | .findPage space title => (.ok (s.findPage space title), s)
  | .createPage space title markup parent =>
    let (p, s) := s.createPage space title markup parent
    (.ok p, s)
  | .updatePage pageId title markup base => s.updatePage pageId title markup base
  | .listAttachments pageId => (.ok (s.attachmentsOf pageId), s)
  | .upload pageId a =>
    let (stored, s) := s.upload pageId a
    (.ok stored, s)
  | .replace pageId attachmentId a => s.replace pageId attachmentId a

/-- The store as a machine. -/
def machine : Machine Store MemoryStore where
  answer c s := s.answer c

end MemoryStore

end WikiSync
