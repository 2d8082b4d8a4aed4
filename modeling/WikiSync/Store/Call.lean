import WikiSync.Convert.Context
import WikiSync.Script
import WikiSync.Store.Error
import WikiSync.Store.Page

/-!
# Store Calls

What a page store can be asked. Some calls only look; the others change the
store.

## Main definitions

* `StoreCall`: The calls.
* `Store`: The questions to a store.
* `StoreCall.isMutation`: Whether a call changes the store.
-/

namespace WikiSync

/-- A call to a page store. -/
inductive StoreCall where
  | getPage (pageId : String)
  | findPage (space title : String)
  | createPage (space title markup : String) (parent : Option String)
  /-- Gives a page new content, which is based on a version of it. -/
  | updatePage (pageId title markup : String) (base : UInt32)
  | listAttachments (pageId : String)
  | upload (pageId : String) (attachment : Attachment)
  | replace (pageId attachmentId : String) (attachment : Attachment)
deriving DecidableEq, Repr

namespace StoreCall

/-- What a call that succeeds gives. -/
abbrev Result : StoreCall → Type
  | getPage _ | createPage _ _ _ _ | updatePage _ _ _ _ => Page
  | findPage _ _ => Option Page
  | listAttachments _ => List StoredAttachment
  | upload _ _ | replace _ _ _ => StoredAttachment

/-- Whether a call changes the store. -/
def isMutation : StoreCall → Bool
  | createPage _ _ _ _ | updatePage _ _ _ _ | upload _ _ | replace _ _ _ => true
  | getPage _ | findPage _ _ | listAttachments _ => false

end StoreCall

/-- The questions to a page store. -/
abbrev Store : Interface :=
  ⟨StoreCall, fun c => Except StoreError c.Result⟩

/-- A script over a page store that may fail. -/
abbrev StoreScript := ExceptT StoreError (Script Store)

/-- Calls a store. -/
def StoreCall.ask (c : StoreCall) : StoreScript c.Result :=
  ExceptT.mk (Script.question (I := Store) c)

/-- Logs progress. -/
def StoreScript.info (message : String) : StoreScript Unit :=
  ExceptT.lift (Script.log (.info message))

end WikiSync
