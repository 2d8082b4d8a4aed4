import WikiSync.Store.Error

/-!
# Sync Outcomes

What became of documents that were synced: each was created, updated or
skipped, or it failed.

## Main definitions

* `SyncAction`, `SyncOutcome`, `SyncFailure`: What became of one document.
* `SyncReport`: What became of many.
-/

namespace WikiSync

/-- What is done to the page of a document. -/
inductive SyncAction where
  | created
  | updated
  | skipped
deriving DecidableEq, Repr

namespace SyncAction

/-- The word for what was done. -/
def name : SyncAction → String
  | created => "created"
  | updated => "updated"
  | skipped => "skipped"

/-- The word for what would be done. -/
def verb : SyncAction → String
  | created => "create"
  | updated => "update"
  | skipped => "skip"

end SyncAction

/-- A document that was synced. -/
structure SyncOutcome where
  file : String
  title : String
  pageId : String
  url : String
  action : SyncAction
deriving DecidableEq, Repr

/-- A document that failed. -/
structure SyncFailure where
  file : String
  error : StoreError
deriving DecidableEq, Repr

/-- What became of documents, in the order in which they were synced. -/
structure SyncReport where
  outcomes : List SyncOutcome
  failures : List SyncFailure
deriving DecidableEq, Repr

namespace SyncReport

/-- No documents. -/
def empty : SyncReport :=
  ⟨[], []⟩

/-- The number of documents with an action. -/
def count (r : SyncReport) (action : SyncAction) : Nat :=
  (r.outcomes.filter fun o => o.action == action).length

/-- The documents whose page was created or updated. -/
def changed (r : SyncReport) : List SyncOutcome :=
  r.outcomes.filter fun o => o.action != .skipped

/-- Whether every document was synced. -/
def isSuccess (r : SyncReport) : Bool :=
  r.failures.isEmpty

/-- The report on one more document in front of others. -/
def cons (file : String) (result : Except StoreError SyncOutcome) (r : SyncReport) : SyncReport :=
  match result with
  | .ok o => { r with outcomes := o :: r.outcomes }
  | .error e => { r with failures := ⟨file, e⟩ :: r.failures }

end SyncReport

end WikiSync
