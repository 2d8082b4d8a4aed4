import WikiSync.Files.Access
import WikiSync.Sync.Reconcile

/-!
# Syncing Many Documents

Documents are synced one after the other. A store that fails for one of them
does not keep the others from it; a document that cannot be read or rendered
ends the batch.

## Main definitions

* `Workplace`: What a batch depends on: files, a diagram backend and a store.
* `BatchError`: Why a batch ends early.
* `Batch.run`: Syncs documents.
-/

namespace WikiSync

/-- What a batch depends on: files, a diagram backend and a page store. -/
abbrev Workplace : Interface :=
  Files.sum (Diagram.Backend.sum Store)

/-- Why a batch ends early. -/
inductive BatchError where
  | read (path reason : String)
  | render (path : String) (e : PageError)
deriving DecidableEq, Repr

/-- The text of an error. -/
def BatchError.message : BatchError → String
  | read path reason => "Failed to read " ++ path ++ ": " ++ reason
  | render path e => "Failed to render " ++ path ++ ": " ++ e.message

/-- How documents are rendered and where they go. -/
structure Batch where
  /-- The name of the diagram backend. -/
  backend : String
  options : ConvertOptions
  target : SyncTarget

namespace Batch

/-- Reads and renders a document. -/
def renderFile (b : Batch) (file : String) : Script Workplace (Except BatchError RenderedPage) := do
  match ← (readText file).inl with
  | .error reason => pure (.error (.read file reason))
  | .ok text =>
    match ← (renderPage b.backend b.options text (some file)).inl.inr with
    | .error e => pure (.error (.render file e))
    | .ok page => pure (.ok page)

/-- The log entry for a document that the store fails for. -/
def failureEntry (file : String) (e : StoreError) : LogEntry :=
  ⟨.error, "Failed to sync " ++ file ++ ": " ++ e.help, []⟩

/-- Brings the page of a document up to date and logs a failure. -/
def syncPage (b : Batch) (file : String) (page : RenderedPage) :
    Script Workplace (Except StoreError SyncOutcome) := do
  match ← (b.target.reconcile file page).run.inr.inr with
  | .ok outcome => pure (.ok outcome)
  | .error e =>
    Script.log (failureEntry file e)
    pure (.error e)

/-- Syncs documents in order. -/
def run (b : Batch) : List String → Script Workplace (Except BatchError SyncReport)
  | [] => pure (.ok .empty)
  | file :: rest => do
    Script.log (.info ("Processing: " ++ file))
    match ← b.renderFile file with
    | .error e => pure (.error e)
    | .ok page =>
      let result ← b.syncPage file page
      match ← b.run rest with
      | .error e => pure (.error e)
      | .ok report => pure (.ok (report.cons file result))

end Batch

end WikiSync
