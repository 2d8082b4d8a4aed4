import WikiSync.Sync.Outcome
import WikiSync.Text.Lines

/-!
# Printed Reports

What the command prints about a sync: how many pages were created, updated and
skipped, which pages changed, and which documents failed, with advice.

## Main definitions

* `PrintedLine`: A text and its style.
* `SyncReport.printed`: What is printed.
-/

namespace WikiSync

/-- How a text is printed. -/
inductive Style where
  | info
  | success
  | warning
  | error
  | muted
deriving DecidableEq, Repr

/-- A text and its style. -/
structure PrintedLine where
  style : Style
  text : String
deriving DecidableEq, Repr

/-- What is printed about a page that changed: what was done, and its
address if it has one. -/
def SyncOutcome.printed (o : SyncOutcome) : List PrintedLine :=
  ⟨.info, "  " ++ o.action.name ++ ": " ++ o.title⟩ ::
    if o.url = "" then [] else [⟨.muted, "    " ++ o.url⟩]

/-- What is printed about a document that failed. -/
def SyncFailure.printed (f : SyncFailure) : List PrintedLine :=
  ⟨.info, "  " ++ f.file⟩ :: (Text.lines f.error.help).map fun line => ⟨.info, "    " ++ line⟩

namespace SyncReport

/-- How many pages were created, updated and skipped. -/
def summary (r : SyncReport) : String :=
  "Sync complete: " ++ toString (r.count .created) ++ " created, " ++
    toString (r.count .updated) ++ " updated, " ++ toString (r.count .skipped) ++ " skipped"

/-- What is printed about the documents that failed, if there are any. -/
def printedFailures (r : SyncReport) : List PrintedLine :=
  if r.failures.isEmpty then []
  else
    ⟨.error, "\nFailed (" ++ toString r.failures.length ++ "):"⟩ ::
      r.failures.flatMap SyncFailure.printed

/-- What is printed about a sync. -/
def printed (r : SyncReport) (dryRun : Bool) : List PrintedLine :=
  (if dryRun then [⟨.warning, "\n[DRY RUN] No changes made."⟩] else []) ++
    ⟨.success, "\n" ++ r.summary⟩ :: r.changed.flatMap SyncOutcome.printed ++ r.printedFailures

end SyncReport

end WikiSync
