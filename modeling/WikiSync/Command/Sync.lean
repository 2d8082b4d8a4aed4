import WikiSync.Client.Calls
import WikiSync.Command.Arguments
import WikiSync.Command.Report
import WikiSync.Config.Load
import WikiSync.Diagram.Kroki
import WikiSync.Sync.Batch
import WikiSync.Sync.Expand

/-!
# The Sync Command

Loads the configuration, finds the documents and syncs them. Diagrams and
pages both go through the web, so the command depends on files and the web
alone.

## Main definitions

* `Outside`: What the command depends on.
* `CommandError`: Why a command fails.
* `Arguments.execute`: The command.
-/

namespace WikiSync

/-- What the command depends on: files and the web. -/
abbrev Outside : Interface :=
  Files.sum Web

/-- Why a command fails. -/
inductive CommandError where
  | config (e : ConfigError)
  | batch (e : BatchError)
  /-- Some documents failed. -/
  | failed (count : Nat)
deriving DecidableEq, Repr

/-- The text of an error. -/
def CommandError.message : CommandError → String
  | config e => "Configuration error:\n" ++ e.message
  | batch e => e.message
  | failed count => toString count ++ " document(s) failed to sync"

/-- What came of a command. -/
structure CommandOutcome where
  /-- What was printed before the command ended. -/
  printed : List PrintedLine
  error : Option CommandError
deriving DecidableEq, Repr

/-- Everything that is printed, an error last. -/
def CommandOutcome.lines (o : CommandOutcome) : List PrintedLine :=
  match o.error with
  | some e => o.printed ++ [⟨.error, e.message⟩]
  | none => o.printed

/-- The exit code of a command. -/
def CommandOutcome.exitCode (o : CommandOutcome) : UInt8 :=
  if o.error.isSome then 1 else 0

/-- The servers that a command works with. -/
structure Servers where
  diagrams : Diagram.Kroki
  wiki : Client

namespace Servers

/-- What is known about the servers: whether the one for diagrams is healthy,
and how many forms were sent to the wiki. -/
abbrev Knowledge := Option Bool × Nat

/-- Knowing nothing. -/
def Knowledge.empty : Knowledge :=
  (none, 0)

/-- The servers of a configuration. -/
def ofConfig (c : Config) (boundary : Nat → String) : Servers :=
  ⟨.new c.krokiUrl, .new c.siteUrl c.email c.apiToken boundary⟩

/-- Answers what a batch asks. -/
def answer (s : Servers) :
    (q : Workplace.Question) → Knowledge → Script Outside (Workplace.Answer q × Knowledge)
  | .inl q, known => do
    let a ← (Script.question (I := Files) q).inl
    pure (a, known)
  | .inr (.inl q), (healthy, sent) => do
    let (a, healthy) ← (s.diagrams.answer q healthy).inr
    pure (a, (healthy, sent))
  | .inr (.inr call), (healthy, sent) => do
    let (a, sent) ← (s.wiki.answer call sent).inr
    pure (a, (healthy, sent))

end Servers

/-- The batch of a configuration. -/
def Batch.ofConfig (c : Config) (s : Servers) : Batch where
  backend := s.diagrams.name
  options := ⟨c.mermaid, c.verbose⟩
  target := ⟨c.space, c.parentPageId, c.dryRun, s.wiki.pageUrl⟩

/-- What a report means for the command. -/
def SyncReport.outcome (r : SyncReport) (dryRun : Bool) : CommandOutcome :=
  ⟨r.printed dryRun, if r.isSuccess then none else some (.failed r.failures.length)⟩

/-- Syncs documents with the settings of a configuration. -/
def Config.sync (c : Config) (boundary : Nat → String) (files : List String) :
    Script Outside CommandOutcome := do
  let servers := Servers.ofConfig c boundary
  let (result, _) ← ((Batch.ofConfig c servers).run files).serve servers.answer .empty
  match result with
  | .ok report => pure (report.outcome c.dryRun)
  | .error e => pure ⟨[], some (.batch e)⟩

namespace Arguments

/-- Loads the configuration that arguments ask for. -/
def config (a : Arguments) (e : Environment) : Script Files (Except ConfigError Config) :=
  Config.load e (a.value? .config) (.ofVariables e.vars) a.layer

/-- Carries out the command. The marks of the forms that are sent are given. -/
def execute (a : Arguments) (e : Environment) (boundary : Nat → String) :
    Script Outside CommandOutcome := do
  match ← (a.config e).inl with
  | .error problem => pure ⟨[], some (.config problem)⟩
  | .ok c =>
    let files ← (expandPaths a.files).inl
    if files.isEmpty then pure ⟨[⟨.warning, "No Markdown files to sync"⟩], none⟩
    else c.sync boundary files

end Arguments

end WikiSync
