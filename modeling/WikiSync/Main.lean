import WikiSync.Command.Sync
import WikiSync.Command.Usage
import WikiSync.Web.Offline

/-!
# The Program

The outermost layer. It answers what the command asks about files with the
files of the system, prints what the command reports, and exits. There is no
way to a network from here, so every request fails.
-/

namespace WikiSync.Program

/-- Runs an action and gives the reason if it fails. -/
def attempt {α : Type} (act : IO α) : IO (Except String α) := do
  try
    pure (.ok (← act))
  catch e =>
    pure (.error (toString e))

/-- What a path leads to, links followed. -/
def kindOf (path : String) : IO (Option FileKind) := do
  match ← attempt do (← IO.FS.realPath path).metadata with
  | .error _ => pure none
  | .ok found =>
    match found.type with
    | .dir => pure (some .directory)
    | .file => pure (some .file)
    | _ => pure (some .other)

/-- The names in a directory. -/
def namesIn (path : String) : IO (List String) := do
  let p ← IO.FS.realPath path
  let found ← p.readDir
  pure (found.toList.map (·.fileName))

/-- Answers a question about files. -/
def answerFiles : (q : FileRequest) → IO q.Answer
  | .kind path => kindOf path
  | .names path => attempt (namesIn path)
  | .read path => attempt do
    let content ← IO.FS.readBinFile path
    pure content.toList

/-- Answers a question. -/
def answer : (q : Outside.Question) → IO (Outside.Answer q)
  | .inl q => answerFiles q
  | .inr q => pure (Web.offline.answer q ()).1

/-- Runs a script. Progress is shown only if it is asked for. -/
def run {α : Type} (verbose : Bool) : Script Outside α → IO α
  | .done value => pure value
  | .note entry next => do
    if verbose || entry.level != .info then IO.eprintln entry.line
    run verbose next
  | .ask question next => do
    let a ← answer question
    run verbose (next a)

/-- The variables in a list of them, each ending with a null character. -/
def variablesOf (list : String) : Variables := fun name =>
  (list.splitOn "\x00").findSome? fun entry =>
    match ArgumentReader.splitEquals entry.toList with
    | (key, some value) => if String.ofList key == name then some (String.ofList value) else none
    | (_, none) => none

/-- The surroundings of the program. -/
def environment : IO Environment := do
  let list ← attempt (IO.FS.readBinFile "/proc/self/environ")
  let directory ← attempt IO.currentDir
  let text := (list.toOption.bind fun bytes => Text.ofUtf8? bytes.toList).getD ""
  pure ⟨variablesOf text, directory.toOption.map (·.toString)⟩

/-- Carries out the command. -/
def execute (a : Arguments) : IO UInt32 := do
  let e ← environment
  let seed ← IO.rand 0 (wordSize 62)
  let outcome ← run (a.has .verbose)
    (a.execute e fun n => Client.boundaryLead ++ toString (seed + n))
  for line in outcome.lines do
    IO.eprintln line.text
  pure outcome.exitCode.toUInt32

end WikiSync.Program

/-- Reads the arguments and carries out the command. -/
def main (arguments : List String) : IO UInt32 := do
  match WikiSync.Arguments.read arguments with
  | .ok a => WikiSync.Program.execute a
  | .error e =>
    if e.exitCode = 0 then IO.println e.message else IO.eprintln e.message
    pure e.exitCode.toUInt32
