import WikiSync.Config.Layer

/-!
# Command Line Arguments

Options may stand anywhere among the files. A value follows its option as the
next argument, or in the same one after an equals sign; after the letter of a
short option the equals sign may be left out. Short options without values can
share an argument. After a double dash everything is a file.

An argument is judged only when the next option or file shows that it is
complete. So an option without a value is found after an unknown option that
follows it.

## Main definitions

* `Arguments`: What the arguments say.
* `UsageError`: Why arguments are refused.
* `Arguments.read`: Reads arguments.
* `Arguments.layer`: The settings among them.
-/

namespace WikiSync

/-- An option that takes a value. -/
inductive ValueOption where
  | domain
  | space
  | parent
  | user
  | token
  | config
  | krokiUrl
deriving DecidableEq, Repr

/-- An option that takes none. -/
inductive SwitchOption where
  | dryRun
  | noMermaid
  | verbose
deriving DecidableEq, Repr

/-- What an option means. -/
inductive CommandOption where
  | value (o : ValueOption)
  | switch (o : SwitchOption)
  | help
  | version
deriving DecidableEq, Repr

/-- The options by their long names. -/
def longOptions : List (String × CommandOption) :=
  [("domain", .value .domain), ("space", .value .space), ("parent", .value .parent),
    ("user", .value .user), ("token", .value .token), ("config", .value .config),
    ("dry-run", .switch .dryRun), ("no-mermaid", .switch .noMermaid),
    ("kroki-url", .value .krokiUrl), ("verbose", .switch .verbose), ("help", .help),
    ("version", .version)]

/-- The options by their letters. -/
def shortOptions : List (Char × CommandOption) :=
  [('d', .value .domain), ('s', .value .space), ('p', .value .parent), ('u', .value .user),
    ('t', .value .token), ('c', .value .config), ('v', .switch .verbose), ('h', .help),
    ('V', .version)]

/-- Why arguments are refused, or what is asked for instead of a sync. -/
inductive UsageError where
  | unknown (argument : String)
  /-- An option is given twice. -/
  | repeated (option : CommandOption)
  /-- An option has no value, or a path is empty. -/
  | noValue
  /-- An option that takes no value is given one. -/
  | unwantedValue (value : String)
  | help
  | version
deriving DecidableEq, Repr

/-- The exit code for arguments that ask for no sync. -/
def UsageError.exitCode : UsageError → UInt8
  | help | version => 0
  | _ => 2

/-- What arguments say. -/
structure Arguments where
  files : List String
  values : List (ValueOption × String)
  switches : List SwitchOption
deriving DecidableEq, Repr

/-- The end of the arguments read so far, not judged yet. -/
inductive Pending where
  | nothing
  /-- An option whose value comes next. -/
  | wanted (o : ValueOption)
  | given (o : ValueOption) (value : String)
  | files (paths : List String)
deriving DecidableEq, Repr

namespace Arguments

/-- No arguments. -/
def empty : Arguments :=
  ⟨[], [], []⟩

/-- The value of an option, if it is given. -/
def value? (a : Arguments) (o : ValueOption) : Option String :=
  a.values.lookup o

/-- Whether an option is given. -/
def has (a : Arguments) (o : SwitchOption) : Bool :=
  a.switches.contains o

/-- Adds the value of an option. The path of a file cannot be empty. -/
def addValue (a : Arguments) (o : ValueOption) (value : String) : Except UsageError Arguments :=
  if (a.value? o).isSome then .error (.repeated (.value o))
  else if o = .config ∧ value = "" then .error .noValue
  else .ok { a with values := a.values ++ [(o, value)] }

/-- Adds an option without a value. -/
def addSwitch (a : Arguments) (o : SwitchOption) : Except UsageError Arguments :=
  if a.has o then .error (.repeated (.switch o))
  else .ok { a with switches := a.switches ++ [o] }

/-- Adds files. -/
def addFiles (a : Arguments) (paths : List String) : Except UsageError Arguments :=
  if paths.contains "" then .error .noValue else .ok { a with files := a.files ++ paths }

/-- Judges what is pending. -/
def settle (a : Arguments) : Pending → Except UsageError Arguments
  | .nothing => .ok a
  | .wanted _ => .error .noValue
  | .given o value => a.addValue o value
  | .files paths => a.addFiles paths

end Arguments

/-- How far the arguments have been read. -/
structure ArgumentReader where
  settled : Arguments
  pending : Pending
  /-- Whether everything that follows is a file. -/
  onlyFiles : Bool
deriving DecidableEq, Repr

namespace ArgumentReader

/-- Before the first argument. -/
def start : ArgumentReader :=
  ⟨.empty, .nothing, false⟩

/-- Judges what is pending, so that nothing is. -/
def settle (r : ArgumentReader) : Except UsageError ArgumentReader := do
  let settled ← r.settled.settle r.pending
  .ok { r with settled, pending := .nothing }

/-- Reads an option with a value, which may come with it. -/
def valueOption (r : ArgumentReader) (o : ValueOption) (value : Option (List Char)) :
    Except UsageError ArgumentReader := do
  let r ← r.settle
  match value with
  | none => .ok { r with pending := .wanted o }
  | some value =>
    let settled ← r.settled.addValue o (String.ofList value)
    .ok { r with settled }

/-- Reads an option without a value. -/
def plainOption (r : ArgumentReader) (o : CommandOption) : Except UsageError ArgumentReader := do
  let r ← r.settle
  match o with
  | .switch o =>
    let settled ← r.settled.addSwitch o
    .ok { r with settled }
  | .help => .error .help
  | .version => .error .version
  | .value o => .ok { r with pending := .wanted o }

/-- The value in the rest of an argument after the letter of its option. -/
def attached? : List Char → Option (List Char)
  | [] => none
  | '=' :: value => some value
  | value => some value

/-- Reads short options that share an argument. -/
def readLetters (r : ArgumentReader) : List Char → Except UsageError ArgumentReader
  | [] => .ok r
  | c :: rest =>
    match shortOptions.lookup c with
    | none => .error (.unknown (String.ofList ['-', c]))
    | some (.value o) => r.valueOption o (attached? rest)
    | some o => do
      let r ← r.plainOption o
      r.readLetters rest

/-- Splits at the first equals sign. -/
def splitEquals (cs : List Char) : List Char × Option (List Char) :=
  match cs.span (· != '=') with
  | (name, _ :: value) => (name, some value)
  | (name, []) => (name, none)

/-- Reads a long option. -/
def readWord (r : ArgumentReader) (cs : List Char) : Except UsageError ArgumentReader :=
  let (name, value) := splitEquals cs
  match longOptions.lookup (String.ofList name), value with
  | none, _ => .error (.unknown (String.ofList ('-' :: '-' :: name)))
  | some (.value o), value => r.valueOption o value
  | some _, some value => .error (.unwantedValue (String.ofList value))
  | some o, none => r.plainOption o

/-- Reads a file. Files in a row are judged together. -/
def readFile (r : ArgumentReader) (path : String) : Except UsageError ArgumentReader :=
  match r.pending with
  | .files paths => .ok { r with pending := .files (paths ++ [path]) }
  | _ => do
    let r ← r.settle
    .ok { r with pending := .files [path] }

/-- Reads one argument. -/
def read (r : ArgumentReader) (argument : String) : Except UsageError ArgumentReader :=
  if r.onlyFiles then r.readFile argument
  else
    match argument.toList with
    | ['-', '-'] => .ok { r with onlyFiles := true }
    | '-' :: '-' :: word => r.readWord word
    | '-' :: letter :: letters => r.readLetters (letter :: letters)
    | _ =>
      match r.pending with
      | .wanted o => .ok { r with pending := .given o argument }
      | _ => r.readFile argument

end ArgumentReader

namespace Arguments

/-- Reads arguments. -/
def read (arguments : List String) : Except UsageError Arguments := do
  let r ← arguments.foldlM ArgumentReader.read .start
  r.settled.settle r.pending

/-- The settings among the arguments. -/
def layer (a : Arguments) : ConfigLayer where
  domain := a.value? .domain
  space := a.value? .space
  email := a.value? .user
  apiToken := a.value? .token
  parentPageId := a.value? .parent
  mermaid := if a.has .noMermaid then some false else none
  krokiUrl := a.value? .krokiUrl
  timeoutSecs := none
  dryRun := if a.has .dryRun then some true else none
  verbose := if a.has .verbose then some true else none

end Arguments

end WikiSync
