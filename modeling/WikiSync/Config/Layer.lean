import WikiSync.Config.Error
import WikiSync.Config.Expand
import WikiSync.Number.Word
import WikiSync.Toml.Value

/-!
# Layers of Settings

Settings come from the environment, from a file and from the command line.
Each of these is a layer, in which any setting may be absent; layers are put
on top of each other before anything is checked.

In a file the settings stand in two tables, and two of them outside. A table
may also be given as an array with its settings in order. Other keys do not
matter, as long as their numbers can be represented.

## Main definitions

* `ConfigLayer`: The type.
* `ConfigLayer.withDefaults`: One layer on top of another.
* `ConfigLayer.ofVariables`, `ConfigLayer.ofToml?`: The layers of the
  environment and of a file.
* `ConfigLayer.expand`: A layer with references to variables replaced.
-/

namespace WikiSync

/-- Settings, any of which may be absent. -/
structure ConfigLayer where
  domain : Option String
  space : Option String
  email : Option String
  apiToken : Option String
  parentPageId : Option String
  mermaid : Option Bool
  krokiUrl : Option String
  timeoutSecs : Option Nat
  dryRun : Option Bool
  verbose : Option Bool
deriving DecidableEq, Repr

namespace ConfigLayer

/-- No settings. -/
def empty : ConfigLayer :=
  ⟨none, none, none, none, none, none, none, none, none, none⟩

/-- One layer on top of another: a setting of the lower one counts where the
upper one has none. -/
def withDefaults (upper lower : ConfigLayer) : ConfigLayer where
  domain := upper.domain.or lower.domain
  space := upper.space.or lower.space
  email := upper.email.or lower.email
  apiToken := upper.apiToken.or lower.apiToken
  parentPageId := upper.parentPageId.or lower.parentPageId
  mermaid := upper.mermaid.or lower.mermaid
  krokiUrl := upper.krokiUrl.or lower.krokiUrl
  timeoutSecs := upper.timeoutSecs.or lower.timeoutSecs
  dryRun := upper.dryRun.or lower.dryRun
  verbose := upper.verbose.or lower.verbose

/-! ## The environment -/

/-- The settings in the environment. An empty variable counts as unset. -/
def ofVariables (vars : Variables) : ConfigLayer :=
  let value (name : String) := (vars name).filter (· != "")
  { empty with
    domain := value "CONFLUENCE_DOMAIN"
    space := value "CONFLUENCE_SPACE"
    email := value "CONFLUENCE_EMAIL"
    apiToken := value "CONFLUENCE_API_TOKEN" }

/-! ## Files -/

mutual

/-- Whether the numbers in a value can be represented: integers in 128 bits,
other numbers as finite ones. -/
def isSound : TomlValue → Bool
  | .integer n => -wordSize 127 ≤ n && n < wordSize 128
  | .real finite => finite
  | .array vs => areSound vs
  | .table _ es => areSoundEntries es
  | .tables ts => areSoundTables ts
  | .string _ | .bool _ | .dateTime => true

@[inherit_doc isSound]
def areSound : List TomlValue → Bool
  | [] => true
  | v :: vs => isSound v && areSound vs

@[inherit_doc isSound]
def areSoundEntries : List (String × TomlValue) → Bool
  | [] => true
  | (_, v) :: es => isSound v && areSoundEntries es

@[inherit_doc isSound]
def areSoundTables : List (List (String × TomlValue)) → Bool
  | [] => true
  | t :: ts => areSoundEntries t && areSoundTables ts

end

/-- Whether the entries of a table can be read: those that do not matter have
to be sound. -/
def isReadable (known : List String) (es : TomlTable) : Bool :=
  es.all fun (key, v) => known.contains key || isSound v

/-- The settings under some keys, in order. A table has them under the keys, an
array in their places; a point in time has none. -/
def settings? (keys : List String) : Option TomlValue → Option (List (Option TomlValue))
  | none | some .dateTime => some (keys.map fun _ => none)
  | some (.table _ es) =>
    if isReadable keys es then some (keys.map fun key => es.lookup key) else none
  | some (.array vs) => some ((List.range keys.length).map fun i => vs[i]?)
  | some _ => none

/-- The text of a setting, if it is set. -/
def text? : Option TomlValue → Option (Option String)
  | none => some none
  | some (.string s) => some (some s)
  | some _ => none

/-- The truth value of a setting, if it is set. -/
def flag? : Option TomlValue → Option (Option Bool)
  | none => some none
  | some (.bool b) => some (some b)
  | some _ => none

/-- The number of a setting, if it is set: a natural one in 64 bits. -/
def number? : Option TomlValue → Option (Option Nat)
  | none => some none
  | some (.integer n) => if 0 ≤ n && n < wordSize 64 then some (some n.toNat) else none
  | some _ => none

/-- Reads the table for the account and the place of pages. -/
def readConfluence? (v : Option TomlValue) (l : ConfigLayer) : Option ConfigLayer := do
  match ← settings? ["domain", "space", "email", "api_token", "parent_page_id"] v with
  | [domain, space, email, apiToken, parentPageId] =>
    some { l with
      domain := ← text? domain
      space := ← text? space
      email := ← text? email
      apiToken := ← text? apiToken
      parentPageId := ← text? parentPageId }
  | _ => none

/-- Reads the table for diagrams. -/
def readDiagrams? (v : Option TomlValue) (l : ConfigLayer) : Option ConfigLayer := do
  match ← settings? ["mermaid", "kroki_url", "timeout_secs"] v with
  | [mermaid, krokiUrl, timeoutSecs] =>
    some { l with
      mermaid := ← flag? mermaid
      krokiUrl := ← text? krokiUrl
      timeoutSecs := ← number? timeoutSecs }
  | _ => none

/-- The settings in a file. -/
def ofToml? (t : TomlTable) : Option ConfigLayer := do
  if isReadable ["confluence", "diagrams", "dry_run", "verbose"] t then
    let l ← readConfluence? (t.lookup "confluence") empty
    let l ← readDiagrams? (t.lookup "diagrams") l
    some { l with
      dryRun := ← flag? (t.lookup "dry_run")
      verbose := ← flag? (t.lookup "verbose") }
  else none

/-! ## References -/

/-- Replaces the references in one setting. -/
def expandText (vars : Variables) (field : String) (value : Option String) :
    Except ConfigError (Option String) :=
  match value with
  | none => .ok none
  | some s =>
    match WikiSync.expand vars s with
    | .ok s => .ok (some s)
    | .error name => .error (.unset field name)

/-- Replaces the references in all settings that are texts. -/
def expand (vars : Variables) (l : ConfigLayer) : Except ConfigError ConfigLayer := do
  let domain ← expandText vars "confluence.domain" l.domain
  let space ← expandText vars "confluence.space" l.space
  let email ← expandText vars "confluence.email" l.email
  let apiToken ← expandText vars "confluence.api_token" l.apiToken
  let parentPageId ← expandText vars "confluence.parent_page_id" l.parentPageId
  let krokiUrl ← expandText vars "diagrams.kroki_url" l.krokiUrl
  .ok { l with domain, space, email, apiToken, parentPageId, krokiUrl }

end ConfigLayer

end WikiSync
