/-!
# Log Entries

What a computation reports while it runs. An entry has a level, a message and
named fields; it is turned into a line of text in one place.

## Main definitions

* `Level`, `LogEntry`: The types.
* `LogEntry.line`: The text of an entry.
-/

namespace WikiSync

/-- How much an entry matters. -/
inductive Level where
  | info
  | warn
  | error
deriving DecidableEq, Repr

/-- The word for a level. -/
def Level.name : Level → String
  | info => "INFO"
  | warn => "WARN"
  | error => "ERROR"

/-- One report. -/
structure LogEntry where
  level : Level
  message : String
  fields : List (String × String)
deriving DecidableEq, Repr

namespace LogEntry

/-- A report of progress, without fields. -/
def info (message : String) : LogEntry :=
  ⟨.info, message, []⟩

/-- The text of an entry: its level, its message and its fields. -/
def line (e : LogEntry) : String :=
  " ".intercalate (e.level.name :: e.message :: e.fields.map fun f => f.1 ++ "=" ++ f.2)

end LogEntry

end WikiSync
