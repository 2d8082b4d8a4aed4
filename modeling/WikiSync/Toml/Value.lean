/-!
# TOML Values

The values of TOML, and tables that remember how they came about. That
decides what may still be added to a table: a header may add to a table that
was only implied by longer headers, dotted keys to a table that dotted keys
made, and nothing to a table in braces.

## Main definitions

* `TableForm`: How a table came about.
* `TomlValue`: The type.
-/

namespace WikiSync

/-- How a table came about. -/
inductive TableForm where
  /-- By a header of its own. -/
  | header
  /-- As a part of a longer header. -/
  | implied
  /-- As a part of a dotted key. -/
  | dotted
  /-- In braces. -/
  | closed
deriving DecidableEq, Repr

/-- A value. -/
inductive TomlValue where
  | string (text : String)
  | integer (value : Int)
  /-- A number with a point or an exponent; `finite` unless it is written with
  digits that stand for too large a number. -/
  | real (finite : Bool)
  | bool (value : Bool)
  | dateTime
  | array (items : List TomlValue)
  | table (form : TableForm) (entries : List (String × TomlValue))
  /-- The tables that headers in double brackets made. -/
  | tables (items : List (List (String × TomlValue)))

/-- The entries of a table. -/
abbrev TomlTable := List (String × TomlValue)

end WikiSync
