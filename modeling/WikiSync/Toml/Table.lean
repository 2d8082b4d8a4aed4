import WikiSync.Toml.Value

/-!
# TOML Tables

Tables are filled along paths. Nothing is defined twice: a header opens a
table that no other header has opened, and a dotted key adds to tables that
dotted keys made.

## Main definitions

* `within?`: Changes the table at the end of a header's path.
* `assign?`: Adds an entry with a dotted key.
* `openTable?`, `addTable?`: What a header does.
* `buildTable?`: The table of entries with dotted keys.
-/

namespace WikiSync.Toml

/-- The entries with the value of a key replaced. -/
def replace (key : String) (v : TomlValue) (es : TomlTable) : TomlTable :=
  es.map fun e => if e.1 == key then (key, v) else e

/-- Changes the table at the end of a path. Tables that are missing on the way
are implied. -/
def within? (path : List String) (f : TomlTable → Option TomlTable) (es : TomlTable) :
    Option TomlTable :=
  match path with
  | [] => f es
  | key :: path =>
    match es.lookup key with
    | none => (within? path f []).map fun t => es ++ [(key, .table .implied t)]
    | some (.table form t) =>
      if form = .closed then none
      else (within? path f t).map fun t => replace key (.table form t) es
    | some (.tables ts) =>
      match ts.getLast? with
      | some t => (within? path f t).map fun t => replace key (.tables (ts.dropLast ++ [t])) es
      | none => none
    | some _ => none

/-- Adds an entry. -/
def add? (key : String) (v : TomlValue) (es : TomlTable) : Option TomlTable :=
  if (es.lookup key).isSome then none else some (es ++ [(key, v)])

/-- Adds an entry with a dotted key. The table that gets the entry has to be
one that dotted keys made, `fresh` saying whether this one is. -/
def assignIn? (fresh : Bool) : List String → TomlValue → TomlTable → Option TomlTable
  | [], _, _ => none
  | [key], v, es => if fresh then add? key v es else none
  | key :: path, v, es =>
    match es.lookup key with
    | none => (assignIn? true path v []).map fun t => es ++ [(key, .table .dotted t)]
    | some (.table form t) =>
      if form = .closed || form = .header then none
      else (assignIn? (form = .dotted) path v t).map fun t => replace key (.table form t) es
    | some (.tables ts) =>
      match ts.getLast? with
      | some t =>
        (assignIn? false path v t).map fun t => replace key (.tables (ts.dropLast ++ [t])) es
      | none => none
    | some _ => none

/-- Adds an entry to the table that a header has opened. -/
def assign? (key : List String) (v : TomlValue) (es : TomlTable) : Option TomlTable :=
  assignIn? true key v es

/-- Opens the table at the end of a path. -/
def openTable? : List String → TomlTable → Option TomlTable
  | [], _ => none
  | path@(_ :: _), es =>
    within? path.dropLast (fun es =>
      let key := path.getLast?.getD ""
      match es.lookup key with
      | none => some (es ++ [(key, .table .header [])])
      | some (.table .implied t) => some (replace key (.table .header t) es)
      | some _ => none) es

/-- Adds a table to the tables at the end of a path. -/
def addTable? : List String → TomlTable → Option TomlTable
  | [], _ => none
  | path@(_ :: _), es =>
    within? path.dropLast (fun es =>
      let key := path.getLast?.getD ""
      match es.lookup key with
      | none => some (es ++ [(key, .tables [[]])])
      | some (.tables ts) => some (replace key (.tables (ts ++ [[]])) es)
      | some _ => none) es

/-- The table of entries with dotted keys. -/
def buildTable? (entries : List (List String × TomlValue)) : Option TomlTable :=
  entries.foldlM (fun es (key, v) => assign? key v es) []

end WikiSync.Toml
