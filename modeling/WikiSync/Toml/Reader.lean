import WikiSync.Toml.Quoted
import WikiSync.Toml.Scalar
import WikiSync.Toml.Table

/-!
# Reading TOML

A text is a sequence of headers and entries, a line each. Arrays and tables in
braces may go on for many lines; they nest 80 deep at most.

## Main definitions

* `key?`: Reads a dotted key.
* `value?`: Reads a value.
* `statements?`: The headers and entries of a text.
* `read?`: The table that a text describes.
-/

namespace WikiSync.Toml

open Text (isLineBlank isWordChar)

/-- How deep arrays and tables in braces nest at most. -/
def maxDepth : Nat := 80

/-- A text without the blanks in front. -/
def skipBlanks (cs : List Char) : List Char :=
  cs.dropWhile isLineBlank

/-- What follows a comment, if there is one in front. -/
def skipComment : List Char → List Char
  | '#' :: rest => rest.dropWhile isLineChar
  | cs => cs

/-- What follows blanks, comments and line breaks. -/
def skipLines : Nat → List Char → List Char
  | 0, cs => cs
  | fuel + 1, cs =>
    let rest := skipComment (skipBlanks cs)
    match lineBreak? rest with
    | some rest => skipLines fuel rest
    | none => rest

/-- What follows blanks, comments and line breaks. -/
def skipAll (cs : List Char) : List Char :=
  skipLines cs.length cs

/-- What follows the end of a line that holds nothing more. -/
def endLine? (cs : List Char) : Option (List Char) :=
  match skipComment (skipBlanks cs) with
  | [] => some []
  | rest => lineBreak? rest

/-- One part of a key. -/
def keyPart? (cs : List Char) : Option (String × List Char) :=
  match cs with
  | '"' :: rest => quoted? '"' rest
  | '\'' :: rest => quoted? '\'' rest
  | _ =>
    match cs.span isWordChar with
    | ([], _) => none
    | (word, rest) => some (String.ofList word, rest)

/-- Reads a key: parts with dots between them. -/
def keyParts? : Nat → List Char → Option (List String × List Char)
  | 0, _ => none
  | fuel + 1, cs => do
    let (part, rest) ← keyPart? (skipBlanks cs)
    match skipBlanks rest with
    | '.' :: rest => (keyParts? fuel rest).map fun (parts, rest) => (part :: parts, rest)
    | rest => some ([part], rest)

/-- Reads a key. -/
def key? (cs : List Char) : Option (List String × List Char) :=
  keyParts? cs.length cs

/-- A character of a scalar without quotes. -/
def isScalarChar (c : Char) : Bool :=
  c.isAlphanum || c == '_' || c == '-' || c == '+' || c == '.' || c == ':'

/-- The characters of a scalar without quotes, and what follows. A blank may
stand between a date and a time. -/
def scalarSpan (cs : List Char) : List Char × List Char :=
  let (word, rest) := cs.span isScalarChar
  match rest with
  | ' ' :: c :: _ =>
    if c.isDigit && date? word == some [] then
      let (time, rest) := (rest.drop 1).span isScalarChar
      (word ++ ' ' :: time, rest)
    else (word, rest)
  | _ => (word, rest)

mutual

/-- Reads a value inside which values nest `depth` deep at most. -/
def value? : Nat → Nat → List Char → Option (TomlValue × List Char)
  | 0, _, _ => none
  | fuel + 1, depth, cs =>
    match cs with
    | '"' :: _ | '\'' :: _ => (text? cs).map fun (s, rest) => (.string s, rest)
    | '[' :: rest =>
      match depth with
      | 0 => none
      | depth + 1 => (items? fuel depth rest).map fun (vs, rest) => (.array vs, rest)
    | '{' :: rest =>
      match depth with
      | 0 => none
      | depth + 1 => do
        let (entries, rest) ← entries? fuel depth rest
        let table ← buildTable? entries
        some (.table .closed table, rest)
    | _ =>
      let (word, rest) := scalarSpan cs
      (scalar? word).map fun v => (v, rest)

/-- The items of an array up to its closing bracket, and what follows. -/
def items? : Nat → Nat → List Char → Option (List TomlValue × List Char)
  | 0, _, _ => none
  | fuel + 1, depth, cs =>
    match skipAll cs with
    | ']' :: rest => some ([], rest)
    | cs => do
      let (v, rest) ← value? fuel depth cs
      match skipAll rest with
      | ']' :: rest => some ([v], rest)
      | ',' :: rest => (items? fuel depth rest).map fun (vs, rest) => (v :: vs, rest)
      | _ => none

/-- The entries of a table in braces up to its closing brace, and what
follows. -/
def entries? : Nat → Nat → List Char → Option (List (List String × TomlValue) × List Char)
  | 0, _, _ => none
  | fuel + 1, depth, cs =>
    match skipAll cs with
    | '}' :: rest => some ([], rest)
    | cs => do
      let (key, rest) ← key? cs
      let rest ← after? (· == '=') rest
      let (v, rest) ← value? fuel depth (skipBlanks rest)
      match skipAll rest with
      | '}' :: rest => some ([(key, v)], rest)
      | ',' :: rest => (entries? fuel depth rest).map fun (es, rest) => ((key, v) :: es, rest)
      | _ => none

end

/-- A line of a text. -/
inductive Statement where
  | header (path : List String)
  /-- A header in double brackets. -/
  | newTable (path : List String)
  | entry (key : List String) (v : TomlValue)

/-- Reads one line. -/
def statement? (cs : List Char) : Option (Statement × List Char) :=
  match cs with
  | '[' :: '[' :: rest => do
    let (path, rest) ← key? rest
    match rest with
    | ']' :: ']' :: rest => (endLine? rest).map fun rest => (.newTable path, rest)
    | _ => none
  | '[' :: rest => do
    let (path, rest) ← key? rest
    match rest with
    | ']' :: rest => (endLine? rest).map fun rest => (.header path, rest)
    | _ => none
  | _ => do
    let (key, rest) ← key? cs
    let rest ← after? (· == '=') rest
    let (v, rest) ← value? (rest.length + 1) maxDepth (skipBlanks rest)
    (endLine? rest).map fun rest => (.entry key v, rest)

/-- Reads the lines of a text. -/
def statements? : Nat → List Char → Option (List Statement)
  | 0, _ => none
  | fuel + 1, cs =>
    match skipAll cs with
    | [] => some []
    | cs => do
      let (s, rest) ← statement? cs
      let ss ← statements? fuel rest
      some (s :: ss)

/-- Adds the lines to a table. Entries go into the table of the last header. -/
def build? (root : TomlTable) (here : List String) : List Statement → Option TomlTable
  | [] => some root
  | .header path :: ss => do
    let root ← openTable? path root
    build? root path ss
  | .newTable path :: ss => do
    let root ← addTable? path root
    build? root path ss
  | .entry key v :: ss => do
    let root ← within? here (assign? key v) root
    build? root here ss

/-- The table that a text describes. A byte order mark in front does not
count. -/
def read? (text : String) : Option TomlTable := do
  let cs := match text.toList with
    | '\ufeff' :: rest => rest
    | cs => cs
  let ss ← statements? (cs.length + 1) cs
  build? [] [] ss

end WikiSync.Toml
