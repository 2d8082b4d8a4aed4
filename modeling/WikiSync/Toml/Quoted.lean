import WikiSync.Text.Escape

/-!
# Quoted TOML Texts

Texts in double quotes, where a backslash starts an escape, and in single
quotes, where it does not. Three quotes in a row enclose a text of many lines;
a line break right after them does not count, and up to two more quotes may
stand right before the closing ones.

## Main definitions

* `escape?`: Reads an escape.
* `quoted?`: Reads a text of one line.
* `quotedLines?`: Reads a text of many lines.
-/

namespace WikiSync.Toml

open Text (isLineBlank)

/-- A character that a line may hold: no control character but a tab. -/
def isLineChar (c : Char) : Bool :=
  c == '\t' || (0x20 ≤ c.toNat && c.toNat != 0x7F)

/-- The text after a line break, if one is in front. -/
def lineBreak? : List Char → Option (List Char)
  | '\n' :: rest => some rest
  | '\r' :: '\n' :: rest => some rest
  | _ => none

/-- The characters that a letter after a backslash stands for. -/
def escapes : List (Char × Char) :=
  [('b', '\x08'), ('t', '\t'), ('n', '\n'), ('f', '\x0c'), ('r', '\r'), ('e', '\x1b'),
    ('"', '"'), ('\\', '\\')]

/-- The character that an escape stands for, and what follows. The text starts
after the backslash. -/
def escape? (cs : List Char) : Option (Char × List Char) :=
  (Text.escape? escapes cs).map fun (shown, length) => (shown, cs.drop length)

/-- The rest of a text of one line, and what follows its closing quote. -/
def quotedRest? (quote : Char) : Nat → List Char → Option (List Char × List Char)
  | 0, _ => none
  | fuel + 1, cs =>
    match cs with
    | [] => none
    | c :: rest =>
      if c == quote then some ([], rest)
      else if quote == '"' && c == '\\' then do
        let (shown, rest) ← escape? rest
        let (text, rest) ← quotedRest? quote fuel rest
        some (shown :: text, rest)
      else if isLineChar c then
        (quotedRest? quote fuel rest).map fun (text, rest) => (c :: text, rest)
      else none

/-- Reads a text of one line, after its opening quote. -/
def quoted? (quote : Char) (cs : List Char) : Option (String × List Char) :=
  (quotedRest? quote (cs.length + 1) cs).map fun (text, rest) => (String.ofList text, rest)

/-- What follows a backslash at the end of a line: the blanks and the line
breaks up to the next text are left out. -/
def joinedLine? (cs : List Char) : Option (List Char) :=
  (lineBreak? (cs.dropWhile isLineBlank)).map fun rest =>
    rest.dropWhile fun c => isLineBlank c || c == '\n' || c == '\r'

/-- The number of quotes in front, five at most. -/
def countQuotes (quote : Char) (cs : List Char) : Nat :=
  ((cs.take 5).takeWhile (· == quote)).length

/-- The rest of a text of many lines, and what follows its closing quotes. -/
def quotedLinesRest? (quote : Char) : Nat → List Char → Option (List Char × List Char)
  | 0, _ => none
  | fuel + 1, cs =>
    let quotes := countQuotes quote cs
    if 3 ≤ quotes then some (List.replicate (quotes - 3) quote, cs.drop quotes)
    else
      match cs with
      | [] => none
      | '\r' :: '\n' :: rest =>
        (quotedLinesRest? quote fuel rest).map fun (text, rest) => ('\r' :: '\n' :: text, rest)
      | c :: rest =>
        if quote == '"' && c == '\\' then
          match joinedLine? rest with
          | some rest => quotedLinesRest? quote fuel rest
          | none => do
            let (shown, rest) ← escape? rest
            let (text, rest) ← quotedLinesRest? quote fuel rest
            some (shown :: text, rest)
        else if isLineChar c || c == '\n' then
          (quotedLinesRest? quote fuel rest).map fun (text, rest) => (c :: text, rest)
        else none

/-- Reads a text of many lines, after its opening quotes. -/
def quotedLines? (quote : Char) (cs : List Char) : Option (String × List Char) :=
  let cs := (lineBreak? cs).getD cs
  (quotedLinesRest? quote (cs.length + 1) cs).map fun (text, rest) => (String.ofList text, rest)

/-- Reads a quoted text of either kind. -/
def text? : List Char → Option (String × List Char)
  | '"' :: '"' :: '"' :: rest => quotedLines? '"' rest
  | '\'' :: '\'' :: '\'' :: rest => quotedLines? '\'' rest
  | '"' :: rest => quoted? '"' rest
  | '\'' :: rest => quoted? '\'' rest
  | _ => none

end WikiSync.Toml
