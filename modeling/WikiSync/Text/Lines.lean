/-!
# Lines

The lines of a text. A line ends with a line feed, which a carriage return may
precede; the last one may also end with the text.

## Main definitions

* `lines`: The lines of a text without their ends.
-/

namespace WikiSync.Text

/-- The characters of each line, without line feeds. A text that ends with a
line feed has no line after it. -/
def splitLines : List Char → List (List Char × Bool)
  | [] => []
  | '\n' :: rest => ([], true) :: splitLines rest
  | c :: rest =>
    match splitLines rest with
    | [] => [([c], false)]
    | (line, ended) :: more => (c :: line, ended) :: more

/-- A line without the carriage return that belongs to its end. -/
def lineText (line : List Char) (ended : Bool) : String :=
  if ended && line.getLast? == some '\r' then String.ofList line.dropLast else String.ofList line

/-- The lines of a text without their ends. -/
def lines (s : String) : List String :=
  (splitLines s.toList).map fun (line, ended) => lineText line ended

end WikiSync.Text
