import WikiSync.Json.Value
import WikiSync.Text.Hex

/-!
# Writing JSON

Writes a value without blanks, the keys of an object in order. Quotes,
backslashes and control characters are escaped, and nothing else is.

## Main definitions

* `quoted`: The written form of a text.
* `JsonValue.write`: The written form of a value.
-/

namespace WikiSync.JsonValue

/-- The short escapes of control characters. -/
def shortEscapes : List (Char × Char) :=
  [('\x08', 'b'), ('\x0c', 'f'), ('\n', 'n'), ('\r', 'r'), ('\t', 't')]

/-- The written form of one character. -/
def quotedChar (c : Char) : List Char :=
  if c == '"' || c == '\\' then ['\\', c]
  else match shortEscapes.lookup c with
    | some letter => ['\\', letter]
    | none =>
      if c.toNat < 0x20 then
        ['\\', 'u', '0', '0', Text.lowerDigit (c.toNat / 16), Text.lowerDigit (c.toNat % 16)]
      else [c]

/-- The written form of a text. -/
def quoted (s : String) : List Char :=
  '"' :: s.toList.flatMap quotedChar ++ ['"']

/-- The written form of a number. -/
def writtenNumber (n : JsonNumber) : List Char :=
  let digits := (toString n.digits).toList
  let exponent := if n.exponent = 0 then [] else 'e' :: (toString n.exponent).toList
  (if n.negative then ['-'] else []) ++ digits ++ exponent

/-- Values with commas between them. -/
def commaSeparated : List (List Char) → List Char
  | [] => []
  | [v] => v
  | v :: vs => v ++ ',' :: commaSeparated vs

/-- Inserts an entry into written entries, which are sorted by key. -/
def insertEntry (key : String) (v : List Char) :
    List (String × List Char) → List (String × List Char)
  | [] => [(key, v)]
  | e :: es => if key < e.1 then (key, v) :: e :: es else e :: insertEntry key v es

mutual

/-- The written form of a value. -/
def written : JsonValue → List Char
  | null => "null".toList
  | bool b => (if b then "true" else "false").toList
  | number n => writtenNumber n
  | string text => quoted (text.getD "")
  | array items => '[' :: commaSeparated (writtenItems items) ++ [']']
  | object entries =>
    let es := (writtenEntries entries).map fun (key, v) => quoted key ++ ':' :: v
    '{' :: commaSeparated es ++ ['}']

/-- The written forms of values. -/
def writtenItems : List JsonValue → List (List Char)
  | [] => []
  | v :: vs => written v :: writtenItems vs

/-- The written forms of the values of an object, sorted by key. -/
def writtenEntries : List (Option String × JsonValue) → List (String × List Char)
  | [] => []
  | e :: es =>
    let (key, v) := writtenEntry e
    insertEntry key v (writtenEntries es)

/-- The written form of an entry of an object. -/
def writtenEntry : Option String × JsonValue → String × List Char
  | (key, v) => (key.getD "", written v)

end

/-- The written form of a value. -/
def write (v : JsonValue) : String :=
  String.ofList (written v)

end WikiSync.JsonValue
