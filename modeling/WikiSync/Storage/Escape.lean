/-!
# Escaping

Text inside markup is written with the five characters that have a meaning
there replaced by entities.

## Main definitions

* `escapeChar`: The written form of one character.
* `escape`: The written form of a text.
-/

namespace WikiSync.Storage

/-- The written form of one character. -/
def escapeChar (c : Char) : List Char :=
  if c = '&' then "&amp;".toList
  else if c = '<' then "&lt;".toList
  else if c = '>' then "&gt;".toList
  else if c = '"' then "&quot;".toList
  else if c = '\'' then "&apos;".toList
  else [c]

/-- The written form of a text. -/
def escape (s : String) : String :=
  String.ofList (s.toList.flatMap escapeChar)

end WikiSync.Storage
