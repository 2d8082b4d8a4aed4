import WikiSync.Text.Hex

/-!
# YAML Tokens

The tokens that a YAML text is cut into. Where the text shows a collection by
its indentation, tokens mark its start and its end.
-/

namespace WikiSync.Yaml

/-- A token. -/
inductive Token where
  | versionDirective (major minor : Nat)
  | tagDirective (handle lead : Bytes)
  | documentStart
  | documentEnd
  | blockSequenceStart
  | blockMappingStart
  | blockEnd
  | flowSequenceStart
  | flowSequenceEnd
  | flowMappingStart
  | flowMappingEnd
  | blockEntry
  | flowEntry
  | key
  | value
  | alias (name : String)
  | anchor (name : String)
  /-- A tag; the handle is empty if the suffix is all of it. -/
  | tag (handle suffix : Bytes)
  /-- A scalar; `plain` if it stands without quotes. -/
  | scalar (plain : Bool) (text : String)
deriving DecidableEq, Repr

end WikiSync.Yaml
