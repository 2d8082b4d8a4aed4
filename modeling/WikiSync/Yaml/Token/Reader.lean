import WikiSync.Yaml.Token
import WikiSync.Yaml.Token.Scalar
import WikiSync.Yaml.Token.Tag

/-!
# Scanning YAML

Cuts a text into tokens. Outside flow collections the columns matter: what
starts to the right of everything around it opens a collection, and what
starts further to the left closes collections.

The key of a mapping shows only at the colon after it. So whatever may turn
out to be a key is remembered, with the number of tokens before it, and the
tokens that belong in front of it are put there when the colon comes. Such a
key lies on one line and has 1024 characters at most.

## Main definitions

* `KeyStart`: What may turn out to be a key.
* `Scanner`: The state of a scan.
* `readTokens?`: The tokens of a text.
-/

namespace WikiSync.Yaml

/-- What may turn out to be the key of a mapping. -/
structure KeyStart where
  /-- It stands where a key has to stand. -/
  required : Bool
  /-- The number of tokens before it. -/
  number : Nat
  place : Place

/-- The state of a scan. -/
structure Scanner where
  place : Place
  /-- The tokens so far, the last one first. -/
  tokens : List Token
  /-- The columns of the open block collections, the innermost first. -/
  indents : List Nat
  /-- Whether a key may start here. -/
  keyAllowed : Bool
  /-- What may be a key, on the innermost level. -/
  keyStart : Option KeyStart
  /-- What may be a key, on the levels around it, one for each open flow
  collection. -/
  outer : List (Option KeyStart)

namespace Scanner

/-- The start of a scan. -/
def ofText (cs : List Char) : Scanner :=
  ⟨.ofText cs, [], [], true, none, []⟩

/-- Whether a flow collection is open. -/
def inFlow (s : Scanner) : Bool :=
  !s.outer.isEmpty

/-- The least column of what belongs to the innermost block collection. -/
def base (s : Scanner) : Nat :=
  match s.indents with
  | [] => 0
  | column :: _ => column + 1

/-- Adds a token. -/
def push (s : Scanner) (t : Token) : Scanner :=
  { s with tokens := t :: s.tokens }

/-- Adds a token for `n` characters. -/
def take (s : Scanner) (n : Nat) (t : Token) : Scanner :=
  { s.push t with place := s.place.skip n }

/-- Puts a token behind the first `number` tokens. -/
def insert (s : Scanner) (number : Nat) (t : Token) : Scanner :=
  let later := s.tokens.length - number
  { s with tokens := s.tokens.take later ++ t :: s.tokens.drop later }

/-- Forgets a key that has become impossible. One that was required is an
error. -/
def forget? (k : Option KeyStart) : Option (Option KeyStart) :=
  match k with
  | some k => if k.required then none else some none
  | none => some none

/-- Forgets the key on the innermost level. -/
def dropKey? (s : Scanner) : Option Scanner :=
  (forget? s.keyStart).map fun k => { s with keyStart := k }

/-- Forgets a key if the scan has gone too far for it. -/
def expire? (p : Place) (k : Option KeyStart) : Option (Option KeyStart) :=
  match k with
  | some start =>
    if start.place.line < p.line || start.place.index + 1024 < p.index then forget? k else some k
  | none => some none

/-- Forgets the keys that the scan has gone too far for. -/
def expireKeys? (s : Scanner) : Option Scanner := do
  let k ← expire? s.place s.keyStart
  let ks ← s.outer.mapM (expire? s.place)
  some { s with keyStart := k, outer := ks }

/-- Remembers that a key may start here. -/
def saveKey? (s : Scanner) : Option Scanner :=
  if s.keyAllowed then do
    let s ← s.dropKey?
    let required := !s.inFlow && s.indents.head? == some s.place.column
    some { s with keyStart := some ⟨required, s.tokens.length, s.place⟩ }
  else some s

/-- Opens a block collection at a column, unless the innermost one is at or
to the right of it. Its token goes behind the first `number` tokens. -/
def indentTo (s : Scanner) (column number : Nat) (t : Token) : Scanner :=
  if s.inFlow || column < s.base then s
  else { s.insert number t with indents := column :: s.indents }

/-- Closes the block collections to the right of a column. -/
def closeBlocks (column : Nat) : List Nat → List Token → List Nat × List Token
  | c :: rest, tokens =>
    if column < c then closeBlocks column rest (.blockEnd :: tokens) else (c :: rest, tokens)
  | [], tokens => ([], tokens)

/-- Closes what a place to the left of it closes. -/
def unindentTo (s : Scanner) (column : Nat) : Scanner :=
  if s.inFlow then s
  else
    let (indents, tokens) := closeBlocks column s.indents s.tokens
    { s with indents, tokens }

/-- Closes every block collection. -/
def closeAll (s : Scanner) : Scanner :=
  if s.inFlow then s
  else { s with indents := [], tokens := s.indents.map (fun _ => .blockEnd) ++ s.tokens }

/-- Moves to the next token, past blanks, comments and line breaks. A tab is
no blank where a key may start. -/
def toNext : Nat → Scanner → Scanner
  | 0, s => s
  | fuel + 1, s =>
    let p := if s.place.index == 0 && s.place.rest.head? == some '\ufeff' then s.place.skip 1
      else s.place
    let tabs := s.inFlow || !s.keyAllowed
    let p := (p.skipWhile fun c => c == ' ' || (tabs && c == '\t')).skipComment
    match p.takeBreak? with
    | some (_, q) => toNext fuel { s with place := q, keyAllowed := s.keyAllowed || !s.inFlow }
    | none => { s with place := p }

/-- Ends whatever is open: a mark or a directive stands between documents. -/
def endContent? (s : Scanner) : Option Scanner :=
  (s.closeAll.dropKey?).map fun s => { s with keyAllowed := false }

/-- Reads a token that may be a key, or the start of one. -/
def content? (s : Scanner) (read : Place → Option (Token × Place)) : Option Scanner := do
  let s ← s.saveKey?
  let (t, p) ← read s.place
  some { s.push t with place := p, keyAllowed := false }

/-- Opens a flow collection. -/
def openFlow? (s : Scanner) (t : Token) : Option Scanner := do
  let s ← s.saveKey?
  some { s.take 1 t with outer := s.keyStart :: s.outer, keyStart := none, keyAllowed := true }

/-- Closes a flow collection. -/
def closeFlow? (s : Scanner) (t : Token) : Option Scanner := do
  let s ← s.dropKey?
  let (k, outer) := match s.outer with
    | k :: outer => (k, outer)
    | [] => (none, [])
  some { s.take 1 t with keyStart := k, outer, keyAllowed := false }

/-- Opens a block collection here, if a key may start here. -/
def openBlock? (s : Scanner) (t : Token) : Option Scanner :=
  if s.inFlow then some s
  else if s.keyAllowed then some (s.indentTo s.place.column s.tokens.length t)
  else none

/-- Reads a hyphen. -/
def hyphen? (s : Scanner) : Option Scanner := do
  let s ← s.openBlock? .blockSequenceStart
  let s ← s.dropKey?
  some { s.take 1 .blockEntry with keyAllowed := true }

/-- Reads a question mark. -/
def questionMark? (s : Scanner) : Option Scanner := do
  let s ← s.openBlock? .blockMappingStart
  let s ← s.dropKey?
  some { s.take 1 .key with keyAllowed := !s.inFlow }

/-- Reads a colon. What was remembered in front of it is a key. -/
def colon? (s : Scanner) : Option Scanner :=
  match s.keyStart with
  | some k =>
    let s := (s.insert k.number .key).indentTo k.place.column k.number .blockMappingStart
    some { s.take 1 .value with keyStart := none, keyAllowed := false }
  | none => do
    let s ← s.openBlock? .blockMappingStart
    some { s.take 1 .value with keyAllowed := !s.inFlow }

/-- Reads an indented block. -/
def block? (s : Scanner) : Option Scanner := do
  let s ← s.dropKey?
  let (text, p) ← blockScalar? s.base s.place
  some { s.push (.scalar false text) with place := p, keyAllowed := true }

/-- Reads a plain scalar. A key may start after a line break at its end. -/
def plain? (s : Scanner) : Option Scanner := do
  let s ← s.saveKey?
  let (text, broken, p) ← plainScalar? s.inFlow s.base s.place
  some { s.push (.scalar true text) with place := p, keyAllowed := broken }

/-- Whether a plain scalar may start with a character. -/
def startsPlain (inFlow : Bool) (c : Char) (rest : List Char) : Bool :=
  if c == '-' then match rest with
    | d :: _ => !Text.isLineBlank d
    | [] => true
  else if c == '?' || c == ':' then !inFlow && !endsWord rest
  else !",[]\x7b\x7d#&*!|>\x27\"%@\x60".toList.contains c

/-- Reads the next token, which starts here. -/
def readToken? (s : Scanner) : Option Scanner :=
  match s.place.rest with
  | [] => some s
  | c :: rest =>
    let atStart := s.place.column == 0
    if atStart && c == '%' then do
      let s ← s.endContent?
      let (t, p) ← directive? s.place
      some { s.push t with place := p }
    else if s.place.atDocumentMark then do
      let s ← s.endContent?
      some (s.take 3 (if c == '-' then .documentStart else .documentEnd))
    else if c == '[' then s.openFlow? .flowSequenceStart
    else if c == '{' then s.openFlow? .flowMappingStart
    else if c == ']' then s.closeFlow? .flowSequenceEnd
    else if c == '}' then s.closeFlow? .flowMappingEnd
    else if c == ',' then do
      let s ← s.dropKey?
      some { s.take 1 .flowEntry with keyAllowed := true }
    else if c == '-' && endsWord rest then s.hyphen?
    else if c == '?' && (s.inFlow || endsWord rest) then s.questionMark?
    else if c == ':' && (s.inFlow || endsWord rest) then s.colon?
    else if c == '*' then s.content? fun p => (anchorName? p).map fun (n, q) => (.alias n, q)
    else if c == '&' then s.content? fun p => (anchorName? p).map fun (n, q) => (.anchor n, q)
    else if c == '!' then s.content? (tag? s.inFlow)
    else if c == '|' && !s.inFlow then s.block?
    else if c == '>' && !s.inFlow then s.block?
    else if c == '\'' || c == '"' then
      s.content? fun p => (quotedScalar? p).map fun (t, q) => (.scalar false t, q)
    else if startsPlain s.inFlow c rest then s.plain?
    else none

/-- Reads the rest of the text. -/
def finish? : Nat → Scanner → Option (List Token)
  | 0, _ => none
  | fuel + 1, s => do
    let s ← (s.toNext (s.place.rest.length + 1)).expireKeys?
    if s.place.rest.isEmpty then
      let s ← s.endContent?
      some s.tokens.reverse
    else
      let s ← (s.unindentTo s.place.column).readToken?
      finish? fuel s

end Scanner

/-- The tokens of a text, none if it cannot be cut into tokens. -/
def readTokens? (text : String) : Option (List Token) :=
  let cs := text.toList
  if cs.all isAllowed then (Scanner.ofText cs).finish? (cs.length + 1) else none

end WikiSync.Yaml
