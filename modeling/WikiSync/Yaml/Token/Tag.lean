import WikiSync.Text.Ascii
import WikiSync.Text.Hex
import WikiSync.Yaml.Place
import WikiSync.Yaml.Token

/-!
# Scanning YAML Tags, Anchors and Directives

A tag is a handle and a suffix, or one whole URI between angle brackets. The
bytes of a URI may be escaped.

## Main definitions

* `tag?`, `anchorName?`, `directive?`: Read what their names say.
-/

namespace WikiSync.Yaml

open Text (hexDigit? hexValue isLineBlank isWordChar utf8)

/-- The bytes of characters. -/
def bytesOf (cs : List Char) : Bytes :=
  utf8 (String.ofList cs)

/-- The number of bytes of a character in UTF-8, by its first byte. -/
def charLength? (first : Nat) : Option Nat :=
  if first < 0x80 then some 1
  else if first / 0x20 = 0x06 then some 2
  else if first / 0x10 = 0x0E then some 3
  else if first / 0x08 = 0x1E then some 4
  else none

/-- One escaped byte, and the place after it. -/
def escapedByte? (p : Place) : Option (Nat × Place) :=
  match p.rest with
  | '%' :: a :: b :: _ =>
    if (hexDigit? a).isSome && (hexDigit? b).isSome then some (hexValue [a, b], p.skip 3) else none
  | _ => none

/-- Escaped bytes after the first of a character. -/
def escapedTail? : Nat → Place → Option (Bytes × Place)
  | 0, p => some ([], p)
  | n + 1, p => do
    let (b, q) ← escapedByte? p
    if b / 0x40 = 2 then
      let (bs, r) ← escapedTail? n q
      some (UInt8.ofNat b :: bs, r)
    else none

/-- The bytes of one escaped character. -/
def escapedChar? (p : Place) : Option (Bytes × Place) := do
  let (b, q) ← escapedByte? p
  let n ← charLength? b
  let (bs, r) ← escapedTail? (n - 1) q
  some (UInt8.ofNat b :: bs, r)

/-- A character of a URI. Between angle brackets and in directives the marks
of flow collections are among them. -/
def isUriChar (withFlowMarks : Bool) (c : Char) : Bool :=
  isWordChar c || ";/?:@&=+$.%!~*\x27()".toList.contains c ||
    (withFlowMarks && ",[]".toList.contains c)

/-- The bytes of a URI, after `bytes`, and the place after it. -/
def uri? (withFlowMarks : Bool) : Nat → Bytes → Place → Option (Bytes × Place)
  | 0, bytes, p => some (bytes, p)
  | fuel + 1, bytes, p =>
    match p.rest with
    | '%' :: _ => do
      let (bs, q) ← escapedChar? p
      uri? withFlowMarks fuel (bytes ++ bs) q
    | c :: _ =>
      if isUriChar withFlowMarks c then
        uri? withFlowMarks fuel (bytes ++ bytesOf [c]) (p.skip 1)
      else some (bytes, p)
    | [] => some (bytes, p)

/-- A URI of one character at least. -/
def nonemptyUri? (withFlowMarks : Bool) (p : Place) : Option (Bytes × Place) := do
  let (bytes, q) ← uri? withFlowMarks p.rest.length [] p
  if q.index = p.index then none else some (bytes, q)

/-- A handle and the place after it. The flag says whether it is closed by a
second exclamation mark. -/
def handle? (p : Place) : Option (List Char × Bool × Place) :=
  match p.rest with
  | '!' :: _ =>
    let (word, q) := (p.skip 1).spanWhile isWordChar
    if q.rest.head? == some '!' then some ('!' :: word ++ ['!'], true, q.skip 1)
    else some ('!' :: word, false, q)
  | _ => none

/-- The handle and the suffix of a tag. A lone exclamation mark is a suffix. -/
def tagParts? (p : Place) : Option (Bytes × Bytes × Place) :=
  match p.rest with
  | _ :: '<' :: _ => do
    let (suffix, q) ← nonemptyUri? true (p.skip 2)
    if q.rest.head? == some '>' then some ([], suffix, q.skip 1) else none
  | _ => do
    let (handle, closed, q) ← handle? p
    if closed then
      let (suffix, r) ← nonemptyUri? false q
      some (bytesOf handle, suffix, r)
    else
      let (suffix, r) ← uri? false q.rest.length (bytesOf (handle.drop 1)) q
      if suffix.isEmpty then some ([], bytesOf ['!'], r) else some (bytesOf ['!'], suffix, r)

/-- Reads a tag. In a flow collection a comma may follow it at once. -/
def tag? (inFlow : Bool) (p : Place) : Option (Token × Place) := do
  let (handle, suffix, q) ← tagParts? p
  if endsWord q.rest || (inFlow && q.rest.head? == some ',') then some (.tag handle suffix, q)
  else none

/-- Reads the name of an anchor, or of an alias, after its mark. -/
def anchorName? (p : Place) : Option (String × Place) :=
  let (name, q) := (p.skip 1).spanWhile isWordChar
  let ended := endsWord q.rest || match q.rest with
    | c :: _ => "?:,]\x7d%@\x60".toList.contains c
    | [] => true
  if name.isEmpty || !ended then none else some (String.ofList name, q)

/-- A number of nine digits at most. -/
def versionNumber? (p : Place) : Option (Nat × Place) :=
  let (digits, q) := p.spanWhile Char.isDigit
  if digits.isEmpty || digits.length > 9 then none else some (Text.decimalValue digits, q)

/-- The value of a version directive. -/
def version? (p : Place) : Option (Token × Place) := do
  let (major, q) ← versionNumber? p
  match q.rest with
  | '.' :: _ =>
    let (minor, r) ← versionNumber? (q.skip 1)
    some (.versionDirective major minor, r)
  | _ => none

/-- The value of a tag directive. -/
def tagLead? (p : Place) : Option (Token × Place) := do
  let (handle, closed, q) ← handle? p
  if !closed && handle != ['!'] then none
  else
    let r := q.skipWhile isLineBlank
    if r.index = q.index then none
    else
      let (lead, r) ← nonemptyUri? true r
      if endsWord r.rest then some (.tagDirective (bytesOf handle) lead, r) else none

/-- Reads a directive. -/
def directive? (p : Place) : Option (Token × Place) := do
  let (name, q) := (p.skip 1).spanWhile isWordChar
  if !endsWord q.rest then none
  else
    let q := q.skipWhile isLineBlank
    let (token, r) ←
      if name = "YAML".toList then version? q
      else if name = "TAG".toList then tagLead? q
      else none
    let r ← r.finishLine?
    some (token, r)

end WikiSync.Yaml
