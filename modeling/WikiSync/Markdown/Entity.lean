import WikiSync.Markdown.Entity.Names
import WikiSync.Markdown.Glyph

/-!
# Character References

A reference such as `&amp;`, `&#65;` or `&#x41;` stands for the characters it
names. What only looks like one stays as it is: an unknown name, a number with
too many digits or that is no character, or a missing semicolon.

Link destinations, titles and the words after a code fence are read by
`unescape`, which also takes backslash escapes.

## Main definitions

* `entity?`: The reference that follows an ampersand.
* `unescape`: Text with its references and escapes resolved.
-/

namespace WikiSync.Markdown

open Text

/-- Takes the glyphs at the front whose characters satisfy `p`, at most `n`
of them. -/
def takeChars (p : Char → Bool) : Nat → List Glyph → List Char × List Glyph
  | 0, gs => ([], gs)
  | _, [] => ([], [])
  | n + 1, g :: gs =>
    match g with
    | .plain c =>
      if p c then
        let (cs, rest) := takeChars p n gs
        (c :: cs, rest)
      else ([], g :: gs)
    | _ => ([], g :: gs)

/-- The character with a code point. Zero is replaced; a surrogate or a
number past the last code point is none. -/
def charOfCode? (n : Nat) : Option Char :=
  if n = 0 then some '\uFFFD'
  else if n.isValidChar then some (Char.ofNat n)
  else none

/-- A numeric reference: digits, at least one, and a semicolon. -/
def numericEntity? (digits : List Char × List Glyph) (value : List Char → Nat) :
    Option (List Char × List Glyph) :=
  match digits with
  | ([], _) => none
  | (ds, .plain ';' :: rest) => (charOfCode? (value ds)).map fun c => ([c], rest)
  | _ => none

/-- The characters that a reference stands for and what follows it, `gs` being
what follows the ampersand. -/
def entity? (gs : List Glyph) : Option (List Char × List Glyph) :=
  match gs with
  | .plain '#' :: .plain 'x' :: rest
  | .plain '#' :: .plain 'X' :: rest =>
    numericEntity? (takeChars (fun c => (hexDigit? c).isSome) 6 rest) hexValue
  | .plain '#' :: rest => numericEntity? (takeChars Char.isDigit 7 rest) decimalValue
  | _ =>
    match takeChars Char.isAlphanum gs.length gs with
    | (name, .plain ';' :: rest) => (namedEntity? (String.ofList name)).map fun cs => (cs, rest)
    | _ => none

/-- Text with its references and escapes resolved, by at most `fuel` steps. -/
def unescapeSteps : Nat → List Glyph → List Char
  | 0, _ => []
  | _, [] => []
  | fuel + 1, g :: gs =>
    let verbatim := g.toChar :: unescapeSteps fuel gs
    match g with
    | .plain '\\' =>
      match gs with
      | e :: rest =>
        if isAsciiPunctuation e.toChar then e.toChar :: unescapeSteps fuel rest else verbatim
      | [] => verbatim
    | .plain '&' =>
      match entity? gs with
      | some (cs, rest) => cs ++ unescapeSteps fuel rest
      | none => verbatim
    | .plain '\r' => unescapeSteps fuel gs
    | _ => verbatim

/-- Text with its character references resolved and its backslash escapes
taken off. -/
def unescape (gs : List Glyph) : String :=
  String.ofList (unescapeSteps gs.length gs)

end WikiSync.Markdown
