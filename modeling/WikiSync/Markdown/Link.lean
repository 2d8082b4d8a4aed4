import WikiSync.Markdown.Entity
import WikiSync.Markdown.Html
import WikiSync.Text.CaseFold
import WikiSync.Text.Blank

/-!
# Links

The parts that links and images are written with: a label in brackets, a
destination, a title, and the definition that ties a label to the two. Labels
are compared without regard to letter case or to the amount of white space
between their words; the first definition of a label counts.

## Main definitions

* `label?`: A label, in the form in which labels are compared.
* `destination?`, `title?`: The two parts of a link target.
* `linkTarget?`: The target of an inline link.
* `definition?`: A definition at the start of a paragraph.
* `autolink?`: An address between angle brackets.
-/

namespace WikiSync.Markdown

open Text

/-- Where a link leads. -/
structure Target where
  url : String
  title : String
deriving Repr

/-- A label in the form in which labels are compared. -/
abbrev Label := List Char

/-- Definitions by label, the first one of a label in front. -/
abbrev References := List (Label × Target)

/-- How much of a label may be anything but plain ASCII: fewer than this many
bytes of blanks, of escapes and of characters outside ASCII. -/
def labelRoom : Nat := 1000

/-- Reads up to the closing bracket: the characters, latest first after `acc`,
white space reduced to single spaces, and what follows the bracket. `room` is
what is left of `labelRoom`, and `worded` says whether there was a character
yet that is neither blank nor escaped, which a label needs. -/
def labelChars? (room : Nat) (worded : Bool) (acc : List Char) :
    List Glyph → Option (List Char × List Glyph)
  | [] => none
  | g :: gs =>
    if room = 0 then none
    else match g with
    | .plain '[' => none
    | .plain ']' => if worded then some (acc, gs) else none
    | .plain '\\' =>
      match gs with
      | e :: rest =>
        labelChars? (room - (1 + e.toChar.utf8Size)) worded (e.toChar :: '\\' :: acc) rest
      | [] => none
    | _ =>
      let c := g.toChar
      if isAsciiBlank c then
        let acc := if acc.head? = some ' ' then acc else ' ' :: acc
        labelChars? (room - g.source.length) worded acc gs
      else
        let width := if c.toNat < 128 then 0 else c.utf8Size
        labelChars? (room - width) true (c :: acc) gs

/-- A label and what follows it, `gs` being what follows its opening bracket. -/
def label? (gs : List Glyph) : Option (Label × List Glyph) :=
  (labelChars? labelRoom false [] gs).map fun (acc, rest) => (caseFold (trim acc.reverse), rest)

/-- A destination without angle brackets: what is written and what follows.
It ends at a blank, at a control character or at a parenthesis that it did not
open. Inside `maxDepth` open parentheses one more may open, but no further. -/
def bareDestination? (maxDepth : Nat) : Nat → List Glyph → Option (List Glyph × List Glyph)
  | depth, [] => if depth = 0 then some ([], []) else none
  | depth, g :: gs =>
    let c := g.toChar
    let keep (r : Option (List Glyph × List Glyph)) := r.map fun (d, rest) => (g :: d, rest)
    if c.toNat ≤ 0x20 then
      if depth = 0 then some ([], g :: gs) else none
    else if c = '(' then
      if depth > maxDepth then none else keep (bareDestination? maxDepth (depth + 1) gs)
    else if c = ')' then
      match depth with
      | 0 => some ([], g :: gs)
      | depth + 1 => keep (bareDestination? maxDepth depth gs)
    else if c = '\\' then
      match gs with
      | e :: rest =>
        if isAsciiPunctuation e.toChar then
          (bareDestination? maxDepth depth rest).map fun (d, r) => (g :: e :: d, r)
        else keep (bareDestination? maxDepth depth (e :: rest))
      | [] => if depth = 0 then some ([g], []) else none
    else keep (bareDestination? maxDepth depth gs)

/-- A destination between angle brackets, `gs` being what follows the first. -/
def angleDestination? : List Glyph → Option (List Glyph × List Glyph)
  | [] => none
  | g :: gs =>
    let keep (r : Option (List Glyph × List Glyph)) := r.map fun (d, rest) => (g :: d, rest)
    match g with
    | .plain '>' => some ([], gs)
    | .plain '<' | .plain '\n' | .plain '\r' | .lineEnd _ _ => none
    | .plain '\\' =>
      match gs with
      | e :: rest =>
        if isAsciiPunctuation e.toChar then
          (angleDestination? rest).map fun (d, r) => (g :: e :: d, r)
        else keep (angleDestination? (e :: rest))
      | [] => none
    | _ => keep (angleDestination? gs)

/-- A link destination as it is written, and what follows it. Without angle
brackets its parentheses nest as `bareDestination?` allows. -/
def destination? (maxDepth : Nat) : List Glyph → Option (List Glyph × List Glyph)
  | .plain '<' :: gs => angleDestination? gs
  | gs => bareDestination? maxDepth 0 gs

/-- The text of a title up to the closing mark, by at most `fuel` steps. The
lines of a title lose their indentation. `ending` says what shows for the end
of a line. -/
def titleText? (ending : List Char → List Char) (opener closer : Char) :
    Nat → List Glyph → Option (List Char × List Glyph)
  | 0, _ => none
  | _, [] => none
  | fuel + 1, g :: gs =>
    let c := g.toChar
    let keep (cs : List Char) (rest : List Glyph) :=
      (titleText? ending opener closer fuel rest).map fun (t, r) => (cs ++ t, r)
    if c = closer then some ([], gs)
    else if c = opener then none
    else match g with
    | .lineEnd written _ =>
      keep (ending written) (gs.dropWhile fun g => g.toChar == ' ' || g.toChar == '\t')
    | _ =>
      if c = '&' then
        match entity? gs with
        | some (cs, rest) => keep cs rest
        | none => keep [c] gs
      else if c = '\\' then
        match gs with
        | e :: rest => if isAsciiPunctuation e.toChar then keep [e.toChar] rest else keep [c] gs
        | [] => none
      else keep [c] gs

/-- A link title and what follows it. -/
def title? (ending : List Char → List Char) : List Glyph → Option (String × List Glyph)
  | [] => none
  | g :: gs =>
    let read (closer : Char) :=
      (titleText? ending g.toChar closer gs.length gs).map fun (t, r) => (String.ofList t, r)
    match g.toChar with
    | '"' => read '"'
    | '\'' => read '\''
    | '(' => read ')'
    | _ => none

/-- Drops blanks and at most one line ending. -/
def skipSeparator (gs : List Glyph) : List Glyph :=
  match skipInlineBlanks gs with
  | .lineEnd _ _ :: rest => skipInlineBlanks rest
  | rest => rest

/-- The end of a line in the title of an inline link: a carriage return and a
line feed both show, and each of them alone is a line feed. -/
def keptEnding (written : List Char) : List Char :=
  if written.length = 2 then written else ['\n']

/-- The target of an inline link and what follows it, `gs` being what follows
the opening parenthesis. -/
def linkTarget? (gs : List Glyph) : Option (Target × List Glyph) :=
  (destination? 32 (skipSeparator gs)).bind fun (url, rest) =>
    let rest := skipSeparator rest
    let (title, rest) := match title? keptEnding rest with
      | some (title, after) => (title, skipSeparator after)
      | none => ("", rest)
    match rest with
    | .plain ')' :: after => some (⟨unescape url, title⟩, after)
    | _ => none

/-- What follows the line, if only blanks are left of it. -/
def restOfBlankLine? (gs : List Glyph) : Option (List Glyph) :=
  match skipInlineBlanks gs with
  | [] => some []
  | .lineEnd _ _ :: rest => some rest
  | _ => none

/-- A definition at the start of a paragraph and what follows its last line.
The end of a line in its title is a line feed, however it is written.
A title that cannot be read is no part of the definition, if the line of the
destination ends before it. -/
def definition? (gs : List Glyph) : Option ((Label × Target) × List Glyph) :=
  match gs with
  | .plain '[' :: gs =>
    (label? gs).bind fun (label, rest) =>
      match rest with
      | .plain ':' :: rest =>
        let start := skipSeparator rest
        (destination? 1 start).bind fun (url, rest) =>
          let untitled := (restOfBlankLine? rest).map fun after =>
            ((label, ⟨unescape url, ""⟩), after)
          let titleStart := skipSeparator rest
          if rest.length = start.length then none
          else if titleStart.length = rest.length then untitled
          else match title? (fun _ => ['\n']) titleStart with
            | some (title, after) =>
              match restOfBlankLine? after with
              | some after => some ((label, ⟨unescape url, title⟩), after)
              | none => untitled
            | none => untitled
      | _ => none
  | _ => none

/-- An absolute address between angle brackets, as written, `gs` being what
follows the first bracket. -/
def uri? (gs : List Glyph) : Option (List Glyph × List Glyph) :=
  let scheme := gs.takeWhile fun g =>
    let c := g.toChar
    c.isAlphanum || c == '.' || c == '-' || c == '+'
  let startsWithLetter := (gs.head?.map fun g => g.toChar.isAlpha).getD false
  if startsWithLetter && 2 ≤ scheme.length && scheme.length ≤ 32 then
    match gs.drop scheme.length with
    | .plain ':' :: rest =>
      let path := rest.takeWhile fun g =>
        g.toChar.toNat > 0x20 && g.toChar != '<' && g.toChar != '>'
      match rest.drop path.length with
      | .plain '>' :: after => some (scheme ++ .plain ':' :: path, after)
      | _ => none
    | _ => none
  else none

/-- Whether a character may stand before the `@` of a mail address. -/
def isMailboxChar (c : Char) : Bool :=
  c.isAlphanum || ".!#$%&'*+/=?^_`\x7b|\x7d~-".toList.contains c

/-- Whether the labels of a host name are well formed: 1 to 63 letters, digits
and hyphens, no hyphen at either end. -/
def isHostLabel (cs : List Char) : Bool :=
  1 ≤ cs.length && cs.length ≤ 63 && cs.all (fun c => c.isAlphanum || c == '-') &&
    cs.head? != some '-' && cs.getLast? != some '-'

/-- A mail address between angle brackets, as written. -/
def email? (gs : List Glyph) : Option (List Glyph × List Glyph) :=
  let mailbox := gs.takeWhile fun g => isMailboxChar g.toChar
  if mailbox.isEmpty then none
  else match gs.drop mailbox.length with
    | .plain '@' :: rest =>
      let host := rest.takeWhile fun g => g.toChar.isAlphanum || g.toChar == '-' || g.toChar == '.'
      let labels := (String.ofList (host.map Glyph.toChar)).splitOn "."
      if labels.all fun l => isHostLabel l.toList then
        match rest.drop host.length with
        | .plain '>' :: after => some (mailbox ++ .plain '@' :: host, after)
        | _ => none
      else none
    | _ => none

/-- An address between angle brackets, `gs` being what follows the first:
whether it is a mail address, the address, and what follows. -/
def autolink? (gs : List Glyph) : Option (Bool × String × List Glyph) :=
  let shown (address : List Glyph) := String.ofList (address.flatMap Glyph.source)
  match uri? gs with
  | some (address, rest) => some (false, shown address, rest)
  | none => (email? gs).map fun (address, rest) => (true, shown address, rest)

end WikiSync.Markdown
