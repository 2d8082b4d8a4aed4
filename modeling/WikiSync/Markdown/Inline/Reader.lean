import WikiSync.Markdown.Inline.Emphasis
import WikiSync.Markdown.Link
import WikiSync.Text.Punctuation

/-!
# Reading Inline Content

Reads the text of a paragraph, a heading or a table cell from left to right.
Code spans, addresses and HTML between angle brackets are taken as soon as
they are met, and so bind tighter than anything that started before them. A
closing bracket looks back for the nearest opening one and becomes a link or
an image if a target follows or its label is defined; otherwise both stay
text. Runs of emphasis marks are collected on the way and paired up at the
end, separately inside every link and image, so a span never reaches across
the edge of a link.

A link takes no link inside it: once one is complete, the brackets still open
around it cannot become links any more, though they can become images.

## Main definitions

* `Scan`: What has been read, with the brackets that are still open.
* `Run.ofContext`: Whether a run opens or closes, judged by its neighbours.
* `readInline`: The inline content of a text.
-/

namespace WikiSync.Markdown

open Text

/-- An opening bracket that waits for its partner. -/
structure Bracket where
  image : Bool
  /-- Whether the bracket may still become a link or an image. -/
  active : Bool
  /-- What was read before it, latest first. -/
  before : List Piece
  /-- The text after the bracket, to the end. -/
  inside : List Glyph

/-- What has been read since the innermost open bracket, latest first, and the
open brackets, innermost first. -/
structure Scan where
  pieces : List Piece
  brackets : List Bracket

/-- What one step of the scan arrives at: the character it ended on and the
text that is left. -/
structure Step where
  scan : Scan
  last : Char
  rest : List Glyph

namespace Scan

/-- Adds finished content. -/
def add (s : Scan) (content : Inline) : Scan :=
  { s with pieces := .done content :: s.pieces }

/-- Adds text. -/
def text (s : Scan) (cs : List Char) : Scan :=
  if cs.isEmpty then s else s.add (.text (String.ofList cs))

/-- Opens a bracket. -/
def openBracket (s : Scan) (image : Bool) (inside : List Glyph) : Scan :=
  ⟨[], ⟨image, true, s.pieces, inside⟩ :: s.brackets⟩

/-- Turns the brackets that are still open into text. -/
def finish (s : Scan) : List Piece :=
  s.brackets.foldl (fun inner b =>
    inner ++ .done (.text (if b.image then "![" else "[")) :: b.before) s.pieces

end Scan

/-- Whether a run of `length` marks opens or closes a span. It opens if the
text after it leans on it and closes if the text before it does; a run inside
a word does both, unless it is made of underscores or of a single tilde. -/
def Run.ofContext (mark : Char) (length : Nat) (prev next : Option Char) : Run :=
  let insideWords := mark == '*' || (mark == '~' && length > 1)
  let opens := match next with
    | none => false
    | some n =>
      if isBlankChar n then false
      else match prev with
        | none => true
        | some p =>
          (insideWords && (mark == '~' || !isPunctuation n)) ||
            (mark == '~' && p == '~' && !isPunctuation n) || isBlankChar p || isPunctuation p
  let closes := match prev with
    | none => false
    | some p =>
      if isBlankChar p then false
      else match next with
        | none => true
        | some n =>
          (insideWords && !isPunctuation p) || (mark == '~' && p == '~') ||
            isBlankChar n || isPunctuation n
  ⟨mark, length, opens, closes⟩

/-- The text of a code span and what follows it, `gs` being what follows its
opening run of `n` backticks, in at most `fuel` steps. Each character of a line
ending shows as a space. -/
def codeText? (n : Nat) : Nat → List Glyph → Option (List Char × List Glyph)
  | 0, _ => none
  | _, [] => none
  | fuel + 1, g :: gs =>
    if g = .plain '`' then
      let (k, rest) := takeRun '`' (g :: gs)
      if k = n then some ([], rest)
      else (codeText? n fuel rest).map fun (cs, r) => (List.replicate k '`' ++ cs, r)
    else
      let shown := match g with
        | .lineEnd ending _ => ending.map fun _ => ' '
        | _ => [g.toChar]
      (codeText? n fuel gs).map fun (cs, r) => (shown ++ cs, r)

/-- A code span loses one space at both ends, if it has one at both and holds
anything else. -/
def stripCode (cs : List Char) : List Char :=
  if cs.head? = some ' ' ∧ cs.getLast? = some ' ' ∧ cs.any (· != ' ') then
    (cs.drop 1).dropLast
  else cs

/-- The target of a bracket and what follows it, `rest` being what follows the
closing bracket. A target in parentheses comes first, then a label in
brackets; with neither, or with an empty pair, the bracket's own text is the
label. -/
def bracketTarget? (refs : References) (b : Bracket) (rest : List Glyph) :
    Option (Target × List Glyph) :=
  let own (after : List Glyph) :=
    (label? b.inside).bind fun (label, r) =>
      if r.length = rest.length then (refs.lookup label).map fun t => (t, after) else none
  let reference :=
    match rest with
    | .plain '[' :: .plain ']' :: after => own after
    | .plain '[' :: gs =>
      match label? gs with
      | some (label, after) => (refs.lookup label).map fun t => (t, after)
      | none => own rest
    | _ => own rest
  match rest with
  | .plain '(' :: gs => (linkTarget? gs).or reference
  | _ => reference

/-- Reads a closing bracket, `rest` being what follows it. -/
def closeBracket (refs : References) (s : Scan) (rest : List Glyph) : Step :=
  match s.brackets with
  | [] => ⟨s.text [']'], ']', rest⟩
  | b :: outer =>
    let asText : Scan :=
      ⟨.done (.text "]") :: s.pieces ++ .done (.text (if b.image then "![" else "[")) :: b.before,
        outer⟩
    if !b.active then ⟨asText, ']', rest⟩
    else match bracketTarget? refs b rest with
      | none => ⟨asText, ']', rest⟩
      | some (target, after) =>
        let content := resolveEmphasis s.pieces.reverse
        let last := match (rest.take (rest.length - after.length)).getLast? with
          | some g => g.toChar
          | none => ']'
        if b.image then
          ⟨⟨.done (.image target.url target.title content) :: b.before, outer⟩, last, after⟩
        else
          let outer := outer.map fun o => { o with active := o.active && o.image }
          ⟨⟨.done (.link false target.url target.title content) :: b.before, outer⟩, last, after⟩

/-- Reads what starts with an angle bracket. -/
def readAngle (s : Scan) (gs : List Glyph) : Step :=
  match autolink? gs with
  | some (mail, address, rest) => ⟨s.add (.link mail address "" [.text address]), '>', rest⟩
  | none =>
    match inlineHtml? gs with
    | some (html, rest) => ⟨s.add (.html (String.ofList html)), '>', rest⟩
    | none => ⟨s.text ['<'], '<', gs⟩

/-- Reads a run of backticks, `gs` being what follows it. -/
def readBackticks (s : Scan) (n : Nat) (gs : List Glyph) : Step :=
  match codeText? n gs.length gs with
  | some (cs, rest) => ⟨s.add (.code (String.ofList (stripCode cs))), '`', rest⟩
  | none => ⟨s.text (List.replicate n '`'), '`', gs⟩

/-- Arrives at the text of a line, `skipped` being what the containers took
off it and `gs` what is left of it. Its indentation does not show. -/
def Scan.startLine (s : Scan) (skipped : List Char) (gs : List Glyph) : Step :=
  let text := gs.dropWhile fun g => g.toChar == ' ' || g.toChar == '\t'
  ⟨s, if text.length < gs.length then ' ' else skipped.getLastD '\n', text⟩

/-- Reads blanks inside a line. Two or more at the end of a line make a hard
break. -/
def readBlanks (s : Scan) (gs : List Glyph) : Step :=
  let blanks := gs.takeWhile fun g => isInlineBlank g.toChar
  match gs.drop blanks.length with
  | .lineEnd _ skipped :: rest =>
    if blanks.length ≥ 2 then (s.add .hardBreak).startLine skipped rest
    else ((s.text (blanks.map Glyph.toChar)).add .softBreak).startLine skipped rest
  | rest => ⟨s.text (blanks.map Glyph.toChar), ' ', rest⟩

/-- Reads what follows a backslash. -/
def readEscape (s : Scan) (gs : List Glyph) : Step :=
  match gs with
  | .lineEnd _ skipped :: rest => (s.add .hardBreak).startLine skipped rest
  | g :: rest =>
    if isAsciiPunctuation g.toChar then ⟨s.text [g.toChar], g.toChar, rest⟩
    else ⟨s.text ['\\'], '\\', gs⟩
  | [] => ⟨s.text ['\\'], '\\', []⟩

/-- Whether a glyph may start anything but text. -/
def isSpecial (g : Glyph) : Bool :=
  match g with
  | .plain c => isInlineBlank c || "\\`<&![]*_~".toList.contains c
  | .lineEnd _ _ => true
  | .cellPipe => false

/-- Reads one construct or one stretch of text. -/
def readNext (refs : References) (prev : Option Char) (s : Scan) (g : Glyph) (gs : List Glyph) :
    Step :=
  match g with
  | .lineEnd _ skipped => (s.add .softBreak).startLine skipped gs
  | .cellPipe => ⟨s.text ['|'], '|', gs⟩
  | .plain c =>
    if c = '\\' then readEscape s gs
    else if c = '`' then
      let (n, rest) := takeRun '`' gs
      readBackticks s (n + 1) rest
    else if c = '<' then readAngle s gs
    else if c = '&' then
      match entity? gs with
      | some (cs, rest) => ⟨s.text cs, ';', rest⟩
      | none => ⟨s.text ['&'], '&', gs⟩
    else if c = '[' then ⟨s.openBracket false gs, '[', gs⟩
    else if c = '!' then
      match gs with
      | .plain '[' :: rest => ⟨s.openBracket true rest, '[', rest⟩
      | _ => ⟨s.text ['!'], '!', gs⟩
    else if c = ']' then closeBracket refs s gs
    else if c = '*' ∨ c = '_' ∨ c = '~' then
      let (n, rest) := takeRun c gs
      let run := Run.ofContext c (n + 1) prev (rest.head?.map Glyph.toChar)
      if (run.opens || run.closes) && (c != '~' || n + 1 ≤ 2) then
        ⟨{ s with pieces := .run run :: s.pieces }, c, rest⟩
      else ⟨s.text (List.replicate (n + 1) c), c, rest⟩
    else if isInlineBlank c then readBlanks s (g :: gs)
    else
      let more := gs.takeWhile fun g => !isSpecial g
      let cs := c :: more.map Glyph.toChar
      ⟨s.text cs, cs.getLastD c, gs.drop more.length⟩

/-- Reads a text to its end, in at most `fuel` steps. -/
def scanInline (refs : References) : Nat → Option Char → Scan → List Glyph → Scan
  | 0, _, s, _ => s
  | _, _, s, [] => s
  | fuel + 1, prev, s, g :: gs =>
    let step := readNext refs prev s g gs
    scanInline refs fuel (some step.last) step.scan step.rest

/-- The inline content of a text. -/
def readInline (refs : References) (gs : List Glyph) : List Inline :=
  resolveEmphasis (scanInline refs gs.length none ⟨[], []⟩ gs).finish.reverse

end WikiSync.Markdown
