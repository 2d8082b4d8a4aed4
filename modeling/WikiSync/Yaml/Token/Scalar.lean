import WikiSync.Text.Escape
import WikiSync.Yaml.Place

/-!
# Scanning YAML Scalars

Scalars come plain, in single or double quotes, or as an indented block. In
all but blocks a line break is folded: one break between two words counts as a
space, and of several the first is dropped.

## Main definitions

* `Gap`: What stands between two words.
* `quotedScalar?`: Reads a quoted scalar.
* `plainScalar?`: Reads a plain scalar.
* `blockScalar?`: Reads an indented block.
-/

namespace WikiSync.Yaml

open Text (isLineBlank)

/-- What stands between two words of a scalar. -/
structure Gap where
  /-- The blanks before the first line break. -/
  blanks : List Char
  /-- The first line break; one that was escaped shows nothing. -/
  first : Option (List Char)
  /-- The line breaks after the first. -/
  more : List Char

namespace Gap

/-- Nothing between two words. -/
def none : Gap :=
  ⟨[], .none, []⟩

/-- What a gap shows. -/
def shown (g : Gap) : List Char :=
  match g.first with
  | .none => g.blanks
  | some ['\n'] => if g.more.isEmpty then [' '] else g.more
  | some first => first ++ g.more

/-- Adds a line break. -/
def addBreak (g : Gap) (c : Char) : Gap :=
  match g.first with
  | .none => { g with first := some [c] }
  | some _ => { g with more := g.more ++ [c] }

/-- Adds a blank; in front of the text of a line it does not count. -/
def addBlank (g : Gap) (c : Char) : Gap :=
  match g.first with
  | .none => { g with blanks := g.blanks ++ [c] }
  | some _ => g

/-- The gap that starts at a place, added to `g`. In front of column `indent`
a line must not be indented by tabs. -/
def read? (indent : Nat) : Nat → Gap → Place → Option (Gap × Place)
  | 0, g, p => some (g, p)
  | fuel + 1, g, p =>
    match p.takeBreak? with
    | some (c, q) => read? indent fuel (g.addBreak c) q
    | .none =>
      match p.rest with
      | c :: _ =>
        if isLineBlank c then
          if c == '\t' && g.first.isSome && p.column < indent then .none
          else read? indent fuel (g.addBlank c) (p.skip 1)
        else some (g, p)
      | [] => some (g, p)

end Gap

/-- The characters that a letter after a backslash stands for. -/
def escapes : List (Char × Char) :=
  [('0', '\x00'), ('a', '\x07'), ('b', '\x08'), ('t', '\t'), ('\t', '\t'), ('n', '\n'),
    ('v', '\x0b'), ('f', '\x0c'), ('r', '\r'), ('e', '\x1b'), (' ', ' '), ('"', '"'),
    ('/', '/'), ('\\', '\\'), ('N', '\u0085'), ('_', '\u00a0'), ('L', '\u2028'),
    ('P', '\u2029')]

/-- The rest of a word of a quoted scalar, and the place after it. The gap is
empty, or starts with an escaped line break. -/
def quotedWord? (quote : Char) : Nat → List Char → Place → Option (List Char × Gap × Place)
  | 0, _, _ => none
  | fuel + 1, word, p =>
    let done := some (word, Gap.none, p)
    match p.rest with
    | [] => done
    | c :: rest =>
      if isBlankOrBreak c then done
      else if c == quote then
        if quote == '\'' && rest.head? == some '\'' then
          quotedWord? quote fuel (word ++ ['\'']) (p.skip 2)
        else done
      else if quote == '"' && c == '\\' then
        match (p.skip 1).takeBreak? with
        | some (_, q) => some (word, ⟨[], some [], []⟩, q)
        | none =>
          match Text.escape? escapes rest with
          | some (shown, n) => quotedWord? quote fuel (word ++ [shown]) (p.skip (n + 1))
          | none => none
      else quotedWord? quote fuel (word ++ [c]) (p.skip 1)

/-- The rest of a quoted scalar after `text`, and the place after the closing
quote. -/
def quotedText? (quote : Char) : Nat → List Char → Place → Option (List Char × Place)
  | 0, _, _ => none
  | fuel + 1, text, p =>
    if p.atDocumentMark || p.rest.isEmpty then none
    else do
      let (word, gap, q) ← quotedWord? quote (p.rest.length + 1) [] p
      let text := text ++ word
      if q.rest.head? == some quote then some (text, q.skip 1)
      else
        let (gap, r) ← gap.read? 0 q.rest.length q
        quotedText? quote fuel (text ++ gap.shown) r

/-- Reads a quoted scalar. -/
def quotedScalar? (p : Place) : Option (String × Place) :=
  match p.rest with
  | quote :: rest =>
    (quotedText? quote (rest.length + 1) [] (p.skip 1)).map fun (text, q) => (String.ofList text, q)
  | [] => none

/-- The rest of a word of a plain scalar, and the place after it. In a flow
collection its marks end the word, and a colon in front of one is an error. -/
def plainWord? (inFlow : Bool) : Nat → List Char → Place → Option (List Char × Place)
  | 0, word, p => some (word, p)
  | fuel + 1, word, p =>
    match p.rest with
    | [] => some (word, p)
    | c :: rest =>
      let next := rest.head?.getD ' '
      if isBlankOrBreak c then some (word, p)
      else if inFlow && c == ':' && ",?[]\x7b\x7d".toList.contains next then none
      else if c == ':' && endsWord rest then some (word, p)
      else if inFlow && ",[]\x7b\x7d".toList.contains c then some (word, p)
      else plainWord? inFlow fuel (word ++ [c]) (p.skip 1)

/-- The rest of a plain scalar after `text` and a gap, whether it ended after
a line break, and the place after it. Outside flow collections its lines are
indented by `indent` columns at least. -/
def plainText? (inFlow : Bool) (indent : Nat) :
    Nat → List Char → Gap → Place → Option (List Char × Bool × Place)
  | 0, _, _, _ => none
  | fuel + 1, text, gap, p =>
    let done := some (text, gap.first.isSome, p)
    if p.atDocumentMark || p.rest.head? == some '#' then done
    else do
      let (word, q) ← plainWord? inFlow p.rest.length [] p
      let (text, gap) := if word.isEmpty then (text, gap) else (text ++ gap.shown ++ word, Gap.none)
      let done := some (text, gap.first.isSome, q)
      match q.rest with
      | [] => done
      | c :: _ =>
        if !isBlankOrBreak c then done
        else
          let (gap, r) ← gap.read? indent q.rest.length q
          if !inFlow && r.column < indent then some (text, gap.first.isSome, r)
          else plainText? inFlow indent fuel text gap r

/-- Reads a plain scalar. The flag says whether it ended after a line break. -/
def plainScalar? (inFlow : Bool) (indent : Nat) (p : Place) : Option (String × Bool × Place) :=
  (plainText? inFlow indent (p.rest.length + 1) [] Gap.none p).map
    fun (text, broken, q) => (String.ofList text, broken, q)

/-- What happens to the line breaks at the end of a block. -/
inductive Chomping where
  | strip
  | clip
  | keep
deriving DecidableEq, Repr

/-- The chomping that a sign asks for. -/
def chomping? : List Char → Option Chomping
  | '+' :: _ => some .keep
  | '-' :: _ => some .strip
  | _ => none

/-- The indentation that a digit asks for. -/
def indentDigit? : List Char → Option Nat
  | c :: _ => if c.isDigit then some (c.toNat - '0'.toNat) else none
  | [] => none

/-- The header of a block after its mark: chomping and indentation in either
order, each of them optional. -/
def blockHeader? (p : Place) : Option (Chomping × Option Nat × Place) := do
  let (chomping, increment, p) :=
    match chomping? p.rest, indentDigit? p.rest with
    | some c, _ =>
      match indentDigit? (p.skip 1).rest with
      | some n => (c, some n, p.skip 2)
      | none => (c, none, p.skip 1)
    | none, some n =>
      match chomping? (p.skip 1).rest with
      | some c => (c, some n, p.skip 2)
      | none => (.clip, some n, p.skip 1)
    | none, none => (.clip, none, p)
  if increment == some 0 then none
  else
    let p ← p.finishLine?
    some (chomping, increment, p)

/-- The breaks of empty lines, the largest indentation seen so far, and the
place after the indentation of the next line. Without `indent` all spaces
count as indentation. -/
def emptyLines? (indent : Option Nat) :
    Nat → List Char → Nat → Place → Option (List Char × Nat × Place)
  | 0, breaks, deepest, p => some (breaks, deepest, p)
  | fuel + 1, breaks, deepest, p =>
    let spaces := (p.rest.takeWhile (· == ' ')).length
    let p := p.skip <| match indent with
      | some n => min spaces (n - p.column)
      | none => spaces
    let deepest := max deepest p.column
    let open? := match indent with
      | some n => p.column < n
      | none => true
    if open? && p.rest.head? == some '\t' then none
    else
      match p.takeBreak? with
      | some (c, q) => emptyLines? indent fuel (breaks ++ [c]) deepest q
      | none => some (breaks, deepest, p)

/-- The break between two lines of a folded block becomes a space, or nothing
in front of empty lines, unless one of the lines starts with a blank. -/
def foldBreak (folded blankBefore blankAfter : Bool) (first more : List Char) : List Char :=
  if folded && first == ['\n'] && !blankBefore && !blankAfter then
    if more.isEmpty then [' '] else more
  else first ++ more

/-- The lines of a block after `text`: the text, the last break, the breaks
after it, and the place after the block. -/
def blockLines? (folded : Bool) (indent : Nat) :
    Nat → List Char → Bool → List Char → List Char → Place →
      Option (List Char × List Char × List Char × Place)
  | 0, _, _, _, _, _ => none
  | fuel + 1, text, blankBefore, first, more, p =>
    if p.column != indent then some (text, first, more, p)
    else
      match p.rest with
      | [] => some (text, first, more, p)
      | c :: _ =>
        let blankHere := isLineBlank c
        let text := text ++ foldBreak folded blankBefore blankHere first more
        let (line, q) := p.spanWhile fun c => !isBreak c
        let (first, q) := match q.takeBreak? with
          | some (b, r) => ([b], r)
          | none => ([], q)
        match emptyLines? (some indent) (q.rest.length + 1) [] 0 q with
        | none => none
        | some (more, _, r) => blockLines? folded indent fuel (text ++ line) blankHere first more r

/-- Reads a block, from its mark on, inside a collection whose content is
indented by `base` columns at least. -/
def blockScalar? (base : Nat) (p : Place) : Option (String × Place) := do
  let folded := p.rest.head? == some '>'
  let (chomping, increment, p) ← blockHeader? (p.skip 1)
  let given := increment.map fun n => (base - 1) + n
  let (breaks, deepest, p) ← emptyLines? given (p.rest.length + 1) [] 0 p
  let indent := given.getD (max deepest (max base 1))
  let (text, first, more, p) ← blockLines? folded indent (p.rest.length + 1) [] false [] breaks p
  let text := match chomping with
    | .strip => text
    | .clip => text ++ first
    | .keep => text ++ first ++ more
  some (String.ofList text, p)

end WikiSync.Yaml
