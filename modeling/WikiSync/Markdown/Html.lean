import WikiSync.Markdown.Cursor
import WikiSync.Markdown.Glyph

/-!
# Raw HTML

What counts as HTML inside a document, and where it ends. Inside a paragraph
it is a single construct: a tag, a comment, a processing instruction, a
declaration or a CDATA section. As a block it is a run of whole lines. Blocks
that start with one of a few openers run to the line that holds the matching
closer; the others run to the next blank line.

## Main definitions

* `tag?`: A whole tag.
* `inlineHtml?`: Any construct that may stand inside a paragraph.
* `htmlCloser?`: The closer that a block of the first kind runs to.
* `startsBlockTag`, `startsLoneTag`: How a block of the second kind starts.
-/

namespace WikiSync.Markdown

open Text

/-- Drops blanks and line endings. -/
def skipSpace (gs : List Glyph) : List Glyph :=
  gs.dropWhile fun g => isAsciiBlank g.toChar

/-- Drops blanks that do not end the line. -/
def skipInlineBlanks (gs : List Glyph) : List Glyph :=
  gs.dropWhile fun g => isInlineBlank g.toChar

/-- What follows an attribute name. -/
def attributeName? : List Glyph → Option (List Glyph)
  | [] => none
  | g :: gs =>
    let c := g.toChar
    if c.isAlpha || c == '_' || c == ':' then
      some (gs.dropWhile fun g =>
        let c := g.toChar
        c.isAlphanum || c == '_' || c == '.' || c == ':' || c == '-')
    else none

/-- What follows the next glyph that reads as `c`. -/
def afterChar? (c : Char) (gs : List Glyph) : Option (List Glyph) :=
  match gs.dropWhile (fun g => g.toChar != c) with
  | [] => none
  | _ :: rest => some rest

/-- Whether a character may stand in an attribute value without quotes. -/
def isBareValueChar (c : Char) : Bool :=
  !" \r\n\"\x27=<>\x60".toList.contains c

/-- What follows an attribute value. -/
def attributeValue? : List Glyph → Option (List Glyph)
  | [] => none
  | g :: gs =>
    let c := g.toChar
    if c == '"' || c == '\'' then afterChar? c gs
    else if isBareValueChar c then some (gs.dropWhile fun g => isBareValueChar g.toChar)
    else none

/-- What follows an attribute. White space after a name without a value is
left for the next attribute. -/
def attribute? (gs : List Glyph) : Option (List Glyph) :=
  (attributeName? gs).bind fun afterName =>
    match skipSpace afterName with
    | .plain '=' :: rest => attributeValue? (skipSpace rest)
    | _ => some afterName

/-- Passes over attributes, at most `fuel` of them, each with white space in
front, up to the end of the tag. -/
def attributes? : Nat → List Glyph → Option (List Glyph)
  | 0, _ => none
  | fuel + 1, gs =>
    match skipSpace gs with
    | [] => none
    | g :: rest =>
      if g.toChar == '/' || g.toChar == '>' then some (g :: rest)
      else if rest.length + 1 == gs.length then none
      else (attribute? (g :: rest)).bind (attributes? fuel)

/-- What follows a tag name. -/
def tagName? : List Glyph → Option (List Glyph)
  | [] => none
  | g :: gs =>
    if g.toChar.isAlpha then
      some (gs.dropWhile fun g => g.toChar.isAlphanum || g.toChar == '-')
    else none

/-- What follows a tag, `gs` being what follows its `<`. -/
def tag? (gs : List Glyph) : Option (List Glyph) :=
  match gs with
  | .plain '/' :: name =>
    (tagName? name).bind fun rest =>
      match skipInlineBlanks rest with
      | .plain '>' :: after => some after
      | _ => none
  | _ =>
    (tagName? gs).bind fun rest =>
      (attributes? rest.length.succ rest).bind fun rest =>
        match rest with
        | .plain '/' :: .plain '>' :: after => some after
        | .plain '>' :: after => some after
        | _ => none

/-- What follows the first place that reads as `mark`. -/
def afterText? (mark : List Char) : List Glyph → Option (List Glyph)
  | [] => none
  | g :: gs =>
    if ((g :: gs).take mark.length).map Glyph.toChar == mark then
      some ((g :: gs).drop mark.length)
    else afterText? mark gs

/-- Whether the glyphs start with a text. -/
def startsWith (mark : String) (gs : List Glyph) : Bool :=
  (gs.take mark.length).map Glyph.toChar == mark.toList

/-- What follows a CDATA section, `gs` being what follows its opener. The
first run of closing brackets has to end it. -/
def cdata? (gs : List Glyph) : Option (List Glyph) :=
  match takeRun ']' (gs.dropWhile fun g => g.toChar != ']') with
  | (_ + 1, .plain '>' :: rest) => some rest
  | _ => none

/-- What follows a comment, a declaration, a CDATA section or a processing
instruction, `gs` being what follows its `<`. -/
def markup? (gs : List Glyph) : Option (List Glyph) :=
  match gs with
  | .plain '!' :: rest =>
    if startsWith "--" rest then afterText? ['-', '-', '>'] rest
    else if startsWith "[CDATA[" rest then cdata? (rest.drop 7)
    else match rest with
      | g :: _ => if g.toChar.isAlpha then afterChar? '>' rest else none
      | [] => none
  | .plain '?' :: rest => afterText? ['?', '>'] rest
  | _ => none

/-- HTML inside a paragraph, `gs` being what follows its `<`: the text to show
and what follows. A tag is shown without the markers of the enclosing
containers, the other constructs exactly as they were written. -/
def inlineHtml? (gs : List Glyph) : Option (List Char × List Glyph) :=
  let shown (source : Glyph → List Char) (rest : List Glyph) :=
    ('<' :: (gs.take (gs.length - rest.length)).flatMap source, rest)
  match markup? gs with
  | some rest => some (shown Glyph.source rest)
  | none => (tag? gs).map (shown Glyph.ownSource)

/-- Whether the text starts with a tag name, in any letter case, that ends
there. -/
def startsTagName (name : String) (cs : List Char) : Bool :=
  (cs.take name.length).map Char.toLower == name.toList &&
    match cs.drop name.length with
    | [] => true
    | c :: _ => isAsciiBlank c || c == '>'

/-- The closer that an HTML block runs to, if it starts with an opener that
has one; `cs` is what follows the `<`. -/
def htmlCloser? (cs : List Char) : Option String :=
  if startsTagName "pre" cs then some "</pre>"
  else if startsTagName "style" cs then some "</style>"
  else if startsTagName "script" cs then some "</script>"
  else if startsTagName "textarea" cs then some "</textarea>"
  else if "!--".toList.isPrefixOf cs then some "-->"
  else if "?".toList.isPrefixOf cs then some "?>"
  else if "![CDATA[".toList.isPrefixOf cs then some "]]>"
  else match cs with
    | '!' :: c :: _ => if c.isAlpha then some ">" else none
    | _ => none

/-- The tags that start a block wherever they stand. -/
def blockTags : List String := [
    "address", "article", "aside", "base", "basefont", "blockquote", "body", "caption",
    "center", "col", "colgroup", "dd", "details", "dialog", "dir", "div", "dl", "dt",
    "fieldset", "figcaption", "figure", "footer", "form", "frame", "frameset", "h1", "h2",
    "h3", "h4", "h5", "h6", "head", "header", "hr", "html", "iframe", "legend", "li", "link",
    "main", "menu", "menuitem", "nav", "noframes", "ol", "optgroup", "option", "p", "param",
    "search", "section", "summary", "table", "tbody", "td", "tfoot", "th", "thead", "title",
    "tr", "track", "ul"]

/-- Whether a block tag, opening or closing, starts here; `cs` is what follows
the `<`. -/
def startsBlockTag (cs : List Char) : Bool :=
  let name := match cs with
    | '/' :: rest => rest
    | _ => cs
  let word := name.takeWhile Char.isAlphanum
  blockTags.contains (String.ofList (word.map Char.toLower)) &&
    match name.drop word.length with
    | [] => true
    | '/' :: '>' :: _ => true
    | c :: _ => c == ' ' || c == '\t' || c == '\r' || c == '\n' || c == '>'

/-- Whether the line holds a single tag and nothing else; `cs` is what follows
the `<`. -/
def startsLoneTag (cs : List Char) : Bool :=
  match tag? (Glyph.ofChars (spanLine cs).1) with
  | some rest => rest.all fun g => isInlineBlank g.toChar
  | none => false

end WikiSync.Markdown
