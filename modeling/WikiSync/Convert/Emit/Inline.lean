import WikiSync.Convert.Emit.Block
import WikiSync.Storage.Escape

/-!
# Emitting Inline Content

The markup of text, code spans, links and images. A link to a fragment becomes
a link to an anchor of the page. An image on a web server is shown from there;
any other image is an attachment, named by the last part of its path.
-/

namespace WikiSync.Emit

open Storage (escape)

/-- An attribute and its value, after a space. -/
def attr (name value : String) : String :=
  " " ++ name ++ "=\"" ++ escape value ++ "\""

/-- Renders text. -/
def text : Renderer := fun n _ _ =>
  match n with
  | .text value => pure (escape value)
  | _ => pure ""

/-- Renders a code span. -/
def inlineCode : Renderer := fun n _ _ =>
  match n with
  | .inlineCode value => pure (element "code" (escape value))
  | _ => pure ""

/-- Renders a hard break. -/
def hardBreak : Renderer := fun _ _ _ => pure "<br/>"

/-- The anchor that an address within the page leads to. -/
def anchor? (url : String) : Option String :=
  match url.toList with
  | '#' :: anchor => some (String.ofList anchor)
  | _ => none

/-- The markup of a link around its body. -/
def linkMarkup (url : String) (title : Option String) (body : String) : String :=
  match anchor? url with
  | some anchor =>
    "<ac:link" ++ attr "ac:anchor" anchor ++ "><ac:link-body>" ++ body ++
      "</ac:link-body></ac:link>"
  | none =>
    let titled := match title with
      | some title => attr "title" title
      | none => ""
    "<a" ++ attr "href" url ++ titled ++ ">" ++ body ++ "</a>"

/-- Renders a link. -/
def link : Renderer := fun n ctx below => do
  let body ← Renderer.children n ctx below
  match n with
  | .link url title _ => pure (linkMarkup url title body)
  | _ => pure body

/-- Whether an address leads to a web server. -/
def isRemote (url : String) : Bool :=
  "http://".toList.isPrefixOf url.toList || "https://".toList.isPrefixOf url.toList

/-- What follows the last slash of a path, or all of it if nothing does. -/
def lastSegment (url : String) : String :=
  match (url.toList.reverse.takeWhile (· != '/')).reverse with
  | [] => url
  | segment => String.ofList segment

/-- An attribute that is left out if its value is empty. -/
def optionalAttr (name value : String) : String :=
  if value.isEmpty then "" else attr name value

/-- The markup of what an image shows. -/
def resourceMarkup (url : String) : String :=
  if isRemote url then "<ri:url" ++ attr "ri:value" url ++ "/>"
  else "<ri:attachment" ++ attr "ri:filename" (lastSegment url) ++ "/>"

/-- The markup of an image. An empty title counts as none. -/
def imageMarkup (url alt : String) (title : Option String) : String :=
  "<ac:image" ++ optionalAttr "ac:alt" alt ++ optionalAttr "ac:title" (title.getD "") ++ ">" ++
    resourceMarkup url ++ "</ac:image>"

/-- Renders an image. -/
def image : Renderer := fun n _ _ =>
  match n with
  | .image url alt title => pure (imageMarkup url alt title)
  | _ => pure ""

end WikiSync.Emit
