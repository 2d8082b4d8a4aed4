import WikiSync.Convert.Default
import WikiSync.Diagram.Attach
import WikiSync.Document.Parse

/-!
# Rendering Pages

A Markdown document as a wiki page: it is read, its diagrams are rendered, and
its tree is converted to markup.

## Main definitions

* `RenderedPage`: A document as a page.
* `PageError`: Why there is no page.
* `renderDocument`, `renderPage`: Rendering a tree, and a text.
-/

namespace WikiSync

/-- A document as a wiki page. -/
structure RenderedPage where
  title : String
  frontMatter : FrontMatter
  /-- The page in storage format. -/
  markup : String
  /-- The files that go with the page, by file name. -/
  attachments : SortedMap Attachment

/-- Why a document cannot be rendered. -/
inductive PageError where
  | diagrams (e : Diagram.Unavailable)
  | convert (e : ConvertError)
deriving DecidableEq, Repr

/-- The text of an error. -/
def PageError.message : PageError → String
  | diagrams e => e.message
  | convert e => e.message

/-- Converts a tree, reporting nodes without a renderer. -/
def Converter.page (c : Converter) (document : Document) (ctx : Context) :
    Script Diagram.Backend (Except PageError RenderedPage) := do
  let r := c.convert ctx document.tree
  Script.logAll (r.reported.map noRenderer)
  match r.outcome with
  | .ok markup => pure (.ok ⟨document.title, ctx.frontMatter, markup, ctx.attachments⟩)
  | .error e => pure (.error (.convert e))

/-- Renders a document in a context, with the diagram backend of a name. -/
def renderDocument (backend : String) (document : Document) (ctx : Context) :
    Script Diagram.Backend (Except PageError RenderedPage) := do
  match ← Diagram.attach backend document.tree ctx with
  | .ok ctx => Converter.storage.page document ctx
  | .error e => pure (.error (.diagrams e))

/-- Renders a Markdown text, which may come from a file. -/
def renderPage (backend : String) (options : ConvertOptions) (text : String)
    (path : Option String) : Script Diagram.Backend (Except PageError RenderedPage) :=
  let document := Document.read text path
  renderDocument backend document (.ofFrontMatter options document.frontMatter)

end WikiSync
