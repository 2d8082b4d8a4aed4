import WikiSync.Data.SortedMap
import WikiSync.Document.FrontMatter
import WikiSync.Text.Hex

/-!
# Conversion Contexts

What is known about a document while its tree is converted: its front matter,
the attachments that go with the page, and two switches.

## Main definitions

* `Attachment`: A file that goes with a page.
* `Context`: The type.
* `Context.ofFrontMatter`, `Context.attach`: How a context comes about.
-/

namespace WikiSync

/-- A file that goes with a page. -/
structure Attachment where
  filename : String
  data : Bytes
  contentType : String
deriving DecidableEq, Repr

/-- The switches of a conversion. -/
structure ConvertOptions where
  /-- Whether diagram code is shown as images. -/
  diagrams : Bool
  /-- Whether nodes without a renderer are reported. -/
  verbose : Bool

/-- What is known about a document while its tree is converted. -/
structure Context where
  options : ConvertOptions
  frontMatter : FrontMatter
  /-- The attachments, by file name. -/
  attachments : SortedMap Attachment
  pageId : Option String

namespace Context

/-- A context without attachments. -/
def ofFrontMatter (options : ConvertOptions) (frontMatter : FrontMatter) : Context :=
  ⟨options, frontMatter, .empty, frontMatter.pageId⟩

/-- Adds an attachment, in place of one with the same file name. -/
def attach (ctx : Context) (a : Attachment) : Context :=
  { ctx with attachments := ctx.attachments.insert a.filename a }

/-- Whether there is an attachment with a file name. -/
def hasAttachment (ctx : Context) (filename : String) : Bool :=
  ctx.attachments.contains filename

end Context

end WikiSync
