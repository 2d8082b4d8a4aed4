import WikiSync.Document.Builder
import WikiSync.Document.FrontMatter
import WikiSync.Files.Path

/-!
# Reading Documents

A Markdown text as a tree, with its front matter and its title. The title is
the one in the front matter, or else the text of the first heading of depth 1
at top level, or else the name of the file.

## Main definitions

* `Document`: A document that was read.
* `Document.titleOf`: The rule for titles.
* `Document.read`: Reads a text.
-/

namespace WikiSync

/-- A document. -/
structure Document where
  frontMatter : FrontMatter
  tree : Node
  title : String

namespace Document

/-- The title where nothing else names a document. -/
def untitled : String := "Untitled"

/-- Whether a node is a heading of depth 1. -/
def isMainHeading : Node → Bool
  | .heading depth _ => depth == 1
  | _ => false

/-- The name that a file gives to its document. -/
def fileTitle? (path : Option String) : Option String :=
  (path.bind Path.stem?).filter (· != "")

/-- The title of a document. -/
def titleOf (frontMatter : FrontMatter) (tree : Node) (path : Option String) : String :=
  match frontMatter.title, tree.children.find? isMainHeading with
  | some title, _ => title
  | none, some heading => heading.plainText
  | none, none => (fileTitle? path).getD untitled

/-- Reads a Markdown text, which may come from a file. -/
def read (text : String) (path : Option String) : Document :=
  let (tree, metadata) := treeOfEvents (Markdown.readEvents text)
  let frontMatter := (metadata.map FrontMatter.ofYaml).getD .empty
  ⟨frontMatter, tree, titleOf frontMatter tree path⟩

end Document

end WikiSync
