import WikiSync.Diagram.Identity
import WikiSync.Document.Node

/-!
# Diagram Sources

The diagrams of a document: its code blocks in the diagram language, in
document order. Blocks that share a file name share an image, so only the
first of them counts.
-/

namespace WikiSync.Diagram

/-- The source of a diagram and the file name of its image. -/
structure Source where
  filename : String
  text : String
deriving DecidableEq, Repr

/-- The diagram that a node is. -/
def ofNode? : Node → Option Source
  | .code (some lang) value =>
    if lang = language then some ⟨filename value, value⟩ else none
  | _ => none

/-- Sources without those whose file name has come before. -/
def distinct (seen : List String) : List Source → List Source
  | [] => []
  | s :: rest =>
    if seen.contains s.filename then distinct seen rest
    else s :: distinct (s.filename :: seen) rest

/-- The diagrams of a document. -/
def sources (tree : Node) : List Source :=
  distinct [] (tree.walk.filterMap ofNode?)

end WikiSync.Diagram
