import WikiSync.Convert.Converter

/-!
# Plain Renderers

Renderers that know nothing of wiki markup. They stand in for the renderers of
storage format where only a part of a document is wanted, or where it is tried
out what a converter does.

## Main definitions

* `Renderer.plainText`, `Renderer.constant`, `Renderer.fail`: Nothing below is
  converted.
* `Renderer.wrap`, `Renderer.firstChild`, `Renderer.reverse`: All children, or
  the first one, or all of them backwards.
-/

namespace WikiSync.Renderer

/-- Renders a node as its literal text. -/
def plainText : Renderer := fun n _ _ => pure n.plainText

/-- Renders every node the same. -/
def constant (text : String) : Renderer := fun _ _ _ => pure text

/-- Refuses to render a node, as if it were a diagram without an image. -/
def fail (filename : String) : Renderer := fun _ _ _ => .fail (.missingDiagram filename)

/-- Renders a node as its children in parentheses, after a name. -/
def wrap (name : String) : Renderer := fun n ctx below => do
  let body ← Renderer.children n ctx below
  pure (name ++ "(" ++ body ++ ")")

/-- Renders a node as its first child. -/
def firstChild : Renderer := fun n _ below =>
  match h : n.children with
  | [] => pure ""
  | c :: _ => below.convert c (Node.size_lt_of_mem (h ▸ List.mem_cons_self))

/-- Renders a node as its children, the last one first. -/
def reverse : Renderer := fun n _ below =>
  below.convertAll n.children.reverse fun _ hm => Node.size_lt_of_mem (List.mem_reverse.1 hm)

end WikiSync.Renderer
