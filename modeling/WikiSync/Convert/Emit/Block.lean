import WikiSync.Convert.Converter

/-!
# Emitting Blocks

The markup of paragraphs, headings, rules and raw HTML.
-/

namespace WikiSync.Emit

/-- Markup inside an element. -/
def element (tag body : String) : String :=
  "<" ++ tag ++ ">" ++ body ++ "</" ++ tag ++ ">"

/-- Renders a node as an element around its children. -/
def wrapped (tag : String) : Renderer := fun n ctx below => do
  let body ← Renderer.children n ctx below
  pure (element tag body)

/-- The element of a heading. There are six levels; a depth outside them
counts as the nearest. -/
def headingTag (depth : Nat) : String :=
  "h" ++ toString (min (max depth 1) 6)

/-- Renders a heading. -/
def heading : Renderer := fun n ctx below => do
  let body ← Renderer.children n ctx below
  match n with
  | .heading depth _ => pure (element (headingTag depth) body)
  | _ => pure body

/-- Renders a rule. -/
def thematicBreak : Renderer := fun _ _ _ => pure "<hr/>"

/-- Renders raw HTML as it is. -/
def html : Renderer := fun n _ _ =>
  match n with
  | .html value _ => pure value
  | _ => pure ""

end WikiSync.Emit
