import WikiSync.Convert.Emit.Code
import WikiSync.Convert.Emit.Inline
import WikiSync.Convert.Emit.List
import WikiSync.Convert.Emit.Quote
import WikiSync.Convert.Emit.Table

/-!
# The Default Converter

The converter to wiki storage format, with a renderer for every kind of node.
-/

namespace WikiSync

/-- The renderer of a kind in storage format. -/
def Emit.renderer : Kind → Renderer
  | .root => Renderer.children
  | .paragraph => Emit.wrapped "p"
  | .heading => Emit.heading
  | .text => Emit.text
  | .emphasis => Emit.wrapped "em"
  | .strong => Emit.wrapped "strong"
  | .strikethrough => Emit.wrapped "del"
  | .inlineCode => Emit.inlineCode
  | .code => Emit.code
  | .list => Emit.list
  | .listItem => Emit.wrapped "li"
  | .table => Emit.table
  | .tableRow => Emit.wrapped "tr"
  | .tableCell => Emit.wrapped "td"
  | .link => Emit.link
  | .image => Emit.image
  | .blockquote => Emit.quote
  | .break => Emit.hardBreak
  | .thematicBreak => Emit.thematicBreak
  | .html => Emit.html

/-- The converter to storage format. -/
def Converter.storage : Converter :=
  ⟨fun k => some (Emit.renderer k)⟩

end WikiSync
