/-!
# Inline Content

What a paragraph, a heading or a table cell holds once its inline syntax has
been read: text, and the spans that give parts of the text a role. Spans nest.
-/

namespace WikiSync.Markdown

/-- A piece of inline content. -/
inductive Inline where
  | text (value : String)
  | code (value : String)
  | html (value : String)
  | softBreak
  | hardBreak
  | emphasis (content : List Inline)
  | strong (content : List Inline)
  | strikethrough (content : List Inline)
  /-- A link; `mail` marks a mail address between angle brackets. -/
  | link (mail : Bool) (url title : String) (content : List Inline)
  | image (url title : String) (content : List Inline)
deriving Repr

end WikiSync.Markdown
