import WikiSync.Convert.Converter
import WikiSync.Diagram.Identity
import WikiSync.Storage.Macro
import WikiSync.Text.Lowercase

/-!
# Emitting Code

A code block becomes a code macro. A diagram becomes its image, which has to
be among the attachments; where diagrams are switched off, its source is
shown.

## Main definitions

* `languageAliases`, `macroLanguage`: The language of a code macro.
* `diagram`: Diagrams.
* `code`: The renderer.
-/

namespace WikiSync.Emit

open Storage (plainTextMacro)

/-- Languages that the code macro knows by another name. -/
def languageAliases : List (String × String) :=
  [("js", "javascript"), ("ts", "typescript"), ("py", "python"), ("rb", "ruby"), ("sh", "bash"),
    ("shell", "bash"), ("dockerfile", "bash"), ("yml", "yaml"), ("md", "text")]

/-- The language of a code macro: lower case, aliases resolved. -/
def macroLanguage (lang : String) : String :=
  let lang := Text.lowercase lang
  (languageAliases.lookup lang).getD lang

/-- The markup of the image of a diagram. -/
def diagramMarkup (filename : String) : String :=
  "<ac:image ac:align=\"center\" ac:layout=\"center\" ac:width=\"800\" ac:thumbnail=\"true\">" ++
    "<ri:attachment ri:filename=\"" ++ filename ++ "\"/></ac:image>"

/-- The markup of code in a language, if it has one. -/
def codeMarkup (lang value : String) : String :=
  if lang.isEmpty then plainTextMacro "code" [] (some value)
  else plainTextMacro "code" [("language", macroLanguage lang)] (some value)

/-- Renders a diagram. -/
def diagram (ctx : Context) (source : String) : Emission String :=
  if !ctx.options.diagrams then
    pure (plainTextMacro "code" [("language", "text"), ("title", "Mermaid")] (some source))
  else
    let filename := Diagram.filename source
    if ctx.hasAttachment filename then pure (diagramMarkup filename)
    else .fail (.missingDiagram filename)

/-- Renders a code block. -/
def code : Renderer := fun n ctx _ =>
  match n with
  | .code lang value =>
    let lang := lang.getD ""
    if lang = Diagram.language then diagram ctx value else pure (codeMarkup lang value)
  | _ => pure ""

end WikiSync.Emit
