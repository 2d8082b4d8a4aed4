import WikiSync.Storage.Escape

/-!
# Macros

Wiki markup has macros for what plain elements cannot say. A macro has a
name, named parameters and a body, which is either markup or plain text. Plain
text stands in a CDATA section; where it holds the mark that ends a section,
it is cut into two sections inside that mark.

## Main definitions

* `Param`: A named parameter.
* `structuredMacro`: A macro with a markup body.
* `plainTextMacro`: A macro with a plain text body.
* `cdata`: Plain text as CDATA sections.
-/

namespace WikiSync.Storage

/-- A named parameter. -/
abbrev Param := String × String

/-- The markup of parameters. -/
def paramsMarkup (params : List Param) : String :=
  String.join (params.map fun (key, value) =>
    "<ac:parameter ac:name=\"" ++ escape key ++ "\">" ++ escape value ++ "</ac:parameter>")

/-- A macro with a markup body. Without a body and parameters it closes
itself. -/
def structuredMacro (name : String) (params : List Param) (body : Option String) : String :=
  let start := "<ac:structured-macro ac:name=\"" ++ escape name ++ "\""
  match params, body with
  | [], none => start ++ "/>"
  | _, _ =>
    let content := match body with
      | some body => "<ac:rich-text-body>" ++ body ++ "</ac:rich-text-body>"
      | none => ""
    start ++ ">" ++ paramsMarkup params ++ content ++ "</ac:structured-macro>"

/-- Text with each mark that ends a section cut in two. -/
def splitSectionEnds : List Char → List Char
  | ']' :: ']' :: '>' :: rest => "]]]]><![CDATA[>".toList ++ splitSectionEnds rest
  | c :: rest => c :: splitSectionEnds rest
  | [] => []

/-- Plain text as CDATA sections. -/
def cdata (text : String) : String :=
  "<![CDATA[" ++ String.ofList (splitSectionEnds text.toList) ++ "]]>"

/-- A macro with a plain text body. -/
def plainTextMacro (name : String) (params : List Param) (body : Option String) : String :=
  let content := match body with
    | some body => "<ac:plain-text-body>" ++ cdata body ++ "</ac:plain-text-body>"
    | none => ""
  "<ac:structured-macro ac:name=\"" ++ escape name ++ "\">" ++ paramsMarkup params ++ content ++
    "</ac:structured-macro>"

end WikiSync.Storage
