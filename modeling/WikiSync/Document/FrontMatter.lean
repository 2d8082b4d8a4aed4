import WikiSync.Text.Blank
import WikiSync.Yaml.Resolve

/-!
# Front Matter

What a document says about itself in its metadata block: a title, the page it
belongs to, and labels. The block is YAML. One that is ill-formed, or is not a
mapping, says nothing.

## Main definitions

* `FrontMatter`: The type.
* `FrontMatter.ofYaml`: Reads a metadata block.
-/

namespace WikiSync

/-- What a document says about itself. -/
structure FrontMatter where
  title : Option String
  pageId : Option String
  labels : List String
deriving DecidableEq, Repr

namespace FrontMatter

/-- A document that says nothing about itself. -/
def empty : FrontMatter :=
  ⟨none, none, []⟩

/-- The text of a scalar. Numbers count, as page ids are often written without
quotes; blank texts do not. -/
def scalarText? : Yaml.Value → Option String
  | .string text => if Text.isBlank text then none else some text
  | .integer n => some (toString n)
  | .real x => some x.text
  | _ => none

/-- The texts in a sequence. -/
def texts (v : Yaml.Value) : List String :=
  match v.untagged with
  | .sequence items => items.filterMap scalarText?
  | _ => []

/-- What a value says about a document. -/
def ofValue (v : Yaml.Value) : FrontMatter where
  title := (v.get? "title").bind scalarText?
  pageId := (v.get? "confluence-page-id").bind scalarText?
  labels := ((v.get? "labels").map texts).getD []

/-- Reads a metadata block. -/
def ofYaml (source : String) : FrontMatter :=
  match Yaml.read? source with
  | some v => ofValue v
  | none => empty

end FrontMatter

end WikiSync
