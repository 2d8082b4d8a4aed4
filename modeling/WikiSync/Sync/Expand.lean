import WikiSync.Files.Access
import WikiSync.Files.Path

/-!
# Expanding Paths

The documents that paths stand for. A directory stands for the Markdown files
directly in it, sorted by name; no path at all stands for the working
directory. Any other file counts only if it is Markdown. A path that leads
neither to a file nor to a directory is reported, whether or not anything is
there.

## Main definitions

* `isMarkdown`: Whether a path names a Markdown file.
* `expandPaths`: The documents of paths.
-/

namespace WikiSync

/-- Whether a path names a Markdown file. -/
def isMarkdown (path : String) : Bool :=
  Path.extension? path == some "md"

/-- Keeps the paths that lead to files. -/
def onlyFiles : List String → Script Files (List String)
  | [] => pure []
  | path :: rest => do
    let kind ← Script.question (I := Files) (.kind path)
    let more ← onlyFiles rest
    pure (if kind = some .file then path :: more else more)

/-- The Markdown files directly in a directory. -/
def markdownIn (directory : String) : Script Files (List String) := do
  match ← Script.question (I := Files) (.names directory) with
  | .error reason =>
    Script.log ⟨.warn, "Failed to read directory " ++ directory ++ ": " ++ reason, []⟩
    pure []
  | .ok names =>
    let names := names.mergeSort fun a b => a ≤ b
    onlyFiles ((names.map (Path.join directory)).filter isMarkdown)

/-- The documents that one path stands for. -/
def expandPath (path : String) : Script Files (List String) := do
  match ← Script.question (I := Files) (.kind path) with
  | some .directory => markdownIn path
  | some .file => pure (if isMarkdown path then [path] else [])
  | some .other | none =>
    Script.log ⟨.warn, "File not found: " ++ path, []⟩
    pure []

/-- The documents that paths stand for. -/
def expandAll : List String → Script Files (List String)
  | [] => pure []
  | path :: rest => do
    let first ← expandPath path
    let more ← expandAll rest
    pure (first ++ more)

/-- The documents that the paths of a command stand for. -/
def expandPaths (paths : List String) : Script Files (List String) :=
  if paths.isEmpty then markdownIn "." else expandAll paths

end WikiSync
