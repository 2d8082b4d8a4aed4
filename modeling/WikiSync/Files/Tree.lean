import WikiSync.Data.SortedMap
import WikiSync.Files.Access
import WikiSync.Files.Path

/-!
# File Trees

Files and directories in memory, with a working directory. A path is followed
part by part, and each part but the last has to lead to a directory.

## Main definitions

* `FileTree`: The type.
* `FileTree.locate?`: Follows a path.
* `FileTree.machine`: The tree as a machine that answers questions.
-/

namespace WikiSync

/-- Files and directories in memory. -/
structure FileTree where
  /-- Files with their content, and directories, by absolute path. The root
  has the empty path. -/
  entries : SortedMap (Option Bytes)
  /-- The absolute path of the working directory. -/
  workingDirectory : String

namespace FileTree

/-- Only the root. -/
def empty : FileTree :=
  ⟨SortedMap.empty.insert "" none, ""⟩

/-- What follows one part of a path, from an absolute path on. -/
def step? (t : FileTree) (path part : String) : Option String :=
  match t.entries.get? path with
  | some none =>
    if part == ".." then some ("/".intercalate (path.splitOn "/").dropLast)
    else
      let path := path ++ "/" ++ part
      (t.entries.get? path).map fun _ => path
  | _ => none

/-- The directories above a path, and the path itself, each as an absolute
path. -/
def above (path : String) : List String :=
  ((Path.parts path).foldl (fun paths part => (paths.headD "" ++ "/" ++ part) :: paths) []).reverse

/-- Adds a directory and those above it. -/
def addDirectory (t : FileTree) (path : String) : FileTree :=
  { t with entries := (above path).foldl (fun m p => m.insert p none) t.entries }

/-- Adds a file and the directories above it. -/
def addFile (t : FileTree) (path : String) (content : Bytes) : FileTree :=
  match (above path).reverse with
  | p :: dirs =>
    let entries := dirs.foldr (fun d m => m.insert d none) t.entries
    { t with entries := entries.insert p (some content) }
  | [] => t

/-- The absolute path that a path leads to, if there is anything. A path that
ends with a slash has to lead to a directory. -/
def locate? (t : FileTree) (path : String) : Option String := do
  if path.isEmpty then none
  else
    let start := if Path.isAbsolute path then "" else t.workingDirectory
    let found ← (Path.parts path).foldlM t.step? start
    let isFile := (t.entries.get? found).join.isSome
    if isFile && (path.endsWith "/" || path.endsWith "/.") then none else some found

/-- What a path leads to. -/
def kind? (t : FileTree) (path : String) : Option FileKind := do
  let found ← t.locate? path
  match t.entries.get? found with
  | some (some _) => some .file
  | some none => some .directory
  | none => none

/-- The names in the directory with an absolute path. -/
def names (t : FileTree) (directory : String) : List String :=
  t.entries.keys.filterMap fun path =>
    let lead := (directory ++ "/").toList
    if lead.isPrefixOf path.toList && !(path.toList.drop lead.length).contains '/' then
      some (String.ofList (path.toList.drop lead.length))
    else none

/-- The reasons why something cannot be read. -/
def notFound : String := "No such file or directory (os error 2)"

@[inherit_doc notFound]
def isDirectory : String := "Is a directory (os error 21)"

@[inherit_doc notFound]
def notDirectory : String := "Not a directory (os error 20)"

/-- The answer to a question. -/
def answer (t : FileTree) : (q : FileRequest) → q.Answer
  | .kind path => t.kind? path
  | .names path =>
    match t.locate? path, t.kind? path with
    | some found, some .directory => .ok (t.names found)
    | _, some .file => .error notDirectory
    | _, _ => .error notFound
  | .read path =>
    match (t.locate? path).bind t.entries.get? with
    | some (some content) => .ok content
    | some none => .error isDirectory
    | none => .error notFound

/-- The tree as a machine. -/
def machine : Machine Files FileTree where
  answer q t := (t.answer q, t)

end FileTree

end WikiSync
