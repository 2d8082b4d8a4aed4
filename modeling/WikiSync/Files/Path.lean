/-!
# Paths

File paths as text, with `/` between their parts. Empty parts and single dots
do not count. The name of a file splits into a stem and an extension at its
last dot, unless that dot is the first character.

## Main definitions

* `parts`: The parts of a path that count.
* `fileName?`, `stem?`, `extension?`: The name at its end, and its pieces.
* `join`: A path seen from a directory.
* `ancestors`: A directory and the ones above it.
-/

namespace WikiSync.Path

/-- The parts of a path, without empty ones and single dots. -/
def parts (path : String) : List String :=
  (path.splitOn "/").filter fun part => part != "" && part != "."

/-- Whether a path starts at the root. -/
def isAbsolute (path : String) : Bool :=
  path.startsWith "/"

/-- The name at the end of a path. A path that ends at its root or with a
double dot has none. -/
def fileName? (path : String) : Option String :=
  match (parts path).getLast? with
  | some ".." => none
  | name => name

/-- The stem and the extension of a file name. -/
def splitName (name : String) : String × Option String :=
  match (name.splitOn ".").reverse with
  | ext :: before@(_ :: _) =>
    let stem := ".".intercalate before.reverse
    if stem.isEmpty then (name, none) else (stem, some ext)
  | _ => (name, none)

/-- The name of a file without its extension. -/
def stem? (path : String) : Option String :=
  (fileName? path).map fun name => (splitName name).1

/-- What follows the last dot of a file name. -/
def extension? (path : String) : Option String :=
  (fileName? path).bind fun name => (splitName name).2

/-- A path seen from a directory; an absolute path stays as it is. -/
def join (dir path : String) : String :=
  if isAbsolute path then path
  else if dir.isEmpty || dir.endsWith "/" then dir ++ path
  else dir ++ "/" ++ path

/-- The absolute path with some parts, and the ones above it. The parts are
given from the last to the first. -/
def ancestorsOf : List String → List String
  | [] => ["/"]
  | part :: above => ("/" ++ "/".intercalate (part :: above).reverse) :: ancestorsOf above

/-- An absolute path and the ones above it, the nearest first. -/
def ancestors (path : String) : List String :=
  ancestorsOf (parts path).reverse

end WikiSync.Path
