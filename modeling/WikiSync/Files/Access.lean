import WikiSync.Script
import WikiSync.Text.Hex

/-!
# File Access

What a computation may ask about files, and how text is read from them.

## Main definitions

* `FileRequest`, `Files`: The questions about files.
* `readText`: Reads a file that holds text.
-/

namespace WikiSync

/-- What a path leads to. -/
inductive FileKind where
  | file
  | directory
  /-- Something that is there but is neither, such as a named pipe. -/
  | other
deriving DecidableEq, Repr

/-- A question about files. -/
inductive FileRequest where
  /-- What a path leads to, if anything. A link that leads nowhere counts as nothing. -/
  | kind (path : String)
  /-- The names in a directory, in any order. -/
  | names (path : String)
  /-- The content of a file. -/
  | read (path : String)
deriving DecidableEq, Repr

/-- The answer to a question about files. Failures come with a reason. -/
abbrev FileRequest.Answer : FileRequest → Type
  | kind _ => Option FileKind
  | names _ => Except String (List String)
  | read _ => Except String Bytes

/-- The questions about files. -/
abbrev Files : Interface :=
  ⟨FileRequest, FileRequest.Answer⟩

/-- The text of a file. -/
def readText (path : String) : Script Files (Except String String) := do
  match ← Script.question (I := Files) (.read path) with
  | .error reason => pure (.error reason)
  | .ok bytes =>
    match Text.ofUtf8? bytes with
    | some text => pure (.ok text)
    | none => pure (.error Text.notUtf8)

end WikiSync
