import WikiSync.Text.Alphanumeric

/-!
# References to Variables

A setting may refer to environment variables. A reference starts with a dollar
sign and an open brace and ends with the brace that closes it. Text outside of
references stays as it is, other dollar signs too, and what a reference stands
for is not searched for references again.

A reference names a variable, which may be followed by `:-` and a text that
stands in for it while it is unset. The name and that text end at the first
closing brace. With more braces inside, the reference goes on after that, and
in the remainder every dollar sign counts: a name may follow it without
braces, and two of them stand for one.

## Main definitions

* `pieces`: The literals and references of a text.
* `expandReference`: What a reference stands for.
* `expand`: A text with its references replaced.
-/

namespace WikiSync

/-- The values of environment variables. -/
abbrev Variables := String → Option String

/-- What a text consists of. -/
inductive Piece where
  | literal (text : List Char)
  /-- A reference, from its dollar sign to its last brace. -/
  | reference (text : List Char)
deriving DecidableEq, Repr

/-- Splits before the first dollar sign that an open brace follows. -/
def spanLiteral : List Char → List Char × List Char
  | [] => ([], [])
  | '$' :: '{' :: rest => ([], '$' :: '{' :: rest)
  | c :: rest =>
    let (before, start) := spanLiteral rest
    (c :: before, start)

/-- Splits after the brace that closes the first open one, where `depth` braces
are open already. -/
def spanBraces? (depth : Nat) : List Char → Option (List Char × List Char)
  | [] => none
  | c :: rest =>
    let depth := if c = '{' then depth + 1 else if c = '}' then depth - 1 else depth
    if c = '}' ∧ depth = 0 then some ([c], rest)
    else (spanBraces? depth rest).map fun (text, rest) => (c :: text, rest)

/-- The pieces of a text. After a reference whose braces are never closed the
rest is literal. -/
def piecesOf : Nat → List Char → List Piece
  | 0, cs => [.literal cs]
  | fuel + 1, cs =>
    let (before, start) := spanLiteral cs
    match spanBraces? 0 start with
    | none => [.literal cs]
    | some (text, rest) => .literal before :: .reference text :: piecesOf fuel rest

/-- The literals and references of a text. -/
def pieces (cs : List Char) : List Piece :=
  piecesOf cs.length cs

/-- Splits at the first `:-`, which belongs to neither side. -/
def spanDefault : List Char → List Char × Option (List Char)
  | [] => ([], none)
  | ':' :: '-' :: rest => ([], some rest)
  | c :: rest =>
    let (before, default) := spanDefault rest
    (c :: before, default)

/-- The name between braces, and what stands in for an unset variable. There
is nothing to stand in without a name. -/
def nameAndDefault (inside : List Char) : List Char × Option (List Char) :=
  match spanDefault inside with
  | ([], _) => (inside, none)
  | split => split

/-- The value of a variable, or else what stands in for it. Fails with the name
of the variable. -/
def valueOf (vars : Variables) (name : List Char) (default : Option (List Char)) :
    Except String (List Char) :=
  match vars (String.ofList name), default with
  | some value, _ => .ok value.toList
  | none, some default => .ok default
  | none, none => .error (String.ofList name)

/-- A character of a name without braces. -/
def isNameChar (c : Char) : Bool :=
  Text.isAlphanumeric c || c == '_'

/-- Expands a text in which every dollar sign counts. -/
def expandDollars (vars : Variables) : Nat → List Char → Except String (List Char)
  | 0, cs => .ok cs
  | fuel + 1, cs =>
    match cs with
    | [] => .ok []
    | '$' :: '{' :: rest =>
      match rest.span (· != '}') with
      | (inside, _ :: rest) => do
        let (name, default) := nameAndDefault inside
        let value ← valueOf vars name default
        let rest ← expandDollars vars fuel rest
        .ok (value ++ rest)
      | (_, []) => do
        let rest ← expandDollars vars fuel rest
        .ok ('$' :: '{' :: rest)
    | '$' :: '$' :: rest => do
      let rest ← expandDollars vars fuel rest
      .ok ('$' :: rest)
    | '$' :: rest =>
      match rest.span isNameChar with
      | ([], rest) => do
        let rest ← expandDollars vars fuel rest
        .ok ('$' :: rest)
      | (name, rest) => do
        let value ← valueOf vars name none
        let rest ← expandDollars vars fuel rest
        .ok (value ++ rest)
    | c :: rest => do
      let rest ← expandDollars vars fuel rest
      .ok (c :: rest)

/-- What a reference stands for. -/
def expandReference (vars : Variables) (text : List Char) : Except String (List Char) :=
  expandDollars vars text.length text

/-- What a piece stands for. -/
def Piece.expand (vars : Variables) : Piece → Except String (List Char)
  | literal text => .ok text
  | reference text => expandReference vars text

/-- A text with its references replaced. Fails with the name of the first
variable that is unset. -/
def expand (vars : Variables) (s : String) : Except String String := do
  let texts ← (pieces s.toList).mapM (Piece.expand vars)
  .ok (String.ofList texts.flatten)

end WikiSync
