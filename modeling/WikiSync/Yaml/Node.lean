import WikiSync.Text.Hex

/-!
# YAML Nodes

What the tokens of a document describe: a tree of scalars, sequences and
mappings. A node may have an anchor, by which an alias refers to it, and a tag
that says what it is.

Aliases first refer to anchors by name. `Node.number?` replaces names by
numbers: an anchor's number is the count of different names that have been
anchored before it.

## Main definitions

* `Node`: The type, with the way to refer to an anchor as its parameter.
* `Node.number?`: Replaces names by numbers.
* `Node.anchored`: The nodes that have an anchor.
* `Node.events`: The number of marks that would write a node down.
-/

namespace WikiSync.Yaml

/-- A node. -/
inductive Node (Ref : Type) where
  | alias (target : Ref)
  | scalar (anchor : Option Ref) (tag : Option Bytes) (plain : Bool) (text : String)
  | sequence (anchor : Option Ref) (tag : Option Bytes) (items : List (Node Ref))
  | mapping (anchor : Option Ref) (tag : Option Bytes) (entries : List (Node Ref × Node Ref))

namespace Node

/-- A scalar that is left out. -/
def blank {Ref : Type} : Node Ref :=
  .scalar none none true ""

/-- The numbers of the names that have been anchored so far. -/
abbrev Numbering := List (String × Nat)

/-- Gives an anchor its number. -/
def numberAnchor (anchor : Option String) (known : Numbering) : Option Nat × Numbering :=
  match anchor with
  | none => (none, known)
  | some name =>
    let n := known.length
    (some n, (name, n) :: known.filter fun entry => entry.1 != name)

mutual

/-- Replaces the names of anchors by numbers, none if an alias refers to a
name that has not been anchored before it. -/
def number? (known : Numbering) : Node String → Option (Node Nat × Numbering)
  | .alias name => (known.lookup name).map fun n => (.alias n, known)
  | .scalar anchor tag plain text =>
    let (anchor, known) := numberAnchor anchor known
    some (.scalar anchor tag plain text, known)
  | .sequence anchor tag items => do
    let (anchor, known) := numberAnchor anchor known
    let (items, known) ← numberItems? known items
    some (.sequence anchor tag items, known)
  | .mapping anchor tag entries => do
    let (anchor, known) := numberAnchor anchor known
    let (entries, known) ← numberEntries? known entries
    some (.mapping anchor tag entries, known)

/-- Replaces the names in the items of a sequence. -/
def numberItems? (known : Numbering) :
    List (Node String) → Option (List (Node Nat) × Numbering)
  | [] => some ([], known)
  | n :: ns => do
    let (n, known) ← number? known n
    let (ns, known) ← numberItems? known ns
    some (n :: ns, known)

/-- Replaces the names in the entries of a mapping. -/
def numberEntries? (known : Numbering) :
    List (Node String × Node String) → Option (List (Node Nat × Node Nat) × Numbering)
  | [] => some ([], known)
  | e :: es => do
    let (e, known) ← numberEntry? known e
    let (es, known) ← numberEntries? known es
    some (e :: es, known)

/-- Replaces the names in an entry of a mapping. -/
def numberEntry? (known : Numbering) :
    Node String × Node String → Option ((Node Nat × Node Nat) × Numbering)
  | (k, v) => do
    let (k, known) ← number? known k
    let (v, known) ← number? known v
    some ((k, v), known)

end

mutual

/-- The nodes below a node, itself included, that have an anchor, with the
anchors, in document order. -/
def anchored {Ref : Type} : Node Ref → List (Ref × Node Ref)
  | .alias _ => []
  | .scalar anchor tag plain text =>
    anchor.toList.map fun a => (a, .scalar anchor tag plain text)
  | .sequence anchor tag items =>
    (anchor.toList.map fun a => (a, .sequence anchor tag items)) ++ anchoredItems items
  | .mapping anchor tag entries =>
    (anchor.toList.map fun a => (a, .mapping anchor tag entries)) ++ anchoredEntries entries

/-- The anchored nodes in the items of a sequence. -/
def anchoredItems {Ref : Type} : List (Node Ref) → List (Ref × Node Ref)
  | [] => []
  | n :: ns => anchored n ++ anchoredItems ns

/-- The anchored nodes in the entries of a mapping. -/
def anchoredEntries {Ref : Type} : List (Node Ref × Node Ref) → List (Ref × Node Ref)
  | [] => []
  | e :: es => anchoredEntry e ++ anchoredEntries es

/-- The anchored nodes in an entry of a mapping. -/
def anchoredEntry {Ref : Type} : Node Ref × Node Ref → List (Ref × Node Ref)
  | (k, v) => anchored k ++ anchored v

end

mutual

/-- The number of marks that would write a node down: one for a scalar or an
alias, a start and an end for a collection. -/
def events {Ref : Type} : Node Ref → Nat
  | .alias _ | .scalar _ _ _ _ => 1
  | .sequence _ _ items => 2 + eventsItems items
  | .mapping _ _ entries => 2 + eventsEntries entries

/-- The number of marks for the items of a sequence. -/
def eventsItems {Ref : Type} : List (Node Ref) → Nat
  | [] => 0
  | n :: ns => events n + eventsItems ns

/-- The number of marks for the entries of a mapping. -/
def eventsEntries {Ref : Type} : List (Node Ref × Node Ref) → Nat
  | [] => 0
  | e :: es => eventsEntry e + eventsEntries es

/-- The number of marks for an entry of a mapping. -/
def eventsEntry {Ref : Type} : Node Ref × Node Ref → Nat
  | (k, v) => events k + events v

end

end Node

end WikiSync.Yaml
