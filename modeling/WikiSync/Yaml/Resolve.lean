import WikiSync.Yaml.Node.Reader
import WikiSync.Yaml.Scalar

/-!
# Resolving YAML Documents

The value of a tree: scalars resolved, aliases replaced by what they refer to.
Collections nest 128 deep at most, aliases included, and a document may follow
aliases a hundred times for each mark in it. The keys of a mapping differ.

A tag that starts with an exclamation mark stays on the value. It needs a
name.

## Main definitions

* `Anchors`: The nodes that aliases refer to.
* `resolve?`: The value of a node.
* `read?`: The value of a text.
-/

namespace WikiSync.Yaml

/-- How deep collections nest at most. -/
def maxDepth : Nat := 128

/-- How many aliases a document may follow for each of its marks. -/
def aliasesPerMark : Nat := 100

/-- The nodes that aliases refer to. -/
abbrev Anchors := List (Nat × Node Nat)

/-- The name in a tag of the document's own. -/
def ownTag? (tag : Option Bytes) : Option String :=
  match tag with
  | some (33 :: name) => Text.ofUtf8? name
  | _ => none

/-- Puts a tag of the document's own on a value. -/
def withTag? (tag : Option Bytes) (v : Value) : Option Value :=
  match ownTag? tag with
  | some "" => none
  | some name => some (.tagged name v)
  | none => some v

/-- The value of a scalar. -/
def scalarValue? (tag : Option Bytes) (plain : Bool) (text : String) : Option Value :=
  let own := (ownTag? tag).isSome
  match tag with
  | some tag =>
    if own then if plain then plainValue? text else some (.string text)
    else taggedScalar? tag text
  | none => if plain then plainValue? text else some (.string text)

/-- A mapping, none if two of its keys are equal. -/
def mapping? (entries : List (Value × Value)) : Option Value :=
  let rec distinct : List (Value × Value) → Bool
    | [] => true
    | e :: es => !(es.any fun f => e.1.same f.1) && distinct es
  if distinct entries then some (.mapping entries) else none

/-- What may fail, and counts the aliases that can still be followed. -/
abbrev Following := StateT Nat Option

/-- What an alias refers to; any other node is itself. -/
def follow (anchors : Anchors) (n : Node Nat) : Following (Node Nat) := do
  match n with
  | .alias target =>
    match ← get with
    | 0 => failure
    | left + 1 =>
      set left
      match anchors.lookup target with
      | some n => pure n
      | none => failure
  | n => pure n

/-- The value of a node inside which collections nest `depth` deep at most. -/
def resolve (anchors : Anchors) : Nat → Node Nat → Following Value
  | depth, n => do
    match ← follow anchors n, depth with
    | .scalar _ tag plain text, _ =>
      let v ← scalarValue? tag plain text
      withTag? tag v
    | .sequence _ tag items, depth + 1 =>
      let items ← items.mapM (resolve anchors depth)
      withTag? tag (.sequence items)
    | .mapping _ tag entries, depth + 1 =>
      let entries ← entries.mapM fun (k, v) => do
        let k ← resolve anchors depth k
        let v ← resolve anchors depth v
        pure (k, v)
      let v ← mapping? entries
      withTag? tag v
    | _, _ => failure

/-- The value of a tree. -/
def resolve? (n : Node String) : Option Value := do
  let (n, _) ← Node.number? [] n
  let (v, _) ← (resolve n.anchored.reverse maxDepth n).run (aliasesPerMark * n.events)
  some v

/-- The value of a text. -/
def read? (text : String) : Option Value :=
  (readDocument? text).bind resolve?

end WikiSync.Yaml
