import WikiSync.Convert.Context
import WikiSync.Convert.Emission

/-!
# Converters

A converter turns a document tree into markup. It is a table of renderers, one
for each kind of node at most. A renderer gets the node, the context, and a
way to convert other nodes. It may convert any node that is smaller than its
own, which is what makes every conversion end: the nodes below it, and nodes
it builds out of them.

A node whose kind has no renderer passes its children through, one after the
other, and is reported if the context asks for it.

## Main definitions

* `Node.size`: The number of nodes of a tree.
* `Children`: The way a renderer converts other nodes.
* `Converter`: The table.
* `Converter.convert`: The conversion.
-/

namespace WikiSync

/-- The number of nodes of a tree. -/
def Node.size (n : Node) : Nat :=
  1 + (n.children.attach.map fun ⟨c, _⟩ => c.size).foldr (· + ·) 0
termination_by sizeOf n
decreasing_by exact Node.sizeOf_lt_of_mem_children ‹_›

/-- The number of nodes in a list of trees. -/
def Node.totalSize (ns : List Node) : Nat :=
  (ns.map Node.size).foldr (· + ·) 0

@[simp]
theorem Node.totalSize_nil : Node.totalSize [] = 0 := rfl

@[simp]
theorem Node.totalSize_cons (n : Node) (ns : List Node) :
    Node.totalSize (n :: ns) = n.size + Node.totalSize ns := rfl

theorem Node.size_eq (n : Node) : n.size = 1 + Node.totalSize n.children := by
  rw [Node.size, Node.totalSize, List.map_attach_eq_pmap, List.pmap_eq_map]

theorem Node.size_le_totalSize {n : Node} {ns : List Node} (h : n ∈ ns) :
    n.size ≤ Node.totalSize ns := by
  induction ns with
  | nil => cases h
  | cons m ms ih =>
    rw [totalSize_cons]
    rcases List.mem_cons.1 h with rfl | h
    · omega
    · have := ih h
      omega

theorem Node.size_lt_of_mem {c n : Node} (h : c ∈ n.children) : c.size < n.size := by
  have := size_le_totalSize h
  rw [size_eq n]
  omega

/-- A way to convert the nodes that are smaller than a bound. -/
structure Children (bound : Nat) where
  convert : (n : Node) → n.size < bound → Emission String

namespace Children

/-- Converts nodes one after the other. -/
def convertAll {bound : Nat} (c : Children bound) :
    (ns : List Node) → (∀ n ∈ ns, n.size < bound) → Emission String
  | [], _ => pure ""
  | n :: ns, h => do
    let first ← c.convert n (h n List.mem_cons_self)
    let rest ← c.convertAll ns fun m hm => h m (List.mem_cons_of_mem _ hm)
    pure (first ++ rest)

/-- Converts the children of a node. -/
def convertBelow {bound : Nat} (c : Children bound) (n : Node) (h : n.size ≤ bound) :
    Emission String :=
  c.convertAll n.children fun _ hm => Nat.lt_of_lt_of_le (Node.size_lt_of_mem hm) h

end Children

/-- How nodes of a kind are converted. -/
abbrev Renderer := (n : Node) → Context → Children n.size → Emission String

/-- Renders a node as its children. -/
def Renderer.children : Renderer := fun n _ below =>
  below.convertBelow n (Nat.le_refl _)

/-- A table of renderers. -/
structure Converter where
  renderer? : Kind → Option Renderer

namespace Converter

/-- No renderers. -/
def empty : Converter :=
  ⟨fun _ => none⟩

/-- Sets the renderer of a kind. -/
def register (c : Converter) (k : Kind) (r : Renderer) : Converter :=
  ⟨fun k' => if k' = k then some r else c.renderer? k'⟩

/-- Whether a kind has a renderer. -/
def handles (c : Converter) (k : Kind) : Bool :=
  (c.renderer? k).isSome

/-- Converts a tree. -/
def convert (c : Converter) (ctx : Context) (n : Node) : Emission String :=
  let below : Children n.size := ⟨fun m _ => c.convert ctx m⟩
  match c.renderer? n.kind with
  | some r => r n ctx below
  | none => do
    if ctx.options.verbose then Emission.report n.kind
    Renderer.children n ctx below
termination_by n.size

end Converter

end WikiSync
