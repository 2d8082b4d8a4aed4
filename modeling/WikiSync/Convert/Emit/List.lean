import WikiSync.Convert.Emit.Block

/-!
# Emitting Lists

A list with a check box on any of its items is a task list. A task that holds
a single paragraph shows its content without the paragraph. What is no item
has no place in a task list and is left out.
-/

namespace WikiSync.Emit

/-- Whether a node is an item with a check box. -/
def isTask : Node → Bool
  | .listItem (some _) _ => true
  | _ => false

/-- What a task shows: the content of its only paragraph, or its children. -/
def taskBody (children : List Node) : List Node :=
  match children with
  | [.paragraph inline] => inline
  | _ => children

/-- The markup of a task. -/
def taskMarkup (checked : Option Bool) (body : String) : String :=
  let status := if checked = some true then "complete" else "incomplete"
  "<ac:task>\n<ac:task-status>" ++ status ++ "</ac:task-status>\n<ac:task-body>" ++ body ++
    "</ac:task-body>\n</ac:task>"

/-- What a task shows is smaller than its item. -/
theorem size_lt_of_mem_taskBody {checked : Option Bool} {cs : List Node} {n : Node}
    (h : n ∈ taskBody cs) : n.size < (Node.listItem checked cs).size := by
  have hitem : (Node.listItem checked cs).size = 1 + Node.totalSize cs := Node.size_eq _
  unfold taskBody at h
  split at h
  · next inline =>
    have hpara : (Node.paragraph inline).size = 1 + Node.totalSize inline := Node.size_eq _
    have := Node.size_le_totalSize h
    rw [Node.totalSize_cons, Node.totalSize_nil] at hitem
    omega
  · have := Node.size_le_totalSize h
    omega

/-- The markup of the tasks of a list. -/
def tasks {bound : Nat} (below : Children bound) :
    (items : List Node) → (∀ n ∈ items, n.size < bound) → Emission String
  | [], _ => pure ""
  | .listItem checked cs :: items, h => do
    let body ← below.convertAll (taskBody cs) fun _ hm =>
      Nat.lt_trans (size_lt_of_mem_taskBody hm) (h _ List.mem_cons_self)
    let rest ← tasks below items fun m hm => h m (List.mem_cons_of_mem _ hm)
    pure (taskMarkup checked body ++ rest)
  | _ :: items, h => tasks below items fun m hm => h m (List.mem_cons_of_mem _ hm)

/-- Whether a list is numbered. -/
def isOrdered : Node → Bool
  | .list ordered _ _ => ordered
  | _ => false

/-- Renders a list. -/
def list : Renderer := fun n ctx below =>
  if n.children.any isTask then do
    let body ← tasks below n.children fun _ hm => Node.size_lt_of_mem hm
    pure (element "ac:task-list" body)
  else wrapped (if isOrdered n then "ol" else "ul") n ctx below

end WikiSync.Emit
