import WikiSync.Proofs.Document.Diagrams

/-!
# Where Nodes Stand

Which nodes of a tree the conversion comes upon, by where they stand. A table does
not convert its rows, and it does not convert their cells: it goes on with what is
in the cells. A task list passes over what is no item, with everything below it.
Whatever else there is in a tree is converted.

What stands in a table need not be a row, and it is taken for one all the same. So
a table that stands in a table is no table to the conversion. It is a row there, or
a cell, and nothing in it is passed over on its own account. The same goes for a
task list. That is why a place is more than a parent: `role` goes from the root down
and says of each node what it is taken for, and `role_ne_content_iff` says the same
in terms of the tables and task lists that a node stands in.

`shown_eq_reached` is the main statement. On trees of any shape, the diagrams that
the conversion comes upon are those that stand as content, in document order.

## Main definitions

* `Node.placesIn`, `Node.places`: A walk that remembers where it is.
* `Node.Role`, `Node.role`: What a node is taken for.
* `Node.PassedOver`: Rows, cells, and what is below the other children of task lists.
* `Node.shown`: The diagrams that stand as content.

## Theorems

* `Node.map_snd_placesIn`: The places of a tree are those of its walk.
* `Node.role_ne_content_iff`: What is passed over.
* `Node.shown_eq_reached`: What stands as content is what is converted.
-/

namespace WikiSync.Node

/-! ### Places -/

/-- A node and everything below it, in document order, each with the nodes that it
stands in, the nearest first. The node itself stands in `above`. -/
def placesIn (above : List Node) (n : Node) : List (List Node × Node) :=
  (above, n) :: n.children.attach.flatMap fun ⟨c, _⟩ => c.placesIn (n :: above)
termination_by sizeOf n
decreasing_by exact sizeOf_lt_of_mem_children ‹_›

/-- The nodes of a tree with their places. -/
def places (n : Node) : List (List Node × Node) :=
  n.placesIn []

theorem placesIn_eq (above : List Node) (n : Node) :
    n.placesIn above = (above, n) :: n.children.flatMap (placesIn (n :: above)) := by
  rw [placesIn, List.flatMap_subtype]
  · rw [List.unattach_attach]
  · exact fun c hc => rfl

/-- The places of a tree are those of its walk. -/
theorem map_snd_placesIn (n : Node) (above : List Node) :
    (n.placesIn above).map (·.2) = n.walk := by
  induction n using size_induction generalizing above with
  | step n ih =>
  rw [placesIn_eq, walk_eq, List.map_cons, List.map_flatMap]
  exact congrArg (n :: ·) (List.flatMap_congr fun c hc => ih c (size_lt_of_mem hc) _)

/-! ### Roles -/

/-- What a node is taken for when a tree is converted. -/
inductive Role where
  /-- It is converted, by the renderer of its kind or as what a task shows. -/
  | content
  /-- Its children are cells. -/
  | row
  /-- Its children are content. -/
  | cell
  /-- It is passed over, and so is everything below it. -/
  | leftOut
deriving DecidableEq

/-- Whether a node is a list with a check box on any of its items. -/
def isTaskList : Node → Bool
  | .list _ _ cs => cs.any Emit.isTask
  | _ => false

/-- What a child is taken for, from what its parent is taken for. -/
def Role.below (r : Role) (parent child : Node) : Role :=
  match r with
  | content =>
    if parent.kind = .table then row
    else if parent.isTaskList ∧ child.kind ≠ .listItem then leftOut
    else content
  | row => cell
  | cell => content
  | leftOut => leftOut

/-- What a node is taken for, from the nodes that it stands in. -/
def role : List Node → Node → Role
  | [], _ => .content
  | parent :: above, n => (role above parent).below parent n

/-- The nodes that are passed over, if those tables and task lists count that `counts`
holds of: what stands in a table, what stands in that, and in a task list whatever is
no item, with everything below it. -/
inductive PassedOver (counts : List Node → Node → Prop) : List Node → Node → Prop
  | row {above : List Node} {table n : Node} (htable : table.kind = .table)
      (hcounts : counts above table) : PassedOver counts (table :: above) n
  | cell {above : List Node} {table r n : Node} (htable : table.kind = .table)
      (hcounts : counts above table) : PassedOver counts (r :: table :: above) n
  | inside {above above' : List Node} {tasks other n : Node}
      (hin : (other :: tasks :: above') <:+ (n :: above)) (htasks : tasks.isTaskList)
      (hother : other.kind ≠ .listItem) (hcounts : counts above' tasks) :
      PassedOver counts above n

/-- A node is converted where it stands. -/
def AsContent (above : List Node) (n : Node) : Prop :=
  role above n = .content

section Role

variable {above : List Node} {parent n : Node}

theorem role_row (hparent : role above parent = .content) (htable : parent.kind = .table) :
    role (parent :: above) n = .row := by
  rw [role, hparent]
  exact if_pos htable

theorem role_cell (hparent : role above parent = .row) : role (parent :: above) n = .cell := by
  rw [role, hparent]
  rfl

theorem role_of_cell (hparent : role above parent = .cell) :
    role (parent :: above) n = .content := by
  rw [role, hparent]
  rfl

theorem role_of_leftOut (hparent : role above parent = .leftOut) :
    role (parent :: above) n = .leftOut := by
  rw [role, hparent]
  rfl

theorem isTaskList_ne_table (htasks : parent.isTaskList) : parent.kind ≠ .table := by
  cases parent
  case list => exact Kind.noConfusion
  all_goals cases htasks

theorem role_leftOut (hparent : role above parent = .content) (htasks : parent.isTaskList)
    (hother : n.kind ≠ .listItem) : role (parent :: above) n = .leftOut := by
  rw [role, hparent]
  exact (if_neg (isTaskList_ne_table htasks)).trans (if_pos ⟨htasks, hother⟩)

theorem role_content (hparent : role above parent = .content) (htable : parent.kind ≠ .table)
    (hitem : parent.isTaskList → n.kind = .listItem) : role (parent :: above) n = .content := by
  rw [role, hparent]
  exact (if_neg htable).trans (if_neg fun h => h.2 (hitem h.1))

/-- Only a table makes rows. -/
theorem exists_table_of_role (h : role above n = .row) :
    ∃ table above', above = table :: above' ∧ table.kind = .table ∧ AsContent above' table := by
  rcases above with _ | ⟨parent, above⟩
  · cases h
  · rw [role] at h
    rcases hparent : role above parent with _ | _ | _ | _
    · rw [hparent, Role.below] at h
      split at h
      · next htable => exact ⟨parent, above, rfl, htable, hparent⟩
      · split at h
        · cases h
        · cases h
    all_goals
      rw [hparent] at h
      cases h

/-- What is left out stands in something that a task list has no place for. -/
theorem exists_tasks_of_role (h : role above n = .leftOut) :
    ∃ other tasks above', (other :: tasks :: above') <:+ (n :: above) ∧ tasks.isTaskList ∧
      other.kind ≠ .listItem ∧ AsContent above' tasks := by
  -- Up from the node, to the first one that is left out while its parent is not.
  induction above generalizing n with
  | nil => cases h
  | cons parent above ih =>
    rw [role] at h
    rcases hparent : role above parent with _ | _ | _ | _
    · rw [hparent, Role.below] at h
      split at h
      · cases h
      · split at h
        · next hother =>
          exact ⟨n, parent, above, List.suffix_rfl, hother.1, hother.2, hparent⟩
        · cases h
    · rw [hparent] at h
      cases h
    · rw [hparent] at h
      cases h
    · rcases ih hparent with ⟨other, tasks, above', hin, hrest⟩
      exact ⟨other, tasks, above', hin.trans (List.suffix_cons _ _), hrest⟩

/-- What is below something that is left out is left out. -/
theorem role_of_suffix {other : Node} {above' : List Node} (hother : role above' other = .leftOut)
    (hin : (other :: above') <:+ (n :: above)) : role above n = .leftOut := by
  induction above generalizing n with
  | nil =>
    rcases List.suffix_cons_iff.1 hin with heq | hin
    · cases heq
      exact hother
    · cases List.suffix_nil.1 hin
  | cons parent above ih =>
    rcases List.suffix_cons_iff.1 hin with heq | hin
    · cases heq
      exact hother
    · exact role_of_leftOut (ih hin)

end Role

/-- What is passed over: the rows and cells of tables that are converted, and what is
below the other children of task lists that are. -/
theorem role_ne_content_iff (above : List Node) (n : Node) :
    role above n ≠ .content ↔ PassedOver AsContent above n := by
  constructor
  · intro h
    rcases hrole : role above n with _ | _ | _ | _
    · exact absurd hrole h
    · rcases exists_table_of_role hrole with ⟨table, above', rfl, htable, hcontent⟩
      exact .row htable hcontent
    · -- What stands in a row is a cell, and a row stands in a table.
      rcases above with _ | ⟨parent, above⟩
      · cases hrole
      · rcases hparent : role above parent with _ | _ | _ | _
        · rw [role, hparent, Role.below] at hrole
          split at hrole
          · cases hrole
          · split at hrole
            · cases hrole
            · cases hrole
        · rcases exists_table_of_role hparent with ⟨table, above', rfl, htable, hcontent⟩
          exact .cell htable hcontent
        · cases hrole.symm.trans (role_of_cell hparent)
        · cases hrole.symm.trans (role_of_leftOut hparent)
    · rcases exists_tasks_of_role hrole with ⟨other, tasks, above', hin, htasks, hother, hcontent⟩
      exact .inside hin htasks hother hcontent
  · intro h hcontent
    cases h with
    | row htable hcounts => cases hcontent.symm.trans (role_row hcounts htable)
    | cell htable hcounts => cases hcontent.symm.trans (role_cell (role_row hcounts htable))
    | inside hin htasks hother hcounts =>
      cases hcontent.symm.trans (role_of_suffix (role_leftOut hcounts htasks hother) hin)

/-! ### Diagrams that stand as content -/

/-- The source of the diagram that a node is, if it stands as content. -/
def shown? (place : List Node × Node) : Option String :=
  if role place.1 place.2 = .content then place.2.diagram? else none

/-- The sources of the diagrams that stand as content, in document order. -/
def shown (n : Node) : List String :=
  n.places.filterMap shown?

theorem filterMap_placesIn (above : List Node) (n : Node) :
    (n.placesIn above).filterMap shown? =
      (shown? (above, n)).toList ++
        n.children.flatMap fun c => (c.placesIn (n :: above)).filterMap shown? := by
  rw [placesIn_eq, List.filterMap_cons, List.filterMap_flatMap]
  rcases shown? (above, n) with _ | source
  · rfl
  · rfl

/-- Something that does not stand as content shows only what is below it. -/
theorem filterMap_placesIn_of_ne {above : List Node} {n : Node} (h : role above n ≠ .content) :
    (n.placesIn above).filterMap shown? =
      n.children.flatMap fun c => (c.placesIn (n :: above)).filterMap shown? := by
  have hnone : shown? (above, n) = none := if_neg h
  rw [filterMap_placesIn, hnone]
  rfl

/-- What is left out shows nothing. -/
theorem filterMap_placesIn_leftOut (n : Node) (above : List Node) (h : role above n = .leftOut) :
    (n.placesIn above).filterMap shown? = [] := by
  induction n using size_induction generalizing above with
  | step n ih =>
  rw [filterMap_placesIn_of_ne (by rw [h]; exact Role.noConfusion)]
  exact List.flatMap_eq_nil_iff.2 fun c hc => ih c (size_lt_of_mem hc) _ (role_of_leftOut h)

theorem reached_text (value : String) : (Node.text value).reached = [] :=
  reached_eq _

theorem reached_paragraph (inline : List Node) :
    (Node.paragraph inline).reached = inline.flatMap reached :=
  reached_eq _

theorem reached_listItem (checked : Option Bool) (cs : List Node) :
    (Node.listItem checked cs).reached = cs.flatMap reached :=
  reached_eq _

/-- The diagrams below a node that stands as content are those of what is converted
on behalf of it. -/
theorem flatMap_children_placesIn {above : List Node} {n : Node} (h : role above n = .content)
    (ih : ∀ m, m.size < n.size → ∀ above, role above m = .content →
      (m.placesIn above).filterMap shown? = m.reached) :
    (n.children.flatMap fun c => (c.placesIn (n :: above)).filterMap shown?) =
      n.converted.flatMap reached := by
  have hall : n.kind ≠ .table → n.isTaskList = false →
      (n.children.flatMap fun c => (c.placesIn (n :: above)).filterMap shown?) =
        n.children.flatMap reached := fun htable htasks =>
    List.flatMap_congr fun c hc => ih c (size_lt_of_mem hc) _
      (role_content h htable fun htrue => by rw [htasks] at htrue; cases htrue)
  cases n with
  | list ordered start cs =>
    rw [converted_list]
    by_cases htasks : cs.any Emit.isTask = true
    · rw [if_pos htasks, List.flatMap_assoc]
      refine List.flatMap_congr fun c hc => ?_
      by_cases hitem : c.kind = .listItem
      · rw [ih c (size_lt_of_mem (n := .list ordered start cs) hc) _
          (role_content h Kind.noConfusion fun _ => hitem)]
        cases c
        case listItem checked content =>
          rw [reached_listItem]
          exact (flatMap_taskBody reached_paragraph content).symm
        all_goals cases hitem
      · -- What is no item is left out, and no task is made of it.
        rw [filterMap_placesIn_leftOut c _ (role_leftOut h htasks hitem)]
        cases c
        case listItem => exact absurd rfl hitem
        all_goals rfl
    · rw [if_neg htasks]
      exact hall Kind.noConfusion (Bool.eq_false_iff.2 htasks)
  | table align rows =>
    have hrow : ∀ r, role (.table align rows :: above) r = .row := fun r => role_row h rfl
    change (rows.flatMap _) = (rows.flatMap fun r => r.children.flatMap children).flatMap reached
    rw [List.flatMap_assoc]
    refine List.flatMap_congr fun r hr => ?_
    have hsmall := size_lt_of_mem (n := .table align rows) hr
    rw [filterMap_placesIn_of_ne (by rw [hrow]; exact Role.noConfusion), List.flatMap_assoc]
    refine List.flatMap_congr fun c hc => ?_
    have hcell : role (r :: .table align rows :: above) c = .cell := role_cell (hrow r)
    rw [filterMap_placesIn_of_ne (by rw [hcell]; exact Role.noConfusion)]
    refine List.flatMap_congr fun m hm => ih m ?_ _ (role_of_cell hcell)
    exact Nat.lt_trans (size_lt_of_mem hm) (Nat.lt_trans (size_lt_of_mem hc) hsmall)
  | blockquote cs =>
    rw [hall Kind.noConfusion rfl, converted_blockquote]
    rcases hcallout : Emit.callout? cs with _ | ⟨name, inner⟩
    · rfl
    · exact (flatMap_callout reached_paragraph reached_text hcallout).symm
  | _ => exact hall Kind.noConfusion rfl

/-- On trees of any shape, the conversion comes upon the diagrams that stand as
content, in document order. -/
theorem shown_eq_reached (n : Node) : n.shown = n.reached := by
  have hall : ∀ above, role above n = .content →
      (n.placesIn above).filterMap shown? = n.reached := by
    -- On size, since the conversion skips two levels in a table.
    induction n using size_induction with
    | step n ih =>
    intro above h
    have hhere : shown? (above, n) = n.diagram? := if_pos h
    rw [filterMap_placesIn, hhere, flatMap_children_placesIn h ih, ← reached_eq]
  exact hall [] rfl

/-- The diagrams that stand as content are diagrams of the tree. -/
theorem mem_diagrams_of_shown {n : Node} {source : String} (h : source ∈ n.shown) :
    source ∈ n.diagrams := by
  rcases List.mem_filterMap.1 h with ⟨place, hplace, hsource⟩
  unfold shown? at hsource
  split at hsource
  · have hwalk : place.2 ∈ n.walk :=
      map_snd_placesIn n [] ▸ List.mem_map.2 ⟨place, hplace, rfl⟩
    exact List.mem_filterMap.2 ⟨place.2, hwalk, hsource⟩
  · cases hsource

end WikiSync.Node
