import WikiSync.Proofs.Convert.Equations
import WikiSync.Proofs.Script.Asks

/-!
# Recipes

What a renderer does, apart from how nodes are converted. A recipe asks for the
conversion of one node, goes on with the markup or the failure it is told, and
ends with markup or a failure of its own. It can convert nodes in any order, any
number of times, and it can go on after a failure. It does not see what is
reported on the way, and it reports nothing itself.

So it does not matter to a recipe who converts the nodes. If two ways to convert
them agree on those that it may ask for, it makes the same of both, and if they
differ in what they report only, what is made differs in that only (`make_view`).
For emissions that depend on a way to convert nodes, `ConvertsOnly` says that
there is a recipe for them. It is closed under what renderers are written with.

## Main definitions

* `Recipe`: A script that asks for conversions.
* `Recipe.make`: What a recipe makes, given a way to convert nodes.
* `Emission.view`: Another view on what an emission reports.
* `ConvertsOnly`: There is a recipe that asks for certain nodes only.

## Theorems

* `Recipe.make_bind`: Sequencing.
* `Recipe.make_view`: Another view on what is reported.
* `ConvertsOnly.bind`, `convertsOnly_concat`: What renderers are written with.
-/

namespace WikiSync

/-- Another view on what an emission reports. -/
def Emission.view {α : Type} (g : List Kind → List Kind) (m : Emission α) : Emission α :=
  ⟨g m.reported, m.outcome⟩

/-- What was reported before does not get in the way of what comes next. -/
theorem Emission.view_bind {α β : Type} (before : List Kind) (m : Emission α)
    (f : α → Emission β) :
    m.view (before ++ ·) >>= f = (m >>= f).view (before ++ ·) := by
  change (m.view (before ++ ·)).bind f = (m.bind f).view (before ++ ·)
  rcases m with ⟨reported, e | a⟩
  · rfl
  · simp only [bind, view, List.append_assoc]

/-- The conversion of nodes as an environment. -/
abbrev Conversions : Interface :=
  ⟨Node, fun _ => Except ConvertError String⟩

/-- A computation that converts nodes and sees what they come to. -/
abbrev Recipe (α : Type) := Script Conversions (Except ConvertError α)

namespace Recipe

variable {α β : Type} {F F' : Node → Emission String} {P : Node → Prop}

/-- What a recipe makes where nodes are converted by `F`. -/
def make (F : Node → Emission String) : Recipe α → Emission α
  | .done outcome => ⟨[], outcome⟩
  | .note _ next => make F next
  | .ask n next => (make F (next (F n).outcome)).view ((F n).reported ++ ·)

theorem make_bind (x : ExceptT ConvertError (Script Conversions) α)
    (f : α → ExceptT ConvertError (Script Conversions) β) :
    make F (x >>= f).run = make F x.run >>= fun a => make F (f a).run := by
  rw [ExceptT.run_bind]
  generalize x.run = s
  -- Only at the end of the first recipe does anything of the second come in.
  induction s with
  | done outcome =>
    rcases outcome with e | a
    · rfl
    · rfl
  | note entry next ih => exact ih
  | ask n next ih => exact (congrArg (Emission.view _) (ih _)).trans (Emission.view_bind _ _ _).symm

/-- A recipe only sees what nodes come to. If something else is reported about them,
something else is reported about what it makes. -/
theorem make_view {g : List Kind → List Kind} (hnil : g [] = [])
    (happend : ∀ a b, g (a ++ b) = g a ++ g b) {x : Recipe α} (hx : x.Asks P)
    (hF : ∀ n, P n → F n = (F' n).view g) : make F x = (make F' x).view g := by
  -- A node has the same outcome both ways, so the two go on with the same recipe.
  induction x with
  | done outcome => exact congrArg (Emission.mk · outcome) hnil.symm
  | note entry next ih => exact ih hx
  | ask n next ih =>
    simp only [make, hF n hx.1, ih _ (hx.2 _), Emission.view, happend]

end Recipe

/-- There is a recipe for an emission that depends on how nodes are converted, and the
recipe asks for nodes with a property only. -/
def ConvertsOnly {α : Type} (P : Node → Prop) (G : (Node → Emission String) → Emission α) : Prop :=
  ∃ x : Recipe α, x.Asks P ∧ ∀ F, G F = x.make F

section ConvertsOnly

variable {α β : Type} {P : Node → Prop}

/-- Markup or a failure, with nothing converted and nothing reported. -/
theorem convertsOnly_outcome (outcome : Except ConvertError α) :
    ConvertsOnly P fun _ => ⟨[], outcome⟩ :=
  ⟨.done outcome, trivial, fun _ => rfl⟩

theorem convertsOnly_convert {n : Node} (hn : P n) : ConvertsOnly P fun F => F n := by
  refine ⟨.ask n .done, ⟨hn, fun _ => trivial⟩, fun F => ?_⟩
  exact congrArg (Emission.mk · (F n).outcome) (List.append_nil _).symm

theorem ConvertsOnly.bind {G : (Node → Emission String) → Emission α}
    {H : α → (Node → Emission String) → Emission β} (hG : ConvertsOnly P G)
    (hH : ∀ a, ConvertsOnly P (H a)) : ConvertsOnly P fun F => G F >>= fun a => H a F := by
  rcases hG with ⟨x, hx, hmake⟩
  -- What comes next depends on the markup so far, and there is a recipe for each.
  rcases Classical.skolem.1 hH with ⟨y, hy⟩
  refine ⟨(ExceptT.mk x >>= fun a => ExceptT.mk (y a)).run, ?_, fun F => ?_⟩
  · exact Script.asks_bindExcept hx fun a => (hy a).1
  · rw [Recipe.make_bind]
    change (G F >>= fun a => H a F) = _
    rw [hmake]
    exact congrArg (Recipe.make F x >>= ·) (funext fun a => (hy a).2 F)

theorem ConvertsOnly.map {G : (Node → Emission String) → Emission α} (hG : ConvertsOnly P G)
    (f : α → β) : ConvertsOnly P fun F => f <$> G F :=
  hG.bind fun a => convertsOnly_outcome (.ok (f a))

/-- One after the other. -/
theorem convertsOnly_concat {H : β → (Node → Emission String) → Emission String} {bs : List β}
    (hH : ∀ b ∈ bs, ConvertsOnly P (H b)) :
    ConvertsOnly P fun F => Emission.concat (bs.map fun b => H b F) := by
  induction bs with
  | nil => exact convertsOnly_outcome (.ok "")
  | cons b bs ih =>
    refine (hH b List.mem_cons_self).bind fun first => ?_
    exact (ih fun c hc => hH c (List.mem_cons_of_mem _ hc)).map (first ++ ·)

/-- Nodes converted one after the other. -/
theorem convertsOnly_all {ns : List Node} (hns : ∀ n ∈ ns, P n) :
    ConvertsOnly P fun F => Emission.concat (ns.map F) :=
  convertsOnly_concat fun n hn => convertsOnly_convert (hns n hn)

/-- The same is made of two ways to convert nodes that agree up to what is reported. -/
theorem ConvertsOnly.view {G : (Node → Emission String) → Emission α} (hG : ConvertsOnly P G)
    {g : List Kind → List Kind} (hnil : g [] = []) (happend : ∀ a b, g (a ++ b) = g a ++ g b)
    {F F' : Node → Emission String} (hF : ∀ n, P n → F n = (F' n).view g) :
    G F = (G F').view g := by
  rcases hG with ⟨x, hx, hmake⟩
  rw [hmake, hmake]
  exact Recipe.make_view hnil happend hx hF

end ConvertsOnly

end WikiSync
