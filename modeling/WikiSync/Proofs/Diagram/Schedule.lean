import WikiSync.Proofs.Diagram.Parallel
import WikiSync.Proofs.Script.Fresh

/-!
# Schedules

Which diagram comes when is not up to the one who renders a page. A schedule says it for every
number of diagrams, and what holds of all schedules holds of diagrams that are rendered side by
side. One diagram after the other is a schedule as well. It is the very script that renders in
turn, and not only one that comes to the same (`renderInOrder_range`).

With every schedule the backend is asked for a source once, because an order has every place
once and different sources have different texts. So no question of the backend comes again.

## Main definitions

* `Schedule`: An order for every number of diagrams.
* `Schedule.inTurn`: One after the other.

## Theorems

* `renderInOrder_range`: Rendering in turn.
* `asksFresh_attachInOrder`: No question comes again.
-/

namespace WikiSync.Diagram

/-- An order for every number of diagrams. -/
structure Schedule where
  places : Nat → List Nat
  perm (count : Nat) : (places count).Perm (List.range count)

/-- One diagram after the other. -/
def Schedule.inTurn : Schedule :=
  ⟨List.range, fun _ => .rfl⟩

/-! ### In turn -/

/-- The places from some place on, where the results in front of it are there. -/
theorem renderPlaces_range' (before ds : List Source) (slots : List (Option Rendered))
    (hslots : slots.length = before.length) :
    renderPlaces (before ++ ds) (List.range' before.length ds.length)
        (slots ++ ds.map fun _ => none) =
      renderAll ds >>= fun results => pure (slots ++ results.map some) := by
  induction ds generalizing before slots with
  | nil => rfl
  | cons d ds ih =>
    have hd : (before ++ d :: ds)[before.length]? = some d := by
      rw [List.getElem?_append_right (Nat.le_refl _), Nat.sub_self, List.getElem?_cons_zero]
    have hset (result : Except RenderError Bytes) :
        (slots ++ none :: ds.map fun _ => none).set before.length (some (d, result)) =
          slots ++ [some (d, result)] ++ ds.map fun _ => none := by
      rw [← hslots, List.set_append_right _ _ (Nat.le_refl _), Nat.sub_self, List.set_cons_zero,
        List.append_assoc, List.singleton_append]
    -- Behind the first result the same holds, with one more in front.
    have hrest (result : Except RenderError Bytes) :
        renderPlaces (before ++ d :: ds) (List.range' (before.length + 1) ds.length)
            (slots ++ [some (d, result)] ++ ds.map fun _ => none) =
          renderAll ds >>= fun more => pure (slots ++ ((d, result) :: more).map some) := by
      have hlength : (slots ++ [some (d, result)]).length = (before ++ [d]).length := by
        rw [List.length_append, List.length_append, hslots]
        rfl
      have hmore := ih (before ++ [d]) (slots ++ [some (d, result)]) hlength
      rw [List.append_assoc, List.singleton_append, List.length_append] at hmore
      rw [List.length_singleton] at hmore
      rw [hmore]
      simp only [List.append_assoc, List.singleton_append, List.map_cons]
    rw [List.length_cons, List.range'_succ, List.map_cons, renderPlaces]
    simp only [hd, renderAll, bind_assoc, pure_bind, hset]
    exact bind_congr hrest

/-- Rendering in the order of the places is rendering in turn. -/
theorem renderInOrder_range (ds : List Source) :
    renderInOrder (List.range ds.length) ds = renderAll ds := by
  have hplaces := renderPlaces_range' [] ds [] rfl
  rw [List.nil_append, List.nil_append, List.length_nil, ← List.range_eq_range'] at hplaces
  rw [renderInOrder, hplaces, bind_assoc]
  simp only [pure_bind, List.nil_append, List.filterMap_map, Function.id_comp, List.filterMap_some,
    bind_pure]

/-! ### No question twice -/

/-- Different sources that come in an order are asked for once each. -/
theorem asksFresh_renderPlaces {ds : List Source} {order : List Nat} {past : Request → Prop}
    (hnodup : ((order.filterMap (ds[·]?)).map (·.text)).Nodup)
    (hnew : ∀ d ∈ order.filterMap (ds[·]?), ¬ past (.render d.text))
    (slots : List (Option Rendered)) : (renderPlaces ds order slots).AsksFresh past := by
  induction order generalizing past slots with
  | nil => trivial
  | cons i order ih =>
    rw [renderPlaces]
    rcases hd : ds[i]? with _ | d
    · simp only [List.filterMap_cons, hd] at hnodup hnew
      exact ih hnodup hnew slots
    · simp only [List.filterMap_cons, hd, List.map_cons, List.nodup_cons, List.mem_map,
        List.forall_mem_cons] at hnodup hnew
      refine ⟨hnew.1, fun result => ih hnodup.2 (fun e he hpast => ?_) _⟩
      rcases hpast with hpast | hsame
      · exact hnew.2 e he hpast
      -- A source that comes later has another text.
      · exact hnodup.1 ⟨e, he, Request.render.inj hsame⟩

/-- Whether the backend is available is asked first, and then for the sources. -/
theorem asksFresh_attachInOrder {tree : Node} {order : List Nat}
    (horder : order.Perm (List.range (sources tree).length)) (backend : String) (ctx : Context) :
    (attachInOrder order backend tree ctx).AsksFresh fun _ => False := by
  have htexts : ((order.filterMap ((sources tree)[·]?)).map (·.text)).Nodup :=
    ((perm_filterMap_places horder).map Source.text).nodup_iff.2 (nodup_renderedTexts tree)
  unfold attachInOrder attachBy
  simp only
  split
  · trivial
  · -- Whatever the answer is, the question is past, and no source is asked for by it.
    refine ⟨not_false, fun available => ?_⟩
    rcases available with _ | _
    · trivial
    · have hrender : (renderInOrder order (sources tree)).AsksFresh
          fun q => False ∨ q = Request.available := by
        have hnew : ∀ d ∈ order.filterMap ((sources tree)[·]?),
            ¬ (False ∨ Request.render d.text = .available) := fun d _ h =>
          h.elim id fun heq => nomatch heq
        exact (asksFresh_renderPlaces htexts hnew _).bind_silent fun _ => trivial
      exact hrender.bind_silent fun results =>
        Script.asks_bind (Script.asks_logAll _) fun _ => Script.asks_pure _

end WikiSync.Diagram
