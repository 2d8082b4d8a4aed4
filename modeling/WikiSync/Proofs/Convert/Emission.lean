import Mathlib.Data.List.Forall2
import WikiSync.Convert.Emission

/-!
# Sequences of Emissions

How emissions are put together. They are a lawful monad, and markup is put
together from them in one way only: one emission after the other, their
markup joined. `concat` is that way as a function of a list, so that a
statement about the conversion of many nodes is a statement about a list.

Two things are asked of an emission. What its markup is like if there is any
is `Yields`. What it comes to, markup or failure, is its outcome, and the
outcome of a sequence is the sequence of the outcomes.

## Main definitions

* `Emission.concat`: Emissions one after the other, their markup joined.
* `Emission.Yields`: A property of the markup, if there is any.

## Theorems

* `Emission.outcome_bind`, `Emission.outcome_map`: Outcomes of sequences.
* `Emission.outcome_concat_eq_ok`: When there is markup of many pieces.
* `Emission.yields_concat`: What yields pieces yields what they join to.
-/

namespace WikiSync.Emission

variable {α β : Type}

/-- What was reported comes first, whatever the rest is bracketed like. -/
instance : LawfulMonad Emission := by
  refine LawfulMonad.mk' Emission (fun x => ?_) (fun _ _ => rfl) (fun x f g => ?_)
  · -- A failure stops on both sides, and a value is passed on.
    change x.bind (fun a => ok a) = x
    rcases x with ⟨reported, e | a⟩
    · rfl
    · simp only [bind, ok, List.append_nil]
  · change (x.bind f).bind g = x.bind fun a => (f a).bind g
    rcases x with ⟨reported, e | a⟩
    · rfl
    · simp only [bind]
      rcases (f a).outcome with e | b
      · rfl
      · simp only [List.append_assoc]

/-! ### Outcomes -/

@[simp]
theorem outcome_pure (a : α) : (pure a : Emission α).outcome = .ok a := rfl

theorem outcome_bind (m : Emission α) (f : α → Emission β) :
    (m >>= f).outcome = m.outcome.bind fun a => (f a).outcome := by
  change (m.bind f).outcome = _
  unfold bind
  rcases m.outcome with e | a
  · rfl
  · rfl

theorem outcome_map (f : α → β) (m : Emission α) : (f <$> m).outcome = m.outcome.map f := by
  change (m >>= fun a => pure (f a)).outcome = _
  rw [outcome_bind]
  rcases m.outcome with e | a
  · rfl
  · rfl

theorem outcome_bind_eq_ok {m : Emission α} {f : α → Emission β} {b : β} :
    (m >>= f).outcome = .ok b ↔ ∃ a, m.outcome = .ok a ∧ (f a).outcome = .ok b := by
  rw [outcome_bind]
  rcases m.outcome with e | a
  · exact ⟨(nomatch ·), fun ⟨_, h, _⟩ => nomatch h⟩
  · constructor
    · exact fun h => ⟨a, rfl, h⟩
    · rintro ⟨_, ⟨⟩, h⟩
      exact h

theorem outcome_map_eq_ok {f : α → β} {m : Emission α} {b : β} :
    (f <$> m).outcome = .ok b ↔ ∃ a, m.outcome = .ok a ∧ f a = b := by
  rw [map_eq_pure_bind, outcome_bind_eq_ok]
  simp only [outcome_pure, Except.ok.injEq]

/-! ### Sequences -/

/-- Emissions one after the other, their markup joined. -/
def concat : List (Emission String) → Emission String
  | [] => pure ""
  | m :: ms => do
    let first ← m
    let rest ← concat ms
    pure (first ++ rest)

/-- An emission whose markup has a property, if there is any. -/
def Yields (m : Emission α) (P : α → Prop) : Prop :=
  ∀ a, m.outcome = .ok a → P a

theorem yields_pure {a : α} {P : α → Prop} (h : P a) : (pure a : Emission α).Yields P := by
  intro b hb
  cases hb
  exact h

theorem yields_fail (e : ConvertError) (P : α → Prop) : (fail e : Emission α).Yields P := by
  intro b hb
  cases hb

theorem Yields.map {m : Emission α} {P : α → Prop} (h : m.Yields P) {f : α → β} {Q : β → Prop}
    (hf : ∀ a, P a → Q (f a)) : (f <$> m).Yields Q := by
  intro b hb
  rcases outcome_map_eq_ok.1 hb with ⟨a, ha, rfl⟩
  exact hf a (h a ha)

theorem Yields.bind {m : Emission α} {P : α → Prop} (h : m.Yields P) {f : α → Emission β}
    {Q : β → Prop} (hf : ∀ a, P a → (f a).Yields Q) : (m >>= f).Yields Q := by
  intro b hb
  rcases outcome_bind_eq_ok.1 hb with ⟨a, ha, hb⟩
  exact hf a (h a ha) b hb

/-- What yields pieces yields what they join to. -/
theorem yields_concat {P : String → Prop} (hnil : P "")
    (happend : ∀ a b, P a → P b → P (a ++ b)) {ms : List (Emission String)}
    (h : ∀ m ∈ ms, m.Yields P) : (concat ms).Yields P := by
  induction ms with
  | nil => exact yields_pure hnil
  | cons m ms ih =>
    refine (h m List.mem_cons_self).bind fun a ha => ?_
    refine (ih fun m' hm' => h m' (List.mem_cons_of_mem _ hm')).bind fun b hb => ?_
    exact yields_pure (happend a b ha hb)

/-- There is markup exactly if there is some of everything, and then it is joined. -/
theorem outcome_concat_eq_ok {ms : List (Emission String)} {out : String} :
    (concat ms).outcome = .ok out ↔
      ∃ parts, List.Forall₂ (fun m part => m.outcome = .ok part) ms parts ∧
        String.join parts = out := by
  induction ms generalizing out with
  | nil =>
    simp only [concat, outcome_pure, Except.ok.injEq, List.forall₂_nil_left_iff,
      exists_eq_left, String.join_nil]
  | cons m ms ih =>
    simp only [concat, outcome_bind_eq_ok, ih, outcome_pure, Except.ok.injEq]
    constructor
    · rintro ⟨first, hfirst, _, ⟨parts, hparts, rfl⟩, rfl⟩
      exact ⟨first :: parts, .cons hfirst hparts, String.join_cons⟩
    · rintro ⟨_, hall, rfl⟩
      rcases List.forall₂_cons_left_iff.1 hall with ⟨first, parts, hfirst, hparts, rfl⟩
      exact ⟨first, hfirst, _, ⟨parts, hparts, rfl⟩, String.join_cons.symm⟩

end WikiSync.Emission
