import WikiSync.Proofs.Config.Pieces

/-!
# References to Variables

What a reference to one variable stands for, and what it leaves in the setting that it is
in. The reference may have a default. Names hold no braces, no dollar sign and no `:-`,
so there is no doubt where a name ends.

Two readers look at a reference, and they do not agree on where it ends. The one that
cuts settings into pieces counts braces, so a default may hold braces as long as they are
balanced (`closes_variableReference`). The one that reads the piece does not count. For it
the default ends at the first closing brace, and what comes after that is text which
stands behind the value (`expandReference_variable`). So a default with braces is cut
short, and its remainder shows even if the default is not needed.
`referenceSurplus_eq_nil_iff` says that no other default is concerned.

## Main definitions

* `IsName`: The names that references can have.
* `variableReference`: A reference to a variable.
* `defaultLead`, `referenceSurplus`: What is taken for the default, and what is left.
* `expandPieces`: What pieces stand for together.
* `Contributes`: What a reference leaves in its setting.

## Theorems

* `pieces_append_reference`: Where a reference is found.
* `expandReference_variable`: What it stands for.
* `contributes_of_ok`, `expand_of_error`: What that means for the setting.
* `unset_of_expand`: Which variables are named in errors.
-/

namespace WikiSync

/-! ### Names and defaults -/

/-- The names that references can have. -/
structure IsName (name : List Char) : Prop where
  nonempty : name ≠ []
  noDollar : '$' ∉ name
  noOpen : '{' ∉ name
  noClose : '}' ∉ name
  noDefault : ¬ [':', '-'] <:+: name

/-- What stands between the braces of a reference. -/
def referenceInside (name : List Char) : Option (List Char) → List Char
  | none => name
  | some default => name ++ ':' :: '-' :: default

/-- A reference to a variable, with a default or without one. -/
def variableReference (name : List Char) (default : Option (List Char)) : List Char :=
  opening ++ (referenceInside name default ++ ['}'])

/-- A text whose braces are balanced. -/
def IsBalanced (cs : List Char) : Prop :=
  cs.count '{' = cs.count '}' ∧ ∀ p, p <+: cs → p.count '}' ≤ p.count '{'

/-- What is taken for the default: all in front of the first closing brace. -/
def defaultLead (default : List Char) : List Char :=
  default.takeWhile (· != '}')

/-- What is left of a default, with the brace that closes the reference in place of the
first closing one. -/
def defaultSurplus (default : List Char) : List Char :=
  ((default ++ ['}']).dropWhile (· != '}')).tail

/-- What is left of a reference. -/
def referenceSurplus (default : Option (List Char)) : List Char :=
  (default.map defaultSurplus).getD []

theorem takeWhile_append_close {cs : List Char} (h : '}' ∉ cs) (rest : List Char) :
    (cs ++ rest).takeWhile (· != '}') = cs ++ rest.takeWhile (· != '}') :=
  List.takeWhile_append_of_pos fun _ hc => bne_iff_ne.2 fun heq => h (heq ▸ hc)

theorem dropWhile_append_close {cs : List Char} (h : '}' ∉ cs) (rest : List Char) :
    (cs ++ rest).dropWhile (· != '}') = rest.dropWhile (· != '}') :=
  List.dropWhile_append_of_pos fun _ hc => bne_iff_ne.2 fun heq => h (heq ▸ hc)

/-- A default without closing braces is taken as it is, and nothing is left of it. -/
theorem defaultLead_of_plain {default : List Char} (h : '}' ∉ default) :
    defaultLead default = default ∧ defaultSurplus default = [] := by
  refine ⟨?_, ?_⟩
  · have htake := takeWhile_append_close h []
    rwa [List.append_nil, List.takeWhile_nil, List.append_nil] at htake
  · rw [defaultSurplus, dropWhile_append_close h]
    rfl

/-- Of any other default something is left. -/
theorem defaultSurplus_eq_nil_iff (default : List Char) :
    defaultSurplus default = [] ↔ '}' ∉ default := by
  constructor
  · intro hnone hclose
    rcases List.eq_append_cons_of_mem hclose with ⟨before, after, rfl, hbefore⟩
    rw [defaultSurplus, List.append_assoc, dropWhile_append_close hbefore] at hnone
    exact List.append_ne_nil_of_right_ne_nil after (List.cons_ne_nil '}' []) hnone
  · exact fun h => (defaultLead_of_plain h).2

theorem referenceSurplus_eq_nil_iff (default : Option (List Char)) :
    referenceSurplus default = [] ↔ ∀ d ∈ default, '}' ∉ d := by
  rcases default with _ | d
  · exact iff_of_true rfl nofun
  · exact (defaultSurplus_eq_nil_iff d).trans
      ⟨fun h _ hd => Option.mem_some.1 hd ▸ h, fun h => h d rfl⟩

/-! ### Where a reference is found -/

instance (cs : List Char) : Decidable (IsBalanced cs) :=
  decidable_of_iff (cs.count '{' = cs.count '}' ∧ ∀ p ∈ cs.inits, p.count '}' ≤ p.count '{')
    (by simp only [IsBalanced, List.mem_inits])

theorem IsBalanced.of_plain {cs : List Char} (hopen : '{' ∉ cs) (hclose : '}' ∉ cs) :
    IsBalanced cs := by
  refine ⟨?_, fun p hp => ?_⟩
  · rw [List.count_eq_zero.2 hopen, List.count_eq_zero.2 hclose]
  · rw [List.count_eq_zero.2 fun h => hclose (hp.subset h)]
    exact Nat.zero_le _

/-- Text without braces may stand in front. -/
theorem IsBalanced.append_left {cs ds : List Char} (hopen : '{' ∉ cs) (hclose : '}' ∉ cs)
    (h : IsBalanced ds) : IsBalanced (cs ++ ds) := by
  have hopens : cs.count '{' = 0 := List.count_eq_zero.2 hopen
  have hcloses : cs.count '}' = 0 := List.count_eq_zero.2 hclose
  refine ⟨?_, fun p hp => ?_⟩
  · rw [List.count_append, List.count_append, hopens, hcloses, h.1]
  · rcases List.prefix_or_prefix_of_prefix hp (List.prefix_append cs ds) with hshort | hlong
    · exact (IsBalanced.of_plain hopen hclose).2 p hshort
    · rcases hlong with ⟨q, rfl⟩
      rw [List.count_append, List.count_append, hopens, hcloses]
      exact Nat.add_le_add_left (h.2 q ((List.prefix_append_right_inj cs).1 hp)) 0

/-- Balanced braces inside of a reference do not end it. -/
theorem closes_of_isBalanced {cs : List Char} (h : IsBalanced cs) :
    Closes 0 (opening ++ (cs ++ ['}'])) := by
  refine ⟨⟨?_, ?_⟩, fun p hp hbalances => ?_⟩
  · rw [← List.append_assoc, List.getLast?_concat]
  · simp [opening, h.1]
  · rw [← List.append_assoc] at hp ⊢
    rcases List.prefix_concat_iff.1 hp with hall | hshort
    · exact hall
    · -- In front of the last brace, the one of the opening is not closed yet.
      exfalso
      rcases List.prefix_cons_iff.1 hshort with rfl | ⟨q, rfl, hq⟩
      · exact not_balances_nil 0 hbalances
      · rcases List.prefix_cons_iff.1 hq with rfl | ⟨r, rfl, hr⟩
        · exact nomatch hbalances.1
        · have hle := h.2 r hr
          have hcounts := hbalances.2
          simp at hcounts
          omega

/-- The reference ends with the brace that belongs to it. -/
theorem closes_variableReference {name : List Char} {default : Option (List Char)}
    (hname : IsName name) (hdefault : ∀ d ∈ default, IsBalanced d) :
    Closes 0 (variableReference name default) := by
  refine closes_of_isBalanced ?_
  rcases default with _ | d
  · exact .of_plain hname.noOpen hname.noClose
  · refine .append_left hname.noOpen hname.noClose ?_
    exact .append_left (by decide : '{' ∉ [':', '-']) (by decide) (hdefault d rfl)

/-- In front of the first opening there is none. -/
theorem opensAfter_append {before start : List Char} (hbefore : ¬ opening <:+: before)
    (hstart : opening <+: start) : OpensAfter (before ++ start) before start := by
  induction before with
  | nil => exact opensAfter_nil hstart
  | cons c before ih =>
    refine .cons ?_ (ih fun hinfix => hbefore (List.infix_cons hinfix))
    rintro ⟨tail, htail⟩
    obtain ⟨rfl, hbrace⟩ := List.cons.inj htail
    rcases before with _ | ⟨d, before⟩
    · -- A start of an opening is no brace.
      rcases hstart with ⟨rest, rfl⟩
      cases hbrace
    · obtain ⟨rfl, -⟩ := List.cons.inj hbrace
      exact hbefore (List.prefix_append opening before).isInfix

/-- A reference is found wherever it is the first one. -/
theorem pieces_append_reference {before rest name : List Char} {default : Option (List Char)}
    (hbefore : ¬ opening <:+: before) (hname : IsName name)
    (hdefault : ∀ d ∈ default, IsBalanced d) :
    pieces (before ++ (variableReference name default ++ rest)) =
      .literal before :: .reference (variableReference name default) :: pieces rest := by
  have hopens : opening <+: variableReference name default ++ rest :=
    (List.prefix_append opening _).trans (List.prefix_append _ rest)
  have hsplits := Splits.reference (opensAfter_append hbefore hopens)
    (closes_variableReference hname hdefault) (splits_iff.2 (Eq.refl (pieces rest)))
  exact (splits_iff.1 hsplits).symm

/-! ### What a reference stands for -/

/-- The name ends at the first mark of a default. -/
theorem spanDefault_append {name : List Char} (h : ¬ [':', '-'] <:+: name) (d : List Char) :
    spanDefault (name ++ ':' :: '-' :: d) = (name, some d) := by
  induction name with
  | nil => rfl
  | cons c name ih =>
    have hrest := ih fun hinfix => h (List.infix_cons hinfix)
    rw [List.cons_append, spanDefault, hrest]
    rintro rest rfl heq
    rcases name with _ | ⟨e, name⟩
    · cases heq
    · obtain ⟨rfl, -⟩ := List.cons.inj heq
      exact h (List.prefix_append [':', '-'] name).isInfix

theorem spanDefault_of_not_infix {name : List Char} (h : ¬ [':', '-'] <:+: name) :
    spanDefault name = (name, none) := by
  induction name with
  | nil => rfl
  | cons c name ih =>
    have hrest := ih fun hinfix => h (List.infix_cons hinfix)
    rw [spanDefault, hrest]
    rintro rest rfl rfl
    exact h (List.prefix_append [':', '-'] rest).isInfix

/-- The name and the default of a reference. -/
theorem nameAndDefault_referenceInside {name : List Char} (hname : IsName name)
    (default : Option (List Char)) :
    nameAndDefault (referenceInside name default) = (name, default) := by
  have hspan : spanDefault (referenceInside name default) = (name, default) := by
    rcases default with _ | d
    · exact spanDefault_of_not_infix hname.noDefault
    · exact spanDefault_append hname.noDefault d
  rw [nameAndDefault, hspan]
  split
  · rename_i heq
    exact absurd (congrArg Prod.fst heq) hname.nonempty
  · rfl

/-- Without dollar signs nothing is replaced. -/
theorem expandDollars_of_noDollar (vars : Variables) (fuel : Nat) {cs : List Char}
    (h : '$' ∉ cs) : expandDollars vars fuel cs = .ok cs := by
  induction fuel generalizing cs with
  | zero => rfl
  | succ fuel ih =>
    rcases cs with _ | ⟨c, cs⟩
    · rfl
    · rcases List.ne_and_not_mem_of_not_mem_cons h with ⟨hc, hcs⟩
      rw [expandDollars, ih hcs]
      · rfl
      -- The other cases start with a dollar sign.
      all_goals
        intros
        subst_vars
        exact hc rfl

/-- Both names and marks of defaults are in front of the first closing brace. -/
theorem span_append_close {cs : List Char} (h : '}' ∉ cs) (rest : List Char) :
    (cs ++ rest).span (· != '}') =
      (cs ++ rest.takeWhile (· != '}'), rest.dropWhile (· != '}')) := by
  rw [List.span_eq_takeWhile_dropWhile, takeWhile_append_close h, dropWhile_append_close h]

/-- With a brace behind it, the default is cut at the first one. -/
theorem span_default (d : List Char) :
    (d ++ ['}']).takeWhile (· != '}') = defaultLead d ∧
      (d ++ ['}']).dropWhile (· != '}') = '}' :: defaultSurplus d := by
  by_cases hclose : '}' ∈ d
  · rcases List.eq_append_cons_of_mem hclose with ⟨before, after, rfl, hbefore⟩
    simp [defaultLead, defaultSurplus, takeWhile_append_close hbefore,
      dropWhile_append_close hbefore]
  · simp [defaultLead_of_plain hclose, takeWhile_append_close hclose,
      dropWhile_append_close hclose]

/-- The first closing brace ends the name and the default. -/
theorem span_referenceInside {name : List Char} (hname : IsName name)
    (default : Option (List Char)) :
    (referenceInside name default ++ ['}']).span (· != '}') =
      (referenceInside name (default.map defaultLead),
        '}' :: referenceSurplus default) := by
  rcases default with _ | d
  · rw [referenceInside, span_append_close hname.noClose]
    simp [referenceInside, referenceSurplus]
  · have hlead : '}' ∉ name ++ [':', '-'] := by simp [hname.noClose]
    have hinside : referenceInside name (some d) ++ ['}'] =
        (name ++ [':', '-']) ++ (d ++ ['}']) := by simp [referenceInside]
    rw [hinside, span_append_close hlead, (span_default d).1, (span_default d).2]
    simp [referenceInside, referenceSurplus]

/-- A reference to a variable that is set stands for its value, and one to a variable that
is unset for the default up to the first closing brace. What is behind that brace is left
in both cases. -/
theorem expandReference_variable {vars : Variables} {name : List Char}
    {default : Option (List Char)} (hname : IsName name) (hdefault : ∀ d ∈ default, '$' ∉ d) :
    expandReference vars (variableReference name default) =
      (valueOf vars name (default.map defaultLead)).map
        (· ++ referenceSurplus default) := by
  have hsurplus : '$' ∉ referenceSurplus default := by
    rcases default with _ | d
    · exact List.not_mem_nil
    · intro hdollar
      have hmem := (List.dropWhile_suffix _).subset (List.mem_of_mem_tail hdollar)
      rcases List.mem_append.1 hmem with hd | hbrace
      · exact hdefault d rfl hd
      · exact absurd hbrace (by decide)
  unfold expandReference variableReference opening
  rw [List.length_append, Nat.add_comm, List.cons_append]
  simp only [List.length_cons, List.length_nil, List.cons_append, List.nil_append]
  rw [expandDollars, span_referenceInside hname]
  simp only [nameAndDefault_referenceInside hname]
  rw [expandDollars_of_noDollar vars _ hsurplus]
  rcases valueOf vars name (default.map defaultLead) with _ | value <;> rfl

/-- A variable that is set counts, whatever its value is. -/
theorem expandReference_of_set {vars : Variables} {name : List Char}
    {default : Option (List Char)} (hname : IsName name) (hdefault : ∀ d ∈ default, '$' ∉ d)
    {v : String} (h : vars (String.ofList name) = some v) :
    expandReference vars (variableReference name default) =
      .ok (v.toList ++ referenceSurplus default) := by
  have hvalue : valueOf vars name (default.map defaultLead) = .ok v.toList := by
    simp only [valueOf, h]
  rw [expandReference_variable hname hdefault, hvalue]
  rfl

/-- For a variable that is unset the default counts. -/
theorem expandReference_of_unset {vars : Variables} {name d : List Char} (hname : IsName name)
    (hd : '$' ∉ d) (h : vars (String.ofList name) = none) :
    expandReference vars (variableReference name (some d)) =
      .ok (defaultLead d ++ referenceSurplus (some d)) := by
  have hvalue : valueOf vars name ((some d).map defaultLead) = .ok (defaultLead d) := by
    simp only [valueOf, h, Option.map_some]
  rw [expandReference_variable hname fun _ heq => Option.mem_some.1 heq ▸ hd, hvalue]
  rfl

/-- Without a default, the name of the variable is what fails. -/
theorem expandReference_of_missing {vars : Variables} {name : List Char} (hname : IsName name)
    (h : vars (String.ofList name) = none) :
    expandReference vars (variableReference name none) = .error (String.ofList name) := by
  have hvalue : valueOf vars name none = .error (String.ofList name) := by
    simp only [valueOf, h]
  have hdefault : ∀ d ∈ (none : Option (List Char)), '$' ∉ d := nofun
  rw [expandReference_variable hname hdefault, Option.map_none, hvalue]
  rfl

/-! ### What is left in the setting -/

/-- What pieces stand for together. -/
def expandPieces (vars : Variables) (ps : List Piece) : Except String (List Char) := do
  let texts ← ps.mapM (Piece.expand vars)
  .ok texts.flatten

/-- A text with its references replaced, seen from one of its pieces. -/
theorem expand_of_pieces (vars : Variables) {s : String} {before after : List Piece} {p : Piece}
    (h : pieces s.toList = before ++ p :: after) :
    expand vars s = (do
      let a ← expandPieces vars before
      let x ← p.expand vars
      let b ← expandPieces vars after
      .ok (String.ofList (a ++ x ++ b))) := by
  unfold expand expandPieces
  rw [h, List.mapM_append, List.mapM_cons]
  rcases before.mapM (Piece.expand vars) with _ | as
  · rfl
  · rcases p.expand vars with _ | x
    · rfl
    · rcases after.mapM (Piece.expand vars) with _ | bs
      · rfl
      · simp [bind, Except.bind, pure, Except.pure]

/-- Between what the pieces around it stand for, a piece leaves some text. -/
def Contributes (vars : Variables) (s : String) (before : List Piece) (x : List Char)
    (after : List Piece) : Prop :=
  expand vars s = do
    let a ← expandPieces vars before
    let b ← expandPieces vars after
    .ok (String.ofList (a ++ x ++ b))

theorem contributes_of_ok {vars : Variables} {s : String} {before after : List Piece}
    {r x : List Char} (h : pieces s.toList = before ++ .reference r :: after)
    (hr : expandReference vars r = .ok x) : Contributes vars s before x after := by
  unfold Contributes
  rw [expand_of_pieces vars h, Piece.expand, hr]
  rfl

/-- A reference that fails makes the text fail, and with its own name if nothing in front
of it fails. -/
theorem expand_of_error {vars : Variables} {s : String} {before after : List Piece}
    {r : List Char} (h : pieces s.toList = before ++ .reference r :: after) {n : String}
    (hr : expandReference vars r = .error n) :
    (∃ n', expand vars s = .error n') ∧
      ((∃ a, expandPieces vars before = .ok a) → expand vars s = .error n) := by
  rw [expand_of_pieces vars h, Piece.expand, hr]
  rcases expandPieces vars before with n' | a
  · exact ⟨⟨n', rfl⟩, nofun⟩
  · exact ⟨⟨n, rfl⟩, fun _ => rfl⟩

/-- Only variables that are unset make a value fail. -/
theorem unset_of_valueOf {vars : Variables} {name : List Char} {default : Option (List Char)}
    {n : String} (h : valueOf vars name default = .error n) : vars n = none := by
  unfold valueOf at h
  split at h
  · cases h
  · cases h
  · rename_i hnone
    cases h
    exact hnone

/-- A sequence of two fails with one of them. -/
theorem error_of_bind {ε α β : Type} {a : Except ε α} {f : α → Except ε β} {x : ε}
    (h : (a >>= f) = .error x) : a = .error x ∨ ∃ y, f y = .error x := by
  rcases a with _ | y
  · cases h
    exact Or.inl rfl
  · exact Or.inr ⟨y, h⟩

theorem error_of_map {ε α β : Type} {a : Except ε α} {f : α → β} {x : ε}
    (h : (a >>= fun y => .ok (f y)) = .error x) : a = .error x := by
  rcases error_of_bind h with ha | ⟨y, hy⟩
  · exact ha
  · cases hy

/-- Only variables that are unset make a reference fail. -/
theorem unset_of_expandDollars {vars : Variables} {fuel : Nat} {cs : List Char} {n : String}
    (h : expandDollars vars fuel cs = .error n) : vars n = none := by
  fun_induction expandDollars vars fuel cs with
  | case1 | case2 => cases h
  | case3 _ _ _ _ _ _ _ _ _ ih | case7 _ _ _ _ _ _ _ _ ih =>
    -- Braces, or a name without them.
    rcases error_of_bind h with hvalue | ⟨_, hrest⟩
    · exact unset_of_valueOf hvalue
    · exact ih (error_of_map hrest)
  | case4 _ _ _ _ ih | case5 _ _ ih | case6 _ _ _ _ _ _ ih | case8 _ _ _ _ _ _ ih =>
    exact ih (error_of_map h)

/-- Only variables that are unset make a text fail. -/
theorem unset_of_expand {vars : Variables} {s n : String} (h : expand vars s = .error n) :
    vars n = none := by
  have hreplaced := replaced_replaceReferences (expandReference vars) s
  rw [← expand_eq_replaceReferences, h] at hreplaced
  cases hreplaced with
  | error _ _ hfails => exact unset_of_expandDollars hfails

end WikiSync
