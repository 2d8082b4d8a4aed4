import WikiSync.Proofs.Storage.Written

/-!
# Character Data

What a reader of wiki markup gets to see as text. Tags are dropped, entities
stand for their characters, and a section of plain text is taken literally. The
parameters of a macro and the state of a task are no text of the document, so
whatever is inside such an element is dropped with it, and so are the line
breaks that stand between the parts of a task.

Which of it applies to a character depends on the elements that are open around
it. The reader goes over the tokens with a stack of these, and it refuses
markup that does not read as tokens or whose tags do not nest.

Markup is written in pieces, and a piece does not know what is open around it.
`Shows` is character data for pieces: it asks what is read wherever text is
shown. As with `Writes`, this passes to what is put together of pieces.

## Main definitions

* `readData?`: Reads tokens within elements that are open.
* `characterData?`: Reads markup.
* `Visible`: Places where text is shown.
* `Shows`: Tokens with the characters that they show.

## Theorems

* `Shows.append`, `Shows.element`: Putting pieces together.
* `shows_symbols`, `shows_sections`: Text and plain text.
* `readData?_dropped`, `shows_params`: What is dropped.
* `characterData?_eq`: Markup as a piece on its own.
-/

namespace WikiSync.Markup

open Storage

/-! ### The reader -/

/-- The elements that are dropped with all that is in them. -/
def droppedElements : List String :=
  ["ac:parameter", "ac:task-status"]

/-- Whether what is within open elements is dropped. -/
def isDropped (stack : List String) : Bool :=
  stack.any droppedElements.contains

/-- The characters of a token within open elements. -/
def Token.data (stack : List String) : Token → List Char
  | symbol s =>
    if isDropped stack || (stack.head? == some "ac:task" && s.char == '\n') then [] else [s.char]
  | cdata text => if isDropped stack then [] else text
  | opening _ _ | closing _ | empty _ _ => []

/-- Reads tokens within open elements: the characters, and the elements that
are open afterwards. -/
def readData? (stack : List String) : List Token → Option (List Char × List String)
  | [] => some ([], stack)
  | t :: ts => do
    let (data, final) ← readData? (← t.step stack) ts
    some (t.data stack ++ data, final)

/-- The character data of markup, if its tags nest. -/
def characterData? (markup : String) : Option (List Char) := do
  match ← readData? [] (← tokens? markup.toList) with
  | (data, []) => some data
  | (_, _ :: _) => none

/-! ### Pieces -/

/-- A place where text is shown. -/
def Visible (stack : List String) : Prop :=
  isDropped stack = false ∧ stack.head? ≠ some "ac:task"

/-- Tokens with the characters that they show, wherever text is shown. -/
def Shows (ts : List Token) (data : List Char) : Prop :=
  ∀ stack, Visible stack → readData? stack ts = some (data, stack)

theorem readData?_append {stack inner final : List String} {ts us : List Token}
    {a b : List Char} (hts : readData? stack ts = some (a, inner))
    (hus : readData? inner us = some (b, final)) :
    readData? stack (ts ++ us) = some (a ++ b, final) := by
  induction ts generalizing stack a with
  | nil =>
    cases hts
    exact hus
  | cons t ts ih =>
    rw [readData?] at hts
    rw [List.cons_append, readData?]
    rcases hstep : t.step stack with _ | next
    · rw [hstep] at hts
      cases hts
    · rw [hstep] at hts
      simp only [Option.bind_eq_bind, Option.bind_some] at hts ⊢
      rcases hrest : readData? next ts with _ | ⟨rest, last⟩
      · rw [hrest] at hts
        cases hts
      · rw [hrest] at hts
        cases hts
        rw [ih hrest, Option.bind_some, List.append_assoc]

theorem shows_nil : Shows [] [] :=
  fun _ _ => rfl

theorem Shows.append {ts us : List Token} {a b : List Char} (ha : Shows ts a) (hb : Shows us b) :
    Shows (ts ++ us) (a ++ b) :=
  fun stack hstack => readData?_append (ha stack hstack) (hb stack hstack)

/-- What is read inside an element is read of the element. -/
theorem readData?_element {name : String} {stack : List String} {ts : List Token}
    {data : List Char} (h : readData? (name :: stack) ts = some (data, name :: stack))
    (as : List Attribute) :
    readData? stack (.opening name as :: (ts ++ [.closing name])) = some (data, stack) := by
  have hclose : readData? (name :: stack) [.closing name] = some ([], stack) := by
    simp [readData?, Token.step, Token.data]
  have hinner := readData?_append h hclose
  simp only [readData?, Token.step, Token.data, Option.bind_eq_bind, Option.bind_some, hinner,
    List.append_nil, List.nil_append]

/-- An element in which text is shown. -/
theorem Shows.element {name : String} (hname : name ∉ "ac:task" :: droppedElements)
    {ts : List Token} {data : List Char} (h : Shows ts data) (as : List Attribute) :
    Shows (.opening name as :: (ts ++ [.closing name])) data := by
  intro stack hstack
  rw [List.mem_cons, not_or] at hname
  refine readData?_element (h (name :: stack) ⟨?_, ?_⟩) as
  · rw [isDropped, List.any_cons, Bool.or_eq_false_iff]
    exact ⟨by simpa using hname.2, hstack.1⟩
  · simpa using hname.1

/-- A tag that closes itself. -/
theorem shows_empty (name : String) (as : List Attribute) : Shows [.empty name as] [] :=
  fun _ _ => rfl

/-! ### Text -/

theorem shows_symbols (xs : List Symbol) : Shows (xs.map .symbol) (xs.map Symbol.char) := by
  induction xs with
  | nil => exact shows_nil
  | cons x xs ih =>
    have hfirst : Shows [.symbol x] [x.char] := by
      rintro stack ⟨hkept, htask⟩
      simp [readData?, Token.step, Token.data, hkept, htask]
    exact hfirst.append ih

theorem char_symbolOf (c : Char) : (symbolOf c).char = c := by
  unfold symbolOf
  split_ifs with hamp hlt hgt hquot hapos
  · exact hamp.symm
  · exact hlt.symm
  · exact hgt.symm
  · exact hquot.symm
  · exact hapos.symm
  · rfl

theorem map_char_symbolsOf (s : String) : (symbolsOf s).map Symbol.char = s.toList := by
  rw [symbolsOf, List.map_map]
  exact (List.map_congr_left fun c _ => char_symbolOf c).trans (List.map_id s.toList)

/-- Escaped text shows the text. -/
theorem shows_escape (s : String) : Shows ((symbolsOf s).map .symbol) s.toList :=
  map_char_symbolsOf s ▸ shows_symbols (symbolsOf s)

/-! ### Sections -/

/-- Cutting a text into sections loses nothing. -/
theorem flatten_sections (text : List Char) :
    (sectionsOf text).1 ++ (sectionsOf text).2.flatten = text := by
  fun_induction sectionsOf text with
  | case1 rest ih => simpa using ih
  | case2 c rest hmark ih => simpa using ih
  | case3 => rfl

theorem shows_cdata (sections : List (List Char)) :
    Shows (sections.map .cdata) sections.flatten := by
  induction sections with
  | nil => exact shows_nil
  | cons text sections ih =>
    have hfirst : Shows [.cdata text] text := by
      rintro stack ⟨hkept, -⟩
      simp [readData?, Token.step, Token.data, hkept]
    exact hfirst.append ih

/-- Sections show the text that was put into them. -/
theorem shows_sections (text : String) : Shows (sectionTokens text) text.toList := by
  have hshows := shows_cdata ((sectionsOf text.toList).1 :: (sectionsOf text.toList).2)
  rw [List.flatten_cons, flatten_sections] at hshows
  exact hshows

/-! ### What is dropped -/

/-- Text that is dropped with the element around it. -/
theorem readData?_dropped {name : String} (hname : name ∈ droppedElements) (as : List Attribute)
    (xs : List Symbol) (stack : List String) :
    readData? stack (.opening name as :: (xs.map .symbol ++ [.closing name])) =
      some ([], stack) := by
  have hdropped : isDropped (name :: stack) = true := by
    rw [isDropped, List.any_cons, Bool.or_eq_true]
    exact Or.inl (List.contains_iff_mem.2 hname)
  refine readData?_element ?_ as
  induction xs with
  | nil => rfl
  | cons x xs ih => simp [readData?, Token.step, Token.data, hdropped, ih]

theorem shows_params (params : List Param) : Shows (params.flatMap paramTokens) [] := by
  induction params with
  | nil => exact shows_nil
  | cons p params ih =>
    have hfirst : Shows (paramTokens p) [] :=
      fun stack _ => readData?_dropped (by decide) _ _ stack
    exact hfirst.append ih

theorem shows_macro (name : String) (params : List Param) {content : List Token}
    {data : List Char} (h : Shows content data) :
    Shows (macroTokens name params content) data :=
  ((shows_params params).append h).element (by decide) _

/-! ### Markup -/

/-- Markup as a piece on its own. -/
theorem characterData?_eq {markup : String} {ts : List Token} (hwrites : Writes markup ts)
    {data : List Char} (h : Shows ts data) : characterData? markup = some data := by
  have htokens : tokens? markup.toList = some ts := by
    rw [hwrites.spelled]
    exact tokens?_spell hwrites.proper
  have hread : readData? [] ts = some (data, []) := h [] ⟨rfl, by simp⟩
  simp only [characterData?, htokens, hread, Option.bind_eq_bind, Option.bind_some]

end WikiSync.Markup
