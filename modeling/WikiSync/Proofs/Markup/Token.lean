import Mathlib.Data.List.Basic
import WikiSync.Storage.Escape

/-!
# Markup as Tokens

Wiki markup as whoever receives it reads it: tags, sections of plain text, and
single characters, some of them written as entities. The reader knows nothing
about how the markup came about. It takes one token after the other off the
front of a text, a tag up to the first `>` and a section up to the first mark
that ends it, and refuses whatever is none.

Statements about markup that is written are statements about what the reader
makes of it. They go through `tokens?_spell`: a list of proper tokens, written
out, reads back as itself. What is proper is decided token by token, so a
proof about written markup never follows the reader.

## Main definitions

* `Entity`, `Symbol`, `Attribute`, `Token`: What markup consists of.
* `Token.spell`: The written form of a token.
* `Token.Proper`: A token with a written form that reads back.
* `Reader`: Takes something off the front of a text.
* `tokens?`: Reads markup.

## Theorems

* `Reader.all_spell`: Reading back item after item is reading back all.
* `symbol?_spell`, `attribute?_spell`, `tag?_opening`, `tag?_empty`,
  `cdata?_append`: Each item reads back.
* `tokens?_spell`: Proper tokens read back.
-/

namespace WikiSync.Markup

/-! ### What markup consists of -/

/-- An entity. -/
inductive Entity where
  | amp
  | lt
  | gt
  | quot
  | apos
deriving DecidableEq, Repr

namespace Entity

/-- Every entity. -/
def all : List Entity :=
  [amp, lt, gt, quot, apos]

/-- The written form of an entity. -/
def spell : Entity → List Char
  | amp => "&amp;".toList
  | lt => "&lt;".toList
  | gt => "&gt;".toList
  | quot => "&quot;".toList
  | apos => "&apos;".toList

/-- The character that an entity stands for. -/
def char : Entity → Char
  | amp => '&'
  | lt => '<'
  | gt => '>'
  | quot => '"'
  | apos => '\''

end Entity

/-- A character of text or of a value, as it is written. -/
inductive Symbol where
  | plain (c : Char)
  | entity (e : Entity)
deriving DecidableEq, Repr

namespace Symbol

/-- The written form of a symbol. -/
def spell : Symbol → List Char
  | plain c => [c]
  | entity e => e.spell

/-- The character that a symbol stands for. -/
def char : Symbol → Char
  | plain c => c
  | entity e => e.char

/-- The characters that have to be written as entities. -/
def reserved : List Char :=
  ['&', '<', '>', '"']

/-- A symbol that is no raw character with a meaning of its own. -/
def Proper : Symbol → Prop
  | plain c => c ∉ reserved
  | entity _ => True

end Symbol

/-- An attribute of a tag. -/
structure Attribute where
  name : String
  value : List Symbol
deriving DecidableEq, Repr

/-- A piece of markup. -/
inductive Token where
  | opening (name : String) (attributes : List Attribute)
  | closing (name : String)
  /-- A tag that closes itself. -/
  | empty (name : String) (attributes : List Attribute)
  /-- A section of plain text. -/
  | cdata (text : List Char)
  | symbol (s : Symbol)
deriving DecidableEq, Repr

/-- The mark that starts a section, behind its angle bracket. -/
def sectionStart : List Char :=
  "![CDATA[".toList

/-- The mark that ends a section. -/
def sectionEnd : List Char :=
  "]]>".toList

/-- The written form of an attribute. -/
def Attribute.spell (a : Attribute) : List Char :=
  ' ' :: a.name.toList ++ '=' :: '"' :: a.value.flatMap Symbol.spell ++ ['"']

/-- What stands between the angle brackets of a tag. -/
def tagText (name : String) (attributes : List Attribute) : List Char :=
  name.toList ++ attributes.flatMap Attribute.spell

/-- The written form of a token. -/
def Token.spell : Token → List Char
  | opening name attributes => '<' :: tagText name attributes ++ ['>']
  | closing name => '<' :: '/' :: name.toList ++ ['>']
  | empty name attributes => '<' :: tagText name attributes ++ ['/', '>']
  | cdata text => '<' :: sectionStart ++ text ++ sectionEnd
  | symbol s => s.spell

/-! ### Proper tokens -/

/-- Whether a character can stand in a name. -/
def isNameChar (c : Char) : Bool :=
  c.isAlphanum || c == ':' || c == '-'

/-- A name of a tag or an attribute. -/
def IsName (name : String) : Prop :=
  name.toList ≠ [] ∧ ∀ c ∈ name.toList, isNameChar c = true

/-- An attribute whose written form reads back. -/
def Attribute.Proper (a : Attribute) : Prop :=
  IsName a.name ∧ ∀ s ∈ a.value, s.Proper

/-- A token whose written form reads back. -/
def Token.Proper : Token → Prop
  | opening name attributes | empty name attributes =>
    IsName name ∧ ∀ a ∈ attributes, a.Proper
  | closing name => IsName name
  | cdata text => ¬ sectionEnd <:+: text
  | symbol s => s.Proper

/-! ### Reading -/

/-- Takes something off the front of a text. -/
structure Reader (α : Type) where
  read? : List Char → Option (α × List Char)
  /-- Something was taken off. -/
  shorter : ∀ {s a rest}, read? s = some (a, rest) → rest.length < s.length

/-- Reads one item after the other, until nothing is left. -/
def Reader.all {α : Type} (r : Reader α) (s : List Char) : Option (List α) :=
  if s = [] then some []
  else
    match _ : r.read? s with
    | some (a, rest) => (r.all rest).map (a :: ·)
    | none => none
termination_by s.length
decreasing_by exact r.shorter ‹_›

/-- Reads a symbol: an entity, or a character that may stand for itself. -/
def symbol? : List Char → Option (Symbol × List Char)
  | [] => none
  | c :: rest =>
    if c = '&' then
      Entity.all.findSome? fun e =>
        (e.spell.isPrefixOf? (c :: rest)).map fun rest => (.entity e, rest)
    else if c = '<' ∨ c = '>' then none
    else some (.plain c, rest)

theorem length_isPrefixOf? {lead s rest : List Char} (h : lead.isPrefixOf? s = some rest) :
    s.length = lead.length + rest.length := by
  rw [← List.isPrefixOf?_eq_some_iff_append_eq.1 h, List.length_append]

theorem symbol?_shorter {s : List Char} {x : Symbol} {rest : List Char}
    (h : symbol? s = some (x, rest)) : rest.length < s.length := by
  unfold symbol? at h
  split at h
  · cases h
  · next c tail =>
    split at h
    · rcases List.exists_of_findSome?_eq_some h with ⟨e, -, he⟩
      rcases Option.map_eq_some_iff.1 he with ⟨rest', hrest, heq⟩
      cases heq
      -- Every entity is written with at least one character.
      have hlead : 0 < e.spell.length := by cases e <;> decide
      have := length_isPrefixOf? hrest
      omega
    · split at h
      · cases h
      · cases h
        exact Nat.lt_succ_self _

/-- The reader of symbols. -/
def symbolReader : Reader Symbol :=
  ⟨symbol?, symbol?_shorter⟩

/-- Reads an attribute, with the blank in front of it. -/
def attribute? : List Char → Option (Attribute × List Char)
  | ' ' :: s =>
    match s.takeWhile isNameChar, s.dropWhile isNameChar with
    | c :: name, '=' :: '"' :: s =>
      match s.dropWhile (· != '"') with
      | '"' :: rest =>
        (symbolReader.all (s.takeWhile (· != '"'))).map fun value =>
          (⟨String.ofList (c :: name), value⟩, rest)
      | _ => none
    | _, _ => none
  | _ => none

theorem attribute?_shorter {s : List Char} {a : Attribute} {rest : List Char}
    (h : attribute? s = some (a, rest)) : rest.length < s.length := by
  unfold attribute? at h
  split at h
  · next s =>
    split at h
    · next c name s' hname hrest =>
      split at h
      · next rest' hvalue =>
        rcases Option.map_eq_some_iff.1 h with ⟨value, -, heq⟩
        cases heq
        -- The name and the value are what was dropped on the way to the rest.
        have h1 := (List.dropWhile_sublist (l := s) isNameChar).length_le
        have h2 := (List.dropWhile_sublist (l := s') (· != '"')).length_le
        rw [hrest, List.length_cons, List.length_cons] at h1
        rw [hvalue, List.length_cons] at h2
        rw [List.length_cons]
        omega
      · cases h
    · cases h
  · cases h

/-- The reader of attributes. -/
def attributeReader : Reader Attribute :=
  ⟨attribute?, attribute?_shorter⟩

/-- Reads what stands between the angle brackets of a tag. -/
def tag? : List Char → Option Token
  | '/' :: s =>
    if s ≠ [] ∧ s.all isNameChar then some (.closing (String.ofList s)) else none
  | s =>
    match s.takeWhile isNameChar, s.dropWhile isNameChar with
    | [], _ => none
    | name, rest =>
      if rest.getLast? = some '/' then
        (attributeReader.all rest.dropLast).map (.empty (String.ofList name))
      else (attributeReader.all rest).map (.opening (String.ofList name))

/-- Reads the text of a section, up to the first mark that ends it. -/
def cdata? : List Char → Option (List Char × List Char)
  | ']' :: ']' :: '>' :: rest => some ([], rest)
  | c :: rest => (cdata? rest).map fun (text, rest) => (c :: text, rest)
  | [] => none

/-- Reads a token. -/
def token? : List Char → Option (Token × List Char)
  | '<' :: s =>
    match sectionStart.isPrefixOf? s with
    | some s => (cdata? s).map fun (text, rest) => (.cdata text, rest)
    | none =>
      match s.dropWhile (· != '>') with
      | '>' :: rest => (tag? (s.takeWhile (· != '>'))).map (·, rest)
      | _ => none
  | s => (symbol? s).map fun (x, rest) => (.symbol x, rest)

theorem cdata?_shorter {s text rest : List Char} (h : cdata? s = some (text, rest)) :
    rest.length < s.length := by
  induction s generalizing text with
  | nil => cases h
  | cons c s ih =>
    unfold cdata? at h
    split at h
    · next heq =>
      cases h
      rw [heq]
      simp only [List.length_cons]
      omega
    · next heq =>
      cases heq
      rcases Option.map_eq_some_iff.1 h with ⟨⟨text', rest'⟩, hsection, hresult⟩
      cases hresult
      exact Nat.lt_succ_of_lt (ih hsection)
    · cases h

theorem token?_shorter {s : List Char} {t : Token} {rest : List Char}
    (h : token? s = some (t, rest)) : rest.length < s.length := by
  unfold token? at h
  split at h
  · next s =>
    split at h
    · next s' hlead =>
      rcases Option.map_eq_some_iff.1 h with ⟨⟨text, rest'⟩, hsection, hresult⟩
      cases hresult
      have h1 := length_isPrefixOf? hlead
      have h2 := cdata?_shorter hsection
      rw [List.length_cons]
      omega
    · split at h
      · next rest' hrest =>
        rcases Option.map_eq_some_iff.1 h with ⟨t', -, hresult⟩
        cases hresult
        have hlength := (List.dropWhile_sublist (l := s) (· != '>')).length_le
        rw [hrest, List.length_cons] at hlength
        rw [List.length_cons]
        omega
      · cases h
  · rcases Option.map_eq_some_iff.1 h with ⟨⟨x, rest'⟩, hsymbol, hresult⟩
    cases hresult
    exact symbol?_shorter hsymbol

/-- The reader of tokens. -/
def tokenReader : Reader Token :=
  ⟨token?, token?_shorter⟩

/-- Reads markup. -/
def tokens? (s : List Char) : Option (List Token) :=
  tokenReader.all s

/-! ### Reading back -/

/-- Reading back item after item is reading back all. -/
theorem Reader.all_spell {α : Type} (r : Reader α) (spell : α → List Char) (as : List α)
    (h : ∀ a ∈ as, ∀ rest, r.read? (spell a ++ rest) = some (a, rest)) :
    r.all (as.flatMap spell) = some as := by
  induction as with
  | nil =>
    rw [List.flatMap_nil, Reader.all]
    exact if_pos rfl
  | cons a as ih =>
    have hread := h a List.mem_cons_self (as.flatMap spell)
    -- The reader takes something off, so there was something to read.
    have hsome : spell a ++ as.flatMap spell ≠ [] := by
      intro hnone
      have := r.shorter hread
      rw [hnone] at this
      exact absurd this (Nat.not_lt_zero _)
    rw [List.flatMap_cons, Reader.all, if_neg hsome]
    split
    · next heq =>
      rw [hread] at heq
      cases heq
      rw [ih fun b hb => h b (List.mem_cons_of_mem _ hb)]
      rfl
    · next heq =>
      rw [hread] at heq
      cases heq

theorem symbol?_spell {x : Symbol} (hx : x.Proper) (rest : List Char) :
    symbol? (x.spell ++ rest) = some (x, rest) := by
  cases x with
  | plain c =>
    simp only [Symbol.Proper, Symbol.reserved, List.mem_cons, List.not_mem_nil, or_false,
      not_or] at hx
    simp only [Symbol.spell, List.cons_append, List.nil_append, symbol?, hx.1, hx.2.1, hx.2.2.1,
      if_false, or_self]
  | entity e => cases e <;> rfl

/-- What is taken and what is left, where the first character that does not
belong is known. -/
theorem takeWhile_stop {p : Char → Bool} {s : List Char} (hs : ∀ c ∈ s, p c = true) (stop : Char)
    (hstop : p stop = false) (rest : List Char) :
    (s ++ stop :: rest).takeWhile p = s ∧ (s ++ stop :: rest).dropWhile p = stop :: rest := by
  rw [List.takeWhile_append_of_pos hs, List.dropWhile_append_of_pos hs]
  simp only [List.takeWhile_cons, List.dropWhile_cons, hstop, Bool.false_eq_true, if_false,
    List.append_nil, and_self]

/-- Proper symbols are written without quotes and angle brackets. -/
theorem Symbol.Proper.of_mem_spell {x : Symbol} (hx : x.Proper) {c : Char} (hc : c ∈ x.spell) :
    c ≠ '"' ∧ c ≠ '<' ∧ c ≠ '>' := by
  cases x with
  | plain d =>
    simp only [Symbol.spell, List.mem_singleton] at hc
    simp only [Symbol.Proper, Symbol.reserved, List.mem_cons, List.not_mem_nil, or_false,
      not_or] at hx
    rw [hc]
    exact ⟨hx.2.2.2, hx.2.1, hx.2.2.1⟩
  | entity e =>
    have hall : e.spell.all (fun d => d != '"' && d != '<' && d != '>') = true := by
      cases e <;> decide
    have hboth := List.all_eq_true.1 hall c hc
    simp only [Bool.and_eq_true, bne_iff_ne] at hboth
    exact ⟨hboth.1.1, hboth.1.2, hboth.2⟩

theorem symbols?_spell {value : List Symbol} (hvalue : ∀ x ∈ value, x.Proper) :
    symbolReader.all (value.flatMap Symbol.spell) = some value :=
  symbolReader.all_spell Symbol.spell value fun x hx => symbol?_spell (hvalue x hx)

theorem attribute?_spell {a : Attribute} (ha : a.Proper) (rest : List Char) :
    attribute? (a.spell ++ rest) = some (a, rest) := by
  rcases a with ⟨name, value⟩
  rcases ha with ⟨⟨hsome, hname⟩, hvalue⟩
  -- The name stops at the `=`, and the value at the quote behind it.
  have hquote : ∀ c ∈ value.flatMap Symbol.spell, (c != '"') = true := by
    intro c hc
    rcases List.mem_flatMap.1 hc with ⟨x, hx, hc⟩
    exact bne_iff_ne.2 ((hvalue x hx).of_mem_spell hc).1
  have hspell : (Attribute.mk name value).spell ++ rest =
      ' ' :: (name.toList ++ '=' :: '"' :: (value.flatMap Symbol.spell ++ '"' :: rest)) := by
    simp only [Attribute.spell, List.cons_append, List.append_assoc, List.nil_append]
  rcases takeWhile_stop hname '=' (by decide)
    ('"' :: (value.flatMap Symbol.spell ++ '"' :: rest)) with ⟨htake, hdrop⟩
  rcases takeWhile_stop hquote '"' (by decide) rest with ⟨htake', hdrop'⟩
  rcases hcons : name.toList with _ | ⟨c, tail⟩
  · exact absurd hcons hsome
  · rw [hspell]
    unfold attribute?
    simp only [htake, hdrop]
    simp only [hcons, htake', hdrop', symbols?_spell hvalue, Option.map_some]
    rw [← hcons, String.ofList_toList]

/-- Names are written without angle brackets. -/
theorem IsName.not_mem_angle {name : String} (h : IsName name) : '>' ∉ name.toList := by
  intro hmem
  have hfalse : isNameChar '>' = false := by decide
  rw [h.2 '>' hmem] at hfalse
  cases hfalse

/-- Attributes are written without angle brackets. -/
theorem Attribute.Proper.not_mem_angle {a : Attribute} (ha : a.Proper) : '>' ∉ a.spell := by
  intro hmem
  simp only [Attribute.spell, List.cons_append, List.mem_cons, List.mem_append,
    List.not_mem_nil, or_false] at hmem
  -- Only the name and the value are not written out here.
  rcases hmem with hblank | (hname | heq | hquote | hvalue) | hend
  · exact absurd hblank (by decide)
  · exact ha.1.not_mem_angle hname
  · exact absurd heq (by decide)
  · exact absurd hquote (by decide)
  · rcases List.mem_flatMap.1 hvalue with ⟨x, hx, hc⟩
    exact ((ha.2 x hx).of_mem_spell hc).2.2 rfl
  · exact absurd hend (by decide)

theorem not_mem_tagText {name : String} {as : List Attribute} (hname : IsName name)
    (has : ∀ a ∈ as, a.Proper) : '>' ∉ tagText name as := by
  intro hmem
  rcases List.mem_append.1 hmem with h | h
  · exact hname.not_mem_angle h
  · rcases List.mem_flatMap.1 h with ⟨a, ha, hc⟩
    exact (has a ha).not_mem_angle hc

/-- Attributes are written as nothing, or from a blank to a quote. -/
theorem flatMap_spell_ends (as : List Attribute) :
    as.flatMap Attribute.spell = [] ∨
      ∃ middle, as.flatMap Attribute.spell = ' ' :: middle ++ ['"'] := by
  induction as with
  | nil => exact Or.inl rfl
  | cons a as ih =>
    right
    rw [List.flatMap_cons]
    rcases ih with hnone | ⟨middle, hmiddle⟩
    · refine ⟨a.name.toList ++ '=' :: '"' :: a.value.flatMap Symbol.spell, ?_⟩
      rw [hnone, List.append_nil]
      rfl
    · refine ⟨a.name.toList ++ '=' :: '"' :: a.value.flatMap Symbol.spell ++ '"' :: ' ' :: middle,
        ?_⟩
      rw [hmiddle]
      simp only [Attribute.spell, List.cons_append, List.append_assoc, List.nil_append]

theorem attributes_spell {as : List Attribute} (has : ∀ a ∈ as, a.Proper) :
    attributeReader.all (as.flatMap Attribute.spell) = some as :=
  attributeReader.all_spell Attribute.spell as fun a ha => attribute?_spell (has a ha)

/-- A tag that starts with a name is read by what stands behind the name. -/
theorem tag?_append {name : String} (hname : IsName name) {rest : List Char}
    (hrest : ∀ c ∈ rest.head?, isNameChar c = false) :
    tag? (name.toList ++ rest) =
      if rest.getLast? = some '/' then
        (attributeReader.all rest.dropLast).map (.empty name)
      else (attributeReader.all rest).map (.opening name) := by
  -- What stands behind the name does not start like a name.
  have hnone : rest.takeWhile isNameChar = [] ∧ rest.dropWhile isNameChar = rest := by
    rcases rest with _ | ⟨c, rest⟩
    · exact ⟨rfl, rfl⟩
    · have hc := hrest c rfl
      simp only [List.takeWhile_cons, List.dropWhile_cons, hc, Bool.false_eq_true, if_false,
        and_self]
  have htake : (name.toList ++ rest).takeWhile isNameChar = name.toList := by
    rw [List.takeWhile_append_of_pos hname.2, hnone.1, List.append_nil]
  have hdrop : (name.toList ++ rest).dropWhile isNameChar = rest := by
    rw [List.dropWhile_append_of_pos hname.2, hnone.2]
  rcases hcons : name.toList with _ | ⟨c, tail⟩
  · exact absurd hcons hname.1
  · -- The first character belongs to the name, so this is no closing tag.
    have hslash : c ≠ '/' := by
      intro heq
      have hc := hname.2 c (hcons ▸ List.mem_cons_self)
      rw [heq] at hc
      exact absurd hc (by decide)
    have hname' : String.ofList (c :: tail) = name := by
      rw [← hcons, String.ofList_toList]
    rw [hcons] at htake hdrop
    unfold tag?
    split
    · next heq =>
      cases heq
      exact absurd rfl hslash
    · simp only [htake, hdrop, hname']

theorem tag?_opening {name : String} {as : List Attribute} (hname : IsName name)
    (has : ∀ a ∈ as, a.Proper) : tag? (tagText name as) = some (.opening name as) := by
  -- Attributes start with a blank and end with a quote, so the name ends
  -- before them and the tag does not close itself.
  have hends : (∀ c ∈ (as.flatMap Attribute.spell).head?, isNameChar c = false) ∧
      (as.flatMap Attribute.spell).getLast? ≠ some '/' := by
    rcases flatMap_spell_ends as with hnone | ⟨middle, hmiddle⟩
    · rw [hnone]
      exact ⟨fun c hc => (by cases hc), (by decide)⟩
    · rw [hmiddle, List.getLast?_concat]
      exact ⟨fun c hc => (by cases hc; decide), (by decide)⟩
  rw [tagText, tag?_append hname hends.1, if_neg hends.2, attributes_spell has]
  rfl

theorem tag?_empty {name : String} {as : List Attribute} (hname : IsName name)
    (has : ∀ a ∈ as, a.Proper) : tag? (tagText name as ++ ['/']) = some (.empty name as) := by
  -- The slash ends the name where there are no attributes.
  have hhead : ∀ c ∈ (as.flatMap Attribute.spell ++ ['/']).head?, isNameChar c = false := by
    rcases flatMap_spell_ends as with hnone | ⟨middle, hmiddle⟩
    · rw [hnone]
      exact fun c hc => (by cases hc; decide)
    · rw [hmiddle]
      exact fun c hc => (by cases hc; decide)
  rw [tagText, List.append_assoc, tag?_append hname hhead, List.getLast?_concat, if_pos rfl,
    List.dropLast_concat, attributes_spell has]
  rfl

theorem tag?_closing {name : String} (hname : IsName name) :
    tag? ('/' :: name.toList) = some (.closing name) := by
  have hall : name.toList.all isNameChar = true := List.all_eq_true.2 hname.2
  simp only [tag?, hname.1, hall, ne_eq, not_false_eq_true, and_self, if_true,
    String.ofList_toList]

/-- The text of a section is read up to the mark behind it, if it holds no
such mark itself. -/
theorem cdata?_append {text : List Char} (htext : ¬ sectionEnd <:+: text) (rest : List Char) :
    cdata? (text ++ sectionEnd ++ rest) = some (text, rest) := by
  induction text with
  | nil => rfl
  | cons c text ih =>
    have htail : ¬ sectionEnd <:+: text := fun h => htext (List.infix_cons_iff.2 (Or.inr h))
    rw [List.cons_append, List.cons_append]
    unfold cdata?
    split
    · next heq =>
      -- The mark would lie in the text, or reach into the mark behind it.
      exfalso
      rcases text with _ | ⟨d, _ | ⟨e, text⟩⟩
      · simp [sectionEnd] at heq
      · simp [sectionEnd] at heq
      · simp only [List.cons_append, List.cons.injEq] at heq
        rcases heq with ⟨rfl, rfl, rfl, -⟩
        exact htext ⟨[], text, rfl⟩
    · next heq =>
      cases heq
      rw [ih htail]
      rfl
    · next heq => cases heq

/-- A tag is read up to the first angle bracket. -/
theorem token?_tag {s : List Char} (hs : '>' ∉ s) (hlead : s.head? ≠ some '!')
    (rest : List Char) : token? ('<' :: (s ++ '>' :: rest)) = (tag? s).map (·, rest) := by
  have hinside : ∀ c ∈ s, (c != '>') = true := by
    intro c hc
    rw [bne_iff_ne]
    rintro rfl
    exact hs hc
  -- A section would start with an exclamation mark.
  have hsection : sectionStart.isPrefixOf? (s ++ '>' :: rest) = none := by
    refine Option.eq_none_iff_forall_ne_some.2 fun tail htail => ?_
    rw [List.isPrefixOf?_eq_some_iff_append_eq] at htail
    rcases s with _ | ⟨c, s⟩
    · cases htail
    · have hc : '!' = c := (List.cons.inj htail).1
      exact hlead (congrArg some hc.symm)
  rcases takeWhile_stop hinside '>' (by decide) rest with ⟨htake, hdrop⟩
  simp only [token?, hsection, htake, hdrop]

theorem head?_tagText {name : String} (hname : IsName name) (as : List Attribute)
    (rest : List Char) : (tagText name as ++ rest).head? ≠ some '!' := by
  rcases hcons : name.toList with _ | ⟨c, tail⟩
  · exact absurd hcons hname.1
  · have hc := hname.2 c (hcons ▸ List.mem_cons_self)
    rw [tagText, hcons]
    simp only [List.cons_append, List.head?_cons, ne_eq, Option.some.injEq]
    rintro rfl
    exact absurd hc (by decide)

/-- A token reads back. -/
theorem token?_spell {t : Token} (ht : t.Proper) (rest : List Char) :
    token? (t.spell ++ rest) = some (t, rest) := by
  cases t with
  | opening name as =>
    rcases ht with ⟨hname, has⟩
    have hspell : (Token.opening name as).spell ++ rest =
        '<' :: (tagText name as ++ '>' :: rest) := by
      simp only [Token.spell, List.cons_append, List.append_assoc, List.nil_append]
    have hlead := head?_tagText hname as []
    rw [List.append_nil] at hlead
    rw [hspell, token?_tag (not_mem_tagText hname has) hlead, tag?_opening hname has,
      Option.map_some]
  | closing name =>
    have hspell : (Token.closing name).spell ++ rest =
        '<' :: ('/' :: name.toList ++ '>' :: rest) := by
      simp only [Token.spell, List.cons_append, List.append_assoc, List.nil_append]
    have hangle : '>' ∉ '/' :: name.toList := by
      rw [List.mem_cons, not_or]
      exact ⟨by decide, IsName.not_mem_angle ht⟩
    have hlead : ('/' :: name.toList).head? ≠ some '!' := by
      rw [List.head?_cons]
      decide
    rw [hspell, token?_tag hangle hlead, tag?_closing ht, Option.map_some]
  | empty name as =>
    rcases ht with ⟨hname, has⟩
    have hspell : (Token.empty name as).spell ++ rest =
        '<' :: (tagText name as ++ ['/'] ++ '>' :: rest) := by
      simp only [Token.spell, List.cons_append, List.append_assoc, List.nil_append]
    have hangle : '>' ∉ tagText name as ++ ['/'] := by
      rw [List.mem_append, not_or]
      exact ⟨not_mem_tagText hname has, by decide⟩
    rw [hspell, token?_tag hangle (head?_tagText hname as ['/']), tag?_empty hname has,
      Option.map_some]
  | cdata text =>
    have hspell : (Token.cdata text).spell ++ rest =
        '<' :: (sectionStart ++ (text ++ sectionEnd ++ rest)) := by
      simp only [Token.spell, List.cons_append, List.append_assoc]
    have hlead : sectionStart.isPrefixOf? (sectionStart ++ (text ++ sectionEnd ++ rest)) =
        some (text ++ sectionEnd ++ rest) := List.isPrefixOf?_eq_some_iff_append_eq.2 rfl
    have hread := cdata?_append ht rest
    rw [hspell]
    simp only [token?, hlead, hread, Option.map_some]
  | symbol x =>
    have hread := symbol?_spell ht rest
    -- No symbol is written with an angle bracket, so this starts no tag.
    have hangle : ∀ tail, x.spell ++ rest ≠ '<' :: tail := by
      intro tail heq
      rcases hcons : x.spell with _ | ⟨c, cs⟩
      · cases x with
        | plain c => cases hcons
        | entity e => cases e <;> exact absurd hcons (by decide)
      · rw [hcons] at heq
        cases heq
        exact (Symbol.Proper.of_mem_spell ht (hcons ▸ List.mem_cons_self)).2.1 rfl
    change token? (x.spell ++ rest) = _
    unfold token?
    split
    · next tail heq => exact absurd heq (hangle tail)
    · rw [hread]
      rfl

/-- Proper tokens read back. -/
theorem tokens?_spell {ts : List Token} (hts : ∀ t ∈ ts, t.Proper) :
    tokens? (ts.flatMap Token.spell) = some ts :=
  tokenReader.all_spell Token.spell ts fun t ht => token?_spell (hts t ht)

end WikiSync.Markup
