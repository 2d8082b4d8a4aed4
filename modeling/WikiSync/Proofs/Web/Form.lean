import Mathlib.Data.List.Infix
import WikiSync.Text.Ascii
import WikiSync.Text.Blank
import WikiSync.Web.Multipart

/-!
# Reading Forms

A reader of forms, as far as it takes one to know what was sent. It is given the boundary
and some bytes. The parts are what stands between delimiters, and a delimiter ends the part
in front of it wherever it occurs: a reader cannot know whether it was meant to be data.
What stands in front of the first delimiter and behind the closing one is ignored.

A part has header lines, an empty line and data. A header line has a name and a value, and
blanks around the value do not belong to it. Line ends stand between lines only. The
disposition of a part is `form-data` with parameters, one of which is the name of the part.
The value of a parameter is a token, or it is quoted, and then a backslash quotes the
character behind it. Names and the disposition are read in any case.

## Main definitions

* `delimiter`: What ends a part.
* `cut?`: A text up to the first mark.
* `readQuoted?`, `readDisposition?`: The values of header lines.
* `FormPart`, `readForm?`: The parts of a form.

## Theorems

* `cut?_append`: A mark that is the first one.
* `exists_readQuoted?_iff`: Which texts are read as they are between quotes.
* `onOneLine_of_readForm?`: Line ends are not read into filenames.
-/

namespace WikiSync.Multipart

open Text (isLineBlank)

/-! ### The reader -/

/-- The bytes of a line end. -/
def lineEndBytes : Bytes := [13, 10]

/-- A mark in front of every part and behind the last one. -/
def delimiter (boundary : String) : Bytes :=
  lineEndBytes ++ Text.utf8 ("--" ++ boundary)

/-- Cuts a text at the first mark, which belongs to neither side. -/
def cut? {α : Type} [DecidableEq α] (mark : List α) : List α → Option (List α × List α)
  | [] => none
  | a :: as =>
    match mark.isPrefixOf? (a :: as) with
    | some rest => some ([], rest)
    | none => (cut? mark as).map fun (before, rest) => (a :: before, rest)

/-- The lines of a text, which line ends separate. -/
def linesOf : List Char → List (List Char)
  | [] => [[]]
  | '\r' :: '\n' :: cs => [] :: linesOf cs
  | c :: cs =>
    match linesOf cs with
    | line :: lines => (c :: line) :: lines
    | [] => [[c]]

/-- A text without the blanks at its ends. -/
def trimLineBlanks (cs : List Char) : List Char :=
  Text.dropEndWhile isLineBlank (cs.dropWhile isLineBlank)

/-- The characters of tokens. -/
def isTokenChar (c : Char) : Bool :=
  '!' ≤ c && c ≤ '~' && !("()<>@,;:\\\"/[]?=".toList.contains c)

/-- The name and the value of a header line. -/
def readField? (line : List Char) : Option (String × List Char) :=
  if '\r' ∈ line ∨ '\n' ∈ line then none
  else
    match line.span isTokenChar with
    | (c :: name, ':' :: value) =>
      some (String.ofList ((c :: name).map Char.toLower), trimLineBlanks value)
    | _ => none

/-- The text of a quoted value, behind its first quote. -/
def readQuoted? : List Char → Option (List Char × List Char)
  | [] => none
  | '"' :: cs => some ([], cs)
  | '\\' :: c :: cs => (readQuoted? cs).map fun (text, rest) => (c :: text, rest)
  | c :: cs => (readQuoted? cs).map fun (text, rest) => (c :: text, rest)

/-- The value of a parameter. -/
def readValue? : List Char → Option (List Char × List Char)
  | '"' :: cs => readQuoted? cs
  | cs =>
    match cs.span isTokenChar with
    | (c :: token, rest) => some (c :: token, rest)
    | ([], _) => none

/-- The parameters of a disposition, at most so many. -/
def readParameters? : Nat → List Char → Option (List (String × List Char))
  | 0, _ => none
  | fuel + 1, cs =>
    match cs.dropWhile isLineBlank with
    | [] => some []
    | ';' :: cs =>
      match (cs.dropWhile isLineBlank).span isTokenChar with
      | (c :: name, '=' :: cs) => do
        let (value, rest) ← readValue? cs
        let parameters ← readParameters? fuel rest
        some ((String.ofList ((c :: name).map Char.toLower), value) :: parameters)
      | _ => none
    | _ => none

/-- The parameters of a disposition, if it is that of a part of a form. -/
def readDisposition? (cs : List Char) : Option (List (String × List Char)) :=
  let (kind, rest) := cs.span isTokenChar
  if String.ofList (kind.map Char.toLower) = "form-data" then
    readParameters? (rest.length + 1) rest
  else none

/-- A part of a form. -/
structure FormPart where
  name : String
  filename : Option String
  contentType : Option String
  data : Bytes
deriving DecidableEq

/-- The part with some header lines and some data. -/
def partOf? (fields : List (String × List Char)) (data : Bytes) : Option FormPart := do
  let parameters ← readDisposition? (← fields.lookup "content-disposition")
  let name ← parameters.lookup "name"
  some ⟨String.ofList name, (parameters.lookup "filename").map String.ofList,
    (fields.lookup "content-type").map String.ofList, data⟩

/-- Reads a part. Every header line starts with a line end, and so does the empty line that
is the last one. -/
def readPart? (bytes : Bytes) : Option FormPart := do
  let (header, data) ← cut? (lineEndBytes ++ lineEndBytes) bytes
  match linesOf (← Text.ofUtf8? header).toList with
  | [] :: lines => partOf? (← lines.mapM readField?) data
  | _ => none

/-- Reads the parts behind a delimiter, at most so many. There may be blanks behind a
delimiter, and dashes if it is the closing one. -/
def readParts? (boundary : String) : Nat → Bytes → Option (List FormPart)
  | 0, _ => none
  | fuel + 1, bytes =>
    if [45, 45] <+: bytes then some []
    else do
      let (part, rest) ← cut? (delimiter boundary) (bytes.dropWhile fun b => b = 32 ∨ b = 9)
      let part ← readPart? part
      let parts ← readParts? boundary fuel rest
      some (part :: parts)

/-- Reads a form. The first delimiter may be without its line end. -/
def readForm? (boundary : String) (body : Bytes) : Option (List FormPart) := do
  let (_, rest) ← cut? (delimiter boundary) (lineEndBytes ++ body)
  readParts? boundary (rest.length + 1) rest

/-! ### The first mark -/

section Cut

variable {α : Type} [DecidableEq α]

/-- A mark at the start is the first one. -/
theorem cut?_append_self {a : α} (as rest : List α) :
    cut? (a :: as) ((a :: as) ++ rest) = some ([], rest) := by
  have hprefix : (a :: as).isPrefixOf? ((a :: as) ++ rest) = some rest :=
    List.isPrefixOf?_eq_some_iff_append_eq.2 rfl
  rw [List.cons_append] at hprefix ⊢
  rw [cut?, hprefix]

/-- Without a mark at the start, the first one is that of the rest. -/
theorem cut?_cons {mark : List α} {a : α} {as : List α} (h : ¬ mark <+: a :: as) :
    cut? mark (a :: as) = (cut? mark as).map (Prod.map (a :: ·) id) := by
  rcases hprefix : mark.isPrefixOf? (a :: as) with _ | rest
  · rw [cut?, hprefix]
    rfl
  · exact absurd ⟨rest, List.isPrefixOf?_eq_some_iff_append_eq.1 hprefix⟩ h

/-- A text without the start of the mark comes in front of the first one. -/
theorem cut?_append_of_not_mem {m : α} {ms before : List α} (h : m ∉ before) (as : List α) :
    cut? (m :: ms) (before ++ as) = (cut? (m :: ms) as).map (Prod.map (before ++ ·) id) := by
  induction before with
  | nil => exact Option.map_id'.symm
  | cons a before ih =>
    rcases List.ne_and_not_mem_of_not_mem_cons h with ⟨hne, hnot⟩
    have hprefix : ¬ m :: ms <+: a :: (before ++ as) := fun hp => hne (List.cons_prefix_cons.1 hp).1
    rw [List.cons_append, cut?_cons hprefix, ih hnot, Option.map_map]
    rfl

/-- A mark whose start does not come again in it is found behind a text that holds no
mark, because it cannot overlap another one. -/
theorem cut?_append {m : α} {ms text : List α} (hm : m ∉ ms) (h : ¬ m :: ms <:+: text)
    (rest : List α) : cut? (m :: ms) (text ++ (m :: ms ++ rest)) = some (text, rest) := by
  induction text with
  | nil => exact cut?_append_self ms rest
  | cons a text ih =>
    have hprefix : ¬ m :: ms <+: a :: (text ++ (m :: ms ++ rest)) := by
      intro hp
      have hmark : m :: ms <+: (a :: text) ++ (m :: ms ++ rest) := hp
      rcases List.prefix_or_prefix_of_prefix hmark (List.prefix_append (a :: text) _) with
        hin | ⟨more, hmore⟩
      · exact h hin.isInfix
      · -- The mark runs over the end of the text, into one that starts behind it.
        nth_rewrite 1 [← hmore] at hmark
        have hnext := (List.prefix_append_right_inj (a :: text)).1 hmark
        rcases more with _ | ⟨b, more⟩
        · rw [List.append_nil] at hmore
          exact h (hmore ▸ List.infix_rfl)
        · obtain ⟨rfl, -⟩ := List.cons_prefix_cons.1 hnext
          have htail := (List.cons.inj hmore).2
          exact hm (htail ▸ List.mem_append_right text List.mem_cons_self)
    rw [List.cons_append, cut?_cons hprefix, ih fun hin => h (List.infix_cons hin)]
    rfl

end Cut

/-! ### Quoted values -/

/-- A text that stands for itself between quotes. -/
def QuotesAsIs (cs : List Char) : Prop :=
  '"' ∉ cs ∧ '\\' ∉ cs

theorem quotesAsIs_cons {c : Char} {cs : List Char} :
    QuotesAsIs (c :: cs) ↔ c ≠ '"' ∧ c ≠ '\\' ∧ QuotesAsIs cs := by
  simp only [QuotesAsIs, List.mem_cons, not_or, eq_comm]
  tauto

/-- Such a text is read up to the quote behind it. -/
theorem readQuoted?_append_quote {text : List Char} (h : QuotesAsIs text) (rest : List Char) :
    readQuoted? (text ++ '"' :: rest) = some (text, rest) := by
  induction text with
  | nil => rfl
  | cons c text ih =>
    rcases quotesAsIs_cons.1 h with ⟨hquote, hbackslash, htext⟩
    rw [List.cons_append, readQuoted?, ih htext]
    · rfl
    · exact hquote
    · exact fun _ _ heq => absurd heq hbackslash

/-- What is read, the quote and the rest stand in the text in this order. Only backslashes
may be missing. -/
theorem sublist_of_readQuoted? {cs text rest : List Char}
    (h : readQuoted? cs = some (text, rest)) : (text ++ '"' :: rest).Sublist cs := by
  fun_induction readQuoted? cs generalizing text with
  | case1 => cases h
  | case2 =>
    cases h
    exact .refl _
  | case3 c cs ih =>
    rcases Option.map_eq_some_iff.1 h with ⟨⟨text', rest'⟩, hread, heq⟩
    cases heq
    exact ((ih hread).cons_cons c).cons '\\'
  | case4 c cs _ _ ih =>
    rcases Option.map_eq_some_iff.1 h with ⟨⟨text', rest'⟩, hread, heq⟩
    cases heq
    exact (ih hread).cons_cons c

/-- A text that is read as it is stands for itself. -/
theorem quotesAsIs_of_readQuoted? {text rest : List Char}
    (h : readQuoted? (text ++ '"' :: rest) = some (text, rest)) : QuotesAsIs text := by
  induction text with
  | nil => exact ⟨List.not_mem_nil, List.not_mem_nil⟩
  | cons c text ih =>
    have hquote : c ≠ '"' := by
      rintro rfl
      cases h
    have hbackslash : c ≠ '\\' := by
      rintro rfl
      -- The backslash is not read, and what is behind it is too short.
      obtain ⟨d, cs, hcs⟩ : ∃ d cs, text ++ '"' :: rest = d :: cs :=
        List.exists_cons_of_ne_nil (by simp)
      rw [List.cons_append, hcs, readQuoted?] at h
      rcases Option.map_eq_some_iff.1 h with ⟨⟨text', rest'⟩, hread, heq⟩
      cases heq
      have hlength := (sublist_of_readQuoted? hread).length_le
      rw [hcs, List.length_cons] at hlength
      omega
    rw [List.cons_append, readQuoted?] at h
    · rcases Option.map_eq_some_iff.1 h with ⟨⟨text', rest'⟩, hread, heq⟩
      cases heq
      exact quotesAsIs_cons.2 ⟨hquote, hbackslash, ih hread⟩
    · exact hquote
    · exact fun _ _ heq => absurd heq hbackslash

/-- Which texts can be read as they are between quotes. -/
theorem exists_readQuoted?_iff (text : List Char) :
    (∃ rest, readQuoted? (text ++ ['"']) = some (text, rest)) ↔ QuotesAsIs text := by
  constructor
  · rintro ⟨rest, h⟩
    have hrest : rest = [] := by simpa using (sublist_of_readQuoted? h).length_le
    subst hrest
    exact quotesAsIs_of_readQuoted? h
  · exact fun h => ⟨[], readQuoted?_append_quote h []⟩

/-! ### Line ends -/

/-- A text without line ends, or parts of them. -/
def OnOneLine (cs : List Char) : Prop :=
  '\r' ∉ cs ∧ '\n' ∉ cs

theorem OnOneLine.mono {cs ds : List Char} (h : OnOneLine ds) (hsub : cs ⊆ ds) : OnOneLine cs :=
  ⟨fun hr => h.1 (hsub hr), fun hn => h.2 (hsub hn)⟩

theorem OnOneLine.append {cs ds : List Char} (h : OnOneLine cs) (h' : OnOneLine ds) :
    OnOneLine (cs ++ ds) :=
  ⟨fun hr => (List.mem_append.1 hr).elim h.1 h'.1, fun hn => (List.mem_append.1 hn).elim h.2 h'.2⟩

theorem span_subset {p : Char → Bool} {cs before rest : List Char}
    (h : cs.span p = (before, rest)) : before ⊆ cs ∧ rest ⊆ cs := by
  rw [List.span_eq_takeWhile_dropWhile] at h
  cases h
  exact ⟨List.takeWhile_subset p, (List.dropWhile_suffix p).subset⟩

theorem trimLineBlanks_subset (cs : List Char) : trimLineBlanks cs ⊆ cs := by
  unfold trimLineBlanks Text.dropEndWhile
  intro c hc
  have hin := (List.dropWhile_suffix _).subset (List.mem_reverse.1 hc)
  exact (List.dropWhile_suffix _).subset (List.mem_reverse.1 hin)

theorem onOneLine_of_readField? {line value : List Char} {name : String}
    (h : readField? line = some (name, value)) : OnOneLine value := by
  unfold readField? at h
  split at h
  · cases h
  · rename_i hline
    split at h
    · rename_i heq
      cases h
      have hline' : OnOneLine line := not_or.1 hline
      exact hline'.mono fun c hc =>
        (span_subset heq).2 (List.mem_cons_of_mem _ (trimLineBlanks_subset _ hc))
    · cases h

theorem subset_of_readValue? {cs value rest : List Char} (h : readValue? cs = some (value, rest)) :
    value ⊆ cs ∧ rest ⊆ cs := by
  unfold readValue? at h
  split at h
  · rename_i inside
    have hsub := (sublist_of_readQuoted? h).subset
    refine ⟨fun c hc => ?_, fun c hc => ?_⟩
    · exact List.mem_cons_of_mem _ (hsub (List.mem_append_left _ hc))
    · have hbehind := List.mem_append_right value (List.mem_cons_of_mem '"' hc)
      exact List.mem_cons_of_mem _ (hsub hbehind)
  · split at h
    · rename_i heq
      cases h
      exact span_subset heq
    · cases h

theorem subset_of_readParameters? {fuel : Nat} {cs : List Char}
    {parameters : List (String × List Char)} (h : readParameters? fuel cs = some parameters) :
    ∀ parameter ∈ parameters, parameter.2 ⊆ cs := by
  fun_induction readParameters? fuel cs generalizing parameters with
  | case1 => cases h
  | case2 =>
    cases h
    exact List.forall_mem_nil _
  | case3 _ cs behind hcs c name inside hname ih =>
    rcases Option.bind_eq_some_iff.1 h with ⟨⟨value, rest⟩, hvalue, hrest⟩
    rcases Option.bind_eq_some_iff.1 hrest with ⟨parameters', hparameters, heq⟩
    cases heq
    have hinside : inside ⊆ cs := fun d hd => by
      have hbehind := (span_subset hname).2 (List.mem_cons_of_mem _ hd)
      have hmem := List.mem_cons_of_mem ';' ((List.dropWhile_suffix _).subset hbehind)
      exact (List.dropWhile_suffix _).subset (hcs ▸ hmem)
    rcases subset_of_readValue? hvalue with ⟨hin, hout⟩
    refine List.forall_mem_cons.2 ⟨List.Subset.trans hin hinside, fun parameter hmem => ?_⟩
    exact List.Subset.trans (ih rest hparameters parameter hmem) (List.Subset.trans hout hinside)
  | case4 => cases h
  | case5 => cases h

theorem mem_of_lookup_eq_some {β : Type} {es : List (String × β)} {k : String} {v : β}
    (h : es.lookup k = some v) : (k, v) ∈ es := by
  rcases List.lookup_eq_some_iff.1 h with ⟨before, after, rfl, -⟩
  exact List.mem_append_right _ List.mem_cons_self

theorem exists_of_mem_mapM {α β : Type} {f : α → Option β} {as : List α} {bs : List β}
    (h : as.mapM f = some bs) {b : β} (hb : b ∈ bs) : ∃ a, f a = some b := by
  induction as generalizing bs with
  | nil =>
    cases h
    exact absurd hb List.not_mem_nil
  | cons a as ih =>
    rw [List.mapM_cons] at h
    rcases Option.bind_eq_some_iff.1 h with ⟨c, hc, h⟩
    rcases Option.bind_eq_some_iff.1 h with ⟨cs, hcs, heq⟩
    cases heq
    rcases List.mem_cons.1 hb with rfl | hb
    · exact ⟨a, hc⟩
    · exact ih hcs hb

/-- The filename of a part was in one of its header lines. -/
theorem onOneLine_of_partOf? {fields : List (String × List Char)} {data : Bytes} {part : FormPart}
    (hfields : ∀ field ∈ fields, OnOneLine field.2) (h : partOf? fields data = some part)
    {filename : String} (hfilename : part.filename = some filename) :
    OnOneLine filename.toList := by
  rcases Option.bind_eq_some_iff.1 h with ⟨disposition, hdisposition, h⟩
  rcases Option.bind_eq_some_iff.1 h with ⟨parameters, hparameters, h⟩
  rcases Option.bind_eq_some_iff.1 h with ⟨name, -, h⟩
  cases h
  rcases Option.map_eq_some_iff.1 hfilename with ⟨cs, hcs, rfl⟩
  rw [String.toList_ofList]
  have hline := hfields _ (mem_of_lookup_eq_some hdisposition)
  unfold readDisposition? at hparameters
  split at hparameters
  · rename_i kind rest hkind
    split at hparameters
    · have hsub := subset_of_readParameters? hparameters _ (mem_of_lookup_eq_some hcs)
      exact hline.mono (List.Subset.trans hsub (span_subset hkind).2)
    · cases hparameters

theorem onOneLine_of_readPart? {bytes : Bytes} {part : FormPart} (h : readPart? bytes = some part)
    {filename : String} (hfilename : part.filename = some filename) :
    OnOneLine filename.toList := by
  rcases Option.bind_eq_some_iff.1 h with ⟨⟨header, data⟩, -, h⟩
  rcases Option.bind_eq_some_iff.1 h with ⟨text, -, h⟩
  split at h
  · rcases Option.bind_eq_some_iff.1 h with ⟨fields, hread, h⟩
    refine onOneLine_of_partOf? (fun field hfield => ?_) h hfilename
    rcases exists_of_mem_mapM hread hfield with ⟨line, hline⟩
    exact onOneLine_of_readField? hline
  · cases h

/-- Every part that is read was between delimiters. -/
theorem exists_of_readParts? {boundary : String} {fuel : Nat} {bytes : Bytes}
    {parts : List FormPart} (h : readParts? boundary fuel bytes = some parts) :
    ∀ part ∈ parts, ∃ between, readPart? between = some part := by
  induction fuel generalizing bytes parts with
  | zero => cases h
  | succ fuel ih =>
    unfold readParts? at h
    split at h
    · cases h
      exact List.forall_mem_nil _
    · rcases Option.bind_eq_some_iff.1 h with ⟨⟨between, rest⟩, -, h⟩
      rcases Option.bind_eq_some_iff.1 h with ⟨part, hpart, h⟩
      rcases Option.bind_eq_some_iff.1 h with ⟨parts', hparts, heq⟩
      cases heq
      exact List.forall_mem_cons.2 ⟨⟨between, hpart⟩, ih hparts⟩

/-- Line ends are not read into filenames. -/
theorem onOneLine_of_readForm? {boundary : String} {body : Bytes} {parts : List FormPart}
    (h : readForm? boundary body = some parts) :
    ∀ part ∈ parts, ∀ filename, part.filename = some filename → OnOneLine filename.toList := by
  intro part hpart filename hfilename
  rcases Option.bind_eq_some_iff.1 h with ⟨⟨_, rest⟩, -, hparts⟩
  rcases exists_of_readParts? hparts part hpart with ⟨between, hread⟩
  exact onOneLine_of_readPart? hread hfilename

end WikiSync.Multipart
