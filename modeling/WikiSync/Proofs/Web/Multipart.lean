import WikiSync.Proofs.Text.Utf8
import WikiSync.Proofs.Web.Form

/-!
# Forms Read Back

A form with one file, and what a reader makes of it.

The data comes back whatever it is, as long as the dashes and the boundary do not occur in
it. It may end with a line end, or with the start of a delimiter: the delimiter behind it
has no second carriage return, so it cannot overlap one that starts in the data
(`cut?_append`). The header lines hold no delimiter, because a delimiter starts like a line
that starts with a dash. The content type comes back without the blanks at its ends, which
do not belong to it.

The filename is written between quotes as it is. So what comes back is the filename if it
stands for itself between quotes, on one line. Otherwise it is not: a quote ends it, a
backslash is lost, and a line end ends the header line. That these are all the filenames
that come back is `file_reads_back`.

## Theorems

* `Text.carriageReturn_of_mem_utf8`: Line ends in the bytes of a text.
* `cut?_headerText`: Header lines hold no delimiter.
* `readForm?_file_eq`, `readPart?_headerText`: The part of a form, and its header lines.
* `partOf?_fileFields`: The part that they give.
* `file_reads_back`: Which filenames come back.
* `not_every_filename_read`: A filename that does not.
-/

namespace WikiSync

/-! ### The bytes of a text -/

namespace Text

/-- The bytes of other characters than those of ASCII are large. -/
theorem carriageReturn_of_mem_utf8EncodeChar {c : Char} (h : 13 ∈ String.utf8EncodeChar c) :
    c = '\r' := by
  have hbyte (n : Nat) (hn : n < 256) (h : 13 = UInt8.ofNat n) : n = 13 := by
    have heq := congrArg UInt8.toNat h
    rw [UInt8.toNat_ofNat_of_lt' hn] at heq
    exact heq.symm
  have hval : c.val.toNat = 13 := by
    revert h
    fun_cases String.utf8EncodeChar c
    all_goals
      simp only [List.mem_cons, List.not_mem_nil, or_false]
      intro h
    · exact hbyte _ (by omega) h
    · rcases h with h | h
      all_goals exact absurd (hbyte _ (by omega) h) (by omega)
    · rcases h with h | h | h
      all_goals exact absurd (hbyte _ (by omega) h) (by omega)
    · rcases h with h | h | h | h
      all_goals exact absurd (hbyte _ (by omega) h) (by omega)
  exact Char.ext (UInt32.toNat_inj.1 hval)

theorem carriageReturn_of_mem_utf8 {s : String} (h : 13 ∈ utf8 s) : '\r' ∈ s.toList := by
  rw [utf8_eq_flatMap] at h
  rcases List.mem_flatMap.1 h with ⟨c, hc, hbyte⟩
  exact carriageReturn_of_mem_utf8EncodeChar hbyte ▸ hc

end Text

namespace Multipart

open Text (isLineBlank)

/-! ### Delimiters -/

/-- The header lines of a form with one file. -/
def fileLines (filename contentType : String) : List String :=
  ["Content-Disposition: form-data; name=\"file\"; filename=\"" ++ filename ++ "\"",
    "Content-Type: " ++ contentType]

/-- Header lines, each behind a line end. -/
def headerText : List String → String
  | [] => ""
  | line :: lines => lineEnd ++ line ++ headerText lines

theorem utf8_lineEnd : Text.utf8 lineEnd = lineEndBytes := by decide

/-- A form, starting with a delimiter. -/
theorem lineEnd_append_file (boundary filename : String) (data : Bytes) (contentType : String) :
    lineEndBytes ++ file boundary filename data contentType =
      delimiter boundary ++
        (Text.utf8 (headerText (fileLines filename contentType)) ++
          (lineEndBytes ++ lineEndBytes ++ data ++ (delimiter boundary ++ [45, 45, 13, 10]))) := by
  have hheader : header boundary filename contentType = ("--" ++ boundary) ++
      (headerText (fileLines filename contentType) ++ (lineEnd ++ lineEnd)) := by
    unfold header
    simp only [fileLines, headerText, String.append_assoc, String.append_empty]
  have hfooter : footer boundary = lineEnd ++ (("--" ++ boundary) ++ ("--" ++ lineEnd)) := by
    simp only [footer, String.append_assoc]
  have hdashes : Text.utf8 "--" = [45, 45] := by decide
  rw [file, hheader, hfooter, delimiter]
  generalize "--" ++ boundary = dashes
  simp only [Text.utf8_append, utf8_lineEnd, hdashes, List.append_assoc]
  rfl

theorem delimiter_eq (boundary : String) :
    delimiter boundary = 13 :: 10 :: Text.utf8 ("--" ++ boundary) :=
  rfl

theorem utf8_dashes (boundary : String) : ∃ bytes, Text.utf8 ("--" ++ boundary) = 45 :: bytes :=
  ⟨_, by rw [Text.utf8_append]; rfl⟩

theorem utf8_fileLines (filename contentType : String) :
    ∃ bytes, Text.utf8 (headerText (fileLines filename contentType)) = 13 :: bytes :=
  ⟨_, by rw [fileLines, headerText, Text.utf8_append, Text.utf8_append]; rfl⟩

/-- A delimiter has one carriage return. -/
theorem not_mem_delimiter_tail {boundary : String} (h : '\r' ∉ boundary.toList) :
    13 ∉ (10 :: Text.utf8 ("--" ++ boundary) : Bytes) := by
  refine List.not_mem_cons_of_ne_of_not_mem (by decide) fun hmem => ?_
  have hin := Text.carriageReturn_of_mem_utf8 hmem
  rw [String.toList_append] at hin
  rcases List.mem_append.1 hin with hdash | hboundary
  · exact absurd hdash (by decide)
  · exact h hboundary

/-- Lines that start like the header lines of a form. -/
structure StartsField (line : String) : Prop where
  oneLine : OnOneLine line.toList
  start : ∃ bytes, Text.utf8 line = 67 :: bytes

theorem startsField_of_mem {filename contentType : String} (hfilename : OnOneLine filename.toList)
    (hcontentType : OnOneLine contentType.toList) :
    ∀ line ∈ fileLines filename contentType, StartsField line := by
  refine List.forall_mem_cons.2 ⟨⟨?_, ?_⟩, List.forall_mem_singleton.2 ⟨?_, ?_⟩⟩
  · rw [String.toList_append, String.toList_append]
    exact .append (.append ⟨by decide, by decide⟩ hfilename) ⟨by decide, by decide⟩
  · exact ⟨_, by rw [Text.utf8_append, Text.utf8_append]; rfl⟩
  · rw [String.toList_append]
    exact .append ⟨by decide, by decide⟩ hcontentType
  · exact ⟨_, by rw [Text.utf8_append]; rfl⟩

/-- Header lines hold no mark with another start than theirs. -/
theorem cut?_headerText {lines : List String} (h : ∀ line ∈ lines, StartsField line) {b : UInt8}
    (hb : b ≠ 67) (mark rest : Bytes) :
    cut? (13 :: 10 :: b :: mark) (Text.utf8 (headerText lines) ++ rest) =
      (cut? (13 :: 10 :: b :: mark) rest).map
        (Prod.map (Text.utf8 (headerText lines) ++ ·) id) := by
  induction lines with
  | nil => exact Option.map_id'.symm
  | cons line lines ih =>
    rcases List.forall_mem_cons.1 h with ⟨⟨⟨hline, -⟩, bytes, hbytes⟩, hlines⟩
    have htext : Text.utf8 (headerText (line :: lines)) =
        13 :: ((10 :: Text.utf8 line) ++ Text.utf8 (headerText lines)) := by
      rw [headerText, Text.utf8_append, Text.utf8_append, utf8_lineEnd]
      rfl
    have hprefix : ¬ 13 :: 10 :: b :: mark <+:
        13 :: ((10 :: Text.utf8 line) ++ (Text.utf8 (headerText lines) ++ rest)) := by
      rw [hbytes]
      rintro ⟨tail, htail⟩
      exact hb (List.cons.inj (List.cons.inj (List.cons.inj htail).2).2).1
    have hnot : 13 ∉ (10 :: Text.utf8 line : Bytes) :=
      List.not_mem_cons_of_ne_of_not_mem (by decide) fun hmem =>
        hline (Text.carriageReturn_of_mem_utf8 hmem)
    rw [htext, List.cons_append, List.append_assoc, cut?_cons hprefix, cut?_append_of_not_mem hnot,
      ih hlines, Option.map_map, Option.map_map]
    congr 1
    funext p
    simp [Prod.map]

/-- The dashes and the boundary are all that a delimiter needs behind a line end. -/
theorem delimiter_absent {boundary : String} {data : Bytes}
    (h : ¬ Text.utf8 ("--" ++ boundary) <:+: data) :
    ¬ delimiter boundary <:+: lineEndBytes ++ lineEndBytes ++ data := by
  rcases utf8_dashes boundary with ⟨bytes, hbytes⟩
  have hnone : ¬ delimiter boundary <:+: data := fun hin =>
    h ((List.suffix_append lineEndBytes _).isInfix.trans hin)
  rw [delimiter_eq, hbytes] at hnone ⊢
  rw [hbytes] at h
  change ¬ _ <:+: 13 :: 10 :: 13 :: 10 :: data
  -- Only the second line end may be that of a delimiter.
  simp only [List.infix_cons_iff, List.cons_prefix_cons, not_or]
  refine ⟨fun hp => ?_, fun hp => ?_, fun hp => h hp.2.2.isInfix, fun hp => ?_, hnone⟩
  · exact absurd hp.2.2.1 (by decide)
  · exact absurd hp.1 (by decide)
  · exact absurd hp.1 (by decide)

/-- Between two delimiters there is a part, as long as more than one may be read. -/
theorem readParts?_of_cut {boundary : String} {tail part close : Bytes}
    (h : cut? (delimiter boundary) (13 :: tail) = some (part, 45 :: 45 :: close)) (fuel : Nat) :
    readParts? boundary (fuel + 2) (13 :: tail) = (readPart? part).map fun part => [part] := by
  have hdashes : ¬ [45, 45] <+: 13 :: tail := fun hp =>
    absurd (List.cons_prefix_cons.1 hp).1 (by decide)
  have hclose : readParts? boundary (fuel + 1) (45 :: 45 :: close) = some [] := by
    rw [readParts?, if_pos ⟨close, rfl⟩]
  have hblank : (13 :: tail).dropWhile (fun b : UInt8 => b = 32 ∨ b = 9) = 13 :: tail := rfl
  rw [readParts?, if_neg hdashes, hblank, h]
  simp only [Option.bind_eq_bind, Option.bind_some, hclose]
  rcases readPart? part with _ | part <;> rfl

/-- The part of a form is what stands between its delimiters. -/
theorem readForm?_file_eq {boundary filename contentType : String} {data : Bytes}
    (hboundary : '\r' ∉ boundary.toList) (hdata : ¬ Text.utf8 ("--" ++ boundary) <:+: data)
    (hfilename : OnOneLine filename.toList) (hcontentType : OnOneLine contentType.toList) :
    readForm? boundary (file boundary filename data contentType) =
      (readPart? (Text.utf8 (headerText (fileLines filename contentType)) ++
        (lineEndBytes ++ lineEndBytes ++ data))).map fun part => [part] := by
  -- The first delimiter is at the start, and the next one ends the part.
  have hfirst : ∀ rest, cut? (delimiter boundary) (delimiter boundary ++ rest) = some ([], rest) :=
    cut?_append_self _
  have hsecond : cut? (delimiter boundary)
      (Text.utf8 (headerText (fileLines filename contentType)) ++
        (lineEndBytes ++ lineEndBytes ++ data ++ (delimiter boundary ++ [45, 45, 13, 10]))) =
      some (Text.utf8 (headerText (fileLines filename contentType)) ++
        (lineEndBytes ++ lineEndBytes ++ data), [45, 45, 13, 10]) := by
    have hrest := cut?_append (not_mem_delimiter_tail hboundary) (delimiter_absent hdata)
      [45, 45, 13, 10]
    rcases utf8_dashes boundary with ⟨bytes, hbytes⟩
    rw [delimiter_eq]
    rw [hbytes] at hrest ⊢
    rw [cut?_headerText (startsField_of_mem hfilename hcontentType) (by decide), hrest]
    rfl
  rcases utf8_fileLines filename contentType with ⟨bytes, hbytes⟩
  rw [hbytes, List.cons_append] at hsecond ⊢
  rw [readForm?, lineEnd_append_file, hfirst, hbytes]
  exact readParts?_of_cut hsecond _

/-! ### Header lines -/

theorem linesOf_append {line cs : List Char} {lines : List (List Char)} (h : '\r' ∉ line)
    (hcs : linesOf cs = [] :: lines) : linesOf (line ++ cs) = line :: lines := by
  induction line with
  | nil => exact hcs
  | cons c line ih =>
    rcases List.ne_and_not_mem_of_not_mem_cons h with ⟨hc, hline⟩
    rw [List.cons_append, linesOf, ih hline]
    exact fun _ heq => absurd heq.symm hc

theorem linesOf_headerText {lines : List String} (h : ∀ line ∈ lines, '\r' ∉ line.toList) :
    linesOf (headerText lines).toList = [] :: lines.map String.toList := by
  induction lines with
  | nil => rfl
  | cons line lines ih =>
    rcases List.forall_mem_cons.1 h with ⟨hline, hlines⟩
    have htext : (headerText (line :: lines)).toList =
        '\r' :: '\n' :: (line.toList ++ (headerText lines).toList) := by
      rw [headerText, String.toList_append, String.toList_append]
      rfl
    rw [htext, linesOf, linesOf_append hline (ih hlines), List.map_cons]

/-- Header lines are read from what stands in front of the empty line. -/
theorem readPart?_headerText {lines : List String} (h : ∀ line ∈ lines, StartsField line)
    (data : Bytes) :
    readPart? (Text.utf8 (headerText lines) ++ (lineEndBytes ++ lineEndBytes ++ data)) =
      (lines.mapM fun line => readField? line.toList).bind fun fields => partOf? fields data := by
  have hcut : cut? (lineEndBytes ++ lineEndBytes)
      (Text.utf8 (headerText lines) ++ (lineEndBytes ++ lineEndBytes ++ data)) =
        some (Text.utf8 (headerText lines), data) := by
    have hends : cut? [13, 10, 13, 10] ([13, 10, 13, 10] ++ data) = some ([], data) :=
      cut?_append_self _ data
    have hheader := cut?_headerText h (by decide : (13 : UInt8) ≠ 67) [10]
      ([13, 10, 13, 10] ++ data)
    rw [hends, Option.map_some, Prod.map, List.append_nil] at hheader
    exact hheader
  unfold readPart?
  rw [hcut]
  simp only [Option.bind_eq_bind, Option.bind_some, Text.ofUtf8?_utf8,
    linesOf_headerText fun line hline => (h line hline).oneLine.1, List.mapM_map]
  rfl

/-- A token ends in front of the first other character. -/
theorem span_isTokenChar {name : List Char} {c : Char} (hname : name.all isTokenChar)
    (hc : ¬ isTokenChar c) (cs : List Char) :
    (name ++ c :: cs).span isTokenChar = (name, c :: cs) := by
  have hall := List.all_eq_true.1 hname
  rw [List.span_eq_takeWhile_dropWhile, List.takeWhile_append_of_pos hall,
    List.dropWhile_append_of_pos hall, List.takeWhile_cons_of_neg hc,
    List.dropWhile_cons_of_neg hc, List.append_nil]

theorem readField?_append {c : Char} {name value : List Char}
    (hname : (c :: name).all isTokenChar) (h : OnOneLine (c :: name ++ ':' :: value)) :
    readField? (c :: name ++ ':' :: value) =
      some (String.ofList ((c :: name).map Char.toLower), trimLineBlanks value) := by
  rw [readField?, if_neg (not_or.2 h), span_isTokenChar hname (by decide)]
  rfl

theorem dropWhile_of_head? {p : Char → Bool} {cs : List Char} (h : ∀ c ∈ cs.head?, ¬ p c) :
    cs.dropWhile p = cs := by
  rcases cs with _ | ⟨c, cs⟩
  · rfl
  · exact List.dropWhile_cons_of_neg (h c rfl)

/-- Without blanks at its ends, a text is kept. -/
theorem trimLineBlanks_eq_self {cs : List Char} (hhead : ∀ c ∈ cs.head?, ¬ isLineBlank c)
    (hlast : ∀ c ∈ cs.getLast?, ¬ isLineBlank c) : trimLineBlanks cs = cs := by
  have hreverse : ∀ c ∈ cs.reverse.head?, ¬ isLineBlank c := by
    rwa [List.head?_reverse]
  rw [trimLineBlanks, dropWhile_of_head? hhead, Text.dropEndWhile, dropWhile_of_head? hreverse,
    List.reverse_reverse]

theorem trimLineBlanks_space (cs : List Char) : trimLineBlanks (' ' :: cs) = trimLineBlanks cs := by
  have hspace : isLineBlank ' ' := rfl
  rw [trimLineBlanks, List.dropWhile_cons_of_pos hspace, trimLineBlanks]

/-- The disposition of a file. -/
def dispositionText (filename : List Char) : List Char :=
  "form-data; name=\"file\"; filename=\"".toList ++ (filename ++ ['"'])

theorem trimLineBlanks_dispositionText (filename : List Char) :
    trimLineBlanks (dispositionText filename) = dispositionText filename := by
  have hhead : (dispositionText filename).head? = some 'f' := rfl
  have hlast : (dispositionText filename).getLast? = some '"' := by
    unfold dispositionText
    generalize "form-data; name=\"file\"; filename=\"".toList = start
    rw [← List.append_assoc, List.getLast?_concat]
  refine trimLineBlanks_eq_self (fun c hc => ?_) fun c hc => ?_
  · cases hhead ▸ hc
    decide
  · cases hlast ▸ hc
    decide

/-- The fields of a form with one file. -/
def fileFields (filename contentType : List Char) : List (String × List Char) :=
  [("content-disposition", dispositionText filename),
    ("content-type", trimLineBlanks contentType)]

theorem mapM_readField? {filename contentType : String} (hfilename : OnOneLine filename.toList)
    (hcontentType : OnOneLine contentType.toList) :
    (fileLines filename contentType).mapM (fun line => readField? line.toList) =
      some (fileFields filename.toList contentType.toList) := by
  have hlines := startsField_of_mem hfilename hcontentType
  rcases List.forall_mem_cons.1 hlines with ⟨hdisposition, htype⟩
  have hdispositionLine : readField?
      ("Content-Disposition: form-data; name=\"file\"; filename=\"" ++ filename ++ "\"").toList =
        some ("content-disposition", dispositionText filename.toList) := by
    have heq : ("Content-Disposition: form-data; name=\"file\"; filename=\"" ++
        filename ++ "\"").toList = 'C' :: "ontent-Disposition".toList ++ ':' ::
          ' ' :: dispositionText filename.toList := by
      rw [String.toList_append, String.toList_append, List.append_assoc]
      rfl
    have hline := hdisposition.oneLine
    rw [heq] at hline ⊢
    rw [readField?_append (by decide) hline, trimLineBlanks_space, trimLineBlanks_dispositionText]
    rfl
  have htypeLine : readField? ("Content-Type: " ++ contentType).toList =
      some ("content-type", trimLineBlanks contentType.toList) := by
    have heq : ("Content-Type: " ++ contentType).toList =
        'C' :: "ontent-Type".toList ++ ':' :: ' ' :: contentType.toList := by
      rw [String.toList_append]
      rfl
    have hline := (htype _ List.mem_cons_self).oneLine
    rw [heq] at hline ⊢
    rw [readField?_append (by decide) hline, trimLineBlanks_space]
    rfl
  rw [fileLines, List.mapM_cons, List.mapM_cons, hdispositionLine, htypeLine]
  rfl

/-- A parameter between quotes. -/
theorem readParameters?_quoted {c : Char} {name : List Char}
    (hname : (c :: name).all isTokenChar) (hc : ¬ isLineBlank c) (fuel : Nat)
    (cs : List Char) :
    readParameters? (fuel + 1) (';' :: ' ' :: (c :: name ++ '=' :: '"' :: cs)) =
      (readQuoted? cs).bind fun (value, rest) => (readParameters? fuel rest).map
        fun parameters => (String.ofList ((c :: name).map Char.toLower), value) :: parameters := by
  have hblank : (' ' :: (c :: name ++ '=' :: '"' :: cs)).dropWhile isLineBlank =
      c :: name ++ '=' :: '"' :: cs := by
    rw [List.dropWhile_cons_of_pos (by decide), List.cons_append, List.dropWhile_cons_of_neg hc]
  have hmark : (';' :: ' ' :: (c :: name ++ '=' :: '"' :: cs)).dropWhile isLineBlank =
      ';' :: ' ' :: (c :: name ++ '=' :: '"' :: cs) := rfl
  rw [readParameters?, hmark]
  simp only [hblank, span_isTokenChar hname (by decide : ¬ isTokenChar '=')]
  rw [readValue?]
  rcases readQuoted? cs with _ | ⟨value, rest⟩
  · rfl
  · rcases hrest : readParameters? fuel rest with _ | parameters
    all_goals simp [hrest]

/-- The parameters in the disposition of a file. -/
def parametersText (filename : List Char) : List Char :=
  ';' :: ' ' :: ('n' :: "ame".toList ++ '=' :: '"' :: ("file".toList ++ '"' ::
    ';' :: ' ' :: ('f' :: "ilename".toList ++ '=' :: '"' :: (filename ++ ['"']))))

/-- The filename is what is read between its quotes. -/
theorem readParameters?_parametersText (filename : List Char) (fuel : Nat) :
    readParameters? (fuel + 2) (parametersText filename) =
      (readQuoted? (filename ++ ['"'])).bind fun (text, rest) =>
        (readParameters? fuel rest).map fun parameters =>
          ("name", "file".toList) :: ("filename", text) :: parameters := by
  have hfile : QuotesAsIs "file".toList := ⟨by decide, by decide⟩
  rw [parametersText, readParameters?_quoted (by decide) (by decide),
    readQuoted?_append_quote hfile, Option.bind_some]
  simp only
  rw [readParameters?_quoted (by decide) (by decide)]
  rcases readQuoted? (filename ++ ['"']) with _ | ⟨text, rest⟩
  · rfl
  · simp only [Option.bind_some]
    rcases readParameters? fuel rest with _ | parameters <;> rfl

theorem readDisposition?_dispositionText (filename : List Char) :
    ∃ fuel, readDisposition? (dispositionText filename) =
      (readQuoted? (filename ++ ['"'])).bind fun (text, rest) =>
        (readParameters? (fuel + 1) rest).map fun parameters =>
          ("name", "file".toList) :: ("filename", text) :: parameters := by
  have hkind : (dispositionText filename).span isTokenChar =
      ("form-data".toList, parametersText filename) :=
    span_isTokenChar (by decide : "form-data".toList.all isTokenChar) (by decide) _
  obtain ⟨fuel, hfuel⟩ : ∃ fuel, (parametersText filename).length = fuel + 2 := ⟨_, rfl⟩
  have hform : String.ofList ("form-data".toList.map Char.toLower) = "form-data" := by decide
  refine ⟨fuel, ?_⟩
  unfold readDisposition?
  rw [hkind]
  simp only [hform, if_true, hfuel]
  exact readParameters?_parametersText filename (fuel + 1)

/-- The part that the fields of a file give. -/
theorem partOf?_fileFields (filename contentType : List Char) (data : Bytes) :
    ∃ fuel, partOf? (fileFields filename contentType) data =
      (readQuoted? (filename ++ ['"'])).bind fun (text, rest) =>
        (readParameters? (fuel + 1) rest).map fun _ =>
          ⟨"file", some (String.ofList text), some (String.ofList (trimLineBlanks contentType)),
            data⟩ := by
  rcases readDisposition?_dispositionText filename with ⟨fuel, hparameters⟩
  refine ⟨fuel, ?_⟩
  unfold partOf? fileFields
  simp only [List.lookup_cons_self, Option.bind_eq_bind, Option.bind_some, hparameters]
  rcases readQuoted? (filename ++ ['"']) with _ | ⟨text, rest⟩
  · rfl
  · simp only [Option.bind_some]
    rcases readParameters? (fuel + 1) rest with _ | parameters <;> rfl

/-- With a filename on one line, what is read depends on its quotes alone. -/
theorem readForm?_file_of_oneLine {boundary filename contentType : String} {data : Bytes}
    (hboundary : '\r' ∉ boundary.toList) (hdata : ¬ Text.utf8 ("--" ++ boundary) <:+: data)
    (hfilename : OnOneLine filename.toList) (hcontentType : OnOneLine contentType.toList) :
    ∃ fuel, readForm? boundary (file boundary filename data contentType) =
      (readQuoted? (filename.toList ++ ['"'])).bind fun (text, rest) =>
        (readParameters? (fuel + 1) rest).map fun _ =>
          [⟨"file", some (String.ofList text),
            some (String.ofList (trimLineBlanks contentType.toList)), data⟩] := by
  rcases partOf?_fileFields filename.toList contentType.toList data with ⟨fuel, hpart⟩
  refine ⟨fuel, ?_⟩
  rw [readForm?_file_eq hboundary hdata hfilename hcontentType,
    readPart?_headerText (startsField_of_mem hfilename hcontentType),
    mapM_readField? hfilename hcontentType, Option.bind_some, hpart]
  rcases readQuoted? (filename.toList ++ ['"']) with _ | ⟨text, rest⟩
  · rfl
  · simp only [Option.bind_some, Option.map_map]
    rfl

/-- The body of a form with one file, and what is read from it. The boundary has no carriage
return, as it could not be given to a reader in a header otherwise. The content type is on
one line, and the dashes and the boundary do not occur in the data.

If the filename is on one line and has no quotes and no backslashes, then there is exactly
one part, with the name, the filename, the content type and the data that were written. No
other filename is read, not even from one of several parts. Blanks at the ends of the
content type do not belong to it. -/
theorem file_reads_back (boundary filename contentType : String) (data : Bytes)
    (hboundary : '\r' ∉ boundary.toList) (hcontentType : OnOneLine contentType.toList)
    (hdata : ¬ Text.utf8 ("--" ++ boundary) <:+: data) :
    (OnOneLine filename.toList ∧ QuotesAsIs filename.toList →
      readForm? boundary (file boundary filename data contentType) =
        some [⟨"file", some filename, some (String.ofList (trimLineBlanks contentType.toList)),
          data⟩]) ∧
    (∀ parts, readForm? boundary (file boundary filename data contentType) = some parts →
      ∀ part ∈ parts, part.filename = some filename →
        OnOneLine filename.toList ∧ QuotesAsIs filename.toList) ∧
    ((∀ c ∈ contentType.toList.head?, ¬ isLineBlank c) →
      (∀ c ∈ contentType.toList.getLast?, ¬ isLineBlank c) →
        String.ofList (trimLineBlanks contentType.toList) = contentType) := by
  refine ⟨fun ⟨hline, hquotes⟩ => ?_, fun parts hparts part hpart hfilename => ?_,
    fun hhead hlast => ?_⟩
  · rcases readForm?_file_of_oneLine hboundary hdata hline hcontentType with ⟨fuel, hform⟩
    have hend : readParameters? (fuel + 1) [] = some [] := rfl
    rw [hform, readQuoted?_append_quote hquotes, Option.bind_some]
    simp only [hend, Option.map_some, String.ofList_toList]
  · have hline := onOneLine_of_readForm? hparts part hpart filename hfilename
    refine ⟨hline, (exists_readQuoted?_iff _).1 ?_⟩
    rcases readForm?_file_of_oneLine hboundary hdata hline hcontentType with ⟨fuel, hform⟩
    rcases Option.bind_eq_some_iff.1 (hform.symm.trans hparts) with ⟨⟨text, rest⟩, hread, hmap⟩
    rcases Option.map_eq_some_iff.1 hmap with ⟨_, -, rfl⟩
    rw [List.mem_singleton.1 hpart, Option.some.injEq] at hfilename
    refine ⟨rest, ?_⟩
    rw [hread, ← hfilename, String.toList_ofList]
  · rw [trimLineBlanks_eq_self hhead hlast, String.ofList_toList]

/-- Data that looks like a delimiter is read back, and so is a filename that is not ASCII.
Of a filename with a quote, nothing that is read is the filename. -/
theorem file_reads_back_tricky :
    let data : Bytes := [0, 13, 10, 45, 45, 77, 13, 10, 45, 45]
    readForm? "MARK" (file "MARK" "é; b.png" data " image/png") =
        some [⟨"file", some "é; b.png", some "image/png", data⟩] ∧
      ∀ parts, readForm? "MARK" (file "MARK" "a\"b.png" data "image/png") = some parts →
        ∀ part ∈ parts, part.filename ≠ some "a\"b.png" := by
  intro data
  have hread := file_reads_back "MARK" "é; b.png" " image/png" data (by decide)
    ⟨by decide, by decide⟩ (by decide)
  have hquote := file_reads_back "MARK" "a\"b.png" "image/png" data (by decide)
    ⟨by decide, by decide⟩ (by decide)
  have hplain : OnOneLine "é; b.png".toList ∧ QuotesAsIs "é; b.png".toList :=
    ⟨⟨by decide, by decide⟩, by decide, by decide⟩
  refine ⟨hread.1 hplain, fun parts hparts part hpart heq => ?_⟩
  exact (hquote.2.1 parts hparts part hpart heq).2.1 (by decide)

/-- It is not so that every filename is read back. -/
theorem not_every_filename_read :
    ¬ ∀ (boundary filename contentType : String) (data : Bytes), '\r' ∉ boundary.toList →
      OnOneLine contentType.toList → ¬ Text.utf8 ("--" ++ boundary) <:+: data →
        ∃ shown, readForm? boundary (file boundary filename data contentType) =
          some [⟨"file", some filename, shown, data⟩] := by
  intro h
  rcases h "MARK" "a\"b.png" "image/png" [1] (by decide) ⟨by decide, by decide⟩ (by decide) with
    ⟨shown, hread⟩
  have hnone : readForm? "MARK" (file "MARK" "a\"b.png" [1] "image/png") = none := by
    decide +kernel
  exact nomatch hnone.symm.trans hread

end Multipart

end WikiSync
