import WikiSync.Proofs.Convert.Forms
import WikiSync.Proofs.Storage.Written

/-!
# Emitted Markup as Tokens

What each emitter writes around the content it is given. The content is a
piece of markup with its tokens; the emitter puts tags in front of it and
behind it, and whatever comes from the document goes into values and texts
that are escaped. The one exception is the file name of a diagram, which is
written as it is. It is put together from letters, digits, a hyphen and a dot,
and `filename_proper` says that none of these has a meaning of its own.

## Main definitions

* `linkTokens`, `imageTokens`, `cellTokens`, `tableTokens`, `taskTokens`,
  `diagramTokens`, `codeTokens`: The tokens that emitters write.
* `Cover.tokens`, `leafTokens`: The tokens of covers and of leaves.

## Theorems

* `writes_element`, `writes_linkMarkup`, `writes_imageMarkup`,
  `writes_cellMarkup`, `writes_tableMarkup`, `writes_taskMarkup`,
  `writes_diagramMarkup`, `writes_codeMarkup`: What they write reads as these tokens.
* `writes_cover`, `writes_leaf`: So does what covers and leaves are written as.
* `filename_proper`: The file names of diagrams need no escaping.
-/

namespace WikiSync

open Markup Storage

/-! ### The file names of diagrams -/

namespace Diagram

/-- The characters of digests and of what is written around them. -/
def isPlain (c : Char) : Bool :=
  !Symbol.reserved.contains c

theorem isPlain_lowerDigit {n : Nat} (h : n < 16) : isPlain (Text.lowerDigit n) = true := by
  -- There are sixteen digits to look at.
  have hall : ∀ m : Fin 16, isPlain (Text.lowerDigit m) = true := by decide
  exact hall ⟨n, h⟩

theorem isPlain_of_mem_toHex {bytes : Bytes} {c : Char} (h : c ∈ (Text.toHex bytes).toList) :
    isPlain c = true := by
  rw [Text.toHex, String.toList_ofList] at h
  rcases List.mem_flatMap.1 h with ⟨b, -, hc⟩
  have hb := b.toNat_lt
  rcases List.mem_cons.1 hc with rfl | hc
  · exact isPlain_lowerDigit (by omega)
  · rw [List.mem_singleton.1 hc]
    exact isPlain_lowerDigit (by omega)

/-- The file names of diagrams need no escaping. -/
theorem filename_proper (source : String) :
    ∀ x ∈ plainSymbols (filename source), x.Proper := by
  -- The name is the language, a hyphen, a part of the digest and the ending.
  have hplain : ∀ c ∈ (filename source).toList, isPlain c = true := by
    intro c hc
    simp only [filename, identifier, String.toList_append, String.toList_ofList,
      List.mem_append] at hc
    rcases hc with ((hc | hc) | hc) | hc
    · exact List.all_eq_true.1 (by decide : language.toList.all isPlain = true) c hc
    · exact List.all_eq_true.1 (by decide : "-".toList.all isPlain = true) c hc
    · exact isPlain_of_mem_toHex (List.mem_of_mem_take hc)
    · exact List.all_eq_true.1 (by decide : ".png".toList.all isPlain = true) c hc
  intro x hx
  rcases List.mem_map.1 hx with ⟨c, hc, rfl⟩
  have hc := hplain c hc
  intro hreserved
  rw [isPlain, List.contains_iff_mem.2 hreserved] at hc
  cases hc

end Diagram

namespace Emit

/-! ### Elements -/

theorem toList_element (tag body : String) :
    (element tag body).toList =
      '<' :: (tag.toList ++ '>' :: (body.toList ++ '<' :: '/' :: (tag.toList ++ ['>']))) := by
  simp [element, String.toList_append]

theorem writes_element {tag : String} (hknown : isKnown tag [] = true) {body : String}
    {ts : List Token} (hbody : Writes body ts) :
    Writes (element tag body) (elementTokens tag ts) :=
  writes_plainElement hknown hbody (toList_element tag body)

theorem isKnown_of_mem_coverTags {tag : String} (h : tag ∈ coverTags) : isKnown tag [] = true := by
  have hall : ∀ tag ∈ coverTags, isKnown tag [] = true := by decide
  exact hall tag h

theorem toList_attr (name value : String) :
    (attr name value).toList = (escaped name value).spell := by
  simp [attr, Attribute.spell, escaped, String.toList_append, toList_escape]

/-! ### Links and images -/

/-- The tokens of a link around its body. -/
def linkTokens (url : String) (title : Option String) (body : List Token) : List Token :=
  match anchor? url with
  | some anchor =>
    .opening "ac:link" [escaped "ac:anchor" anchor] ::
      (elementTokens "ac:link-body" body ++ [.closing "ac:link"])
  | none =>
    .opening "a" (escaped "href" url :: (title.map (escaped "title")).toList) ::
      (body ++ [.closing "a"])

theorem writes_linkMarkup (url : String) (title : Option String) {body : String}
    {ts : List Token} (hbody : Writes body ts) :
    Writes (linkMarkup url title body) (linkTokens url title ts) := by
  unfold linkMarkup linkTokens
  rcases anchor? url with _ | anchor
  · rcases title with _ | title
    · have hknown : isKnown "a" [escaped "href" url] = true := by rfl
      refine Writes.element hknown (values_singleton _ _) hbody ?_
      simp [String.toList_append, toList_attr, tagText]
    · have hknown : isKnown "a" [escaped "href" url, escaped "title" title] = true := by rfl
      refine Writes.element hknown (values_escaped fun a ha => ?_) hbody ?_
      · rcases List.mem_cons.1 ha with rfl | ha
        · exact ⟨_, _, rfl⟩
        · exact ⟨_, _, List.mem_singleton.1 ha⟩
      · simp [String.toList_append, toList_attr, tagText]
  · have hinner : Writes ("<ac:link-body>" ++ body ++ "</ac:link-body>")
        (elementTokens "ac:link-body" ts) :=
      writes_plainElement (by rfl) hbody (by simp [String.toList_append])
    have hknown : isKnown "ac:link" [escaped "ac:anchor" anchor] = true := by rfl
    refine Writes.element hknown (values_singleton _ _) hinner ?_
    simp [String.toList_append, toList_attr, tagText]

/-- An attribute that is left out if its value is empty. -/
def optional (name value : String) : List Attribute :=
  if value.isEmpty then [] else [escaped name value]

theorem toList_optionalAttr (name value : String) :
    (optionalAttr name value).toList = (optional name value).flatMap Attribute.spell := by
  unfold optionalAttr optional
  split
  · rfl
  · rw [toList_attr, List.flatMap_cons, List.flatMap_nil, List.append_nil]

/-- The attributes of an image. -/
def imageAttributes (alt : String) (title : Option String) : List Attribute :=
  optional "ac:alt" alt ++ optional "ac:title" (title.getD "")

theorem imageAttributes_isKnown (alt : String) (title : Option String) :
    isKnown "ac:image" (imageAttributes alt title) = true := by
  unfold imageAttributes optional
  split
  · split
    · rfl
    · rfl
  · split
    · rfl
    · rfl

theorem values_imageAttributes (alt : String) (title : Option String) :
    ∀ a ∈ imageAttributes alt title, ∀ x ∈ a.value, x.Proper := by
  refine values_escaped fun a ha => ?_
  unfold imageAttributes optional at ha
  rcases List.mem_append.1 ha with ha | ha
  · split at ha
    · cases ha
    · exact ⟨_, _, List.mem_singleton.1 ha⟩
  · split at ha
    · cases ha
    · exact ⟨_, _, List.mem_singleton.1 ha⟩

/-- The token of what an image shows. -/
def resourceToken (url : String) : Token :=
  if isRemote url then .empty "ri:url" [escaped "ri:value" url]
  else .empty "ri:attachment" [escaped "ri:filename" (lastSegment url)]

/-- The tokens of an image. -/
def imageTokens (url alt : String) (title : Option String) : List Token :=
  .opening "ac:image" (imageAttributes alt title) ::
    ([resourceToken url] ++ [.closing "ac:image"])

theorem writes_resourceMarkup (url : String) : Writes (resourceMarkup url) [resourceToken url] := by
  unfold resourceMarkup resourceToken
  split
  · have hknown : isKnown "ri:url" [escaped "ri:value" url] = true := by rfl
    refine Writes.empty hknown (values_singleton _ _) ?_
    simp [String.toList_append, toList_attr, tagText]
  · have hknown : isKnown "ri:attachment" [escaped "ri:filename" (lastSegment url)] = true := by
      rfl
    refine Writes.empty hknown (values_singleton _ _) ?_
    simp [String.toList_append, toList_attr, tagText]

theorem writes_imageMarkup (url alt : String) (title : Option String) :
    Writes (imageMarkup url alt title) (imageTokens url alt title) := by
  refine Writes.element (imageAttributes_isKnown alt title) (values_imageAttributes alt title)
    (writes_resourceMarkup url) ?_
  simp [imageMarkup, String.toList_append, toList_optionalAttr, imageAttributes, tagText]

/-! ### Tables and tasks -/

/-- The attributes of a cell. -/
def cellAttributes (align : Option Align) : List Attribute :=
  (align.map fun a => Attribute.mk "style" (plainSymbols ("text-align: " ++ a.css))).toList

/-- The tokens of a cell around its content. -/
def cellTokens (tag : String) (align : Option Align) (content : List Token) : List Token :=
  .opening tag (cellAttributes align) :: (content ++ [.closing tag])

instance (x : Symbol) : Decidable x.Proper :=
  match x with
  | .plain c => inferInstanceAs (Decidable (c ∉ Symbol.reserved))
  | .entity _ => isTrue trivial

theorem values_cellAttributes (align : Option Align) :
    ∀ a ∈ cellAttributes align, ∀ x ∈ a.value, x.Proper := by
  rcases align with _ | align
  · exact fun a ha => absurd ha List.not_mem_nil
  · cases align <;> decide

theorem toList_cellMarkup (tag : String) (align : Option Align) (content : String) :
    (cellMarkup tag align content).toList =
      '<' :: (tagText tag (cellAttributes align) ++
        '>' :: (content.toList ++ '<' :: '/' :: (tag.toList ++ ['>']))) := by
  unfold cellMarkup
  rcases align with _ | align
  · simp [String.toList_append, cellAttributes, tagText]
  · simp [String.toList_append, cellAttributes, tagText, Attribute.spell, spell_plainSymbols]

theorem writes_cellMarkup {tag : String} (htag : tag = "th" ∨ tag = "td") (align : Option Align)
    {content : String} {ts : List Token} (hcontent : Writes content ts) :
    Writes (cellMarkup tag align content) (cellTokens tag align ts) := by
  have hknown : isKnown tag (cellAttributes align) = true := by
    rcases htag with rfl | rfl
    · rcases align with _ | align
      · rfl
      · rfl
    · rcases align with _ | align
      · rfl
      · rfl
  exact Writes.element hknown (values_cellAttributes align) hcontent
    (toList_cellMarkup tag align content)

/-- The tokens of a table, from those of its header and of the other rows. -/
def tableTokens (head : List Token) (single : Bool) (rest : List Token) : List Token :=
  elementTokens "table" (elementTokens "thead" head ++
    if single then [] else elementTokens "tbody" rest)

theorem tableMarkup_eq (head : String) (single : Bool) (rest : String) :
    tableMarkup head single rest =
      element "table" (element "thead" head ++ if single then "" else element "tbody" rest) := by
  rw [← String.toList_inj]
  simp [tableMarkup, element, String.toList_append]

theorem writes_tableMarkup {head rest : String} {ts us : List Token} (hhead : Writes head ts)
    (single : Bool) (hrest : Writes rest us) :
    Writes (tableMarkup head single rest) (tableTokens ts single us) := by
  have hthead := writes_element (by rfl : isKnown "thead" [] = true) hhead
  have htable : isKnown "table" [] = true := by rfl
  rw [tableMarkup_eq, tableTokens]
  rcases single with _ | _
  · have htbody := writes_element (by rfl : isKnown "tbody" [] = true) hrest
    exact writes_element htable (hthead.append htbody)
  · exact writes_element htable (hthead.append Writes.nil)

/-- A line break between tags. -/
def newline : Token :=
  .symbol (.plain '\n')

/-- The word for the state of a task. -/
def taskStatus (checked : Option Bool) : String :=
  if checked = some true then "complete" else "incomplete"

/-- The tokens of a task around its body. -/
def taskTokens (checked : Option Bool) (body : List Token) : List Token :=
  elementTokens "ac:task" ([newline] ++
    elementTokens "ac:task-status" ((plainSymbols (taskStatus checked)).map .symbol) ++
    [newline] ++ elementTokens "ac:task-body" body ++ [newline])

theorem writes_newline : Writes "\n" [newline] := by
  have hproper : newline.Proper := (by decide : (Symbol.plain '\n').Proper)
  exact Writes.single hproper rfl (fun _ => rfl) rfl

theorem writes_taskMarkup (checked : Option Bool) {body : String} {ts : List Token}
    (hbody : Writes body ts) : Writes (taskMarkup checked body) (taskTokens checked ts) := by
  have hproper : ∀ x ∈ plainSymbols (taskStatus checked), x.Proper := by
    rcases checked with _ | _ | _
    · decide
    · decide
    · decide
  -- The two elements of a task, each with a line break before and behind it.
  have hstatus := writes_element (by rfl : isKnown "ac:task-status" [] = true)
    (writes_plain hproper)
  have hinner := writes_element (by rfl : isKnown "ac:task-body" [] = true) hbody
  have hcontent := (((writes_newline.append hstatus).append writes_newline).append
    hinner).append writes_newline
  refine writes_plainElement (by rfl) hcontent ?_
  unfold taskMarkup
  simp [element, taskStatus, String.toList_append]

/-! ### Code and diagrams -/

/-- The attributes of the image of a diagram. -/
def diagramAttributes : List Attribute :=
  [⟨"ac:align", plainSymbols "center"⟩, ⟨"ac:layout", plainSymbols "center"⟩,
    ⟨"ac:width", plainSymbols "800"⟩, ⟨"ac:thumbnail", plainSymbols "true"⟩]

/-- The tokens of the image of a diagram. -/
def diagramTokens (filename : String) : List Token :=
  .opening "ac:image" diagramAttributes ::
    ([.empty "ri:attachment" [⟨"ri:filename", plainSymbols filename⟩]] ++ [.closing "ac:image"])

theorem writes_diagramMarkup {filename : String}
    (hfilename : ∀ x ∈ plainSymbols filename, x.Proper) :
    Writes (diagramMarkup filename) (diagramTokens filename) := by
  have hresource : Writes ("<ri:attachment ri:filename=\"" ++ filename ++ "\"/>")
      [.empty "ri:attachment" [⟨"ri:filename", plainSymbols filename⟩]] := by
    have hknown : isKnown "ri:attachment" [⟨"ri:filename", plainSymbols filename⟩] = true := by rfl
    refine Writes.empty hknown (fun a ha => ?_) ?_
    · rw [List.mem_singleton.1 ha]
      exact hfilename
    · simp [String.toList_append, tagText, Attribute.spell, spell_plainSymbols]
  have hvalues : ∀ a ∈ diagramAttributes, ∀ x ∈ a.value, x.Proper := by decide
  refine Writes.element (by rfl) hvalues hresource ?_
  unfold diagramMarkup
  simp [diagramAttributes, String.toList_append, tagText, Attribute.spell, spell_plainSymbols]

/-- The tokens of code in a language, if it has one. -/
def codeTokens (lang value : String) : List Token :=
  macroTokens "code" (if lang.isEmpty then [] else [("language", macroLanguage lang)])
    (elementTokens "ac:plain-text-body" (sectionTokens value))

theorem writes_codeMarkup (lang value : String) :
    Writes (codeMarkup lang value) (codeTokens lang value) := by
  unfold codeMarkup codeTokens
  split
  · exact writes_plainTextMacro "code" [] value
  · exact writes_plainTextMacro "code" [("language", macroLanguage lang)] value

/-! ### Covers and leaves -/

/-- The tokens of a cover around a body. -/
def Cover.tokens : Cover → List Token → List Token
  | bare, ts => ts
  | element tag _, ts => elementTokens tag ts
  | link url title, ts => linkTokens url title ts
  | callout name, ts => macroTokens name [] (elementTokens "ac:rich-text-body" ts)

theorem writes_cover (c : Cover) {body : String} {ts : List Token} (hbody : Writes body ts) :
    Writes (c.markup body) (c.tokens ts) := by
  cases c with
  | bare => exact hbody
  | element tag h => exact writes_element (isKnown_of_mem_coverTags h) hbody
  | link url title => exact writes_linkMarkup url title hbody
  | callout name => exact writes_structuredMacro name [] hbody

/-- The tokens of a leaf that is neither a diagram nor raw HTML. -/
def leafTokens : Node → List Token
  | .text value => (symbolsOf value).map .symbol
  | .inlineCode value => elementTokens "code" ((symbolsOf value).map .symbol)
  | .code lang value => codeTokens (lang.getD "") value
  | .image url alt title => imageTokens url alt title
  | .break => [.empty "br" []]
  | .thematicBreak => [.empty "hr" []]
  | _ => []

theorem writes_leaf {n : Node} {text : String} (h : n.leaf? = some text) (hhtml : n.kind ≠ .html) :
    Writes text (leafTokens n) := by
  cases n with
  | text value =>
    cases h
    exact writes_escape value
  | inlineCode value =>
    cases h
    exact writes_element (by rfl) (writes_escape value)
  | code lang value =>
    by_cases hlang : lang = some Diagram.language
    · cases (if_pos hlang).symm.trans h
    · cases (if_neg hlang).symm.trans h
      exact writes_codeMarkup (lang.getD "") value
  | image url alt title =>
    cases h
    exact writes_imageMarkup url alt title
  | «break» =>
    cases h
    exact Writes.empty (by rfl : isKnown "br" [] = true) (by decide) rfl
  | thematicBreak =>
    cases h
    exact Writes.empty (by rfl : isKnown "hr" [] = true) (by decide) rfl
  | html => exact absurd rfl hhtml
  | _ => cases h

end Emit

end WikiSync
