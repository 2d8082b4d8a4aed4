import WikiSync.Config.Resolve
import WikiSync.Proofs.Config.Settings

/-!
# What a Configuration Is Made Of

What a layer of settings comes to once it is checked. Whether there is a
configuration depends on six settings: four of them have to be set and not blank,
the address of the diagram server has to start in one of two ways, and a diagram
has to be given some time. If there is one, each of its fields is the value of one
setting, or the default, and `Config.Follows` says so field by field.

The checks have an order. What is required comes first, so if something required
is missing, the error names all of it, whatever else is wrong. `Config.Resolved`
has a case for each way to end, with all that is known there.

## Main definitions

* `NotBlank`, `HasWebScheme`, `Trimmed`: Texts and addresses.
* `ConfigValues.Gives`: A required setting is there.
* `Config.Follows`: A configuration is made of values.
* `Config.Resolved`: What values can come to.

## Theorems

* `ConfigLayer.mem_missing_iff`: Which settings are missing.
* `ConfigLayer.resolved_resolve`: What a layer comes to.
* `ConfigError.lines_message_missing`: The message for missing settings.
-/

namespace WikiSync

/-! ### Texts -/

/-- A text with a character that is not white space. -/
def NotBlank (s : String) : Prop :=
  ∃ c ∈ s.toList, Text.isBlankChar c = false

theorem notBlank_iff (s : String) : NotBlank s ↔ Text.isBlank s = false := by
  unfold NotBlank Text.isBlank
  rw [List.all_eq_false]
  simp only [Bool.not_eq_true]

instance (s : String) : Decidable (NotBlank s) :=
  decidable_of_iff _ (notBlank_iff s).symm

theorem given?_eq_some_iff (value : Option String) (s : String) :
    given? value = some s ↔ value = some s ∧ NotBlank s := by
  unfold given?
  rw [Option.filter_eq_some_iff, Bool.not_eq_true', notBlank_iff]

theorem startsWith_iff (start s : String) :
    startsWith start s = true ↔ ∃ rest, s = start ++ rest := by
  unfold startsWith
  rw [List.isPrefixOf_iff_prefix]
  constructor
  · rintro ⟨rest, hrest⟩
    refine ⟨String.ofList rest, String.toList_inj.1 ?_⟩
    rw [String.toList_append, String.toList_ofList, hrest]
  · rintro ⟨rest, rfl⟩
    rw [String.toList_append]
    exact List.prefix_append _ _

/-- An address that requests can be sent to. -/
def HasWebScheme (url : String) : Prop :=
  ∃ rest, url = "http://" ++ rest ∨ url = "https://" ++ rest

theorem isWebUrl_iff (url : String) : isWebUrl url = true ↔ HasWebScheme url := by
  unfold isWebUrl HasWebScheme
  rw [Bool.or_eq_true, startsWith_iff, startsWith_iff, exists_or]

/-- An address, and the same without the slashes at its end. -/
structure Trimmed (url short : String) : Prop where
  slashes : ∃ n, url.toList = short.toList ++ List.replicate n '/'
  bare : short.toList.getLast? ≠ some '/'

theorem trimmed_trimSlashes (url : String) : Trimmed url (trimSlashes url) := by
  have hlist : (trimSlashes url).toList = (url.toList.reverse.dropWhile (· == '/')).reverse :=
    String.toList_ofList
  constructor
  · -- What is dropped are the slashes in front of the reversed text.
    refine ⟨(url.toList.reverse.takeWhile (· == '/')).length, ?_⟩
    have hslashes : url.toList.reverse.takeWhile (· == '/') =
        List.replicate (url.toList.reverse.takeWhile (· == '/')).length '/' :=
      List.eq_replicate_iff.2
        ⟨rfl, fun c hc => beq_iff_eq.1 (List.all_eq_true.1 List.all_takeWhile c hc)⟩
    have hwhole := congrArg List.reverse
      (List.takeWhile_append_dropWhile (p := (· == '/')) (l := url.toList.reverse))
    rw [hslashes, List.reverse_append, List.reverse_replicate, List.reverse_reverse] at hwhole
    rw [hlist, hwhole]
  · rw [hlist, List.getLast?_reverse]
    have hnot := List.head?_dropWhile_not (· == '/') url.toList.reverse
    intro hhead
    rw [hhead] at hnot
    cases hnot

/-! ### What is required -/

namespace RequiredField

/-- The value of a required setting. -/
def value (v : ConfigValues) : RequiredField → Option String
  | domain => v .domain
  | space => v .space
  | email => v .email
  | apiToken => v .apiToken

/-- All of them, in the order in which they are checked. -/
def all : List RequiredField :=
  [.domain, .space, .email, .apiToken]

theorem mem_all (f : RequiredField) : f ∈ all := by
  cases f <;> decide

end RequiredField

/-- A required setting is set, and not blank. -/
def ConfigValues.Gives (v : ConfigValues) (f : RequiredField) : Prop :=
  ∃ s, f.value v = some s ∧ NotBlank s

theorem ConfigValues.gives_iff (v : ConfigValues) (f : RequiredField) :
    v.Gives f ↔ ∃ s, given? (f.value v) = some s :=
  exists_congr fun s => (given?_eq_some_iff _ s).symm

instance (v : ConfigValues) (f : RequiredField) : Decidable (v.Gives f) :=
  decidable_of_iff _ (Option.isSome_iff_exists.trans (v.gives_iff f).symm)

namespace ConfigLayer

/-- What is missing, in order. -/
theorem missing_eq_filter (l : ConfigLayer) :
    l.missing = RequiredField.all.filter fun f => (given? (f.value l.get)).isNone := by
  let pair (f : RequiredField) := (f, f.value l.get)
  have hpairs : l.missing = (RequiredField.all.map pair).filterMap
      fun p => if (given? p.2).isNone then some p.1 else none := rfl
  rw [hpairs, List.filterMap_map]
  exact congrFun (List.filterMap_eq_filter
    (p := fun f : RequiredField => (given? (f.value l.get)).isNone)) _

theorem mem_missing_iff (l : ConfigLayer) (f : RequiredField) :
    f ∈ l.missing ↔ ¬ ConfigValues.Gives l.get f := by
  rw [missing_eq_filter, List.mem_filter, ConfigValues.gives_iff, ← Option.isSome_iff_exists,
    Bool.not_eq_true, Option.isSome_eq_false_iff]
  exact and_iff_right f.mem_all

/-- If something required is missing, that is the error, whatever else there is. -/
theorem resolve_of_not_gives {l : ConfigLayer} {f : RequiredField}
    (h : ¬ ConfigValues.Gives l.get f) : l.resolve = .error (.missing l.missing) := by
  rw [ConfigValues.gives_iff] at h
  unfold resolve
  split
  · -- Nothing is missing.
    rename_i domain space email apiToken hdomain hspace hemail hapiToken
    refine absurd ?_ h
    cases f with
    | domain => exact ⟨domain, hdomain⟩
    | space => exact ⟨space, hspace⟩
    | email => exact ⟨email, hemail⟩
    | apiToken => exact ⟨apiToken, hapiToken⟩
  · rfl

end ConfigLayer

/-- The message for missing settings has a line for each of them. -/
theorem ConfigError.lines_message_missing {fields : List RequiredField} (h : fields ≠ []) :
    ((ConfigError.missing fields).message.split '\n').toList.map (·.copy) =
      fields.map RequiredField.advice := by
  have hlines : ∀ s ∈ fields.map RequiredField.advice, '\n' ∉ s.toList := by
    intro s hs
    rcases List.mem_map.1 hs with ⟨f, -, rfl⟩
    cases f <;> decide
  refine (String.toList_split_intercalate hlines).trans (if_neg ?_)
  exact fun hnone => h (List.map_eq_nil_iff.1 hnone)

/-! ### Fields -/

/-- A configuration is made of values: each field is the value of one setting, or
the default. -/
structure Config.Follows (v : ConfigValues) (path : Option String) (c : Config) : Prop where
  domain : v .domain = some c.domain
  space : v .space = some c.space
  email : v .email = some c.email
  apiToken : v .apiToken = some c.apiToken
  /-- A blank page id counts as none. -/
  parentPageId : ∀ id, c.parentPageId = some id ↔ v .parentPageId = some id ∧ NotBlank id
  mermaid : c.mermaid = (v .mermaid).getD true
  krokiUrl : Trimmed ((v .krokiUrl).getD "https://kroki.io") c.krokiUrl
  timeoutSecs : c.timeoutSecs = (v .timeoutSecs).getD 30
  dryRun : c.dryRun = (v .dryRun).getD false
  verbose : c.verbose = (v .verbose).getD false
  path : c.path = path

/-- What values can come to: a configuration, or what is wrong with them. What is
required is checked first, then the diagram server, then the time for diagrams. -/
inductive Config.Resolved (v : ConfigValues) (path : Option String) :
    Except ConfigError Config → Prop
  | missing (fields : List RequiredField) (hsome : ∃ f, ¬ v.Gives f)
      (horder : fields.Sublist RequiredField.all) (hfields : ∀ f, f ∈ fields ↔ ¬ v.Gives f) :
      Resolved v path (.error (.missing fields))
  | diagramUrl (hall : ∀ f, v.Gives f)
      (hurl : ¬ HasWebScheme ((v .krokiUrl).getD "https://kroki.io")) :
      Resolved v path (.error .diagramUrl)
  | noTimeout (hall : ∀ f, v.Gives f)
      (hurl : HasWebScheme ((v .krokiUrl).getD "https://kroki.io"))
      (htime : (v .timeoutSecs).getD 30 = 0) :
      Resolved v path (.error .noTimeout)
  | ok (c : Config) (hall : ∀ f, v.Gives f)
      (hurl : HasWebScheme ((v .krokiUrl).getD "https://kroki.io"))
      (htime : (v .timeoutSecs).getD 30 ≠ 0) (hfollows : c.Follows v path) :
      Resolved v path (.ok c)

theorem ConfigLayer.resolved_resolve (l : ConfigLayer) : Config.Resolved l.get none l.resolve := by
  by_cases hsome : ∃ f, ¬ ConfigValues.Gives l.get f
  · rcases hsome with ⟨f, hf⟩
    rw [resolve_of_not_gives hf]
    refine .missing _ ⟨f, hf⟩ ?_ l.mem_missing_iff
    rw [missing_eq_filter]
    exact List.filter_sublist
  · have hall : ∀ f, ConfigValues.Gives l.get f :=
      fun f => Classical.not_not.1 fun hf => hsome ⟨f, hf⟩
    have hgiven : ∀ f : RequiredField,
        ∃ s, given? (f.value l.get) = some s ∧ f.value l.get = some s :=
      fun f => (hall f).imp fun s hs => ⟨(given?_eq_some_iff _ s).2 hs, hs.1⟩
    rcases hgiven .domain with ⟨domain, hdomain, hd⟩
    rcases hgiven .space with ⟨space, hspace, hs⟩
    rcases hgiven .email with ⟨email, hemail, he⟩
    rcases hgiven .apiToken with ⟨apiToken, hapiToken, ha⟩
    simp only [RequiredField.value, get] at hdomain hspace hemail hapiToken
    unfold resolve
    simp only [hdomain, hspace, hemail, hapiToken]
    split
    · rename_i hurl
      refine .diagramUrl hall fun hscheme => ?_
      have hweb : isWebUrl (l.krokiUrl.getD defaultKrokiUrl) = true := (isWebUrl_iff _).2 hscheme
      rw [hweb] at hurl
      cases hurl
    · rename_i hurl
      have hscheme : HasWebScheme (l.krokiUrl.getD defaultKrokiUrl) :=
        (isWebUrl_iff _).1 (Bool.not_eq_false _ ▸ fun hweb => hurl (by rw [hweb]; rfl))
      split
      · rename_i htime
        exact .noTimeout hall hscheme htime
      · rename_i htime
        exact .ok _ hall hscheme htime ⟨hd, hs, he, ha, given?_eq_some_iff l.parentPageId, rfl,
          trimmed_trimSlashes _, rfl, rfl, rfl, rfl⟩

end WikiSync
