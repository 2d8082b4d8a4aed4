import WikiSync.Proofs.Config.Load
import WikiSync.Proofs.Config.References

/-!
# References in Files with Settings

Six settings are texts, and in the layer of a file the references in all of them are
replaced, in a fixed order. The first one that refers to an unset variable without a
default makes loading fail, whatever the other layers hold (`Config.value_load_file`).

With what a reference stands for in its setting, this says what a reference does to the
configuration (`Config.load_reference`). It does so for all defaults that have balanced
braces. As long as there are no braces in the default, the value of the variable or the
default is all that the reference leaves. With braces it is not
(`Config.not_every_default_kept`).

## Main definitions

* `ConfigLayer.texts`: The settings that are texts.
* `ConfigLayer.expandEntry`: One of them with its references replaced.

## Theorems

* `ConfigLayer.texts_expand`: One setting after the other.
* `Config.value_load_file`: Loading, once the file is parsed.
* `Config.load_reference`: What a reference in a file does.
* `Config.not_every_default_kept`: A default that is not kept.
-/

namespace WikiSync

/-! ### Sequences that fail -/

/-- A sequence fails with one of its parts. -/
theorem exists_of_mapM_error {α β ε : Type} {f : α → Except ε β} {as : List α} {x : ε}
    (h : as.mapM f = .error x) : ∃ a ∈ as, f a = .error x := by
  rcases mapM_cases f as with ⟨_, hok, -⟩ | ⟨before, a, after, y, rfl, -, ha, hfails⟩
  · exact nomatch hok.symm.trans h
  · cases hfails.symm.trans h
    exact ⟨a, by simp, ha⟩

/-- Behind a part that fails, nothing counts. -/
theorem mapM_append_of_error {α β ε : Type} {f : α → Except ε β} {as bs : List α} {a : α} {x : ε}
    (ha : f a = .error x) :
    (as ++ a :: bs).mapM f = (as.mapM f).bind fun _ => .error x := by
  rw [List.mapM_append, List.mapM_cons, ha]
  rcases as.mapM f with _ | _ <;> rfl

/-! ### Layers -/

namespace ConfigLayer

/-- The settings that are texts, in the order in which they are treated. -/
def texts (l : ConfigLayer) : List (String × Option String) :=
  [("confluence.domain", l.domain), ("confluence.space", l.space),
    ("confluence.email", l.email), ("confluence.api_token", l.apiToken),
    ("confluence.parent_page_id", l.parentPageId), ("diagrams.kroki_url", l.krokiUrl)]

/-- A setting with its references replaced. -/
def expandEntry (vars : Variables) (entry : String × Option String) :
    Except ConfigError (String × Option String) := do
  let value ← expandText vars entry.1 entry.2
  .ok (entry.1, value)

/-- The references are replaced in one setting after the other. -/
theorem texts_expand (vars : Variables) (l : ConfigLayer) :
    (l.expand vars).map texts = l.texts.mapM (expandEntry vars) := by
  unfold expand texts expandEntry
  simp only [List.mapM_cons, List.mapM_nil]
  rcases expandText vars "confluence.domain" l.domain with _ | domain
  · rfl
  rcases expandText vars "confluence.space" l.space with _ | space
  · rfl
  rcases expandText vars "confluence.email" l.email with _ | email
  · rfl
  rcases expandText vars "confluence.api_token" l.apiToken with _ | apiToken
  · rfl
  rcases expandText vars "confluence.parent_page_id" l.parentPageId with _ | parentPageId
  · rfl
  rcases expandText vars "diagrams.kroki_url" l.krokiUrl with _ | krokiUrl
  · rfl
  rfl

theorem expandEntry_of_error {vars : Variables} {field value n : String}
    (h : WikiSync.expand vars value = .error n) :
    expandEntry vars (field, some value) = .error (.unset field n) := by
  simp only [expandEntry, expandText, h]
  rfl

/-- A setting fails with its own name and with a variable that is unset. -/
theorem unset_of_expandEntry {vars : Variables} {entry : String × Option String}
    {problem : ConfigError} (h : expandEntry vars entry = .error problem) :
    ∃ n, problem = .unset entry.1 n ∧ vars n = none := by
  have htext := error_of_map h
  unfold expandText at htext
  split at htext
  · cases htext
  · split at htext
    · cases htext
    · rename_i n hfails
      cases htext
      exact ⟨n, rfl, unset_of_expand hfails⟩

/-- A setting that fails makes its layer fail, with itself if nothing in front of it does.
In any case an unset variable is named. -/
theorem expand_of_entry_error {vars : Variables} {l : ConfigLayer}
    {front back : List (String × Option String)} {field value n : String}
    (htexts : l.texts = front ++ (field, some value) :: back)
    (hvalue : WikiSync.expand vars value = .error n) :
    (∃ f n', l.expand vars = .error (.unset f n') ∧ vars n' = none) ∧
      ((∃ entries, front.mapM (expandEntry vars) = .ok entries) →
        l.expand vars = .error (.unset field n)) := by
  have hall := texts_expand vars l
  rw [htexts, mapM_append_of_error (expandEntry_of_error hvalue)] at hall
  rcases hfront : front.mapM (expandEntry vars) with problem | entries
  · -- Something in front of it fails.
    rw [hfront] at hall
    rcases exists_of_mapM_error hfront with ⟨entry, -, hentry⟩
    rcases unset_of_expandEntry hentry with ⟨n', rfl, hunset⟩
    exact ⟨⟨_, n', error_of_map hall, hunset⟩, nofun⟩
  · rw [hfront] at hall
    have hfails : l.expand vars = .error (.unset field n) := error_of_map hall
    exact ⟨⟨field, n, hfails, unset_of_expand hvalue⟩, fun _ => hfails⟩

end ConfigLayer

namespace Config

open ConfigLayer (expandEntry)

/-- The layer of a file, once it is parsed. -/
theorem value_fileLayer {σ : Type} (m : Machine Files σ) (e : Environment) {path text : String}
    {l : ConfigLayer} {s : σ} (hread : ((readText path).run m s).value = .ok text)
    (hlayer : (Toml.read? text).bind ConfigLayer.ofToml? = some l) :
    ((fileLayer e (some path)).run m s).value = l.expand e.vars := by
  unfold fileLayer readLayer
  rw [Script.run_bind, hread]
  simp only [Run.follow]
  unfold parseLayer
  rw [hlayer]
  rfl

/-- Loading, once the file is parsed. -/
theorem value_load_file {σ : Type} (m : Machine Files σ) (e : Environment)
    (asked : Option String) {env cli l : ConfigLayer} {path text : String} {s : σ}
    (hlocate : ((locate e asked).run m s).value = .ok (some path))
    (hread : ((readText path).run m ((locate e asked).run m s).state).value = .ok text)
    (hlayer : (Toml.read? text).bind ConfigLayer.ofToml? = some l) :
    ((load e asked env cli).run m s).value =
      (l.expand e.vars).bind fun file => ofLayers cli file env (some path) := by
  have hfile := value_fileLayer m e hread hlayer
  rcases hexpand : l.expand e.vars with problem | file
  · unfold load
    rw [Script.run_bind, hlocate]
    simp only [Run.follow]
    rw [Script.run_bind, hfile, hexpand]
    rfl
  · rw [hexpand] at hfile
    exact value_load m e asked hlocate hfile

/-- What a reference in a file with settings does when it is loaded. It may stand anywhere
in any of the settings, and the file may be asked for or found. The name of the variable
holds no braces, no dollar sign and no mark of a default, and the default holds balanced
braces and no dollar sign.

The layer of the file has all settings replaced one after the other, and the
configuration is made of this layer and the two others. A text like this is a reference
wherever it is the first one of its text. In its setting it leaves the value of the
variable, whatever that is, or else the default. Without a default loading fails, and
names the setting and the variable if nothing in front of the reference fails. The
default is cut in front of its first closing brace, and what comes behind it is left in
both cases. Nothing is left of it, and the default is whole, exactly if there is no such
brace. -/
theorem load_reference {σ : Type} (m : Machine Files σ) (e : Environment)
    (asked : Option String) (env cli l : ConfigLayer) {path text : String} (s : σ)
    (hlocate : ((locate e asked).run m s).value = .ok (some path))
    (hread : ((readText path).run m ((locate e asked).run m s).state).value = .ok text)
    (hlayer : (Toml.read? text).bind ConfigLayer.ofToml? = some l)
    {front back : List (String × Option String)} {field value : String}
    (htexts : l.texts = front ++ (field, some value) :: back)
    {name : List Char} {default : Option (List Char)} (hname : IsName name)
    (hdefault : ∀ d ∈ default, IsBalanced d ∧ '$' ∉ d)
    {before after : List Piece}
    (hpieces : pieces value.toList =
      before ++ .reference (variableReference name default) :: after) :
    let file := ((fileLayer e (some path)).run m ((locate e asked).run m s).state).value
    let loaded := ((load e asked env cli).run m s).value
    (file.map ConfigLayer.texts = l.texts.mapM (expandEntry e.vars) ∧
      loaded = file.bind fun file => ofLayers cli file env (some path)) ∧
    (∀ lead rest, ¬ opening <:+: lead →
      pieces (lead ++ (variableReference name default ++ rest)) =
        .literal lead :: .reference (variableReference name default) :: pieces rest) ∧
    (∀ v, e.vars (String.ofList name) = some v →
      Contributes e.vars value before (v.toList ++ referenceSurplus default) after) ∧
    (e.vars (String.ofList name) = none → ∀ d ∈ default,
      Contributes e.vars value before (defaultLead d ++ referenceSurplus default) after) ∧
    (e.vars (String.ofList name) = none → default = none →
      (∃ f n, loaded = .error (.unset f n) ∧ e.vars n = none) ∧
      ((∃ entries, front.mapM (expandEntry e.vars) = .ok entries) →
        (∃ a, expandPieces e.vars before = .ok a) →
          loaded = .error (.unset field (String.ofList name)))) ∧
    (referenceSurplus default = [] ↔ ∀ d ∈ default, '}' ∉ d) ∧
    ∀ d ∈ default, '}' ∉ d → defaultLead d = d := by
  intro file loaded
  have hfile : file = l.expand e.vars := value_fileLayer m e hread hlayer
  have hloaded : loaded = (l.expand e.vars).bind fun file => ofLayers cli file env (some path) :=
    value_load_file m e asked hlocate hread hlayer
  refine ⟨⟨?_, ?_⟩, ?_, ?_, ?_, ?_, ?_, ?_⟩
  · rw [hfile, ConfigLayer.texts_expand]
  · rw [hfile, hloaded]
  · exact fun lead rest hlead =>
      pieces_append_reference hlead hname fun d hd => (hdefault d hd).1
  · intro v hv
    exact contributes_of_ok hpieces <|
      expandReference_of_set hname (fun d hd => (hdefault d hd).2) hv
  · intro hunset d hd
    obtain rfl : default = some d := hd
    exact contributes_of_ok hpieces (expandReference_of_unset hname (hdefault d rfl).2 hunset)
  · rintro hunset rfl
    rcases expand_of_error hpieces (expandReference_of_missing hname hunset) with
      ⟨⟨n', hany⟩, hfirst⟩
    refine ⟨?_, fun hfront hbefore => ?_⟩
    · rcases (ConfigLayer.expand_of_entry_error htexts hany).1 with ⟨f, n, hlayer, hnone⟩
      exact ⟨f, n, by rw [hloaded, hlayer]; rfl, hnone⟩
    · rw [hloaded, (ConfigLayer.expand_of_entry_error htexts (hfirst hbefore)).2 hfront]
      rfl
  · exact referenceSurplus_eq_nil_iff default
  · exact fun d _ hclose => (defaultLead_of_plain hclose).1

/-! ### A default with braces -/

/-- A file in which the space is set. -/
def spaceFiles (space : String) : (q : Files.Question) → Files.Answer q
  | .kind "site.toml" => some .file
  | .read "site.toml" => .ok <| Text.utf8 <| "[confluence]\nspace = \"" ++ space ++ "\"\n"
  | .read _ => .error "not found"
  | .names _ => .error "not found"
  | .kind _ => none

/-- The settings in such a file. -/
def spaceLayer (space : String) : ConfigLayer :=
  { ConfigLayer.empty with space := some space }

/-- A default with braces, and a variable that is unset. -/
def teamSpace : String := "$\x7bTEAM:-a\x7bb\x7dc\x7d/$\x7bDESK\x7d"

/-- The default is cut short, and its remainder comes behind it. The variable behind it is
named when loading fails. -/
theorem load_reference_team :
    let m := Machine.fixed (spaceFiles teamSpace)
    let env := ConfigLayer.ofVariables siteEnvironment.vars
    ((load siteEnvironment (some "site.toml") env .empty).run m ()).value =
        .error (.unset "confluence.space" "DESK") ∧
      Contributes siteEnvironment.vars teamSpace [.literal []] "a\x7bbc\x7d".toList
        [.literal ['/'], .reference "$\x7bDESK\x7d".toList, .literal []] := by
  intro m env
  have hlocate : ((locate siteEnvironment (some "site.toml")).run m ()).value =
      .ok (some "site.toml") := rfl
  have hread : ((readText "site.toml").run m ()).value =
      .ok ("[confluence]\nspace = \"" ++ teamSpace ++ "\"\n") := by decide +kernel
  have hlayer : (Toml.read? ("[confluence]\nspace = \"" ++ teamSpace ++ "\"\n")).bind
      ConfigLayer.ofToml? = some (spaceLayer teamSpace) := by decide +kernel
  have htexts : (spaceLayer teamSpace).texts = [("confluence.domain", none)] ++
      ("confluence.space", some teamSpace) :: [("confluence.email", none),
        ("confluence.api_token", none), ("confluence.parent_page_id", none),
        ("diagrams.kroki_url", none)] := rfl
  have hteam : IsName "TEAM".toList := ⟨by decide, by decide, by decide, by decide, by decide⟩
  have hdesk : IsName "DESK".toList := ⟨by decide, by decide, by decide, by decide, by decide⟩
  have hfirst : pieces teamSpace.toList = [.literal []] ++
      .reference (variableReference "TEAM".toList (some "a\x7bb\x7dc".toList)) ::
        [.literal ['/'], .reference "$\x7bDESK\x7d".toList, .literal []] := by decide
  have hsecond : pieces teamSpace.toList = [.literal [],
      .reference (variableReference "TEAM".toList (some "a\x7bb\x7dc".toList)), .literal ['/']] ++
        .reference (variableReference "DESK".toList none) :: [.literal []] := by decide
  have hdefault : ∀ d ∈ some "a\x7bb\x7dc".toList, IsBalanced d ∧ '$' ∉ d := by
    rintro _ ⟨⟩
    decide
  have hnone : ∀ d ∈ (none : Option (List Char)), IsBalanced d ∧ '$' ∉ d := nofun
  rcases load_reference m siteEnvironment (some "site.toml") env .empty (spaceLayer teamSpace) ()
    hlocate hread hlayer htexts hteam hdefault hfirst with ⟨-, -, -, hunset, -⟩
  rcases load_reference m siteEnvironment (some "site.toml") env .empty (spaceLayer teamSpace) ()
    hlocate hread hlayer htexts hdesk hnone hsecond with ⟨-, -, -, -, hfails, -⟩
  exact ⟨(hfails rfl rfl).2 ⟨_, rfl⟩ ⟨"a\x7bbc\x7d/".toList, by decide⟩, hunset rfl _ rfl⟩

/-- It is not so that a variable that is unset leaves its default. With balanced braces in
the default, the first closing one is lost from its place. -/
theorem not_every_default_kept :
    ¬ ∀ {σ : Type} (m : Machine Files σ) (e : Environment) (asked : Option String)
      (l file : ConfigLayer) (path text : String) (s : σ),
      ((locate e asked).run m s).value = .ok (some path) →
      ((readText path).run m ((locate e asked).run m s).state).value = .ok text →
      (Toml.read? text).bind ConfigLayer.ofToml? = some l →
      ((fileLayer e (some path)).run m ((locate e asked).run m s).state).value = .ok file →
      ∀ (field value : String) (name d : List Char), (field, some value) ∈ l.texts →
        IsName name → IsBalanced d → '$' ∉ d →
        value.toList = variableReference name (some d) → e.vars (String.ofList name) = none →
          (field, some (String.ofList d)) ∈ file.texts := by
  intro h
  have hname : IsName "TEAM".toList := ⟨by decide, by decide, by decide, by decide, by decide⟩
  have hmem := h (Machine.fixed (spaceFiles "$\x7bTEAM:-a\x7bb\x7dc\x7d")) siteEnvironment
    (some "site.toml") (spaceLayer "$\x7bTEAM:-a\x7bb\x7dc\x7d") (spaceLayer "a\x7bbc\x7d")
    "site.toml" "[confluence]\nspace = \"$\x7bTEAM:-a\x7bb\x7dc\x7d\"\n" () rfl
    (by decide +kernel) (by decide +kernel) (by decide +kernel) "confluence.space" _
    "TEAM".toList "a\x7bb\x7dc".toList (List.mem_cons_of_mem _ List.mem_cons_self) hname
    (by decide) (by decide) (by decide) rfl
  exact absurd hmem (by decide)

end Config

end WikiSync
