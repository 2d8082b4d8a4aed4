import Mathlib.Data.List.Basic
import WikiSync.Config.Load
import WikiSync.Proofs.Config.Resolve
import WikiSync.Proofs.Script.Supply

/-!
# Loading the Configuration in Layers

The configuration that three layers of settings give, the command line on top of
a file on top of the environment. The layers are put on top of each other before
anything is checked, so a blank value counts more than a value below it, and the
check sees only the winners. Where the file is and how it is read does not matter
here: whatever layer it holds, the rest is `resolved_ofLayers`.

## Theorems

* `Config.resolved_ofLayers`: What three layers come to.
* `Config.value_load`: Loading, once the file is read.
* `Config.load_layers`: The laws of layers, and the configuration of three.
-/

namespace WikiSync

namespace Config

/-- Three layers come to what the winners of their settings come to. -/
theorem resolved_ofLayers (cli file env : ConfigLayer) (path : Option String) :
    Resolved (ConfigLayer.winners [cli, file, env]) path (ofLayers cli file env path) := by
  have hget : (cli.withDefaults (file.withDefaults env)).get =
      ConfigLayer.winners [cli, file, env] := by
    rw [← ConfigLayer.get_foldr_withDefaults [cli, file, env], List.foldr_cons, List.foldr_cons,
      List.foldr_cons, List.foldr_nil, ConfigLayer.withDefaults_empty]
  have hresolved := (cli.withDefaults (file.withDefaults env)).resolved_resolve
  rw [hget] at hresolved
  unfold ofLayers
  cases hresolve : (cli.withDefaults (file.withDefaults env)).resolve with
  | error problem =>
    rw [hresolve] at hresolved
    cases hresolved with
    | missing fields hsome horder hfields => exact .missing fields hsome horder hfields
    | diagramUrl hall hurl => exact .diagramUrl hall hurl
    | noTimeout hall hurl htime => exact .noTimeout hall hurl htime
  | ok c =>
    rw [hresolve] at hresolved
    cases hresolved with
    | ok _ hall hurl htime h =>
      -- The path is the only field that no layer has.
      exact .ok _ hall hurl htime ⟨h.domain, h.space, h.email, h.apiToken, h.parentPageId,
        h.mermaid, h.krokiUrl, h.timeoutSecs, h.dryRun, h.verbose, rfl⟩

/-- Loading, once the file is read. -/
theorem value_load {σ : Type} (m : Machine Files σ) (e : Environment) (asked : Option String)
    {cli file env : ConfigLayer} {path : Option String} {s : σ}
    (hlocate : ((locate e asked).run m s).value = .ok path)
    (hfile : ((fileLayer e path).run m ((locate e asked).run m s).state).value = .ok file) :
    ((load e asked env cli).run m s).value = ofLayers cli file env path := by
  unfold load
  rw [Script.run_bind, hlocate]
  simp only [Run.follow]
  rw [Script.run_bind, hfile]
  rfl

/-- The configuration of three layers of settings: the command line, a file, and the
environment. Layers on top of each other are associative, and no settings at all
change nothing; a setting of such layers depends on no other one. When the file
has been read, there is a configuration if and only if all that is required is
set and not blank, the address of the diagram server starts with `http://` or
`https://`, and the time for diagrams is not zero, where the uppermost layer
counts in which a setting is set. Then the configuration is made of these values,
and of defaults. If anything required is missing, the error says so in one line
for each such setting, in a fixed order, whatever else is wrong. -/
theorem load_layers :
    (∀ a b c : ConfigLayer, (a.withDefaults b).withDefaults c = a.withDefaults (b.withDefaults c)) ∧
    (∀ l : ConfigLayer, l.withDefaults .empty = l ∧ ConfigLayer.empty.withDefaults l = l) ∧
    (∀ (upper lower : ConfigLayer) (k : ConfigKey),
      (upper.withDefaults lower).get k = (upper.get k).or (lower.get k)) ∧
    ∀ {σ : Type} (m : Machine Files σ) (e : Environment) (asked : Option String)
      (cli file env : ConfigLayer) (path : Option String) (s : σ),
      ((locate e asked).run m s).value = .ok path →
      ((fileLayer e path).run m ((locate e asked).run m s).state).value = .ok file →
      let v := ConfigLayer.winners [cli, file, env]
      let result := ((load e asked env cli).run m s).value
      ((∃ c, result = .ok c) ↔
        (∀ f, v.Gives f) ∧ HasWebScheme ((v .krokiUrl).getD "https://kroki.io") ∧
          (v .timeoutSecs).getD 30 ≠ 0) ∧
      (∀ c, result = .ok c → c.Follows v path) ∧
      ((∃ f, ¬ v.Gives f) → ∃ fields, result = .error (.missing fields) ∧
        fields.Sublist [.domain, .space, .email, .apiToken] ∧ (∀ f, f ∈ fields ↔ ¬ v.Gives f) ∧
        ((ConfigError.missing fields).message.split '\n').toList.map (·.copy) =
          fields.map RequiredField.advice) := by
  refine ⟨ConfigLayer.withDefaults_assoc,
    fun l => ⟨l.withDefaults_empty, l.empty_withDefaults⟩, ConfigLayer.get_withDefaults, ?_⟩
  intro σ m e asked cli file env path s hlocate hfile v result
  have hvalue : result = ofLayers cli file env path := value_load m e asked hlocate hfile
  have hresolved : Resolved v path result := hvalue ▸ resolved_ofLayers cli file env path
  generalize result = r at hresolved ⊢
  cases hresolved with
  | missing fields hsome horder hfields =>
    rcases hsome with ⟨f, hf⟩
    refine ⟨⟨fun ⟨_, hc⟩ => (nomatch hc), fun h => absurd (h.1 f) hf⟩, fun _ hc => (nomatch hc),
      fun _ => ⟨fields, rfl, horder, hfields, ConfigError.lines_message_missing ?_⟩⟩
    exact List.ne_nil_of_mem ((hfields f).2 hf)
  | diagramUrl hall hurl =>
    exact ⟨⟨fun ⟨_, hc⟩ => (nomatch hc), fun h => absurd h.2.1 hurl⟩, fun _ hc => (nomatch hc),
      fun ⟨f, hf⟩ => absurd (hall f) hf⟩
  | noTimeout hall hurl htime =>
    exact ⟨⟨fun ⟨_, hc⟩ => (nomatch hc), fun h => absurd htime h.2.2⟩, fun _ hc => (nomatch hc),
      fun ⟨f, hf⟩ => absurd (hall f) hf⟩
  | ok c hall hurl htime hfollows =>
    refine ⟨⟨fun _ => ⟨hall, hurl, htime⟩, fun _ => ⟨c, rfl⟩⟩, fun c' hc' => ?_,
      fun ⟨f, hf⟩ => absurd (hall f) hf⟩
    cases hc'
    exact hfollows

/-! ### A file with a reference -/

/-- A file with settings, one of which refers to a variable and one of which is
blank. -/
def siteFiles : (q : Files.Question) → Files.Answer q
  | .kind "site.toml" => some .file
  | .read "site.toml" => .ok <| Text.utf8 <|
      "[confluence]\nspace = \"TEAM\"\nparent_page_id = \" \"\n" ++
        "[diagrams]\nkroki_url = \"http://$\x7bKROKI\x7d/\"\n"
  | .read _ => .error "not found"
  | .names _ => .error "not found"
  | .kind _ => none

/-- Variables for all that is required, and one that the file refers to. -/
def siteEnvironment : Environment where
  vars
    | "CONFLUENCE_DOMAIN" => some "site.example"
    | "CONFLUENCE_SPACE" => some "OLD"
    | "CONFLUENCE_EMAIL" => some "me@site.example"
    | "CONFLUENCE_API_TOKEN" => some "secret"
    | "KROKI" => some "kroki.example"
    | _ => none
  workingDirectory := none

/-- The settings in the file. -/
def siteLayer : ConfigLayer :=
  { ConfigLayer.empty with
    space := some "TEAM", parentPageId := some " ", krokiUrl := some "http://kroki.example/" }

/-- The space in the file counts more than the one in the environment, and the
address of the server loses its slash. With a blank email on the command line
there is no configuration, although there is one in the environment. -/
theorem load_layers_site :
    let m := Machine.fixed siteFiles
    let asked := some "site.toml"
    let env := ConfigLayer.ofVariables siteEnvironment.vars
    let blank := { ConfigLayer.empty with email := some " ", krokiUrl := some "ftp://kroki" }
    ((locate siteEnvironment asked).run m ()).value = .ok asked ∧
      ((fileLayer siteEnvironment asked).run m ()).value = .ok siteLayer ∧
      (∃ c, ((load siteEnvironment asked env .empty).run m ()).value = .ok c ∧
        c.space = "TEAM" ∧ c.parentPageId = none ∧ Trimmed "http://kroki.example/" c.krokiUrl ∧
        c.timeoutSecs = 30) ∧
      ∃ fields, ((load siteEnvironment asked env blank).run m ()).value =
          .error (.missing fields) ∧
        RequiredField.email ∈ fields ∧ RequiredField.space ∉ fields := by
  intro m asked env blank
  have hlocate : ((locate siteEnvironment asked).run m ()).value = .ok asked := rfl
  have hfile : ((fileLayer siteEnvironment asked).run m ()).value = .ok siteLayer := by
    decide +kernel
  have hload := fun cli => load_layers.2.2.2 (Machine.fixed siteFiles) siteEnvironment asked cli
    siteLayer env asked () hlocate hfile
  refine ⟨hlocate, hfile, ?_, ?_⟩
  · rcases hload .empty with ⟨hok, hfields, -⟩
    have hgives : ∀ f, ConfigValues.Gives (ConfigLayer.winners [.empty, siteLayer, env]) f := by
      intro f
      cases f <;> decide
    rcases hok.2 ⟨hgives, ⟨"kroki.example/", Or.inl rfl⟩, by decide⟩ with ⟨c, hc⟩
    have hfollows := hfields c hc
    refine ⟨c, hc, (Option.some.inj hfollows.space).symm, ?_, hfollows.krokiUrl,
      hfollows.timeoutSecs⟩
    refine Option.eq_none_iff_forall_ne_some.2 fun id hid => ?_
    rcases (hfollows.parentPageId id).1 hid with ⟨hblank, htext⟩
    cases hblank
    exact absurd htext (by decide)
  · rcases hload blank with ⟨-, -, hmissing⟩
    rcases hmissing ⟨.email, by decide⟩ with ⟨fields, hresult, -, hmem, -⟩
    exact ⟨fields, hresult, (hmem .email).2 (by decide), fun hspace =>
      (hmem .space).1 hspace (by decide)⟩

end Config

end WikiSync
