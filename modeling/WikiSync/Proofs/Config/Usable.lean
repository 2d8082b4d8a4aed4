import WikiSync.Proofs.Config.Load

/-!
# What a Loaded Configuration Promises

What the rest of the program may rely on once settings are loaded. Requests are
made out of them: the account and the site are not blank, a diagram has some time,
and the address of the diagram server takes a path at its end. `Config.Usable` says
so, and every configuration that is loaded is usable, whatever the files, the
variables and the command line hold.

One more thing is wanted of the address of the diagram server, a scheme with
something behind it. The scheme is looked for in the address as it was set, and the
slashes at its end are taken off afterwards. If there is nothing but slashes behind
the scheme, they take the slashes of the scheme along: `http://` passes, and
`http:` is kept. `hasHost_iff_of_trimmed` says that this is the only way to lose a
scheme, and `not_every_server_kept` is a configuration that lost it.

## Main definitions

* `HasHost`, `NamesServer`: Addresses with something behind the scheme.
* `Config.Usable`: What the program relies on.

## Theorems

* `hasHost_iff_of_trimmed`: What taking off slashes leaves of an address.
* `Config.exists_of_load`: The layers that a configuration was loaded from.
* `Config.usable_load`: Every configuration is usable.
* `Config.not_every_server_kept`: An address that lost its scheme.
-/

namespace WikiSync

/-! ### Addresses -/

/-- The schemes of addresses that requests can be sent to. -/
def webSchemes : List String :=
  ["http://", "https://"]

/-- An address with something behind its scheme. -/
def HasHost (url : String) : Prop :=
  ∃ scheme ∈ webSchemes, ∃ rest, url = scheme ++ rest ∧ rest ≠ ""

/-- An address with something other than slashes behind its scheme. -/
def NamesServer (url : String) : Prop :=
  ∃ scheme ∈ webSchemes, ∃ rest, url = scheme ++ rest ∧ ∃ c ∈ rest.toList, c ≠ '/'

/-- Behind what is left of an address, only slashes were taken off. -/
theorem exists_ne_slash {scheme rest url : String} (h : Trimmed url (scheme ++ rest))
    (hrest : rest ≠ "") : ∃ whole, url = scheme ++ whole ∧ ∃ c ∈ whole.toList, c ≠ '/' := by
  rcases h.slashes with ⟨n, hurl⟩
  -- The last character that is left is no slash.
  have hnil : rest.toList ≠ [] := fun hnone => hrest (String.toList_eq_nil_iff.1 hnone)
  have hlast : rest.toList.getLast hnil ≠ '/' := by
    have hbare := h.bare
    rw [String.toList_append, List.getLast?_append_of_ne_nil _ hnil,
      List.getLast?_eq_some_getLast hnil] at hbare
    exact fun hslash => hbare (congrArg some hslash)
  refine ⟨rest ++ String.ofList (List.replicate n '/'), ?_, rest.toList.getLast hnil, ?_, hlast⟩
  · rw [← String.toList_inj, hurl]
    simp only [String.toList_append, String.toList_ofList, List.append_assoc]
  · rw [String.toList_append]
    exact List.mem_append_left _ (List.getLast_mem hnil)

/-- What is no slash is left, and so is all in front of it. -/
theorem exists_ne_empty {scheme rest short : String} (h : Trimmed (scheme ++ rest) short)
    (hrest : ∃ c ∈ rest.toList, c ≠ '/') : ∃ left, short = scheme ++ left ∧ left ≠ "" := by
  rcases h.slashes with ⟨n, hurl⟩
  rcases hrest with ⟨c, hc, hne⟩
  rw [String.toList_append] at hurl
  rcases List.append_eq_append_iff.1 hurl with ⟨left, hshort, hleft⟩ | ⟨tail, -, htail⟩
  · -- The scheme is whole, and the character stands in what is left behind it.
    refine ⟨String.ofList left, ?_, fun hnone => ?_⟩
    · rw [← String.toList_inj, hshort, String.toList_append, String.toList_ofList]
    · have hempty : left = [] := by
        rw [← String.toList_ofList (l := left), hnone]
        rfl
      rw [hleft, hempty, List.nil_append] at hc
      exact hne (List.eq_of_mem_replicate hc)
  · -- Slashes were taken off the scheme, so all behind it are slashes.
    have hslash : c ∈ List.replicate n '/' := htail ▸ List.mem_append_right _ hc
    exact absurd (List.eq_of_mem_replicate hslash) hne

/-- Without the slashes at its end, an address has something behind its scheme
exactly if something other than slashes stood there. -/
theorem hasHost_iff_of_trimmed {url short : String} (h : Trimmed url short) :
    HasHost short ↔ NamesServer url := by
  constructor
  · rintro ⟨scheme, hscheme, rest, rfl, hrest⟩
    exact ⟨scheme, hscheme, exists_ne_slash h hrest⟩
  · rintro ⟨scheme, hscheme, rest, rfl, hrest⟩
    exact ⟨scheme, hscheme, exists_ne_empty h hrest⟩

namespace Config

/-! ### Configurations -/

/-- What the program relies on when it builds addresses and requests. -/
structure Usable (c : Config) : Prop where
  domain : NotBlank c.domain
  space : NotBlank c.space
  email : NotBlank c.email
  apiToken : NotBlank c.apiToken
  parentPageId : ∀ id, c.parentPageId = some id → NotBlank id
  /-- A path can be put at the end of the address. -/
  krokiUrl : c.krokiUrl.toList.getLast? ≠ some '/'
  timeoutSecs : 0 < c.timeoutSecs

theorem Resolved.follows {v : ConfigValues} {path : Option String} {c : Config}
    (h : Resolved v path (.ok c)) : c.Follows v path := by
  cases h with
  | ok _ _ _ _ hfollows => exact hfollows

/-- What was checked of the settings holds of the configuration. -/
theorem Resolved.usable {v : ConfigValues} {path : Option String} {c : Config}
    (h : Resolved v path (.ok c)) : c.Usable := by
  cases h with
  | ok _ hall hurl htime hfollows =>
    -- The check and the configuration speak of the same settings.
    have hgiven : ∀ (f : RequiredField) (s : String), f.value v = some s → NotBlank s := by
      intro f s hs
      rcases hall f with ⟨s', hs', hnot⟩
      rw [hs, Option.some.injEq] at hs'
      exact hs' ▸ hnot
    exact
      { domain := hgiven .domain _ hfollows.domain
        space := hgiven .space _ hfollows.space
        email := hgiven .email _ hfollows.email
        apiToken := hgiven .apiToken _ hfollows.apiToken
        parentPageId := fun id hid => ((hfollows.parentPageId id).1 hid).2
        krokiUrl := hfollows.krokiUrl.bare
        timeoutSecs := Nat.pos_of_ne_zero (hfollows.timeoutSecs ▸ htime) }

/-- A configuration that was loaded comes from three layers, one of which was read
from a file. -/
theorem exists_of_load {σ : Type} (m : Machine Files σ) (e : Environment) (asked : Option String)
    {cli env : ConfigLayer} {s : σ} {c : Config}
    (h : ((load e asked env cli).run m s).value = .ok c) :
    ∃ path file, ((locate e asked).run m s).value = .ok path ∧
      ((fileLayer e path).run m ((locate e asked).run m s).state).value = .ok file ∧
      ofLayers cli file env path = .ok c := by
  rcases hlocate : ((locate e asked).run m s).value with problem | path
  · -- Without a file that was asked for, there is no configuration.
    unfold load at h
    rw [Script.run_bind, hlocate] at h
    cases h
  · rcases hfile : ((fileLayer e path).run m ((locate e asked).run m s).state).value with
      problem | file
    · unfold load at h
      rw [Script.run_bind, hlocate] at h
      simp only [Run.follow] at h
      rw [Script.run_bind, hfile] at h
      cases h
    · exact ⟨path, file, rfl, hfile, (value_load m e asked hlocate hfile).symm.trans h⟩

/-- Every configuration that is loaded is usable, whatever there is in the files,
the variables and the command line. Its address of the diagram server has something
behind the scheme exactly if the address that counts, as it was set, has something
other than slashes there. -/
theorem usable_load {σ : Type} (m : Machine Files σ) (e : Environment) (asked : Option String)
    (env cli : ConfigLayer) (s : σ) (c : Config)
    (hok : ((load e asked env cli).run m s).value = .ok c) :
    c.Usable ∧ ∃ path file, ((locate e asked).run m s).value = .ok path ∧
      ((fileLayer e path).run m ((locate e asked).run m s).state).value = .ok file ∧
      (HasHost c.krokiUrl ↔ NamesServer
        ((ConfigLayer.winners [cli, file, env] .krokiUrl).getD "https://kroki.io")) := by
  rcases exists_of_load m e asked hok with ⟨path, file, hlocate, hfile, hlayers⟩
  have hresolved : Resolved (ConfigLayer.winners [cli, file, env]) path (.ok c) :=
    hlayers ▸ resolved_ofLayers cli file env path
  exact ⟨hresolved.usable, path, file, hlocate, hfile,
    hasHost_iff_of_trimmed hresolved.follows.krokiUrl⟩

/-! ### A server and slashes -/

/-- The settings of a command line with nothing but an address. -/
def serverLayer (url : String) : ConfigLayer :=
  { ConfigLayer.empty with krokiUrl := some url }

/-- The configuration that has an address of a server. -/
def serverConfig (url : String) : Config :=
  ⟨"site.example", "OLD", "me@site.example", "secret", none, true, url, 30, false, false, none⟩

/-- Of an address with a server, only the slashes at its end are lost. -/
theorem usable_load_server :
    let env := ConfigLayer.ofVariables siteEnvironment.vars
    let cli := serverLayer "http://kroki.example//"
    ∃ c, ((load siteEnvironment none env cli).run (Machine.fixed siteFiles) ()).value = .ok c ∧
      c.Usable ∧ HasHost c.krokiUrl ∧ c.krokiUrl = "http://kroki.example" := by
  intro env cli
  have hok : ((load siteEnvironment none env cli).run (Machine.fixed siteFiles) ()).value =
      .ok (serverConfig "http://kroki.example") := by decide +kernel
  rcases usable_load (Machine.fixed siteFiles) siteEnvironment none env cli () _ hok with
    ⟨husable, path, file, hlocate, hfile, hhost⟩
  refine ⟨_, hok, husable, hhost.2 ?_, rfl⟩
  -- There is no file, so the address on the command line counts.
  exact ⟨"http://", by decide, "kroki.example//", rfl, 'k', by decide, by decide⟩

/-- It is not so that the address of the diagram server has something behind its
scheme, or a scheme at all. With nothing but slashes there, the scheme is lost. -/
theorem not_every_server_kept :
    ¬ ∀ {σ : Type} (m : Machine Files σ) (e : Environment) (asked : Option String)
      (env cli : ConfigLayer) (s : σ) (c : Config),
      ((load e asked env cli).run m s).value = .ok c → HasHost c.krokiUrl := by
  intro h
  have hok : ((load siteEnvironment none (ConfigLayer.ofVariables siteEnvironment.vars)
      (serverLayer "http://")).run (Machine.fixed siteFiles) ()).value =
        .ok (serverConfig "http:") := by rfl
  rcases h (Machine.fixed siteFiles) siteEnvironment none _ _ () _ hok with
    ⟨scheme, hscheme, rest, hurl, -⟩
  have hlist := congrArg String.toList hurl
  rw [String.toList_append] at hlist
  -- What is left is shorter than either scheme.
  have hlength := congrArg List.length hlist
  rw [List.length_append] at hlength
  have hshort : (serverConfig "http:").krokiUrl.toList.length = 5 := by decide
  have hscheme : 7 ≤ scheme.toList.length := by
    rcases List.mem_cons.1 hscheme with rfl | hscheme
    · decide
    · rw [List.mem_singleton.1 hscheme]
      decide
  omega

end Config

end WikiSync
