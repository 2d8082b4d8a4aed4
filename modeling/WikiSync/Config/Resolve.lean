import WikiSync.Config.Layer
import WikiSync.Text.Blank
import WikiSync.Web.Exchange

/-!
# Resolved Settings

What the program works with. All layers of settings together have to name the
site, the space and the account; everything else has a default.

## Main definitions

* `Config`: The type.
* `ConfigLayer.resolve`: Checks a layer and fills in defaults.
-/

namespace WikiSync

/-- Settings that have been checked. -/
structure Config where
  domain : String
  space : String
  email : String
  apiToken : String
  /-- The page that new pages are put under. -/
  parentPageId : Option String
  /-- Whether diagrams are rendered. -/
  mermaid : Bool
  /-- The address of the diagram server, without a slash at its end. -/
  krokiUrl : String
  /-- How long a diagram may take. -/
  timeoutSecs : Nat
  dryRun : Bool
  verbose : Bool
  /-- The file that settings were read from. -/
  path : Option String
deriving DecidableEq, Repr

/-- The address of the wiki. -/
def Config.siteUrl (c : Config) : String :=
  "https://" ++ trimSlashes c.domain ++ "/wiki"

/-- The diagram server unless another one is set. -/
def defaultKrokiUrl : String := "https://kroki.io"

/-- How long a diagram may take unless something else is set. -/
def defaultTimeoutSecs : Nat := 30

/-- Whether a text starts with another. -/
def startsWith (start s : String) : Bool :=
  start.toList.isPrefixOf s.toList

/-- Whether an address has a scheme that requests can be sent with. -/
def isWebUrl (url : String) : Bool :=
  startsWith "http://" url || startsWith "https://" url

/-- A setting unless it is blank. -/
def given? (value : Option String) : Option String :=
  value.filter fun s => !Text.isBlank s

namespace ConfigLayer

/-- The settings that are missing or blank. -/
def missing (l : ConfigLayer) : List RequiredField :=
  [(RequiredField.domain, l.domain), (.space, l.space), (.email, l.email),
    (.apiToken, l.apiToken)].filterMap fun (field, value) =>
      if (given? value).isNone then some field else none

/-- Checks a layer and fills in defaults. -/
def resolve (l : ConfigLayer) : Except ConfigError Config :=
  match given? l.domain, given? l.space, given? l.email, given? l.apiToken with
  | some domain, some space, some email, some apiToken =>
    let krokiUrl := l.krokiUrl.getD defaultKrokiUrl
    let timeoutSecs := l.timeoutSecs.getD defaultTimeoutSecs
    if !isWebUrl krokiUrl then .error .diagramUrl
    else if timeoutSecs = 0 then .error .noTimeout
    else
      .ok
        { domain, space, email, apiToken, timeoutSecs
          parentPageId := given? l.parentPageId
          mermaid := l.mermaid.getD true
          krokiUrl := trimSlashes krokiUrl
          dryRun := l.dryRun.getD false
          verbose := l.verbose.getD false
          path := none }
  | _, _, _, _ => .error (.missing l.missing)

end ConfigLayer

end WikiSync
