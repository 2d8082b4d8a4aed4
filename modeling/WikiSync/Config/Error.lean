/-!
# Configuration Errors

Why there is no configuration, and what to tell the user.

## Main definitions

* `RequiredField`: The settings that have no default.
* `ConfigError`, `ConfigError.message`: An error and its text.
-/

namespace WikiSync

/-- A setting that has no default. -/
inductive RequiredField where
  | domain
  | space
  | email
  | apiToken
deriving DecidableEq, Repr

/-- What to tell the user when a setting is missing. -/
def RequiredField.advice : RequiredField → String
  | domain => "Missing Confluence domain. Set --domain or CONFLUENCE_DOMAIN"
  | space => "Missing Confluence space. Set --space or CONFLUENCE_SPACE"
  | email => "Missing Confluence email. Set --user or CONFLUENCE_EMAIL"
  | apiToken => "Missing Confluence API token. Set --token or CONFLUENCE_API_TOKEN"

/-- Why there is no configuration. -/
inductive ConfigError where
  /-- There is no file at a path that was asked for. -/
  | notFound (path : String)
  | unreadable (reason : String)
  /-- The file is not TOML, or its settings have the wrong types. -/
  | malformed
  | missing (fields : List RequiredField)
  /-- The address of the diagram server has no known scheme. -/
  | diagramUrl
  | noTimeout
  /-- A setting refers to a variable that is unset. -/
  | unset (field name : String)
deriving DecidableEq, Repr

/-- The text of an error. Missing settings have a line each. -/
def ConfigError.message : ConfigError → String
  | notFound path => "Configuration file not found: " ++ path
  | unreadable reason => "I/O error: " ++ reason
  | malformed => "TOML parse error: invalid document"
  | missing fields => "\n".intercalate (fields.map RequiredField.advice)
  | diagramUrl => "diagrams.kroki_url must start with http:// or https://"
  | noTimeout => "diagrams.timeout_secs must be greater than 0"
  | unset field name =>
    "Environment variable error in " ++ field ++ ": $\x7b" ++ name ++ "\x7d not set"

end WikiSync
