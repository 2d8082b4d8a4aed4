import WikiSync.Command.Arguments

/-!
# Usage

What is printed when arguments are refused or when help is asked for.

## Main definitions

* `helpText`, `versionText`: What is asked for.
* `UsageError.message`: The text for any of it.
-/

namespace WikiSync

/-- How the command is called. -/
def helpText : String :=
  "\n".intercalate
    ["Markdown to Confluence sync", "",
      "Usage: mdconf [OPTIONS] [FILES]...", "",
      "Arguments:",
      "  [FILES]...  Markdown files or directories to sync (default: current directory)", "",
      "Options:",
      "  -d, --domain <DOMAIN>        Confluence domain, e.g. example.atlassian.net",
      "  -s, --space <SPACE>          Confluence space key",
      "  -p, --parent <PARENT>        Parent page ID for new pages",
      "  -u, --user <USER>            Confluence account email",
      "  -t, --token <TOKEN>          Confluence API token",
      "  -c, --config <CONFIG>        Path to configuration file",
      "      --dry-run                Show what would change without touching Confluence",
      "      --no-mermaid             Emit Mermaid blocks as code instead of rendering them",
      "      --kroki-url <KROKI_URL>  Kroki server URL for diagram rendering",
      "  -v, --verbose                Enable verbose output",
      "  -h, --help                   Print help",
      "  -V, --version                Print version"]

/-- The name of the command and its version. -/
def versionText : String := "mdconf 0.1.0"

/-- The long name of an option. -/
def CommandOption.word (o : CommandOption) : String :=
  match longOptions.find? fun entry => entry.2 == o with
  | some (name, _) => "--" ++ name
  | none => ""

/-- What is printed. -/
def UsageError.message : UsageError → String
  | unknown argument => "error: unexpected argument \x27" ++ argument ++ "\x27 found"
  | repeated option =>
    "error: the argument \x27" ++ option.word ++ "\x27 cannot be used multiple times"
  | noValue => "error: a value is required but none was supplied"
  | unwantedValue value => "error: unexpected value \x27" ++ value ++ "\x27 found"
  | help => helpText
  | version => versionText

end WikiSync
