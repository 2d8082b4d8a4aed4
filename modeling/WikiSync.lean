import WikiSync.Client.Calls
import WikiSync.Client.Decode
import WikiSync.Command.Arguments
import WikiSync.Command.Report
import WikiSync.Command.Sync
import WikiSync.Command.Usage
import WikiSync.Config.Error
import WikiSync.Config.Expand
import WikiSync.Config.Layer
import WikiSync.Config.Load
import WikiSync.Config.Resolve
import WikiSync.Convert.Context
import WikiSync.Convert.Converter
import WikiSync.Convert.Default
import WikiSync.Convert.Emission
import WikiSync.Convert.Emit.Block
import WikiSync.Convert.Emit.Code
import WikiSync.Convert.Emit.Inline
import WikiSync.Convert.Emit.List
import WikiSync.Convert.Emit.Quote
import WikiSync.Convert.Emit.Table
import WikiSync.Convert.Renderers
import WikiSync.Data.SortedMap
import WikiSync.Diagram.Attach
import WikiSync.Diagram.Backend
import WikiSync.Diagram.Identity
import WikiSync.Diagram.Kroki
import WikiSync.Diagram.Source
import WikiSync.Digest.Sha256
import WikiSync.Document.Builder
import WikiSync.Document.FrontMatter
import WikiSync.Document.Node
import WikiSync.Document.Parse
import WikiSync.Files.Access
import WikiSync.Files.Path
import WikiSync.Files.Tree
import WikiSync.Json.Decode
import WikiSync.Json.Reader
import WikiSync.Json.Value
import WikiSync.Json.Writer
import WikiSync.Log
import WikiSync.Main
import WikiSync.Markdown.Block
import WikiSync.Markdown.Block.Container
import WikiSync.Markdown.Block.Opener
import WikiSync.Markdown.Block.Reader
import WikiSync.Markdown.Cursor
import WikiSync.Markdown.Entity
import WikiSync.Markdown.Entity.Names
import WikiSync.Markdown.Event
import WikiSync.Markdown.Glyph
import WikiSync.Markdown.Html
import WikiSync.Markdown.Inline
import WikiSync.Markdown.Inline.Emphasis
import WikiSync.Markdown.Inline.Reader
import WikiSync.Markdown.Link
import WikiSync.Number.Binary64
import WikiSync.Number.Word
import WikiSync.Page.Render
import WikiSync.Proofs.Client.Refusal
import WikiSync.Proofs.Client.Targets
import WikiSync.Proofs.Client.Version
import WikiSync.Proofs.Command.Sync
import WikiSync.Proofs.Config.Discover
import WikiSync.Proofs.Config.Expansion
import WikiSync.Proofs.Config.Load
import WikiSync.Proofs.Config.Offsets
import WikiSync.Proofs.Config.Pieces
import WikiSync.Proofs.Config.References
import WikiSync.Proofs.Config.Resolve
import WikiSync.Proofs.Config.Settings
import WikiSync.Proofs.Config.Usable
import WikiSync.Proofs.Convert.Availability
import WikiSync.Proofs.Convert.Callouts
import WikiSync.Proofs.Convert.Diagrams
import WikiSync.Proofs.Convert.Emission
import WikiSync.Proofs.Convert.Equations
import WikiSync.Proofs.Convert.Forms
import WikiSync.Proofs.Convert.Local
import WikiSync.Proofs.Convert.Recipe
import WikiSync.Proofs.Convert.Registry
import WikiSync.Proofs.Convert.Tables
import WikiSync.Proofs.Convert.Text
import WikiSync.Proofs.Convert.WellFormed
import WikiSync.Proofs.Convert.Written
import WikiSync.Proofs.Data.SortedMap
import WikiSync.Proofs.Diagram.Attach
import WikiSync.Proofs.Diagram.Kroki
import WikiSync.Proofs.Diagram.Parallel
import WikiSync.Proofs.Diagram.Schedule
import WikiSync.Proofs.Document.Builder
import WikiSync.Proofs.Document.Diagrams
import WikiSync.Proofs.Document.EventText
import WikiSync.Proofs.Document.Events
import WikiSync.Proofs.Document.Normal
import WikiSync.Proofs.Document.Places
import WikiSync.Proofs.Document.Runs
import WikiSync.Proofs.Document.Text
import WikiSync.Proofs.Document.Verbatim
import WikiSync.Proofs.Document.Walk
import WikiSync.Proofs.Files.Directory
import WikiSync.Proofs.Files.Path
import WikiSync.Proofs.Files.System
import WikiSync.Proofs.Markup.CharacterData
import WikiSync.Proofs.Markup.Concat
import WikiSync.Proofs.Markup.Fragment
import WikiSync.Proofs.Markup.Token
import WikiSync.Proofs.Markup.Tree
import WikiSync.Proofs.Page.Diagrams
import WikiSync.Proofs.Page.History
import WikiSync.Proofs.Page.Render
import WikiSync.Proofs.Page.Title
import WikiSync.Proofs.Script.Along
import WikiSync.Proofs.Script.Asks
import WikiSync.Proofs.Script.Fresh
import WikiSync.Proofs.Script.Interleaving
import WikiSync.Proofs.Script.Once
import WikiSync.Proofs.Script.Run
import WikiSync.Proofs.Script.Serve
import WikiSync.Proofs.Script.Supply
import WikiSync.Proofs.Script.Yields
import WikiSync.Proofs.Storage.Entities
import WikiSync.Proofs.Storage.Sections
import WikiSync.Proofs.Storage.Written
import WikiSync.Proofs.Store.Attachments
import WikiSync.Proofs.Store.Call
import WikiSync.Proofs.Store.Faulty
import WikiSync.Proofs.Store.Later
import WikiSync.Proofs.Store.Memory
import WikiSync.Proofs.Store.Names
import WikiSync.Proofs.Store.Pages
import WikiSync.Proofs.Store.Seeds
import WikiSync.Proofs.Sync.Again
import WikiSync.Proofs.Sync.Asks
import WikiSync.Proofs.Sync.Attachments
import WikiSync.Proofs.Sync.Batch
import WikiSync.Proofs.Sync.Calls
import WikiSync.Proofs.Sync.Conflict
import WikiSync.Proofs.Sync.DryRun
import WikiSync.Proofs.Sync.Expand
import WikiSync.Proofs.Sync.Fold
import WikiSync.Proofs.Sync.Isolation
import WikiSync.Proofs.Sync.OnePage
import WikiSync.Proofs.Sync.Rehearsal
import WikiSync.Proofs.Sync.Repair
import WikiSync.Proofs.Sync.Report
import WikiSync.Proofs.Sync.Stored
import WikiSync.Proofs.Text.Split
import WikiSync.Proofs.Text.Utf8
import WikiSync.Proofs.Web.Form
import WikiSync.Proofs.Web.Multipart
import WikiSync.Proofs.Web.Percent
import WikiSync.Script
import WikiSync.Storage.Escape
import WikiSync.Storage.Macro
import WikiSync.Store.Call
import WikiSync.Store.Error
import WikiSync.Store.Memory
import WikiSync.Store.Page
import WikiSync.Sync.Batch
import WikiSync.Sync.Expand
import WikiSync.Sync.Outcome
import WikiSync.Sync.Reconcile
import WikiSync.Text.Alphanumeric
import WikiSync.Text.Ascii
import WikiSync.Text.Base64
import WikiSync.Text.Blank
import WikiSync.Text.CaseFold
import WikiSync.Text.Escape
import WikiSync.Text.Hex
import WikiSync.Text.Lines
import WikiSync.Text.Lowercase
import WikiSync.Text.Punctuation
import WikiSync.Toml.Quoted
import WikiSync.Toml.Reader
import WikiSync.Toml.Scalar
import WikiSync.Toml.Table
import WikiSync.Toml.Value
import WikiSync.Web.Exchange
import WikiSync.Web.Multipart
import WikiSync.Web.Offline
import WikiSync.Web.Percent
import WikiSync.Web.Status
import WikiSync.Yaml.Node
import WikiSync.Yaml.Node.Reader
import WikiSync.Yaml.Place
import WikiSync.Yaml.Resolve
import WikiSync.Yaml.Scalar
import WikiSync.Yaml.Token
import WikiSync.Yaml.Token.Reader
import WikiSync.Yaml.Token.Scalar
import WikiSync.Yaml.Token.Tag
import WikiSync.Yaml.Value
