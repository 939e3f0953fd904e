import CallAssist.Main
import CallAssist.Proofs.Server.Breakdown
import CallAssist.Proofs.Server.Wire
import CallAssist.Proofs.Text.Fold
import CallAssist.Proofs.Text.Utf16
import CallAssist.Proofs.Settings.Sources
import CallAssist.Proofs.Settings.Precedence
import CallAssist.Proofs.Settings.Search
import CallAssist.Proofs.Settings.Workspace
import CallAssist.Proofs.SignatureHelp
import CallAssist.Proofs.Server.History
import CallAssist.Proofs.Server.Requests
import CallAssist.Proofs.Server.Features
import CallAssist.Proofs.Yaml.Cursor
import CallAssist.Proofs.Yaml.Scalars
import CallAssist.Proofs.Yaml.Queue
import CallAssist.Proofs.Yaml.Flow
import CallAssist.Proofs.Yaml.Trees
import CallAssist.Proofs.Json.Layout
import CallAssist.Proofs.Yaml.Shared
import CallAssist.Proofs.Catalog.Drafts
import CallAssist.Proofs.Catalog.Formats
import CallAssist.Proofs.Catalog.Construction
import CallAssist.Proofs.Completion
import CallAssist.Proofs.Server.Documents
import CallAssist.Proofs.Command.Flags
import CallAssist.Proofs.Command.Start
import CallAssist.Proofs.Server.Lifetime
import CallAssist.Proofs.Catalog.Triggers
import CallAssist.Proofs.Server.Opening
import CallAssist.Proofs.Hover
import CallAssist.Proofs.Resolution
import CallAssist.Proofs.Validation.Turns
import CallAssist.Proofs.Validation.Outcome
import CallAssist.Proofs.Watcher
import CallAssist.Proofs.Catalog.Listing
import CallAssist.Proofs.Json.Shapes
import CallAssist.Proofs.Server.Rejection
import CallAssist.Proofs.Document.Addresses
import CallAssist.Proofs.Document.LineTable
import CallAssist.Proofs.Server.Ending
import CallAssist.Proofs.Call.Parts
import CallAssist.Proofs.Call.Movement
