import LiquidHover.Main
import LiquidHover.Template.Cursor
import LiquidHover.Proofs.Session.Transparency
import LiquidHover.Proofs.Template.Scan
import LiquidHover.Proofs.Text.Strip
import LiquidHover.Proofs.Text.Unquoted
import LiquidHover.Proofs.Template.Expressions
import LiquidHover.Proofs.Template.Names
import LiquidHover.Proofs.Template.Written
import LiquidHover.Proofs.Template.Path
import LiquidHover.Proofs.Template.Reading
import LiquidHover.Proofs.Template.Concatenation
import LiquidHover.Proofs.Text.Columns
import LiquidHover.Proofs.Text.Lines
import LiquidHover.Proofs.Text.LineIndex
import LiquidHover.Proofs.Template.Cursor
import LiquidHover.Proofs.Template.Dispatch
import LiquidHover.Proofs.Template.OnePass
import LiquidHover.Proofs.Template.Pipe
import LiquidHover.Proofs.Hover.Cover
import LiquidHover.Proofs.Hover.Arguments
import LiquidHover.Proofs.Session.Encodings
import LiquidHover.Proofs.Session.Documents
import LiquidHover.Proofs.Session.Mirror
import LiquidHover.Proofs.Session.Independence
import LiquidHover.Proofs.Session.Renegotiation
import LiquidHover.Proofs.Toml.Keys
import LiquidHover.Proofs.Keyed
import LiquidHover.Proofs.Settings.Values
import LiquidHover.Proofs.Settings.Layers
import LiquidHover.Proofs.Settings.Kept
import LiquidHover.Proofs.Settings.Sources
import LiquidHover.Proofs.Settings.Precedence
import LiquidHover.Proofs.Settings.Foreign
import LiquidHover.Proofs.CommandLine.Agreement
import LiquidHover.Proofs.Template.Dashes
import LiquidHover.Proofs.Catalog.Lookup
import LiquidHover.Proofs.Catalog.Walk
import LiquidHover.Proofs.Catalog.Undeprecated
import LiquidHover.Proofs.Hover.Tags
import LiquidHover.Proofs.Hover.Deprecation
import LiquidHover.Proofs.Hover.Hidden
import LiquidHover.Proofs.Hover.Table
import LiquidHover.Proofs.Session.Liveness
import LiquidHover.Proofs.Session.Recency
import LiquidHover.Proofs.Json.Order
import LiquidHover.Proofs.Settings.Normal
import LiquidHover.Proofs.Session.Reloading
import LiquidHover.Proofs.Template.Balance
import LiquidHover.Proofs.Span.Saturation
import LiquidHover.Proofs.Text.Stretches
import LiquidHover.Proofs.Text.Segments
import LiquidHover.Proofs.Text.ArgumentRuns
import LiquidHover.Proofs.CommandLine.Listing
