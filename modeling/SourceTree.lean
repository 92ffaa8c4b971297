import SourceTree.Bundle.Trailer
import SourceTree.Command.Basic
import SourceTree.Command.Execute
import SourceTree.Command.Help
import SourceTree.Command.Line
import SourceTree.Command.Program
import SourceTree.Decimal.Notation
import SourceTree.Decimal.Shortest
import SourceTree.Document.Basic
import SourceTree.Document.Load
import SourceTree.Document.Read
import SourceTree.Event.Basic
import SourceTree.Event.Filter
import SourceTree.Event.Pattern
import SourceTree.Files.Basic
import SourceTree.Files.Disk
import SourceTree.Files.Store
import SourceTree.Files.Walk
import SourceTree.Json.Fault
import SourceTree.Json.Literal
import SourceTree.Json.Number
import SourceTree.Json.Reader
import SourceTree.Json.Schema
import SourceTree.Json.Skip
import SourceTree.Main
import SourceTree.Path.Basic
import SourceTree.Path.Normal
import SourceTree.Path.Order
import SourceTree.Proofs.Path.Steps
import SourceTree.Proofs.Text.Segments
import SourceTree.Proofs.Text.Blank
import SourceTree.Record.Basic
import SourceTree.Record.Draft
import SourceTree.Record.Json
import SourceTree.Record.Load
import SourceTree.Record.Yaml
import SourceTree.Reference.Resolve
import SourceTree.Reference.Scan
import SourceTree.Reference.Stub
import SourceTree.Remote
import SourceTree.SourceName
import SourceTree.Stage.Acquire
import SourceTree.Stage.Basic
import SourceTree.Stage.Placeholders
import SourceTree.Stage.Rebuild
import SourceTree.Text.Blank
import SourceTree.Text.Extent
import SourceTree.Text.Hex
import SourceTree.Text.Letter
import SourceTree.Text.Percent
import SourceTree.Text.Printable
import SourceTree.Text.Quoted
import SourceTree.Text.Ranges
import SourceTree.Text.Segments
import SourceTree.Text.Terminal
import SourceTree.Text.Utf8
import SourceTree.Yaml.Cursor
import SourceTree.Yaml.Node
import SourceTree.Yaml.Scalar
import SourceTree.Yaml.Scan
import SourceTree.Yaml.Token
import SourceTree.Proofs.Path.Normal
import SourceTree.Proofs.Path.Containment
import SourceTree.Proofs.SourceName.Containment
import SourceTree.Proofs.Stage.Ends
import SourceTree.Proofs.Files.Store
import SourceTree.Proofs.Path.FileName
import SourceTree.Proofs.Reference.Stub
import SourceTree.Proofs.Text.Lossy
import SourceTree.Proofs.Placeholders.Survey
import SourceTree.Proofs.Placeholders.Fill
import SourceTree.Proofs.Placeholders.Closure
import SourceTree.Proofs.Stage.Writes
import SourceTree.Proofs.Rebuild.LastWrite
import SourceTree.Proofs.Path.Parent
import SourceTree.Proofs.Path.Suffix
import SourceTree.Proofs.Placeholders.Places
import SourceTree.Proofs.Placeholders.Containment
import SourceTree.Proofs.Placeholders.Stray
import SourceTree.Proofs.Path.Within
import SourceTree.Proofs.Placeholders.Asked
import SourceTree.Proofs.Files.Region
import SourceTree.Proofs.Placeholders.Account
import SourceTree.Proofs.Stage.Local
import SourceTree.Proofs.Placeholders.Footprint
import SourceTree.Proofs.Reference.Resolve
import SourceTree.Proofs.Stage.Footprint
import SourceTree.Proofs.Command.Effect
import SourceTree.Proofs.Command.Schedule
import SourceTree.Proofs.Files.Overwrite
import SourceTree.Proofs.Command.Rerun
import SourceTree.Proofs.Files.Fresh
import SourceTree.Proofs.Acquire.Turns
import SourceTree.Proofs.Acquire.Account
import SourceTree.Proofs.Acquire.Converge
import SourceTree.Proofs.Rebuild.Division
import SourceTree.Proofs.Acquire.Documents
import SourceTree.Proofs.Placeholders.Precedence
import SourceTree.Proofs.Acquire.Forecast
import SourceTree.Proofs.Files.History
import SourceTree.Proofs.Files.Nesting
import SourceTree.Proofs.Disk.Legal
import SourceTree.Proofs.Disk.Lookup
import SourceTree.Proofs.Disk.Create
import SourceTree.Proofs.Disk.Listing
import SourceTree.Proofs.Disk.Holds
import SourceTree.Proofs.Disk.Agreement
import SourceTree.Proofs.Stage.Unheard
import SourceTree.Proofs.Command.Batch
import SourceTree.Proofs.Reference.Scan
import SourceTree.Proofs.Reference.Statement
import SourceTree.Proofs.Reference.Lines
import SourceTree.Proofs.Reference.Row
import SourceTree.Proofs.Json.Grammar
import SourceTree.Proofs.Json.Form
import SourceTree.Proofs.Json.Literal
import SourceTree.Proofs.Json.Accepted
import SourceTree.Proofs.Json.Skip
import SourceTree.Proofs.Json.Reader
import SourceTree.Proofs.Json.Recognizes
import SourceTree.Proofs.Json.Schema
import SourceTree.Proofs.Json.Record
import SourceTree.Proofs.Document.Accept
import SourceTree.Proofs.Document.Parse
import SourceTree.Proofs.Text.Percent
import SourceTree.Proofs.SourceName.Layers
import SourceTree.Proofs.SourceName.Spelling
import SourceTree.Proofs.Path.Nameless
import SourceTree.Proofs.Rebuild.Root
import SourceTree.Proofs.Bundle.Assignment
import SourceTree.Proofs.Bundle.Names
import SourceTree.Proofs.Bundle.Trailer
import SourceTree.Proofs.Acquire.Collapse
import SourceTree.Proofs.Acquire.Inline
import SourceTree.Proofs.Path.Names
import SourceTree.Proofs.Reference.Layout
import SourceTree.Proofs.Record.Accept
import SourceTree.Proofs.Stage.Refusal
import SourceTree.Proofs.Text.ByteOrder
import SourceTree.Proofs.Record.Discover
import SourceTree.Proofs.Path.Walk
import SourceTree.Proofs.Path.Place
import SourceTree.Proofs.Reference.Pattern
import SourceTree.Proofs.Reference.Occurrence
