import ProcessDiagram.CommandLine.Arguments
import ProcessDiagram.CommandLine.Help
import ProcessDiagram.CommandLine.Outcome
import ProcessDiagram.CommandLine.Run
import ProcessDiagram.CommandLine.Variables
import ProcessDiagram.Decimal.Binary
import ProcessDiagram.Decimal.Rounded
import ProcessDiagram.Decimal.Shortest
import ProcessDiagram.Diagram.Assembly
import ProcessDiagram.Diagram.Drawing
import ProcessDiagram.Diagram.Flow
import ProcessDiagram.Diagram.Ledger
import ProcessDiagram.Diagram.Legend
import ProcessDiagram.Diagram.Registry
import ProcessDiagram.Diagram.Report
import ProcessDiagram.Files.Environment
import ProcessDiagram.Files.Error
import ProcessDiagram.Files.FileTree
import ProcessDiagram.Files.Host
import ProcessDiagram.Files.Path
import ProcessDiagram.Files.Program
import ProcessDiagram.Files.TreeHost
import ProcessDiagram.Graph.Basic
import ProcessDiagram.Graph.Dot
import ProcessDiagram.Graph.Json
import ProcessDiagram.Graph.Style
import ProcessDiagram.Json.Printer
import ProcessDiagram.Json.ReadError
import ProcessDiagram.Json.Reader
import ProcessDiagram.Json.Value
import ProcessDiagram.Output.Error
import ProcessDiagram.Output.Format
import ProcessDiagram.Output.Render
import ProcessDiagram.Output.Settings
import ProcessDiagram.Process.Decoding
import ProcessDiagram.Process.Description
import ProcessDiagram.Process.Element
import ProcessDiagram.Process.Encoding
import ProcessDiagram.Process.Error
import ProcessDiagram.Shell.Arithmetic
import ProcessDiagram.Shell.Builtin
import ProcessDiagram.Shell.Catalogue
import ProcessDiagram.Shell.Command
import ProcessDiagram.Shell.Condition
import ProcessDiagram.Shell.Edit
import ProcessDiagram.Shell.Expansion
import ProcessDiagram.Shell.Format
import ProcessDiagram.Shell.Grammar
import ProcessDiagram.Shell.Host
import ProcessDiagram.Shell.Octets
import ProcessDiagram.Shell.Options
import ProcessDiagram.Shell.Pattern
import ProcessDiagram.Shell.Process
import ProcessDiagram.Shell.Program.Attributes
import ProcessDiagram.Shell.Program.Blocks
import ProcessDiagram.Shell.Program.Characters
import ProcessDiagram.Shell.Program.Clock
import ProcessDiagram.Shell.Program.Comparison
import ProcessDiagram.Shell.Program.Directories
import ProcessDiagram.Shell.Program.Editing
import ProcessDiagram.Shell.Program.Fields
import ProcessDiagram.Shell.Program.Finding
import ProcessDiagram.Shell.Program.Launching
import ProcessDiagram.Shell.Program.Lines
import ProcessDiagram.Shell.Program.Listing
import ProcessDiagram.Shell.Program.Pairing
import ProcessDiagram.Shell.Program.Search
import ProcessDiagram.Shell.Program.Sorting
import ProcessDiagram.Shell.Program.Words
import ProcessDiagram.Shell.Quoting
import ProcessDiagram.Shell.Regex
import ProcessDiagram.Shell.Run
import ProcessDiagram.Shell.Signal
import ProcessDiagram.Shell.Source
import ProcessDiagram.Shell.State
import ProcessDiagram.Shell.Token
import ProcessDiagram.Shell.Utility
import ProcessDiagram.Text.Alphanumeric
import ProcessDiagram.Text.Blank
import ProcessDiagram.Text.Checksum
import ProcessDiagram.Text.CodePointSet
import ProcessDiagram.Text.Digest
import ProcessDiagram.Text.Display
import ProcessDiagram.Text.LetterCase
import ProcessDiagram.Text.Utf8
import ProcessDiagram.Main
import ProcessDiagram.Proofs.Lists
import ProcessDiagram.Proofs.Identifier
import ProcessDiagram.Proofs.Figure
import ProcessDiagram.Proofs.Growth
import ProcessDiagram.Proofs.Placement
import ProcessDiagram.Proofs.TwoPasses
import ProcessDiagram.Proofs.Depiction
import ProcessDiagram.Proofs.DistinctIds
import ProcessDiagram.Proofs.Route
import ProcessDiagram.Proofs.FirstMention
import ProcessDiagram.Proofs.Place
import ProcessDiagram.Proofs.Run
import ProcessDiagram.Proofs.RunWalk
import ProcessDiagram.Proofs.OnlyRoutes
import ProcessDiagram.Proofs.WalkRun
import ProcessDiagram.Proofs.TaskNodes
import ProcessDiagram.Proofs.Neighbours
import ProcessDiagram.Proofs.Sequence
import ProcessDiagram.Proofs.Containment
import ProcessDiagram.Proofs.Connected
import ProcessDiagram.Proofs.RankOrder
import ProcessDiagram.Proofs.References
import ProcessDiagram.Proofs.Clause
import ProcessDiagram.Proofs.Incidence
import ProcessDiagram.Proofs.ConditionWiring
import ProcessDiagram.Proofs.GatewayFan
import ProcessDiagram.Proofs.Outline
import ProcessDiagram.Proofs.ParallelFlows
import ProcessDiagram.Proofs.DotLexeme
import ProcessDiagram.Proofs.DotStatement
import ProcessDiagram.Proofs.DotText
import ProcessDiagram.Proofs.DotDiagram
import ProcessDiagram.Proofs.Substitution
import ProcessDiagram.Proofs.DotQuote
import ProcessDiagram.Proofs.DotLines
import ProcessDiagram.Proofs.Numbering
import ProcessDiagram.Proofs.NodeIds
import ProcessDiagram.Proofs.Census
import ProcessDiagram.Proofs.Continuation
import ProcessDiagram.Proofs.RecordFields
import ProcessDiagram.Proofs.RecordFormats
import ProcessDiagram.Proofs.ElementForm
import ProcessDiagram.Proofs.ElementRoundTrip
import ProcessDiagram.Proofs.TaggedElement
import ProcessDiagram.Proofs.ScalarNames
import ProcessDiagram.Proofs.RegistryHistory
import ProcessDiagram.Proofs.CommandOutcome
import ProcessDiagram.Proofs.NumberSearch
import ProcessDiagram.Proofs.Pieces
import ProcessDiagram.Proofs.FormatList
import ProcessDiagram.Proofs.SettingSources
import ProcessDiagram.Proofs.OutputPath
import ProcessDiagram.Proofs.MadeDirectories
import ProcessDiagram.Proofs.OutputDirectory
