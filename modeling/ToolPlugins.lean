import ToolPlugins.Artifact.Call
import ToolPlugins.Artifact.Digest
import ToolPlugins.Artifact.Export
import ToolPlugins.Artifact.Kind
import ToolPlugins.Artifact.Rows
import ToolPlugins.Artifact.Template
import ToolPlugins.Bootstrap
import ToolPlugins.CommandLine.Arguments
import ToolPlugins.CommandLine.Commands
import ToolPlugins.CommandLine.Report
import ToolPlugins.CommandLine.VariableFile
import ToolPlugins.Decimal.Shortest
import ToolPlugins.Definition.Basic
import ToolPlugins.Definition.Check
import ToolPlugins.Definition.Decode
import ToolPlugins.Definition.Problem
import ToolPlugins.Definition.Reader
import ToolPlugins.Descriptor
import ToolPlugins.Discovery
import ToolPlugins.Document
import ToolPlugins.Execution
import ToolPlugins.Failure
import ToolPlugins.FileTree.Basic
import ToolPlugins.FileTree.Changes
import ToolPlugins.FileTree.Path
import ToolPlugins.FileTree.View
import ToolPlugins.Identifier
import ToolPlugins.Installation
import ToolPlugins.Json.Basic
import ToolPlugins.Json.Compare
import ToolPlugins.Json.Decode
import ToolPlugins.Json.Fault
import ToolPlugins.Json.Lookup
import ToolPlugins.Json.Pointer
import ToolPlugins.Json.Printer
import ToolPlugins.Json.Reader
import ToolPlugins.Json.Scan
import ToolPlugins.Json.Skip
import ToolPlugins.Json.Typed
import ToolPlugins.Main
import ToolPlugins.Plugin
import ToolPlugins.Records
import ToolPlugins.Registry.Basic
import ToolPlugins.Registry.Instance
import ToolPlugins.Registry.Switcher
import ToolPlugins.Registry.Task
import ToolPlugins.Schema.Basic
import ToolPlugins.Schema.Bundled
import ToolPlugins.Schema.Check
import ToolPlugins.Schema.Compile
import ToolPlugins.Schema.Complaint
import ToolPlugins.Schema.Dialect
import ToolPlugins.Schema.Form
import ToolPlugins.Schema.Pattern
import ToolPlugins.Schema.Regex
import ToolPlugins.Schema.Regex.Reader
import ToolPlugins.Schema.Resources
import ToolPlugins.Schema.WellFormed
import ToolPlugins.Settings.Basic
import ToolPlugins.Settings.Environment
import ToolPlugins.Settings.Reader
import ToolPlugins.Table
import ToolPlugins.Text.Alphanumeric
import ToolPlugins.Text.Ascii
import ToolPlugins.Text.Blank
import ToolPlugins.Text.Hidden
import ToolPlugins.Text.Markup
import ToolPlugins.Text.Quoted
import ToolPlugins.Text.Sha256
import ToolPlugins.UriReference.Address
import ToolPlugins.UriReference.Basic
import ToolPlugins.UriReference.Reader
import ToolPlugins.UriReference.Resolve
import ToolPlugins.Validation
import ToolPlugins.Warning
import ToolPlugins.Proofs.Json.Literal
import ToolPlugins.Proofs.Json.Lookup
import ToolPlugins.Proofs.Definition.Arguments
import ToolPlugins.Proofs.Definition.Directives
import ToolPlugins.Proofs.Identifier.Canonical
import ToolPlugins.Proofs.Definition.Calls
import ToolPlugins.Proofs.Artifact.Lines
import ToolPlugins.Proofs.Definition.Check
import ToolPlugins.Proofs.Definition.RoundTrip
import ToolPlugins.Proofs.Schema.Bundled
import ToolPlugins.Proofs.Definition.Strict
import ToolPlugins.Proofs.Registry.Sound
import ToolPlugins.Proofs.Registry.Refinement
import ToolPlugins.Proofs.Registry.Binding
import ToolPlugins.Proofs.Installation.Ladder
import ToolPlugins.Proofs.Bootstrap.Report
import ToolPlugins.Proofs.FileTree.Paths
import ToolPlugins.Proofs.FileTree.Walk
import ToolPlugins.Proofs.FileTree.Pages
import ToolPlugins.Proofs.Discovery
import ToolPlugins.Proofs.Installation.Records
import ToolPlugins.Proofs.Registry.View
import ToolPlugins.Proofs.Bootstrap.Fate
import ToolPlugins.Proofs.Bootstrap.Again
import ToolPlugins.Proofs.Bootstrap.Without
import ToolPlugins.Proofs.Text.Delimiter
import ToolPlugins.Proofs.Text.Markup
import ToolPlugins.Proofs.Text.Bytes
import ToolPlugins.Proofs.Identifier.TypeName
import ToolPlugins.Proofs.Registry.Named
import ToolPlugins.Proofs.Registry.SmallTool
import ToolPlugins.Proofs.Registry.TypeNames
import ToolPlugins.Proofs.Artifact.Pages
import ToolPlugins.Proofs.Artifact.Digest
import ToolPlugins.Proofs.Json.Pointer
import ToolPlugins.Proofs.Schema.Findings
import ToolPlugins.Proofs.Schema.Paths
import ToolPlugins.Proofs.Artifact.Problems
import ToolPlugins.Proofs.Registry.Collisions
import ToolPlugins.Proofs.Bootstrap.Calls
import ToolPlugins.Proofs.Registry.Retirement
import ToolPlugins.Proofs.Records.Sound
import ToolPlugins.Proofs.Records.Run
import ToolPlugins.Proofs.Bootstrap.EndState
import ToolPlugins.Proofs.Bootstrap.Order
import ToolPlugins.Proofs.Registry.Versions
import ToolPlugins.Proofs.Json.Strings
import ToolPlugins.Proofs.Json.Lists
import ToolPlugins.Proofs.Definition.Format
import ToolPlugins.Proofs.FileTree.Places
import ToolPlugins.Proofs.Identifier.Snake
import ToolPlugins.Proofs.Artifact.Exports
import ToolPlugins.Proofs.Installation.PageRuns
import ToolPlugins.Proofs.FileTree.Ways
import ToolPlugins.Proofs.FileTree.Publishing
import ToolPlugins.Proofs.Artifact.FailedExports
import ToolPlugins.Proofs.Identifier.Retraction
import ToolPlugins.Proofs.Schema.Pointers
import ToolPlugins.Proofs.Artifact.Columns
import ToolPlugins.Proofs.Text.Tags
import ToolPlugins.Proofs.Artifact.Controls
import ToolPlugins.Proofs.Artifact.Views
import ToolPlugins.Proofs.Artifact.Choices
import ToolPlugins.Proofs.FileTree.WellFormed
import ToolPlugins.Proofs.Discovery.Complete
import ToolPlugins.Proofs.Discovery.Scan
import ToolPlugins.Proofs.Schema.Lookup
import ToolPlugins.Proofs.Settings.Override
import ToolPlugins.Proofs.Settings.Home
import ToolPlugins.Proofs.Schema.Locations
import ToolPlugins.Proofs.Text.Entities
