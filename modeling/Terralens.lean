import Terralens.Agent
import Terralens.Analysis
import Terralens.Answer
import Terralens.CommandLine.Argument
import Terralens.CommandLine.Command
import Terralens.CommandLine.Matching
import Terralens.Configuration
import Terralens.Decimal.Binary
import Terralens.Decimal.Notation
import Terralens.Decimal.Shortest
import Terralens.Dependencies
import Terralens.Document
import Terralens.Document.Outline
import Terralens.Document.Read
import Terralens.EntryRef
import Terralens.Error
import Terralens.Extraction
import Terralens.Files.System
import Terralens.Files.Tree
import Terralens.Glob
import Terralens.Graph
import Terralens.Graph.Export
import Terralens.Hcl.Body
import Terralens.Hcl.Collection
import Terralens.Hcl.Escape
import Terralens.Hcl.Expression
import Terralens.Hcl.Grammar
import Terralens.Hcl.Indentation
import Terralens.Hcl.Layout
import Terralens.Hcl.Number
import Terralens.Hcl.Position
import Terralens.Hcl.Quoted
import Terralens.Hcl.Reader
import Terralens.Hcl.Template
import Terralens.Hcl.Trivia
import Terralens.KeyMap
import Terralens.Lint
import Terralens.Literal
import Terralens.Main
import Terralens.ModelServer
import Terralens.Options
import Terralens.Options.Environment
import Terralens.Options.Example
import Terralens.Options.Load
import Terralens.Options.Read
import Terralens.Options.Validity
import Terralens.Path
import Terralens.Program
import Terralens.Prompt
import Terralens.Proofs.Accounting
import Terralens.Proofs.Analysis
import Terralens.Proofs.Answer
import Terralens.Proofs.Budget
import Terralens.Proofs.Conflicts
import Terralens.Proofs.Delimited
import Terralens.Proofs.Dependencies
import Terralens.Proofs.DependencyReport
import Terralens.Proofs.Documents
import Terralens.Proofs.Edges
import Terralens.Proofs.EntryRef
import Terralens.Proofs.Extraction
import Terralens.Proofs.Failures
import Terralens.Proofs.FileOrder
import Terralens.Proofs.Findings
import Terralens.Proofs.Graph
import Terralens.Proofs.Graph.Dot
import Terralens.Proofs.Graph.Mermaid
import Terralens.Proofs.Growth
import Terralens.Proofs.Hcl.Bodies
import Terralens.Proofs.Hcl.Escape
import Terralens.Proofs.Hcl.Expressions
import Terralens.Proofs.Hcl.Identifiers
import Terralens.Proofs.Hcl.Literals
import Terralens.Proofs.Hcl.Reading
import Terralens.Proofs.Hcl.Values
import Terralens.Proofs.Headers
import Terralens.Proofs.KeyMap
import Terralens.Proofs.Lines
import Terralens.Proofs.Loading
import Terralens.Proofs.Locality
import Terralens.Proofs.Locating
import Terralens.Proofs.MalformedFiles
import Terralens.Proofs.Mentions
import Terralens.Proofs.Options.Environment
import Terralens.Proofs.Outline
import Terralens.Proofs.Parts
import Terralens.Proofs.Paths
import Terralens.Proofs.Placement
import Terralens.Proofs.References
import Terralens.Proofs.Requirements
import Terralens.Proofs.RoundTrip
import Terralens.Proofs.Runs
import Terralens.Proofs.Scanning
import Terralens.Proofs.Sensitive
import Terralens.Proofs.Session
import Terralens.Proofs.Splitting
import Terralens.Proofs.Table
import Terralens.Proofs.Tallies
import Terralens.Proofs.Value
import Terralens.Proofs.Words
import Terralens.References
import Terralens.Report.Json
import Terralens.Report.Paint
import Terralens.Report.Table
import Terralens.Report.Text
import Terralens.Report.Timestamp
import Terralens.Scan
import Terralens.Session
import Terralens.Text.Basic
import Terralens.Text.Json
import Terralens.Text.Property.Identifier
import Terralens.Text.Property.Width
import Terralens.Text.Property.Word
import Terralens.Text.Quoted
import Terralens.Url.Check
import Terralens.Url.Host
import Terralens.Value
import Terralens.Yaml.Node
import Terralens.Yaml.Place
import Terralens.Yaml.Scalar
import Terralens.Yaml.Token
