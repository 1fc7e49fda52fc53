import DiagramGraph.CommandLine.Arguments
import DiagramGraph.CommandLine.Run
import DiagramGraph.Connector.Adorned
import DiagramGraph.Connector.Arrow
import DiagramGraph.Connector.CrowsFoot
import DiagramGraph.Decimal.Magnitude
import DiagramGraph.Decimal.Shortest
import DiagramGraph.Detection
import DiagramGraph.Diagram.Cardinality
import DiagramGraph.Diagram.Json
import DiagramGraph.Diagram.Kind
import DiagramGraph.Diagram.Model
import DiagramGraph.Diagram.Visibility
import DiagramGraph.Entry.Basic
import DiagramGraph.Entry.ClassLine
import DiagramGraph.Entry.Declaration
import DiagramGraph.Entry.EntityLine
import DiagramGraph.Entry.PairLine
import DiagramGraph.Entry.SequenceLine
import DiagramGraph.Entry.UseCaseLine
import DiagramGraph.Graph.Context
import DiagramGraph.Graph.Document
import DiagramGraph.Graph.Identifier
import DiagramGraph.Graph.Node
import DiagramGraph.Json.Datum
import DiagramGraph.Json.Number
import DiagramGraph.Json.Reader
import DiagramGraph.Json.Record
import DiagramGraph.Json.Text
import DiagramGraph.Json.Token
import DiagramGraph.Json.Value
import DiagramGraph.Json.Writer
import DiagramGraph.Main
import DiagramGraph.Proofs.Decimal.Fraction
import DiagramGraph.Proofs.Decimal.Nearest
import DiagramGraph.Proofs.Decimal.Scale
import DiagramGraph.Proofs.Decimal.Shortest
import DiagramGraph.Proofs.Diagram.Canonical
import DiagramGraph.Proofs.Diagram.Codec
import DiagramGraph.Proofs.Diagram.Layout
import DiagramGraph.Proofs.Diagram.RoundTrip
import DiagramGraph.Proofs.Entry.Assembly
import DiagramGraph.Proofs.Graph.Conversion
import DiagramGraph.Proofs.Graph.Emission
import DiagramGraph.Proofs.Graph.Identifier
import DiagramGraph.Proofs.Graph.Resolution
import DiagramGraph.Proofs.Graph.View
import DiagramGraph.Proofs.Json.Datum
import DiagramGraph.Proofs.Json.Double
import DiagramGraph.Proofs.Json.NumberText
import DiagramGraph.Proofs.Json.Record
import DiagramGraph.Proofs.Json.RoundTrip
import DiagramGraph.Proofs.Json.Shape
import DiagramGraph.Proofs.Json.StringLiteral
import DiagramGraph.Proofs.Json.Tokens
import DiagramGraph.Proofs.Text.Run
import DiagramGraph.Proofs.Text.Tidy
import DiagramGraph.Proofs.Written.ClassDiagram
import DiagramGraph.Proofs.Written.ClassReading
import DiagramGraph.Proofs.Written.ClassSyntax
import DiagramGraph.Proofs.Written.Piece
import DiagramGraph.Proofs.Written.Source
import DiagramGraph.Report
import DiagramGraph.Service.Authority
import DiagramGraph.Service.Conversion
import DiagramGraph.Service.Message
import DiagramGraph.Service.Rejection
import DiagramGraph.Service.Router
import DiagramGraph.Service.Target
import DiagramGraph.Service.Wire
import DiagramGraph.Settings.Address
import DiagramGraph.Settings.Server
import DiagramGraph.Shape.Directory
import DiagramGraph.Shape.Name
import DiagramGraph.Shape.Shipped
import DiagramGraph.Shape.Store
import DiagramGraph.Source
import DiagramGraph.Storage.Folder
import DiagramGraph.Storage.Tree
import DiagramGraph.Text.Blank
import DiagramGraph.Text.CaseRuns
import DiagramGraph.Text.Casing
import DiagramGraph.Text.CodeRange
import DiagramGraph.Text.Line
import DiagramGraph.Text.Quoted
import DiagramGraph.Text.Scan
import DiagramGraph.Text.Split
import DiagramGraph.Text.UnprintableRanges
import DiagramGraph.Text.Utf8
import DiagramGraph.Text.Word
import DiagramGraph.Text.WordRanges
import DiagramGraph.Proofs.Detection.Evidence
import DiagramGraph.Proofs.Detection.Rules
import DiagramGraph.Proofs.Detection.Lines
import DiagramGraph.Proofs.Detection.Remark
import DiagramGraph.Proofs.Detection.Declared
import DiagramGraph.Proofs.Written.EntityReading
import DiagramGraph.Proofs.Written.EntityDiagram
import DiagramGraph.Proofs.Written.Introduction
import DiagramGraph.Proofs.Written.SequenceDiagram
import DiagramGraph.Proofs.Written.UseCaseDiagram
import DiagramGraph.Proofs.Text.Casing
import DiagramGraph.Proofs.Text.Utf8
import DiagramGraph.Proofs.Shape.Name
import DiagramGraph.Proofs.Shape.Directory
import DiagramGraph.Proofs.Shape.Store
import DiagramGraph.Proofs.Shape.Mirror
import DiagramGraph.Proofs.Detection.Layout
import DiagramGraph.Proofs.Service.Failure
import DiagramGraph.Proofs.Service.Header
import DiagramGraph.Proofs.Service.Conversion
import DiagramGraph.Proofs.CommandLine.Conversion
import DiagramGraph.Proofs.Entry.Rules
import DiagramGraph.Proofs.Entry.Blocks
import DiagramGraph.Proofs.Entry.Composition
import DiagramGraph.Proofs.Text.Part
import DiagramGraph.Proofs.Entry.WellFormed
import DiagramGraph.Proofs.Diagram.Schema
import DiagramGraph.Proofs.Json.Rendering
import DiagramGraph.Proofs.Graph.PassThrough
import DiagramGraph.Proofs.Shape.Run
import DiagramGraph.Proofs.Entry.Fallback
import DiagramGraph.Proofs.Entry.QuotedTexts
import DiagramGraph.Proofs.Entry.Connection
import DiagramGraph.Proofs.Connector.Mirror
import DiagramGraph.Proofs.Connector.Kind
import DiagramGraph.Proofs.Entry.Priority
import DiagramGraph.Proofs.Entry.Redrawn
import DiagramGraph.Proofs.Entry.Turned
import DiagramGraph.Proofs.Written.TypeExpression
import DiagramGraph.Proofs.Entry.TypedMembers
import DiagramGraph.Proofs.Entry.Shared
import DiagramGraph.Proofs.Shape.Confinement
import DiagramGraph.Proofs.Diagram.Report
import DiagramGraph.Proofs.Pattern.Basic
import DiagramGraph.Proofs.Pattern.Part
import DiagramGraph.Proofs.Pattern.Rule
import DiagramGraph.Proofs.Pattern.Declaration
import DiagramGraph.Proofs.Pattern.Connector
import DiagramGraph.Proofs.Pattern.Connection
import DiagramGraph.Proofs.Pattern.Member
import DiagramGraph.Proofs.Pattern.Directive
import DiagramGraph.Proofs.Pattern.Extraction
