import DispatchLayer.Artifact
import DispatchLayer.Artifact.Render
import DispatchLayer.Catalog
import DispatchLayer.Catalog.Builtin
import DispatchLayer.Catalog.Error
import DispatchLayer.Code
import DispatchLayer.Code.Build
import DispatchLayer.Code.NumberLiteral
import DispatchLayer.Code.Printer
import DispatchLayer.Code.Printer.Comment
import DispatchLayer.Code.Printer.Frame
import DispatchLayer.Code.Printer.Tokens
import DispatchLayer.Code.Printer.Tree
import DispatchLayer.Code.Reader
import DispatchLayer.Code.Reader.Attribute
import DispatchLayer.Code.Reader.Basic
import DispatchLayer.Code.Reader.Expr
import DispatchLayer.Code.Reader.Function
import DispatchLayer.Code.Reader.Item
import DispatchLayer.Code.Reader.Member
import DispatchLayer.Code.Reader.Path
import DispatchLayer.Code.Reader.Pattern
import DispatchLayer.Code.Reader.Statement
import DispatchLayer.Code.Reader.Type
import DispatchLayer.Code.Shape
import DispatchLayer.Code.Spelling
import DispatchLayer.Code.StringLiteral
import DispatchLayer.CommandLine
import DispatchLayer.CommandLine.Key
import DispatchLayer.CommandLine.Misuse
import DispatchLayer.Decimal.Binary64
import DispatchLayer.Decimal.Shortest
import DispatchLayer.Emission
import DispatchLayer.Emission.Contract
import DispatchLayer.Emission.NodeType
import DispatchLayer.Emission.Visitor
import DispatchLayer.Event
import DispatchLayer.FileTree
import DispatchLayer.FileTree.Edit
import DispatchLayer.FileTree.Error
import DispatchLayer.FileTree.Listing
import DispatchLayer.FileTree.Pathname
import DispatchLayer.Host
import DispatchLayer.Main
import DispatchLayer.Manifest
import DispatchLayer.ModuleId
import DispatchLayer.Name
import DispatchLayer.Naming
import DispatchLayer.Plan
import DispatchLayer.Pretty.Document
import DispatchLayer.Pretty.Layout
import DispatchLayer.Program
import DispatchLayer.Proofs.Artifact.Formatting
import DispatchLayer.Proofs.Catalog.KindList
import DispatchLayer.Proofs.Code.Declarations
import DispatchLayer.Proofs.Code.Piece
import DispatchLayer.Proofs.Code.Reader.Attribute
import DispatchLayer.Proofs.Code.Reader.Basic
import DispatchLayer.Proofs.Code.Reader.Bound
import DispatchLayer.Proofs.Code.Reader.Call
import DispatchLayer.Proofs.Code.Reader.Expr
import DispatchLayer.Proofs.Code.Reader.Function
import DispatchLayer.Proofs.Code.Reader.Item
import DispatchLayer.Proofs.Code.Reader.Match
import DispatchLayer.Proofs.Code.Reader.Path
import DispatchLayer.Proofs.Code.Reader.Pattern
import DispatchLayer.Proofs.Code.Reader.Statement
import DispatchLayer.Proofs.Code.Reader.Type
import DispatchLayer.Proofs.Code.Settable
import DispatchLayer.Proofs.Code.Spelling
import DispatchLayer.Proofs.Code.StringLiteral
import DispatchLayer.Proofs.Code.TokenTree
import DispatchLayer.Proofs.Code.WellSpelled
import DispatchLayer.Proofs.CommandLine.Arguments
import DispatchLayer.Proofs.Emission.BreakingOff
import DispatchLayer.Proofs.Emission.Completion
import DispatchLayer.Proofs.Emission.Declarations
import DispatchLayer.Proofs.Emission.HandlersOutline
import DispatchLayer.Proofs.Emission.Keywords
import DispatchLayer.Proofs.Emission.Names
import DispatchLayer.Proofs.Emission.Reading
import DispatchLayer.Proofs.Emission.Spelling
import DispatchLayer.Proofs.Emission.Syntax.Files
import DispatchLayer.Proofs.Emission.Syntax.Handlers
import DispatchLayer.Proofs.Emission.Syntax.Parts
import DispatchLayer.Proofs.Emission.Syntax.Setting
import DispatchLayer.Proofs.Emission.Syntax.Visitor
import DispatchLayer.Proofs.Emission.Tree
import DispatchLayer.Proofs.Emission.Visiting
import DispatchLayer.Proofs.Emission.VisitorOutline
import DispatchLayer.Proofs.Emission.Wiring
import DispatchLayer.Proofs.FileTree.Destination
import DispatchLayer.Proofs.FileTree.Subdirectory
import DispatchLayer.Proofs.FileTree.Walk
import DispatchLayer.Proofs.Plan.Classification
import DispatchLayer.Proofs.Plan.Distinct
import DispatchLayer.Proofs.Plan.Reordering
import DispatchLayer.Proofs.Plan.Repair
import DispatchLayer.Proofs.Plan.Ruling
import DispatchLayer.Proofs.Program.Ending
import DispatchLayer.Proofs.Routing.Dispatch
import DispatchLayer.Proofs.Routing.History
import DispatchLayer.Proofs.Routing.Holding
import DispatchLayer.Proofs.Routing.Presence
import DispatchLayer.Proofs.Routing.Updates
import DispatchLayer.Proofs.Run.Log
import DispatchLayer.Proofs.Run.NearestManifest
import DispatchLayer.Proofs.Run.Outcome
import DispatchLayer.Proofs.Run.ReadBack
import DispatchLayer.Proofs.Run.Regeneration
import DispatchLayer.Proofs.Run.Resolution
import DispatchLayer.Proofs.Run.Stages
import DispatchLayer.Proofs.Run.Submodules
import DispatchLayer.Proofs.Run.Texts
import DispatchLayer.Proofs.Run.Warnings
import DispatchLayer.Proofs.Run.Writes
import DispatchLayer.Proofs.Table
import DispatchLayer.Proofs.Text.Fields
import DispatchLayer.Proofs.Text.SnakeCase
import DispatchLayer.Proofs.Text.Trim
import DispatchLayer.Proofs.Token.Joint
import DispatchLayer.Proofs.Token.Line
import DispatchLayer.Proofs.Token.Literal
import DispatchLayer.Proofs.Token.Scan
import DispatchLayer.Proofs.Unicode.Lowercase
import DispatchLayer.Routing
import DispatchLayer.Routing.Sample
import DispatchLayer.Routing.Visit
import DispatchLayer.Run
import DispatchLayer.Text.Fields
import DispatchLayer.Text.Plain
import DispatchLayer.Text.Quoted
import DispatchLayer.Text.Similarity
import DispatchLayer.Text.SnakeCase
import DispatchLayer.Token
import DispatchLayer.Token.Keyword
import DispatchLayer.Token.Layout
import DispatchLayer.Token.Lexer
import DispatchLayer.Token.Scan
import DispatchLayer.Toml
import DispatchLayer.Toml.Number
import DispatchLayer.Toml.Reader
import DispatchLayer.Toml.Text
import DispatchLayer.Toml.Value
import DispatchLayer.Unicode.Alphanumeric
import DispatchLayer.Unicode.Blank
import DispatchLayer.Unicode.Casing
import DispatchLayer.Unicode.Display
import DispatchLayer.Unicode.Identifier
import DispatchLayer.Unicode.RangeTable
