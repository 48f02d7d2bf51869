import Subgraph.Command.Arguments
import Subgraph.Command.Call
import Subgraph.Command.Run
import Subgraph.Config.Import
import Subgraph.Config.Load
import Subgraph.Config.Nodes
import Subgraph.Config.Parse
import Subgraph.Config.Raw
import Subgraph.Console.Line
import Subgraph.Console.Literal
import Subgraph.Console.Literal.Escape
import Subgraph.Console.Literal.Fault
import Subgraph.Console.Literal.Grammar
import Subgraph.Console.Literal.Meaning
import Subgraph.Console.Literal.Parser
import Subgraph.Console.Literal.Syntax
import Subgraph.Console.Literal.Template
import Subgraph.Console.Literal.Token
import Subgraph.Console.Markup
import Subgraph.Console.Picture
import Subgraph.Console.Style
import Subgraph.Decimal.Arithmetic
import Subgraph.Decimal.Binary
import Subgraph.Decimal.Numeral
import Subgraph.Decimal.Places
import Subgraph.Decimal.Shortest
import Subgraph.Document.Basic
import Subgraph.Document.Parser
import Subgraph.Document.Printer
import Subgraph.Document.Token
import Subgraph.Entries
import Subgraph.Federation.Additions
import Subgraph.Federation.Classification
import Subgraph.Federation.Directives
import Subgraph.Federation.Entities
import Subgraph.Federation.Gather
import Subgraph.Federation.KeyFields
import Subgraph.Federation.Moment
import Subgraph.Federation.Names
import Subgraph.Federation.Reference
import Subgraph.Federation.Resolution
import Subgraph.Federation.Samples
import Subgraph.Federation.Sdl
import Subgraph.Federation.Settings
import Subgraph.Federation.Transform
import Subgraph.Files.Location
import Subgraph.Files.Resolve
import Subgraph.Files.Tree
import Subgraph.Log
import Subgraph.Main
import Subgraph.Proofs.Answering
import Subgraph.Proofs.AppliedDirectives
import Subgraph.Proofs.BlockText
import Subgraph.Proofs.BuiltSchema
import Subgraph.Proofs.Classifying
import Subgraph.Proofs.ClearDocuments
import Subgraph.Proofs.ClosedSdl
import Subgraph.Proofs.Coercion
import Subgraph.Proofs.Commands
import Subgraph.Proofs.Concurrence
import Subgraph.Proofs.Conservative
import Subgraph.Proofs.DefinitionLines
import Subgraph.Proofs.DirectiveLists
import Subgraph.Proofs.DocumentText
import Subgraph.Proofs.EchoedSchema
import Subgraph.Proofs.EchoedTypes
import Subgraph.Proofs.EntityDeclarations
import Subgraph.Proofs.EntitySurface
import Subgraph.Proofs.FileLists
import Subgraph.Proofs.FileTrees
import Subgraph.Proofs.FirstFaults
import Subgraph.Proofs.FloatDigits
import Subgraph.Proofs.GrownSdl
import Subgraph.Proofs.Growth
import Subgraph.Proofs.IdentifyingKeys
import Subgraph.Proofs.Indentation
import Subgraph.Proofs.Independence
import Subgraph.Proofs.Interleaving
import Subgraph.Proofs.KeySelections
import Subgraph.Proofs.KeyShapes
import Subgraph.Proofs.LegibleDocuments
import Subgraph.Proofs.LegibleSources
import Subgraph.Proofs.LegibleTokens
import Subgraph.Proofs.Lines
import Subgraph.Proofs.Lists
import Subgraph.Proofs.MalformedSettings
import Subgraph.Proofs.Naming
import Subgraph.Proofs.Overriding
import Subgraph.Proofs.PlainSettings
import Subgraph.Proofs.ReadSchemas
import Subgraph.Proofs.Rebuilding
import Subgraph.Proofs.ReferenceCalls
import Subgraph.Proofs.RefusedTypes
import Subgraph.Proofs.RepeatedKeys
import Subgraph.Proofs.Resolved
import Subgraph.Proofs.Resolving
import Subgraph.Proofs.Retransform
import Subgraph.Proofs.RootLines
import Subgraph.Proofs.RuledDocuments
import Subgraph.Proofs.SchemaFiles
import Subgraph.Proofs.SdlFixedPoint
import Subgraph.Proofs.SdlOutline
import Subgraph.Proofs.SlotTypes
import Subgraph.Proofs.SourceDocument
import Subgraph.Proofs.StableLiterals
import Subgraph.Proofs.SteadyValues
import Subgraph.Proofs.TypedValues
import Subgraph.Proofs.TypewiseSdl
import Subgraph.Proofs.Unmarked
import Subgraph.Proofs.Validity
import Subgraph.Proofs.WellFormed
import Subgraph.Query.Answer
import Subgraph.Query.Arguments
import Subgraph.Query.Collect
import Subgraph.Query.Description
import Subgraph.Query.Exec
import Subgraph.Query.Execute
import Subgraph.Query.Foreign
import Subgraph.Query.Introspection
import Subgraph.Query.Overlap
import Subgraph.Query.Rules
import Subgraph.Query.Serialize
import Subgraph.Query.Site
import Subgraph.Query.Validate
import Subgraph.Query.Values
import Subgraph.Query.Variables
import Subgraph.Schema.Basic
import Subgraph.Schema.Build
import Subgraph.Schema.Builtin
import Subgraph.Schema.Check
import Subgraph.Schema.Coercion
import Subgraph.Schema.Define
import Subgraph.Schema.Load
import Subgraph.Schema.Printer
import Subgraph.Schema.Read
import Subgraph.Schema.Resolve
import Subgraph.Schema.Rules
import Subgraph.Schema.Suggestion
import Subgraph.Service
import Subgraph.Text.Blank
import Subgraph.Text.Block
import Subgraph.Text.Chars
import Subgraph.Text.Columns
import Subgraph.Text.Display
import Subgraph.Text.Excerpt
import Subgraph.Text.Identifier
import Subgraph.Text.LetterCase
import Subgraph.Text.Lines
import Subgraph.Text.Lower
import Subgraph.Text.Names
import Subgraph.Text.Points
import Subgraph.Text.Printable
import Subgraph.Text.Quoted
import Subgraph.Text.Width
import Subgraph.Text.Word
import Subgraph.Value.Basic
import Subgraph.Value.Format
import Subgraph.Value.Members
import Subgraph.Value.Template
import Subgraph.Value.Text
import Subgraph.Yaml.Base64
import Subgraph.Yaml.Cursor
import Subgraph.Yaml.Fault
import Subgraph.Yaml.Node
import Subgraph.Yaml.Number
import Subgraph.Yaml.Scalar
import Subgraph.Yaml.Tag
import Subgraph.Yaml.Timestamp
import Subgraph.Yaml.Token
