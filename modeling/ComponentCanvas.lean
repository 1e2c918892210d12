import ComponentCanvas.Blueprint.Basic
import ComponentCanvas.Blueprint.Builtins
import ComponentCanvas.Blueprint.Calls
import ComponentCanvas.Blueprint.Coercion
import ComponentCanvas.Blueprint.Compilation
import ComponentCanvas.Blueprint.Evaluation
import ComponentCanvas.Blueprint.Lowering
import ComponentCanvas.Blueprint.Machine
import ComponentCanvas.Blueprint.MarkupText
import ComponentCanvas.Blueprint.Methods
import ComponentCanvas.Blueprint.NumberText
import ComponentCanvas.Blueprint.Operators
import ComponentCanvas.Blueprint.Rendering
import ComponentCanvas.Blueprint.Tags
import ComponentCanvas.Blueprint.Value
import ComponentCanvas.Catalog.Basic
import ComponentCanvas.Catalog.BuiltIn
import ComponentCanvas.Catalog.Discovery
import ComponentCanvas.Catalog.Shape
import ComponentCanvas.Catalog.Template
import ComponentCanvas.Category
import ComponentCanvas.Command
import ComponentCanvas.Config.Basic
import ComponentCanvas.Config.Layers
import ComponentCanvas.Config.Loading
import ComponentCanvas.Config.Shape
import ComponentCanvas.Decimal.Plain
import ComponentCanvas.Decimal.Reading
import ComponentCanvas.Decimal.Remainder
import ComponentCanvas.Decimal.Shortest
import ComponentCanvas.Decimal.Style
import ComponentCanvas.Decimal.Words
import ComponentCanvas.Digest
import ComponentCanvas.Document
import ComponentCanvas.Fields
import ComponentCanvas.Json.Basic
import ComponentCanvas.Json.Printer
import ComponentCanvas.Json.Reader
import ComponentCanvas.Json.Shape
import ComponentCanvas.Payload.Basic
import ComponentCanvas.Payload.Fence
import ComponentCanvas.Payload.Merging
import ComponentCanvas.Payload.Shape
import ComponentCanvas.Project.ComponentModule
import ComponentCanvas.Project.Dependencies
import ComponentCanvas.Project.EntryPoint
import ComponentCanvas.Project.ModulePath
import ComponentCanvas.Project.OutputTree
import ComponentCanvas.Project.PackageName
import ComponentCanvas.Project.Primitives
import ComponentCanvas.Project.Scaffold
import ComponentCanvas.Project.Synthesis
import ComponentCanvas.Proofs.Blueprint.Compilation
import ComponentCanvas.Proofs.Blueprint.Confinement
import ComponentCanvas.Proofs.Blueprint.Elements
import ComponentCanvas.Proofs.Blueprint.Law
import ComponentCanvas.Proofs.Blueprint.Limits
import ComponentCanvas.Proofs.Blueprint.Lowering
import ComponentCanvas.Proofs.Blueprint.Machine
import ComponentCanvas.Proofs.Blueprint.Parts
import ComponentCanvas.Proofs.Blueprint.Policy
import ComponentCanvas.Proofs.Blueprint.Watching
import ComponentCanvas.Proofs.Catalog
import ComponentCanvas.Proofs.Decimal.Binary64
import ComponentCanvas.Proofs.Decimal.Nearest
import ComponentCanvas.Proofs.Decimal.Shortest
import ComponentCanvas.Proofs.Decimal.Spelling
import ComponentCanvas.Proofs.Decimal.Value
import ComponentCanvas.Proofs.Except
import ComponentCanvas.Proofs.Fields
import ComponentCanvas.Proofs.Payload.Merging
import ComponentCanvas.Proofs.Property.Domain
import ComponentCanvas.Proofs.Property.Literals
import ComponentCanvas.Proofs.Property.Markup
import ComponentCanvas.Proofs.Property.RoundTrip
import ComponentCanvas.Proofs.Property.Values
import ComponentCanvas.Proofs.Registry
import ComponentCanvas.Proofs.Registry.OneByOne
import ComponentCanvas.Proofs.Script.Cursor
import ComponentCanvas.Proofs.Script.Items
import ComponentCanvas.Proofs.Script.Operands
import ComponentCanvas.Proofs.Script.Tokens
import ComponentCanvas.Proofs.Session.Batches
import ComponentCanvas.Proofs.Session.OneByOne
import ComponentCanvas.Proofs.Session.Placement
import ComponentCanvas.Proofs.Session.Runs
import ComponentCanvas.Proofs.Text.Pieces
import ComponentCanvas.Proofs.Text.UpperCase
import ComponentCanvas.Proofs.TypeId
import ComponentCanvas.Property.Names
import ComponentCanvas.Property.Reading
import ComponentCanvas.Property.Writing
import ComponentCanvas.Registry
import ComponentCanvas.Scope
import ComponentCanvas.Script.Lexer
import ComponentCanvas.Script.Mentions
import ComponentCanvas.Script.Parser
import ComponentCanvas.Script.Parser.Classes
import ComponentCanvas.Script.Parser.Cursor
import ComponentCanvas.Script.Parser.Expressions
import ComponentCanvas.Script.Parser.Functions
import ComponentCanvas.Script.Parser.Grammar
import ComponentCanvas.Script.Parser.Markup
import ComponentCanvas.Script.Parser.Modules
import ComponentCanvas.Script.Parser.Patterns
import ComponentCanvas.Script.Parser.Statements
import ComponentCanvas.Script.Parser.Targets
import ComponentCanvas.Script.Parser.Types
import ComponentCanvas.Script.Syntax
import ComponentCanvas.Script.Token
import ComponentCanvas.Session
import ComponentCanvas.Text.Blank
import ComponentCanvas.Text.Identifier
import ComponentCanvas.Text.LetterCase
import ComponentCanvas.Text.LetterCaseTable
import ComponentCanvas.Text.Lines
import ComponentCanvas.Text.Position
import ComponentCanvas.Text.Ranges
import ComponentCanvas.Text.Search
import ComponentCanvas.Toml.Printer
import ComponentCanvas.Toml.Reader
import ComponentCanvas.Toml.Scalars
import ComponentCanvas.Toml.Strings
import ComponentCanvas.Toml.Table
import ComponentCanvas.TypeId
import ComponentCanvas.Validation
import ComponentCanvas.Validation.Diagnostic
import ComponentCanvas.Validation.Factory
import ComponentCanvas.Validation.Inventory
import ComponentCanvas.Main
import ComponentCanvas.Proofs.Blueprint.Factory
import ComponentCanvas.Proofs.Blueprint.Atoms
import ComponentCanvas.Proofs.Registry.Turns
import ComponentCanvas.Proofs.Registry.Record
import ComponentCanvas.Proofs.Validation.Scoping
import ComponentCanvas.Proofs.Validation.Resolution
import ComponentCanvas.Proofs.Blueprint.Collecting
import ComponentCanvas.Proofs.Project.Gathering
import ComponentCanvas.Proofs.Project.Files
import ComponentCanvas.Proofs.Project.Imports
import ComponentCanvas.Proofs.Validation
import ComponentCanvas.Proofs.Property.Lines
import ComponentCanvas.Proofs.Project.Instances
import ComponentCanvas.Proofs.Document
import ComponentCanvas.Proofs.Document.Runs
import ComponentCanvas.Proofs.Script.Nodes
import ComponentCanvas.Proofs.Validation.SelfContained
import ComponentCanvas.Proofs.Script.Names
import ComponentCanvas.Proofs.Blueprint.TypeName
import ComponentCanvas.Proofs.Project.Places
import ComponentCanvas.Proofs.Pointwise
import ComponentCanvas.Proofs.Catalog.Discovery
import ComponentCanvas.Proofs.Registry.Recompiling
import ComponentCanvas.Proofs.Session.Precedence
import ComponentCanvas.Proofs.Blueprint.CallStack
import ComponentCanvas.Proofs.Document.Overlay
import ComponentCanvas.Proofs.Session.Exports
import ComponentCanvas.Proofs.Session.Entries
import ComponentCanvas.Proofs.Session.Routes
import ComponentCanvas.Proofs.Blueprint.Metering
import ComponentCanvas.Proofs.Blueprint.Termination
import ComponentCanvas.Proofs.Blueprint.Readings
import ComponentCanvas.Proofs.Blueprint.Growth
import ComponentCanvas.Proofs.Blueprint.Counterparts
import ComponentCanvas.Proofs.Blueprint.MarkupText
import ComponentCanvas.Proofs.Property.NullPaths
import ComponentCanvas.Proofs.Payload.Fence
import ComponentCanvas.Proofs.Project.Dependencies
import ComponentCanvas.Proofs.Session.Dependencies
import ComponentCanvas.Proofs.TypeId.Hyphenation
import ComponentCanvas.Proofs.Payload.Shapes
import ComponentCanvas.Proofs.Scope
import ComponentCanvas.Proofs.Project.Primitives
import ComponentCanvas.Proofs.Project.Capabilities
import ComponentCanvas.Proofs.Project.EntryName
import ComponentCanvas.Proofs.Project.ModulePath
import ComponentCanvas.Proofs.Blueprint.Cuts
