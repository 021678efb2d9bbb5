import SchemaCompiler.Association
import SchemaCompiler.CommandLine.Command
import SchemaCompiler.CommandLine.Request
import SchemaCompiler.Ddl.Column
import SchemaCompiler.Ddl.Labels
import SchemaCompiler.Ddl.ParseError
import SchemaCompiler.Ddl.Reader
import SchemaCompiler.Ddl.TableLine
import SchemaCompiler.Ddl.Token
import SchemaCompiler.Decimal.Binary
import SchemaCompiler.Decimal.Numeral
import SchemaCompiler.Decimal.Shortest
import SchemaCompiler.Files.Fault
import SchemaCompiler.Files.Path
import SchemaCompiler.Files.Tree
import SchemaCompiler.Json.Basic
import SchemaCompiler.Json.Display
import SchemaCompiler.Json.Reader
import SchemaCompiler.Json.Writer
import SchemaCompiler.Log
import SchemaCompiler.Main
import SchemaCompiler.Model.ColumnType
import SchemaCompiler.Model.Definition
import SchemaCompiler.Model.Metadata
import SchemaCompiler.Model.Source
import SchemaCompiler.Naming
import SchemaCompiler.Pattern.Basic
import SchemaCompiler.Pattern.Cursor
import SchemaCompiler.Pattern.Escape
import SchemaCompiler.Pattern.Fault
import SchemaCompiler.Pattern.Flag
import SchemaCompiler.Pattern.Match
import SchemaCompiler.Pattern.Reader
import SchemaCompiler.Proofs.Ddl.CapitalLines
import SchemaCompiler.Proofs.Ddl.CapitalTokens
import SchemaCompiler.Proofs.Ddl.ColumnMarks
import SchemaCompiler.Proofs.Ddl.ColumnReading
import SchemaCompiler.Proofs.Ddl.Concatenation
import SchemaCompiler.Proofs.Ddl.ForeignKeys
import SchemaCompiler.Proofs.Ddl.Frame
import SchemaCompiler.Proofs.Ddl.GroupedColumns
import SchemaCompiler.Proofs.Ddl.Invariant
import SchemaCompiler.Proofs.Ddl.KeyLines
import SchemaCompiler.Proofs.Ddl.LabelLists
import SchemaCompiler.Proofs.Ddl.LineReading
import SchemaCompiler.Proofs.Ddl.Literals
import SchemaCompiler.Proofs.Ddl.NameParts
import SchemaCompiler.Proofs.Ddl.Pieces
import SchemaCompiler.Proofs.Ddl.QuotedNames
import SchemaCompiler.Proofs.Ddl.Recasing
import SchemaCompiler.Proofs.Ddl.References
import SchemaCompiler.Proofs.Ddl.RoundTrip
import SchemaCompiler.Proofs.Ddl.Slices
import SchemaCompiler.Proofs.Ddl.Spelling
import SchemaCompiler.Proofs.Ddl.Steps
import SchemaCompiler.Proofs.Ddl.TableMarker
import SchemaCompiler.Proofs.Ddl.TableNames
import SchemaCompiler.Proofs.Ddl.TableStart
import SchemaCompiler.Proofs.Ddl.Tiling
import SchemaCompiler.Proofs.Ddl.TokenEnds
import SchemaCompiler.Proofs.Ddl.TokenKinds
import SchemaCompiler.Proofs.Ddl.TokenPlaces
import SchemaCompiler.Proofs.Ddl.Writer
import SchemaCompiler.Proofs.Decimal.FloatText
import SchemaCompiler.Proofs.Decimal.Narrowing
import SchemaCompiler.Proofs.Decimal.NearestDigits
import SchemaCompiler.Proofs.Decimal.NumberText
import SchemaCompiler.Proofs.Decimal.NumeralText
import SchemaCompiler.Proofs.Decimal.Powers
import SchemaCompiler.Proofs.Decimal.Representable
import SchemaCompiler.Proofs.Decimal.Rounding
import SchemaCompiler.Proofs.Decimal.RoundingInterval
import SchemaCompiler.Proofs.Decimal.ShortestDouble
import SchemaCompiler.Proofs.Decimal.ShortestSingle
import SchemaCompiler.Proofs.Decimal.Significant
import SchemaCompiler.Proofs.Decimal.SingleReading
import SchemaCompiler.Proofs.Decimal.SingleText
import SchemaCompiler.Proofs.Files.Contents
import SchemaCompiler.Proofs.Files.Path
import SchemaCompiler.Proofs.Files.Tree
import SchemaCompiler.Proofs.Json.Float
import SchemaCompiler.Proofs.Json.Integer
import SchemaCompiler.Proofs.Json.Readback
import SchemaCompiler.Proofs.Json.Storable
import SchemaCompiler.Proofs.Json.StringLiteral
import SchemaCompiler.Proofs.Model.Agreement
import SchemaCompiler.Proofs.Model.Expression
import SchemaCompiler.Proofs.Model.Imports
import SchemaCompiler.Proofs.Model.Literal
import SchemaCompiler.Proofs.Model.LiteralText
import SchemaCompiler.Proofs.Model.ModuleNames
import SchemaCompiler.Proofs.Model.SourceLiterals
import SchemaCompiler.Proofs.Model.Statement
import SchemaCompiler.Proofs.Naming
import SchemaCompiler.Proofs.Outcome
import SchemaCompiler.Proofs.Schema.Catalog
import SchemaCompiler.Proofs.Schema.Database
import SchemaCompiler.Proofs.Schema.Stored
import SchemaCompiler.Proofs.Snapshot.Answer
import SchemaCompiler.Proofs.Snapshot.Reload
import SchemaCompiler.Proofs.Snapshot.RoundTrip
import SchemaCompiler.Proofs.Text.Capitals
import SchemaCompiler.Proofs.Text.Cutting
import SchemaCompiler.Proofs.Text.Digits
import SchemaCompiler.Proofs.Text.Lowercase
import SchemaCompiler.Proofs.Text.WideText
import SchemaCompiler.Proofs.Toml.BasicString
import SchemaCompiler.Proofs.Toml.TableText
import SchemaCompiler.Proofs.TypeScript.Enums
import SchemaCompiler.Proofs.TypeScript.Interfaces
import SchemaCompiler.Proofs.TypeScript.MemberNames
import SchemaCompiler.Proofs.TypeScript.PropertyLine
import SchemaCompiler.Proofs.TypeScript.PropertyType
import SchemaCompiler.Proofs.TypeScript.Stored
import SchemaCompiler.Proofs.Validation.Accepted
import SchemaCompiler.Proofs.Validation.Answer
import SchemaCompiler.Proofs.Validation.Datatypes
import SchemaCompiler.Proofs.Validation.DigitCounts
import SchemaCompiler.Proofs.Validation.Fields
import SchemaCompiler.Proofs.Validation.Fragments
import SchemaCompiler.Proofs.Validation.Integers
import SchemaCompiler.Proofs.Validation.Loosening
import SchemaCompiler.Proofs.Validation.Revalidation
import SchemaCompiler.Proofs.Validation.Verdict
import SchemaCompiler.Proofs.Workspace.Confinement
import SchemaCompiler.Proofs.Workspace.Export
import SchemaCompiler.Proofs.Workspace.Loading
import SchemaCompiler.Proofs.Workspace.Settings
import SchemaCompiler.Proofs.Workspace.Setup
import SchemaCompiler.Proofs.Workspace.World
import SchemaCompiler.Schema.Catalog
import SchemaCompiler.Schema.Database
import SchemaCompiler.Schema.Datatype
import SchemaCompiler.Schema.Field
import SchemaCompiler.Schema.LabelSet
import SchemaCompiler.Schema.Scalar
import SchemaCompiler.Schema.Stored
import SchemaCompiler.Snapshot
import SchemaCompiler.Text.Case
import SchemaCompiler.Text.CharClass
import SchemaCompiler.Text.Lines
import SchemaCompiler.Text.Quoted
import SchemaCompiler.Text.Tables
import SchemaCompiler.Text.WideText
import SchemaCompiler.Toml.Basic
import SchemaCompiler.Toml.Document
import SchemaCompiler.Toml.Moment
import SchemaCompiler.Toml.Reader
import SchemaCompiler.TypeScript
import SchemaCompiler.TypeScript.Stored
import SchemaCompiler.Validation.Conversion
import SchemaCompiler.Validation.Error
import SchemaCompiler.Validation.Extract
import SchemaCompiler.Validation.Payload
import SchemaCompiler.Workspace.Artifacts
import SchemaCompiler.Workspace.Failure
import SchemaCompiler.Workspace.Job
import SchemaCompiler.Workspace.Settings
import SchemaCompiler.Workspace.Setup
