import NestedQuery.Compile.Group
import NestedQuery.Json.Basic
import NestedQuery.Json.Decode
import NestedQuery.Json.Reader
import NestedQuery.Json.Writer
import NestedQuery.Name.Basic
import NestedQuery.Plan.Basic
import NestedQuery.Plan.Resolve
import NestedQuery.Plan.Walk
import NestedQuery.ResultType.Basic
import NestedQuery.ResultType.Build
import NestedQuery.ResultType.Naming
import NestedQuery.Schema.Basic
import NestedQuery.Schema.Codec
import NestedQuery.Schema.Lookup
import NestedQuery.Schema.Pharmacy
import NestedQuery.Source.Options
import NestedQuery.Source.Relations
import NestedQuery.Source.ResultTypes
import NestedQuery.Source.Unit
import NestedQuery.Spec.Basic
import NestedQuery.Spec.Codec
import NestedQuery.Spec.Error
import NestedQuery.Sql.Dialect
import NestedQuery.Sql.Render
import NestedQuery.Sql.RowObject
import NestedQuery.Statement.Basic
import NestedQuery.Statement.Build
import NestedQuery.Statement.Provenance
import NestedQuery.Text.Case
import NestedQuery.Text.CharacterClass
import NestedQuery.Text.Layout
import NestedQuery.Text.Words
import NestedQuery.Proofs.DisplayOrder
import NestedQuery.Proofs.Resolution
import NestedQuery.Proofs.Walk
import NestedQuery.Proofs.Agreement
import NestedQuery.Spec.Pharmacy
import NestedQuery.Proofs.Nullability
import NestedQuery.Proofs.RowExistence
import NestedQuery.Proofs.FreshName
import NestedQuery.Proofs.StatementParts
import NestedQuery.Proofs.Scoping
import NestedQuery.Proofs.AliasAllocation
import NestedQuery.Proofs.AliasConfusion
import NestedQuery.Proofs.Validity
import NestedQuery.Proofs.TypeNames
import NestedQuery.Proofs.DeclaredTypes
import NestedQuery.Proofs.PropertyOrigins
import NestedQuery.Proofs.Rendering
import NestedQuery.Proofs.RoundTrip
import NestedQuery.Proofs.JoinColumns
import NestedQuery.Proofs.Transfer
import NestedQuery.Proofs.Spelling
import NestedQuery.Proofs.SchemaGrowth
import NestedQuery.Proofs.EntryOrder
import NestedQuery.Proofs.PropertyNames
import NestedQuery.Proofs.EmittedNames
import NestedQuery.Proofs.Indentation
import NestedQuery.Proofs.RowObjectText
import NestedQuery.Proofs.Comments
import NestedQuery.Proofs.CompiledQueries
import NestedQuery.Proofs.RelationConstants
import NestedQuery.Proofs.TypeShapes
import NestedQuery.Proofs.ForeignKeyChoice
import NestedQuery.Proofs.Checks
import NestedQuery.Proofs.ErrorReports
import NestedQuery.Proofs.DefaultNames
import NestedQuery.Proofs.EnclosingNames
import NestedQuery.Proofs.SeparatingDots
