import NestedQuery.Json.Reader
import NestedQuery.ResultType.Build
import NestedQuery.Schema.Codec
import NestedQuery.Source.ResultTypes
import NestedQuery.Sql.Render
import NestedQuery.Statement.Build
import NestedQuery.Statement.Provenance

/-!
# Compiling query groups

Each query of a group is compiled by itself: to SQL in the wanted representations, and to the result
types with their source if that is wanted.

## Main Definitions

* `CompileError`: everything that can go wrong, with contexts around it
* `GroupCompiler`: a query group together with a schema snapshot
* `GroupCompiler.compileQuery`, `GroupCompiler.compileAll`: compile one query, or all
* `compileDocuments`: compile a group from documents
-/

namespace NestedQuery

open Text (inQuotes)

/-! ### Errors -/

/-- Why a query cannot be compiled. -/
inductive CompileError where
  /-- A document cannot be read. -/
  | malformed
  | database (error : DatabaseError)
  | spec (error : SpecError)
  | sql (error : SqlError)
  | source (error : SourceError)
  | inContext (context : String) (error : CompileError)
deriving DecidableEq, Repr

namespace CompileError

/-- The text of an error. -/
def message : CompileError → String
  | malformed => "Invalid input"
  | database error => "Database metadata: " ++ error.message
  | spec error => error.message
  | sql error => "SQL generation: " ++ error.message
  | source error => "Source generation: " ++ error.message
  | inContext context error => context ++ " " ++ error.message

/-- The error without its contexts. -/
def root : CompileError → CompileError
  | inContext _ error => error.root
  | error => error

end CompileError

/-! ### Query groups -/

/-- The SQL of a query in one representation. -/
structure CompiledSql where
  representation : Representation
  /-- A file name for the text. -/
  resource : String
  sql : String
deriving DecidableEq, Repr

/-- What a query is compiled to. -/
structure CompiledQuery where
  name : String
  /-- The SQL for each wanted representation, in their order. -/
  sqls : List CompiledSql
  /-- The parameters of the query, each once. -/
  paramNames : List String
  origins : QueryOrigins
  /-- The result types, if they are wanted. -/
  resultTypes : Option NamedTypes
  /-- The source of the result types, if there are options for it. -/
  source : Option GeneratedSource

/-- A query group with what it is compiled against. -/
structure GroupCompiler where
  database : Database
  group : QueryGroup
  writer : SqlWriter
  options : Option SourceOptions

/-- An error of one kind as an error of the compilation. -/
def orFail (wrap : ε → CompileError) : Except ε α → Except CompileError α
  | .ok value => .ok value
  | .error error => .error (wrap error)

/-! ### Names and headers -/

/-- The file name of the SQL of a query. It tells the representation if there are several. -/
def sqlResourceName (query : String) (representation : Representation) (several : Bool) : String :=
  let base := Text.toLower (Text.replaceAll " " "-" query)
  if several then
    base ++ "(" ++ Text.replaceAll "_" " " (Text.toLower representation.label) ++ ").sql"
  else base ++ ".sql"

/-- The SQL of a query under a header. -/
def withSqlHeader (query : String) (representation : Representation) (sql : String) : String :=
  "-- [ THIS QUERY WAS AUTO-GENERATED, ANY CHANGES MADE HERE MAY BE LOST. ]\n-- "
    ++ representation.label ++ " results representation for " ++ query ++ "\n" ++ sql ++ "\n"

namespace GroupCompiler

/-- A compiler for a query group; the database must be one that SQL can be written for. -/
def make (database : Database) (group : QueryGroup) (options : Option SourceOptions) :
    Except CompileError GroupCompiler := do
  let writer ← orFail .sql (SqlWriter.forDatabase database group.unqualifiedSchemas)
  return ⟨database, group, writer, options⟩

variable (compiler : GroupCompiler)

/-- What the names of a query are resolved against. Property names follow the query, then the
group, and are in camel case if neither says anything. -/
def resolver (query : Query) : Resolver where
  database := compiler.database
  defaultSchema := compiler.group.defaultSchema
  naming := (query.propertyNaming.or compiler.group.propertyNaming).getD .camelCase

/-- The SQL of the statements of a query. -/
def sqls (query : String) (statements : List (Representation × Statement)) :
    Except SqlError (List CompiledSql) :=
  statements.mapM fun (representation, statement) => do
    let sql ← statement.render compiler.writer
    return ⟨representation, sqlResourceName query representation (decide (1 < statements.length)),
      withSqlHeader query representation sql⟩

/-- The named result types of a query. -/
def resultTypes (query : Query) : Except SpecError NamedTypes := do
  let types ← query.table.resultTypes (compiler.resolver query) query.name
  NamedTypes.assign query.name types

/-- The source of the result types of a query, if they are wanted and there are options for it. -/
def sourceOf (query : Query) (sqls : List CompiledSql) (paramNames : List String)
    (named : Option NamedTypes) : Except SourceError (Option GeneratedSource) :=
  match named, compiler.options with
  | some named, some options => do
    let facts : QueryFacts :=
      ⟨query.name, sqls.map fun sql => (sql.representation, sql.resource), paramNames,
        query.typesFileHeader⟩
    let source ← named.source options facts
    return some source
  | _, _ => .ok none

/-- Compile a query: the first of its statements tells the origins of the properties. -/
def compileBody (query : Query) : Except CompileError CompiledQuery := do
  let statements ← orFail .spec (query.statements (compiler.resolver query))
  let first ←
    match statements with
    | [] =>
      .error (.spec ⟨(Location.root query.name).enter "resultRepresentations",
        .noRepresentations⟩)
    | (_, statement) :: _ => .ok statement
  let origins ← orFail .spec (first.origins query.name)
  let sqls ← orFail .sql (compiler.sqls query.name statements)
  let paramNames := query.paramNames.eraseDups
  let named ←
    if query.wantsResultTypes then (orFail .spec (compiler.resultTypes query)).map some
    else .ok none
  let source ← orFail .source (compiler.sourceOf query sqls paramNames named)
  return ⟨query.name, sqls, paramNames, origins, named, source⟩

/-- Compile a query; an error tells which query it is about. -/
def compileQuery (query : Query) : Except CompileError CompiledQuery :=
  match compiler.compileBody query with
  | .ok compiled => .ok compiled
  | .error error =>
    .error (.inContext ("While compiling query " ++ inQuotes query.name ++ ":") error)

/-- Compile every query of the group. -/
def compileAll : List (Except CompileError CompiledQuery) :=
  compiler.group.queries.map compiler.compileQuery

end GroupCompiler

/-! ### Documents -/

/-- Read a schema snapshot from JSON text. -/
def Database.parse (text : String) : Except DatabaseError Database :=
  match (Json.parse text).bind Database.ofJson? with
  | some database => .ok database
  | none => .error .malformed

/-- Compile a query group from the JSON texts of a schema snapshot, of the group, and of source
options if there are any. -/
def compileDocuments (database group : String) (options : Option String) :
    Except CompileError (List (Except CompileError CompiledQuery)) := do
  let database ← orFail .database (Database.parse database)
  let group ← read QueryGroup.ofJson? group
  let options ←
    match options with
    | some text => (read SourceOptions.ofJson? text).map some
    | none => .ok none
  let compiler ← GroupCompiler.make database group options
  return compiler.compileAll
where
  /-- Read a document. -/
  read {α : Type} (ofJson? : Json → Option α) (text : String) : Except CompileError α :=
    match (Json.parse text).bind ofJson? with
    | some value => .ok value
    | none => .error .malformed

end NestedQuery
