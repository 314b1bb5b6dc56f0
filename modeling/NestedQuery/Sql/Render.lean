import NestedQuery.Schema.Basic
import NestedQuery.Sql.RowObject
import NestedQuery.Statement.Basic

/-!
# SQL text

Statements written in a dialect.

## Main Definitions

* `SqlWriter`: a dialect and the settings of the text
* `Statement.render`: the text of a statement
* `SelectEntry.render`, `FromEntry.render`, `WhereEntry.render`, `HiddenColumn.render`: the text of
  its parts
-/

namespace NestedQuery

open Text (joinWith indentLines endLine replaceAll inQuotes)

/-- How statements are written. -/
structure SqlWriter where
  dialect : Dialect
  /-- The schemas whose tables are named without schema, by their stored names. -/
  unqualifiedSchemas : List String
  comments : Bool := true
deriving Repr

/-- The number of spaces of an indentation. -/
def sqlIndent : Nat := 2

/-- The alias of a query whose rows are wrapped in JSON values. -/
def wrappedAlias : String := "q"

namespace SqlWriter

/-- A writer; the schemas are given as users write them. -/
def make (dialect : Dialect) (policy : CasePolicy) (unqualifiedSchemas : List String) : SqlWriter :=
  { dialect, unqualifiedSchemas := unqualifiedSchemas.map policy.exact }

/-- A writer for the dialect of a database. -/
def forDatabase (db : Database) (unqualifiedSchemas : List String) : Except SqlError SqlWriter := do
  let dialect ← Dialect.ofProduct db.productName
  return make dialect db.casePolicy unqualifiedSchemas

variable (w : SqlWriter)

/-! ### Parts without sub-queries -/

/-- A comment on a line of its own, if comments are written. -/
def comment (text : String) : String :=
  if w.comments then "-- " ++ text ++ "\n" else ""

/-- A comment, if there is one. -/
def comment? : Option String → String
  | some text => w.comment text
  | none => ""

/-- A relation, after its schema unless that is to be left out. -/
def relation (id : RelationId) : String :=
  let name := w.dialect.quoteIfNeeded id.name
  match id.schema with
  | some schema =>
    if w.unqualifiedSchemas.contains schema then name
    else w.dialect.quoteIfNeeded schema ++ "." ++ name
  | none => name

/-- The name of a selected value, after the word `as` unless it is delimited. -/
def projectedName (name : String) : String :=
  let quoted := w.dialect.quoteIfNeeded name
  (if w.dialect.isQuoted quoted then " " else " as ") ++ quoted

/-- A match condition. -/
def matchCondition (condition : MatchCondition) : String :=
  joinWith " and " <| condition.pairs.map fun pair =>
    w.dialect.column condition.childAlias pair.child ++ " = "
      ++ w.dialect.column condition.parentAlias pair.parent

/-- A condition on the rows of a query. -/
def whereEntry : WhereEntry → String
  | .condition sql placeholder tableAlias => "(" ++ replaceAll placeholder tableAlias sql ++ ")"
  | .matching condition => w.matchCondition condition

/-- A hidden column. -/
def hiddenColumn (column : HiddenColumn) : String :=
  w.dialect.column column.tableAlias column.field ++ w.projectedName column.exportName

/-- A column besides the JSON object of a row. -/
def additionalColumn : AdditionalColumn → String
  | .property name => w.dialect.quoteIfNeeded name
  | .aliased name aliasName =>
    w.dialect.quoteIfNeeded name ++ " as " ++ w.dialect.quoteIfNeeded aliasName

/-! ### Queries from the texts of their entries -/

/-- The name of the table that a statement is about. -/
def tableName (statement : Statement) : String :=
  (statement.baseTable?.map (·.name)).getD ""

/-- The query for the rows and columns of a statement, without JSON values around them. -/
def baseQuery (statement : Statement) (entries sources : List String) : String :=
  "select\n"
    ++ indentLines sqlIndent (joinWith ",\n" (entries ++ statement.hidden.map w.hiddenColumn))
    ++ "\nfrom\n"
    ++ indentLines sqlIndent (w.comment? statement.leadingComment ++ joinWith "\n" sources)
    ++ "\n"
    ++ (if statement.conditions.isEmpty then ""
        else "where (\n"
          ++ indentLines sqlIndent (joinWith " and\n" (statement.conditions.map w.whereEntry))
          ++ "\n)\n")
    ++ (match statement.orderBy with
        | some orderBy =>
          "order by " ++ replaceAll defaultPlaceholder orderBy.tableAlias orderBy.sql ++ "\n"
        | none => "")
    ++ (if statement.forUpdate then "for update\n" else "")

/-- The base query as the source of a query that wraps its rows. -/
def wrappedQuery (statement : Statement) (base : String) : String :=
  let lead :=
    if statement.leadingComment.isNone then
      w.comment ("base query for table " ++ inQuotes (tableName statement))
    else ""
  endLine ("from (\n" ++ indentLines sqlIndent (lead ++ base)) ++ ") " ++ wrappedAlias

/-- The order of a statement, applied to the wrapped rows. -/
def wrappedOrder (statement : Statement) : Option String :=
  statement.orderBy.map fun orderBy => replaceAll defaultPlaceholder wrappedAlias orderBy.sql

/-- A query for a JSON object for each row. -/
def objectRows (statement : Statement) (base : String) : String :=
  "select\n"
    ++ indentLines sqlIndent
        (w.comment ("row object for table " ++ inQuotes (tableName statement))
          ++ w.dialect.rowObject sqlIndent wrappedAlias statement.names ++ " json"
          ++ (statement.additionalColumns.map fun column =>
              ",\n" ++ w.additionalColumn column).foldr (· ++ ·) "")
    ++ "\n" ++ w.wrappedQuery statement base
    ++ (match wrappedOrder statement with
        | some orderBy => "\norder by " ++ orderBy
        | none => "")

/-- The JSON array of all rows: of their objects, or of the values of the only property. -/
def aggregateValue (statement : Statement) : Except SqlError String :=
  let orderBy := wrappedOrder statement
  let table := tableName statement
  if statement.objectWrap then do
    let value ← w.dialect.aggregateRows sqlIndent wrappedAlias statement.names orderBy
    return w.comment ("aggregated rows from table " ++ inQuotes table) ++ value
  else
    match statement.names with
    | [name] => do
      let value ← w.dialect.aggregateColumn wrappedAlias name orderBy
      return w.comment ("aggregated values from table " ++ inQuotes table) ++ value
    | names => .error (.unwrappedProperties table names.length)

/-- The text of a statement from those of its select list and its sources. -/
def statement (statement : Statement) (entries sources : Except SqlError (List String)) :
    Except SqlError String :=
  if statement.aggregate then do
    let value ← w.aggregateValue statement
    let base := w.baseQuery statement (← entries) (← sources)
    return "select\n" ++ indentLines sqlIndent (value ++ " json") ++ "\n"
      ++ w.wrappedQuery statement base
  else do
    let base := w.baseQuery statement (← entries) (← sources)
    return if statement.objectWrap then w.objectRows statement base else base

/-- A sub-query between parentheses. -/
def subquery (text : String) : String :=
  endLine ("(\n" ++ indentLines sqlIndent text) ++ ")"

end SqlWriter

/-! ### Statements -/

mutual

/-- The text of a statement. -/
def Statement.render (w : SqlWriter) : Statement → Except SqlError String
  | ⟨select, hidden, sources, conditions, orderBy, forUpdate, objectWrap, aggregate,
      additionalColumns, resultTypeName, leadingComment⟩ =>
    w.statement
      ⟨select, hidden, sources, conditions, orderBy, forUpdate, objectWrap, aggregate,
        additionalColumns, resultTypeName, leadingComment⟩
      (SelectEntry.renderAll w select) (FromEntry.renderAll w sources)
termination_by structural statement => statement

/-- The texts of the entries of a select list. -/
def SelectEntry.renderAll (w : SqlWriter) : List SelectEntry → Except SqlError (List String)
  | [] => .ok []
  | entry :: entries => do
    let text ← entry.render w
    let texts ← SelectEntry.renderAll w entries
    return text :: texts
termination_by structural entries => entries

/-- The text of an entry of a select list. -/
def SelectEntry.render (w : SqlWriter) : SelectEntry → Except SqlError String
  | .field label field tableAlias _ =>
    .ok (w.comment? label.comment ++ w.dialect.column tableAlias field.name
      ++ w.projectedName label.name)
  | .expression label sql placeholder tableAlias _ =>
    .ok (w.comment? label.comment ++ replaceAll placeholder tableAlias sql
      ++ w.projectedName label.name)
  | .inlined label parentAlias _ =>
    .ok (w.comment? label.comment ++ w.dialect.column parentAlias label.name)
  | .reference label query => do
    let text ← query.render w
    return w.comment? label.comment ++ SqlWriter.subquery text ++ " "
      ++ w.dialect.quoteIfNeeded label.name
  | .collection label query => do
    let text ← query.render w
    return w.comment? label.comment ++ SqlWriter.subquery text ++ " "
      ++ w.dialect.quoteIfNeeded label.name
termination_by structural entry => entry

/-- The texts of sources. -/
def FromEntry.renderAll (w : SqlWriter) : List FromEntry → Except SqlError (List String)
  | [] => .ok []
  | source :: sources => do
    let text ← source.render w
    let texts ← FromEntry.renderAll w sources
    return text :: texts
termination_by structural sources => sources

/-- The text of a source. -/
def FromEntry.render (w : SqlWriter) : FromEntry → Except SqlError String
  | .table relation aliasName => .ok (w.relation relation ++ " " ++ aliasName)
  | .query query aliasName join comment => do
    let text ← query.render w
    return w.comment? comment ++ "left join " ++ SqlWriter.subquery text ++ " " ++ aliasName
      ++ " on " ++ w.matchCondition join
termination_by structural source => source

end

end NestedQuery
