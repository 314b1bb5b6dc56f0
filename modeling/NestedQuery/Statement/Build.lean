import NestedQuery.Plan.Walk
import NestedQuery.Statement.Basic
import NestedQuery.Text.Words

/-!
# Making statements

Inline parents become sub-queries joined to the base table, whose properties are lifted into the
select list. Referenced parents and children become correlated sub-queries in the select list.

## Main Definitions

* `statementFold`: how the walk over a specification makes a statement
* `Query.statements`: the statements of a query, one for each representation
* `TablePlan.statement`: the statement of a plan at a site, without a walk

## Design Notes

A table gets its alias when its statement is begun, then its inline parents get theirs one after the
other. A sub-query sees the alias of its table and those given to the inline parents before it. The
sub-queries of referenced parents and children see the aliases of all inline parents, and nothing of
one another.
-/

namespace NestedQuery

open Text (inQuotes)

/-- How the rows of a sub-query belong to a row of the enclosing query. -/
inductive Correlation where
  /-- The sub-query is about the parent of the enclosing row. -/
  | toChildRow (childAlias : String) (matching : RowMatch)
  /-- The sub-query is about the children of the enclosing row. -/
  | toParentRow (parentAlias : String) (pairs : List FieldPair)
deriving DecidableEq, Repr

/-- The condition of a correlation, for the alias of the sub-query's table. -/
def Correlation.condition (tableAlias : String) : Correlation → MatchCondition
  | toChildRow childAlias matching => ⟨tableAlias, childAlias, matching.pairs, matching.guaranteed⟩
  | toParentRow parentAlias pairs => ⟨parentAlias, tableAlias, pairs, false⟩

/-- What a statement is told by the statement around it. -/
structure Site where
  scope : AliasScope := .empty
  correlation : Option Correlation := none
  /-- The fields to export as hidden columns. -/
  exports : List String := []
  orderBy : Option String := none
  filter : Option String := none

/-- The alias of a table: the one it is given, else one made of the initials of its name. -/
def TableHead.aliasIn (head : TableHead) (scope : AliasScope) : String :=
  head.aliasName.getD (scope.fresh (Text.initials head.relation.name ++ "_"))

/-- The conditions on the rows of a table: how they belong to the enclosing row, the condition on
its records, and the filter. -/
def TableHead.conditions (head : TableHead) (aliasName : String) (site : Site) : List WhereEntry :=
  (site.correlation.map fun c => WhereEntry.matching (c.condition aliasName)).toList
    ++ (head.condition.map fun c =>
        WhereEntry.condition c.sql (c.placeholder.getD defaultPlaceholder) aliasName).toList
    ++ (site.filter.map fun sql => WhereEntry.condition sql defaultPlaceholder aliasName).toList

/-- The entry of a property that comes from the table itself. -/
def PlannedField.entry (aliasName : String) (field : PlannedField) : SelectEntry :=
  match field.source with
  | .field stored => .field ⟨field.name, field.displayOrder, none⟩ stored aliasName field.sourceType
  | .expression sql placeholder =>
    .expression ⟨field.name, field.displayOrder, none⟩ sql placeholder aliasName field.sourceType

/-- The fields that the sub-query of an inline parent exports: its primary key, and what else the
match needs. -/
def exportedFields (keyFields : List String) (pairs : List FieldPair) : List String :=
  pairs.foldl
    (fun fields pair => if fields.contains pair.parent then fields else fields ++ [pair.parent])
    keyFields

/-- The columns for exported fields, under names that are not taken. -/
def hiddenColumns (aliasName : String) (taken : List String) : List String → List HiddenColumn
  | [] => []
  | field :: fields =>
    let exportName := Text.freshName ("_" ++ field) "_" taken
    ⟨field, aliasName, exportName⟩ :: hiddenColumns aliasName (exportName :: taken) fields

/-- The condition that joins the sub-query of an inline parent: the matched fields of the parent go
by the names under which they are exported. -/
def joinCondition (tableAlias subqueryAlias : String) (matching : RowMatch) (parent : Statement) :
    MatchCondition :=
  ⟨subqueryAlias, tableAlias,
    matching.pairs.map fun pair =>
      ⟨pair.child, (parent.exportName? pair.parent).getD pair.parent⟩,
    matching.guaranteed⟩

/-- The entries of an inline parent's properties; the first one says where they come from. -/
def liftedEntries (subqueryAlias written : String) (relation : RelationId) (parent : Statement) :
    List SelectEntry :=
  parent.select.zipIdx.map fun (entry, position) =>
    .inlined
      ⟨entry.name, entry.displayOrder,
        if position = 0 then some ("field(s) inlined from parent table " ++ inQuotes written)
        else none⟩
      subqueryAlias relation

/-- The statement of a table from its entries and joined sub-queries. -/
def TableHead.statement (head : TableHead) (aliasName : String) (site : Site)
    (entries : List SelectEntry) (joined : List FromEntry) : Statement where
  select := entries
  hidden := hiddenColumns aliasName (entries.map (·.name)) site.exports
  sources := .table head.relation aliasName :: joined
  conditions := head.conditions aliasName site
  orderBy := site.orderBy.map fun sql => ⟨sql, aliasName⟩
  forUpdate := false
  objectWrap := false
  aggregate := false
  additionalColumns := []
  resultTypeName := head.resultTypeName
  leadingComment := none

/-- The comment on the base query of a table. -/
def baseQueryComment (table : String) : String := "base query for table " ++ inQuotes table

/-! ### Links -/

/-- The site of an inline parent's sub-query. -/
def InlineLink.site (link : InlineLink) (table : LinkedTable) (scope : AliasScope) : Site :=
  { scope, exports := exportedFields table.keyFields link.matching.pairs }

/-- The sub-query of an inline parent as a source of the table with the given alias. -/
def InlineLink.source (link : InlineLink) (table : LinkedTable)
    (tableAlias subqueryAlias : String) (parent : Statement) : FromEntry :=
  .query parent subqueryAlias (joinCondition tableAlias subqueryAlias link.matching parent)
    (some ("parent table " ++ inQuotes table.written ++ ", joined for inlined fields"))

/-- The site of a referenced parent's sub-query. -/
def ReferenceLink.site (link : ReferenceLink) (tableAlias : String) (scope : AliasScope) : Site :=
  { scope, correlation := some (.toChildRow tableAlias link.matching) }

/-- The entry of a referenced parent. -/
def ReferenceLink.entry (link : ReferenceLink) (table : LinkedTable) (parent : Statement) :
    SelectEntry :=
  .reference
    ⟨link.name, link.displayOrder,
      some ("reference " ++ inQuotes link.name ++ " to parent table " ++ inQuotes table.written)⟩
    { parent with objectWrap := true }

/-- The site of a child's sub-query. -/
def CollectionLink.site (link : CollectionLink) (tableAlias : String) (scope : AliasScope) :
    Site :=
  { scope, correlation := some (.toParentRow tableAlias link.pairs), orderBy := link.orderBy,
    filter := link.filter }

/-- The entry of a child. -/
def CollectionLink.entry (link : CollectionLink) (table : LinkedTable) (child : Statement) :
    SelectEntry :=
  .collection
    ⟨link.name, link.displayOrder,
      some ("collection " ++ inQuotes link.name ++ " of records from child table "
        ++ inQuotes table.written)⟩
    { child with
      aggregate := true
      objectWrap := !link.unwrap
      leadingComment := some (baseQueryComment table.written) }

/-! ### The walk -/

/-- What is kept while the entries of a statement are made. -/
structure StatementFrame where
  site : Site
  aliasName : String
  /-- The aliases that can be seen: that of the table, and those of the sub-queries joined. -/
  scope : AliasScope
  joined : List FromEntry
  /-- The alias of the inline parent that is walked over. -/
  pendingAlias : Option String

/-- How the walk over a specification makes a statement. -/
def statementFold : TableFold Site StatementFrame SelectEntry Statement where
  start head site :=
    let aliasName := head.aliasIn site.scope
    ⟨site, aliasName, site.scope.insert aliasName, [], none⟩
  fieldEntry frame field := field.entry frame.aliasName
  inlineSite frame link table :=
    let aliasName := link.subqueryAlias.getD (frame.scope.fresh "q")
    let scope := frame.scope.insert aliasName
    ({ frame with scope, pendingAlias := some aliasName }, link.site table scope)
  inlineEntries frame link table parent :=
    let aliasName := frame.pendingAlias.getD (frame.scope.fresh "q")
    ({ frame with
        joined := frame.joined ++ [link.source table frame.aliasName aliasName parent]
        pendingAlias := none },
      liftedEntries aliasName table.written table.relation parent)
  referenceSite frame link := link.site frame.aliasName frame.scope
  referenceEntry _ link table parent := link.entry table parent
  collectionSite frame link := link.site frame.aliasName frame.scope
  collectionEntry _ link table child := link.entry table child
  finish head frame entries := head.statement frame.aliasName frame.site entries frame.joined

/-! ### Plans -/

/-- The inline parents of a table, joined. -/
structure Joins where
  sources : List FromEntry
  entries : List SelectEntry
  /-- The scope with the aliases of the sub-queries. -/
  scope : AliasScope

mutual

/-- The statement of a plan. -/
def TablePlan.statement (site : Site) : TablePlan → Statement
  | ⟨head, inlined, references, collections⟩ =>
    let aliasName := head.aliasIn site.scope
    let joins := InlinedParent.joins aliasName (site.scope.insert aliasName) inlined
    let entries :=
      head.fields.map (·.entry aliasName) ++ joins.entries
        ++ Reference.entries aliasName joins.scope references
        ++ Collection.entries aliasName joins.scope collections
    head.statement aliasName site (inDisplayOrder (·.displayOrder) entries) joins.sources
termination_by structural plan => plan

/-- Join inline parents to the table with the given alias. -/
def InlinedParent.joins (tableAlias : String) (scope : AliasScope) :
    List InlinedParent → Joins
  | [] => ⟨[], [], scope⟩
  | ⟨link, plan⟩ :: parents =>
    let aliasName := link.subqueryAlias.getD (scope.fresh "q")
    let scope := scope.insert aliasName
    let parent := plan.statement (link.site plan.head.linked scope)
    let others := InlinedParent.joins tableAlias scope parents
    ⟨link.source plan.head.linked tableAlias aliasName parent :: others.sources,
      liftedEntries aliasName plan.head.written plan.head.relation parent ++ others.entries,
      others.scope⟩
termination_by structural parents => parents

/-- The entries of referenced parents. -/
def Reference.entries (tableAlias : String) (scope : AliasScope) :
    List Reference → List SelectEntry
  | [] => []
  | ⟨link, plan⟩ :: references =>
    link.entry plan.head.linked (plan.statement (link.site tableAlias scope))
      :: Reference.entries tableAlias scope references
termination_by structural references => references

/-- The entries of children. -/
def Collection.entries (tableAlias : String) (scope : AliasScope) :
    List Collection → List SelectEntry
  | [] => []
  | ⟨link, plan⟩ :: collections =>
    link.entry plan.head.linked (plan.statement (link.site tableAlias scope))
      :: Collection.entries tableAlias scope collections
termination_by structural collections => collections

end

/-! ### Queries -/

/-- The statement of a query in a representation, from the statement of its table. -/
def Query.represent (query : Query) (statement : Statement) : Representation → Statement
  | .multiColumnRows => { statement with forUpdate := query.locksRows }
  | .jsonObjectRows =>
    { statement with objectWrap := true, additionalColumns := query.additionalColumns }
  | .jsonArrayRow =>
    { statement with
      aggregate := true
      objectWrap := true
      leadingComment := some (baseQueryComment query.table.table) }

/-- The statement of a query in one representation. Only rows of several columns can be locked. -/
def Query.statement (r : Resolver) (query : Query) (representation : Representation) :
    Except SpecError Statement := do
  let location := Location.root query.name
  if query.locksRows && representation != .multiColumnRows then
    .error ⟨location.enter "for update clause", .forUpdateRequiresMultiColumnRows⟩
  else
    let walked ← r.walk statementFold location { orderBy := query.orderBy } query.table
    return query.represent walked.output representation

/-- The statements of a query by representation, each representation once, in the order in which
they are asked for. -/
def Query.statements (r : Resolver) (query : Query) :
    Except SpecError (List (Representation × Statement)) :=
  match query.wantedRepresentations with
  | [] => .error ⟨(Location.root query.name).enter "resultRepresentations", .noRepresentations⟩
  | representations =>
    representations.eraseDups.mapM fun representation => do
      let statement ← query.statement r representation
      return (representation, statement)

end NestedQuery
