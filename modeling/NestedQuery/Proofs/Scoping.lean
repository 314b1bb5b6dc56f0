import NestedQuery.Proofs.Nullability
import NestedQuery.Proofs.RowExistence
import NestedQuery.Proofs.StatementParts

/-!
# Statements refer only to what they can see

A statement names tables by aliases and columns by names, in its select list, its hidden columns,
its conditions and its joins. Each of these names has to mean something at the place where it
stands: the alias of the base table or of a sub-query joined to it, a field of the base relation, a
name that the sub-query returns. Two directions are easily confused: a joined parent is matched by
its exported columns, while a correlated sub-query reaches out to the row around it, as a child or
as a parent.

## Main Definitions

* `Catalog`: which fields relations have
* `WellScoped`, `JoinScoped`, `EntryScoped`: all names of a statement mean something
* `TablePlan.Known`: a plan that names existing fields only

## Main Results

* `TablePlan.Known.wellScoped`: the statement of such a plan, at any site
* `Resolver.known_of_planTable`: the plans that a resolver makes
* `statements_are_wellScoped`: the statements of a query

## Design Notes

Making a statement never looks a field up. What it needs of the schema is said by `TablePlan.Known`
for an arbitrary catalog, so that the rules on aliases can be had without a schema by taking
the catalog in which every field exists.
-/

namespace NestedQuery

/-! ### Catalogs -/

/-- Which fields relations have. -/
def Catalog : Type := RelationId → Field → Prop

namespace Catalog

/-- The relation has a field of the given name. -/
def HasName (catalog : Catalog) (relation : RelationId) (name : String) : Prop :=
  ∃ field, catalog relation field ∧ field.name = name

/-- The paired names are those of fields, of the child and of the parent. -/
def HasPairs (catalog : Catalog) (child parent : RelationId) (pairs : List FieldPair) : Prop :=
  ∀ pair ∈ pairs, catalog.HasName child pair.child ∧ catalog.HasName parent pair.parent

end Catalog

/-- The fields of the relations that are found by their ids. -/
def Database.catalog (database : Database) : Catalog := fun id field =>
  ∃ relation, database.relation? id = some relation ∧ field ∈ relation.fields

/-- Foreign keys name fields of the relations that are found by the ids of child and parent. -/
def Database.KeysNameFields (database : Database) : Prop :=
  ∀ key ∈ database.foreignKeys, ∀ column ∈ key.columns,
    (∀ child ∈ database.relation? key.child, ∃ field ∈ child.fields, field.name = column.child) ∧
    ∀ parent ∈ database.relation? key.parent, ∃ field ∈ parent.fields, field.name = column.parent

/-! ### Scoping -/

mutual

/-- A statement is about its base table, to which sub-queries are joined, and all that it names can
be seen from it. -/
inductive WellScoped (catalog : Catalog) : Statement → Prop
  | intro {statement : Statement} {base : RelationId} {aliasName : String}
      {joined : List FromEntry}
      (sources : statement.sources = .table base aliasName :: joined)
      (joins : ∀ source ∈ joined, JoinScoped catalog base aliasName source)
      (entries : ∀ entry ∈ statement.select, EntryScoped catalog base aliasName joined entry)
      (hidden : ∀ column ∈ statement.hidden,
        column.tableAlias = aliasName ∧ catalog.HasName base column.field)
      (literals : ∀ sql placeholder tableAlias,
        .condition sql placeholder tableAlias ∈ statement.conditions → tableAlias = aliasName)
      (order : ∀ orderBy, statement.orderBy = some orderBy → orderBy.tableAlias = aliasName) :
      WellScoped catalog statement

/-- A source besides the base table with the given relation and alias: a sub-query of its own,
joined by fields of the base relation and by names under which the sub-query exports fields. -/
inductive JoinScoped (catalog : Catalog) : RelationId → String → FromEntry → Prop
  | intro {base : RelationId} {aliasName subqueryAlias : String} {query : Statement}
      {join : MatchCondition} {comment : Option String}
      (inner : WellScoped catalog query) (alone : query.Uncorrelated)
      (child : join.childAlias = aliasName) (parent : join.parentAlias = subqueryAlias)
      (pairs : ∀ pair ∈ join.pairs, catalog.HasName base pair.child ∧
        ∃ field, query.exportName? field = some pair.parent) :
      JoinScoped catalog base aliasName (.query query subqueryAlias join comment)

/-- An entry of a statement with the given base relation, alias and joined sub-queries. -/
inductive EntryScoped (catalog : Catalog) :
    RelationId → String → List FromEntry → SelectEntry → Prop
  | field {base : RelationId} {aliasName : String} {joined : List FromEntry} {label : EntryLabel}
      {stored : Field} {sourceType : Option SourceType} (known : catalog base stored) :
      EntryScoped catalog base aliasName joined (.field label stored aliasName sourceType)
  | expression {base : RelationId} {aliasName : String} {joined : List FromEntry}
      {label : EntryLabel} {sql placeholder : String} {sourceType : Option SourceType} :
      EntryScoped catalog base aliasName joined
        (.expression label sql placeholder aliasName sourceType)
  /-- A column of a joined sub-query, which returns one of that name. -/
  | inlined {base relation : RelationId} {aliasName parentAlias : String}
      {joined : List FromEntry} {label : EntryLabel} {query : Statement} {join : MatchCondition}
      {comment : Option String} (source : .query query parentAlias join comment ∈ joined)
      (returned : label.name ∈ query.names) :
      EntryScoped catalog base aliasName joined (.inlined label parentAlias relation)
  /-- A query about the parent of the row. -/
  | reference {base parent : RelationId} {aliasName : String} {joined : List FromEntry}
      {label : EntryLabel} {query : Statement} {condition : MatchCondition}
      (inner : WellScoped catalog query)
      (about : query.sources.head? = some (.table parent condition.parentAlias))
      (correlated : query.CorrelatedBy condition) (child : condition.childAlias = aliasName)
      (pairs : catalog.HasPairs base parent condition.pairs) :
      EntryScoped catalog base aliasName joined (.reference label query)
  /-- A query about the children of the row. -/
  | collection {base child : RelationId} {aliasName : String} {joined : List FromEntry}
      {label : EntryLabel} {query : Statement} {condition : MatchCondition}
      (inner : WellScoped catalog query)
      (about : query.sources.head? = some (.table child condition.childAlias))
      (correlated : query.CorrelatedBy condition) (parent : condition.parentAlias = aliasName)
      (pairs : catalog.HasPairs child base condition.pairs) :
      EntryScoped catalog base aliasName joined (.collection label query)

end

/-- How the rows of a statement are returned has no part in scoping. -/
theorem WellScoped.congr {catalog : Catalog} {statement other : Statement}
    (inScope : WellScoped catalog statement) (same : other.SameRows statement) :
    WellScoped catalog other := by
  obtain ⟨base, joins, entries, columns, literals, order⟩ := inScope
  refine .intro (same.sources.trans base) joins ?_ ?_ ?_ ?_
  · rw [same.select]
    exact entries
  · rw [same.hidden]
    exact columns
  · rw [same.conditions]
    exact literals
  · rw [same.orderBy]
    exact order

/-! ### Plans -/

/-- The fields of a plan, of its primary keys and of its links exist. -/
inductive TablePlan.Known (catalog : Catalog) : TablePlan → Prop
  | intro {plan : TablePlan}
      (fields : ∀ field ∈ plan.head.fields, ∀ stored, field.source = .field stored →
        catalog plan.head.relation stored)
      (keys : ∀ field ∈ plan.head.keyFields, catalog.HasName plan.head.relation field)
      (inlined : ∀ parent ∈ plan.inlined, catalog.HasPairs plan.head.relation
        parent.plan.head.relation parent.link.matching.pairs)
      (references : ∀ parent ∈ plan.references, catalog.HasPairs plan.head.relation
        parent.plan.head.relation parent.link.matching.pairs)
      (collections : ∀ child ∈ plan.collections, catalog.HasPairs child.plan.head.relation
        plan.head.relation child.link.pairs)
      (inlinedPlans : ∀ parent ∈ plan.inlined, parent.plan.Known catalog)
      (referencePlans : ∀ parent ∈ plan.references, parent.plan.Known catalog)
      (collectionPlans : ∀ child ∈ plan.collections, child.plan.Known catalog) :
      plan.Known catalog

/-- The statements of a plan are well scoped, wherever they stand, if the fields that they have to
export exist. -/
def TablePlan.ScopedAnywhere (catalog : Catalog) (plan : TablePlan) : Prop :=
  ∀ site : Site, (∀ field ∈ site.exports, catalog.HasName plan.head.relation field) →
    WellScoped catalog (plan.statement site)

variable {catalog : Catalog}

/-- The fields that an inline parent has to export exist. -/
theorem InlinedParent.exports_known {parent : InlinedParent} {child : RelationId}
    (known : parent.plan.Known catalog)
    (pairs : catalog.HasPairs child parent.plan.head.relation parent.link.matching.pairs)
    (scope : AliasScope) :
    ∀ field ∈ (parent.link.site parent.plan.head.linked scope).exports,
      catalog.HasName parent.plan.head.relation field := by
  intro field exported
  obtain ⟨-, keys, -⟩ := known
  rcases mem_exportedFields.mp exported with ofKey | ⟨pair, inPairs, rfl⟩
  · exact keys field ofKey
  · exact (pairs pair inPairs).2

/-- The sub-query of an inline parent is joined by names that it exports: none of the equated fields
has to stand for itself. -/
theorem InlinedParent.source_joinScoped {parent : InlinedParent} {child : RelationId}
    (known : parent.plan.Known catalog) (inScope : parent.plan.ScopedAnywhere catalog)
    (pairs : catalog.HasPairs child parent.plan.head.relation parent.link.matching.pairs)
    (tableAlias : String) (scope : AliasScope) :
    JoinScoped catalog child tableAlias (parent.source tableAlias scope) := by
  have exports := InlinedParent.exports_known known pairs (scope.insert (parent.aliasIn scope))
  refine .intro (inScope _ exports) (TablePlan.uncorrelated_statement rfl) rfl rfl ?_
  intro joined inJoin
  obtain ⟨pair, inPairs, rfl⟩ := List.mem_map.mp inJoin
  have exported : pair.parent ∈ (parent.link.site parent.plan.head.linked
      (scope.insert (parent.aliasIn scope))).exports :=
    mem_exportedFields.mpr (.inr ⟨pair, inPairs, rfl⟩)
  obtain ⟨name, found⟩ := @TablePlan.exportName?_statement parent.plan _ _ exported
  refine ⟨(pairs pair inPairs).1, pair.parent, ?_⟩
  show (parent.query scope).exportName? pair.parent =
    some (((parent.query scope).exportName? pair.parent).getD pair.parent)
  have equal : (parent.query scope).exportName? pair.parent = some name := found
  rw [equal]
  rfl

theorem PlannedField.entry_scoped {field : PlannedField} {base : RelationId} {aliasName : String}
    {joined : List FromEntry}
    (known : ∀ stored, field.source = .field stored → catalog base stored) :
    EntryScoped catalog base aliasName joined (field.entry aliasName) := by
  unfold PlannedField.entry
  cases source : field.source with
  | field stored => exact .field (known stored source)
  | expression sql placeholder => exact .expression

theorem TablePlan.head?_sources_statement (plan : TablePlan) (site : Site) :
    (plan.statement site).sources.head? =
      some (.table plan.head.relation (plan.baseAlias site)) := by
  rw [plan.sources_statement]
  rfl

theorem Reference.entry_scoped {reference : Reference} {base : RelationId}
    {joined : List FromEntry} (inScope : reference.plan.ScopedAnywhere catalog)
    (pairs : catalog.HasPairs base reference.plan.head.relation reference.link.matching.pairs)
    (tableAlias : String) (scope : AliasScope) :
    EntryScoped catalog base tableAlias joined (reference.entry tableAlias scope) := by
  have inner := inScope (reference.link.site tableAlias scope) (fun _ none => nomatch none)
  have correlated := reference.query_correlatedBy tableAlias scope
  refine .reference (inner.congr ⟨rfl, rfl, rfl, rfl, rfl, rfl⟩) ?_ correlated rfl pairs
  exact reference.plan.head?_sources_statement _

theorem Collection.entry_scoped {collection : Collection} {base : RelationId}
    {joined : List FromEntry} (inScope : collection.plan.ScopedAnywhere catalog)
    (pairs : catalog.HasPairs collection.plan.head.relation base collection.link.pairs)
    (tableAlias : String) (scope : AliasScope) :
    EntryScoped catalog base tableAlias joined (collection.entry tableAlias scope) := by
  have inner := inScope (collection.link.site tableAlias scope) (fun _ none => nomatch none)
  have correlated := collection.query_correlatedBy tableAlias scope
  refine .collection (inner.congr ⟨rfl, rfl, rfl, rfl, rfl, rfl⟩) ?_ correlated rfl pairs
  exact collection.plan.head?_sources_statement _

/-- **The statement of a plan refers only to what it can see**, if the fields of the plan exist. -/
theorem TablePlan.Known.wellScoped {plan : TablePlan} (known : plan.Known catalog) :
    plan.ScopedAnywhere catalog := by
  induction known with
  | @intro plan fields keys inlined references collections inlinedPlans referencePlans
      collectionPlans inlinedScoped referencesScoped collectionsScoped =>
      intro site exports
      refine .intro (plan.sources_statement site) ?_ ?_ ?_ ?_ ?_
      · intro source joined
        obtain ⟨parent, member, scope, rfl⟩ := InlinedParent.mem_joins_sources joined
        exact InlinedParent.source_joinScoped (inlinedPlans parent member)
          (inlinedScoped parent member) (inlined parent member) _ scope
      · intro entry member
        rcases TablePlan.mem_select_statement.mp member with
          ⟨field, inHead, rfl⟩ | lifted | ⟨reference, inPlan, rfl⟩ | ⟨collection, inPlan, rfl⟩
        · exact PlannedField.entry_scoped (fields field inHead)
        · obtain ⟨parent, -, scope, inLifted, source⟩ := InlinedParent.mem_joins_entries lifted
          obtain ⟨label, returned, rfl⟩ := mem_liftedEntries inLifted
          exact .inlined source returned
        · exact Reference.entry_scoped (referencesScoped reference inPlan)
            (references reference inPlan) _ _
        · exact Collection.entry_scoped (collectionsScoped collection inPlan)
            (collections collection inPlan) _ _
      · intro column member
        rw [plan.hidden_statement] at member
        have exported : column.field ∈ site.exports := by
          rw [← hiddenColumns_fields (plan.baseAlias site) (plan.statement site).names
            site.exports]
          exact List.mem_map_of_mem member
        exact ⟨tableAlias_of_mem_hiddenColumns member, exports _ exported⟩
      · intro sql placeholder tableAlias member
        exact TablePlan.tableAlias_of_mem_conditions member
      · intro orderBy ordered
        rw [plan.orderBy_statement] at ordered
        obtain ⟨sql, -, rfl⟩ := Option.map_eq_some_iff.mp ordered
        rfl

/-! ### Resolution -/

theorem Database.mem_fields_of_field? {database : Database} {relation : Relation}
    {written : String} {field : Field} (found : database.field? relation written = some field) :
    field ∈ relation.fields :=
  List.mem_of_find?_eq_some found

theorem Relation.mem_fields_of_mem_keyFields {relation : Relation} {field : Field}
    (member : field ∈ relation.keyFields) : field ∈ relation.fields := by
  unfold Relation.keyFields sortByKey at member
  rw [(sortBy_perm _ _).mem_iff] at member
  exact (List.mem_filter.mp member).1

namespace Resolver

variable {r : Resolver} {location : Location}

/-- A relation that a table name stands for is found by its id. -/
theorem relation?_id {table : String} {relation : Relation}
    (found : r.relation? table = some relation) :
    r.database.relation? relation.id = some relation := by
  unfold Resolver.relation? at found
  split at found
  · rename_i id _
    split at found
    · have equal : relation.id = id := by
        simpa using List.find?_some found
      rw [equal]
      exact found
    · cases found
  · cases found

/-- The fields of a relation that is found by its id are in the catalog. -/
theorem catalog_of_mem {relation : Relation} {field : Field}
    (found : r.database.relation? relation.id = some relation)
    (member : field ∈ relation.fields) : r.database.catalog relation.id field :=
  ⟨relation, found, member⟩

theorem equatedPair_eq_ok {child parent : Relation} {written pair : FieldPair}
    (resolved : r.equatedPair location child parent written = .ok pair) :
    (∃ field ∈ child.fields, field.name = pair.child) ∧
      ∃ field ∈ parent.fields, field.name = pair.parent := by
  unfold equatedPair at resolved
  split at resolved
  · cases resolved
  · rename_i childField childFound
    split at resolved
    · cases resolved
    · rename_i parentField parentFound
      cases resolved
      exact ⟨⟨childField, Database.mem_fields_of_field? childFound, rfl⟩,
        parentField, Database.mem_fields_of_field? parentFound, rfl⟩

/-- The fields that a custom match equates are found, those of a foreign key exist if the keys of
the schema name existing fields. -/
theorem hasPairs_of_linkPairs (keysNamed : r.database.KeysNameFields) {child parent : Relation}
    (childFound : r.database.relation? child.id = some child)
    (parentFound : r.database.relation? parent.id = some parent) {custom : Option CustomMatch}
    {fields : Option (List String)} {pairs : List FieldPair}
    (linked : r.linkPairs location child parent custom fields = .ok pairs) :
    r.database.catalog.HasPairs child.id parent.id pairs := by
  intro pair member
  have named : (∃ field ∈ child.fields, field.name = pair.child) ∧
      ∃ field ∈ parent.fields, field.name = pair.parent := by
    unfold linkPairs at linked
    split at linked
    · split at linked
      · cases linked
      · unfold customPairs at linked
        dsimp only at linked
        split at linked
        · cases linked
        · obtain ⟨written, -, resolved⟩ := forall₂_mem_right (mapM_eq_ok.mp linked) member
          exact equatedPair_eq_ok resolved
    · obtain ⟨key, chosen, rfl⟩ := foreignKeyPairs_eq_ok.mp linked
      obtain ⟨inSchema, ofChild, ofParent⟩ := Database.mem_of_foreignKey? chosen
      have names := keysNamed key inSchema pair member
      rw [ofChild, ofParent] at names
      exact ⟨names.1 child childFound, names.2 parent parentFound⟩
  obtain ⟨⟨childField, inChild, childName⟩, parentField, inParent, parentName⟩ := named
  exact ⟨⟨childField, catalog_of_mem childFound inChild, childName⟩,
    parentField, catalog_of_mem parentFound inParent, parentName⟩

theorem hasPairs_of_parentMatch (keysNamed : r.database.KeysNameFields) {child parent : Relation}
    (childFound : r.database.relation? child.id = some child)
    (parentFound : r.database.relation? parent.id = some parent) {link : ParentLink}
    {parentHasCondition : Bool} {matching : RowMatch}
    (matched : r.parentMatch location child parent link parentHasCondition = .ok matching) :
    r.database.catalog.HasPairs child.id parent.id matching.pairs := by
  obtain ⟨pairs, linked, equal⟩ := bind_eq_ok.mp matched
  cases equal
  exact hasPairs_of_linkPairs keysNamed childFound parentFound linked

/-- **The plans of a resolver name existing fields.** -/
theorem known_of_planTable (keysNamed : r.database.KeysNameFields) (spec : TableSpec) :
    ∀ location relation plan, r.database.relation? relation.id = some relation →
      r.planTable location relation spec = .ok plan → plan.Known r.database.catalog := by
  induction spec using TableSpec.tree_induction with
  | step spec parentsKnown childrenKnown =>
      intro location relation plan found planned
      have parts := planTable_parts planned
      have base := relation_of_planTable planned
      have inlined := planInlined_forall₂ parts.inlined
      have references := planReferences_forall₂ parts.references
      have collections := planCollections_forall₂ parts.collections
      refine .intro ?_ ?_ ?_ ?_ ?_ ?_ ?_ ?_
      · intro field member stored source
        obtain ⟨entry, -, here, resolved⟩ :=
          forall₂_mem_right (fieldEntries_forall₂ parts.fields) member
        have origin := (fieldEntry_source resolved).2
        rw [source] at origin
        obtain ⟨written, -, inRelation⟩ := origin
        rw [base]
        exact catalog_of_mem found (Database.mem_fields_of_field? inRelation)
      · intro name member
        rw [parts.head] at member
        obtain ⟨field, inKey, rfl⟩ := List.mem_map.mp member
        rw [base]
        exact ⟨field, catalog_of_mem found (Relation.mem_fields_of_mem_keyFields inKey), rfl⟩
      · intro parent member
        obtain ⟨written, -, target, resolved⟩ := forall₂_mem_right inlined member
        rw [base, relation_of_planTable resolved.plan]
        exact hasPairs_of_parentMatch keysNamed found (relation?_id resolved.found)
          resolved.matching
      · intro parent member
        obtain ⟨written, -, target, resolved⟩ := forall₂_mem_right references member
        rw [base, relation_of_planTable resolved.plan]
        exact hasPairs_of_parentMatch keysNamed found (relation?_id resolved.found)
          resolved.matching
      · intro child member
        obtain ⟨written, -, target, resolved⟩ := forall₂_mem_right collections member
        rw [base, relation_of_planTable resolved.plan]
        exact hasPairs_of_linkPairs keysNamed (relation?_id resolved.found) found resolved.pairs
      · intro parent member
        obtain ⟨written, inSpec, target, resolved⟩ := forall₂_mem_right inlined member
        exact parentsKnown written (List.mem_filter.mp inSpec).1 _ target parent.plan
          (relation?_id resolved.found) resolved.plan
      · intro parent member
        obtain ⟨written, inSpec, target, resolved⟩ := forall₂_mem_right references member
        exact parentsKnown written (List.mem_filter.mp inSpec).1 _ target parent.plan
          (relation?_id resolved.found) resolved.plan
      · intro child member
        obtain ⟨written, inSpec, target, resolved⟩ := forall₂_mem_right collections member
        exact childrenKnown written inSpec _ target child.plan (relation?_id resolved.found)
          resolved.plan

end Resolver

/-! ### Queries -/

/-- **Every statement is well scoped.** If the foreign keys of a schema name existing fields, then
whatever the settings and the query, aliases given or not, all names in the statements of the query
mean something at the place where they stand; the outermost statements depend on no other row. -/
theorem statements_are_wellScoped (r : Resolver) (query : Query)
    {statements : List (Representation × Statement)} (keysNamed : r.database.KeysNameFields)
    (made : query.statements r = .ok statements) :
    ∀ representation statement, (representation, statement) ∈ statements →
      statement.Uncorrelated ∧ WellScoped r.database.catalog statement := by
  intro representation statement member
  obtain ⟨plan, planned, rfl⟩ :=
    Query.statement_eq_ok (Query.statement_of_mem_statements made member)
  obtain ⟨relation, found, tablePlanned⟩ := bind_eq_ok.mp planned
  have known := r.known_of_planTable keysNamed query.table _ relation plan
    (Resolver.relation?_id (Resolver.table_eq_ok.mp found)) tablePlanned
  have inScope := known.wellScoped { orderBy := query.orderBy } (fun _ none => nomatch none)
  have same := query.represent_sameRows (plan.statement { orderBy := query.orderBy }) representation
  refine ⟨?_, inScope.congr same⟩
  intro condition
  rw [same.conditions]
  exact TablePlan.uncorrelated_statement rfl condition

/-- The drug query. Its statements join compounds, and through them analysts, and have sub-queries
about the parent and the children of a drug. -/
theorem drugQuery_statements_are_wellScoped :
    Pharmacy.lowerCase.KeysNameFields ∧
    ∃ statements, Pharmacy.drugQuery.statements Pharmacy.resolver = .ok statements ∧
      statements.map Prod.fst = [.jsonObjectRows, .jsonArrayRow] ∧
      ∀ representation statement, (representation, statement) ∈ statements →
        statement.Uncorrelated ∧ WellScoped Pharmacy.lowerCase.catalog statement := by
  have keysNamed : Pharmacy.lowerCase.KeysNameFields := by
    unfold Database.KeysNameFields
    decide +kernel
  obtain ⟨statements, made, wanted⟩ := Pharmacy.statements_drugQuery
  exact ⟨keysNamed, statements, made, wanted,
    statements_are_wellScoped Pharmacy.resolver Pharmacy.drugQuery keysNamed made⟩

end NestedQuery
