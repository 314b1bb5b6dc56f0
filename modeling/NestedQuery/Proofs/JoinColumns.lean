import NestedQuery.Proofs.Agreement
import NestedQuery.Proofs.FreshName
import NestedQuery.Proofs.Nullability
import NestedQuery.Proofs.StatementParts
import NestedQuery.Spec.Pharmacy

/-!
# Joins are made on hidden columns

The sub-query of an inline parent is joined by fields that need not be among its properties. It
therefore exports them in hidden columns, under names that nobody else uses: the names are chosen
one after the other, and each choice avoids the properties of the sub-query, with those lifted from
its own inline parents, and the hidden columns before it. The join condition is made later, from the
names found for the fields, and each column of it is one column of the sub-query.

## Main Definitions

* `Statement.columns`: the names of all columns that a query returns
* `Relation.IsKey`: the fields of a primary key, in its order
* `JoinsOnce`: a join on hidden columns, each of which is the only one of its name
* `JoinedByExports`: the joins of a statement and of all queries in it are such

## Main Results

* `exportNames_fresh`: names of hidden columns are new
* `InlinedParent.joinsOnce`: the join of an inline parent
* `joins_hit_one_hidden_column`: the statements of a query
-/

namespace NestedQuery

/-! ### Columns -/

/-- The names of the columns that a query returns: those of its properties and those of its hidden
columns. -/
def Statement.columns (statement : Statement) : List String :=
  statement.names ++ statement.hidden.map (·.exportName)

/-- The fields of the primary key of a relation, each as often as the relation has it, in the order
of their positions in the key. -/
structure Relation.IsKey (relation : Relation) (fields : List Field) : Prop where
  members : fields.Perm (relation.fields.filter (·.keyPart.isSome))
  ordered : fields.Pairwise fun first second =>
    ∀ i ∈ first.keyPart, ∀ j ∈ second.keyPart, i ≤ j

theorem Relation.isKey_keyFields (relation : Relation) : relation.IsKey relation.keyFields := by
  refine ⟨sortBy_perm _ _, ?_⟩
  refine (sortByKey_pairwise _ _).imp ?_
  intro first second ordered i ofFirst j ofSecond
  rw [Option.mem_def] at ofFirst ofSecond
  rw [ofFirst, ofSecond] at ordered
  exact UInt32.le_iff_toNat_le.mpr ordered

/-- A pair of a join stands for a pair of matched fields: it is on the field of the child, and on a
column of the sub-query that exports the field of the parent and is the only one of its name. -/
structure JoinsOn (query : Statement) (pair joined : FieldPair) : Prop where
  child : joined.child = pair.child
  column : ∃ column ∈ query.hidden, column.field = pair.parent ∧ column.exportName = joined.parent
  once : query.columns.count joined.parent = 1

/-- The sub-query of a parent exports what it is joined by, and is joined by what it exports. -/
structure JoinsOnce (parent : Relation) (pairs : List FieldPair) (query : Statement)
    (join : MatchCondition) : Prop where
  distinct : (query.hidden.map (·.exportName)).Nodup
  unprojected : ∀ column ∈ query.hidden, column.exportName ∉ query.names
  keyFirst : ∃ key, parent.IsKey key ∧ key.map (·.name) <+: query.hidden.map (·.field)
  exported : ∀ pair ∈ pairs, pair.parent ∈ query.hidden.map (·.field)
  joined : List.Forall₂ (JoinsOn query) pairs join.pairs

mutual

/-- In the statement of a table, the sub-queries of the inline parents are joined in their order,
each by columns that it exports for its link; so they are in all queries within. -/
inductive JoinedByExports (r : Resolver) : Relation → TableSpec → Statement → Prop
  | intro {relation : Relation} {spec : TableSpec} {statement : Statement} {aliasName : String}
      {joined : List FromEntry}
      (sources : statement.sources = .table relation.id aliasName :: joined)
      (joins : List.Forall₂ (JoinByExports r) (spec.inlineParents.map (AttachedParent.mk relation))
        joined)
      (entries : ∀ entry ∈ statement.select, EntryByExports r spec entry) :
      JoinedByExports r relation spec statement

/-- The join of an inline parent. -/
inductive JoinByExports (r : Resolver) : AttachedParent → FromEntry → Prop
  | intro {link : AttachedParent} {location : Location} {target : Relation}
      {pairs : List FieldPair} {query : Statement} {aliasName : String} {join : MatchCondition}
      {comment : Option String}
      (found : r.relation? link.parent.spec.table = some target)
      (linked : r.linkPairs location link.child target link.parent.link.customMatch
        link.parent.link.foreignKeyFields = .ok pairs)
      (parent : join.parentAlias = aliasName) (once : JoinsOnce target pairs query join)
      (inner : JoinedByExports r target link.parent.spec query) :
      JoinByExports r link (.query query aliasName join comment)

/-- The query of an entry, if it has one. -/
inductive EntryByExports (r : Resolver) : TableSpec → SelectEntry → Prop
  | field {spec : TableSpec} {label : EntryLabel} {stored : Field} {tableAlias : String}
      {sourceType : Option SourceType} :
      EntryByExports r spec (.field label stored tableAlias sourceType)
  | expression {spec : TableSpec} {label : EntryLabel} {sql placeholder tableAlias : String}
      {sourceType : Option SourceType} :
      EntryByExports r spec (.expression label sql placeholder tableAlias sourceType)
  | inlined {spec : TableSpec} {label : EntryLabel} {parentAlias : String}
      {relation : RelationId} : EntryByExports r spec (.inlined label parentAlias relation)
  | reference {spec : TableSpec} {label : EntryLabel} {query : Statement} {parent : ParentTable}
      {target : Relation} (member : parent ∈ spec.referencedParents)
      (name : parent.link.referenceName = some label.name)
      (found : r.relation? parent.spec.table = some target)
      (inner : JoinedByExports r target parent.spec query) :
      EntryByExports r spec (.reference label query)
  | collection {spec : TableSpec} {label : EntryLabel} {query : Statement} {child : ChildTable}
      {target : Relation} (member : child ∈ spec.children)
      (name : child.link.collectionName = label.name)
      (found : r.relation? child.spec.table = some target)
      (inner : JoinedByExports r target child.spec query) :
      EntryByExports r spec (.collection label query)

end

/-- How the rows of a statement are returned has no part in its joins. -/
theorem JoinedByExports.congr {r : Resolver} {relation : Relation} {spec : TableSpec}
    {statement other : Statement} (joined : JoinedByExports r relation spec statement)
    (same : other.SameRows statement) : JoinedByExports r relation spec other := by
  obtain ⟨base, joins, entries⟩ := joined
  refine .intro (same.sources.trans base) joins ?_
  rw [same.select]
  exact entries

/-! ### Hidden columns -/

/-- **Names of hidden columns are new.** They are taken by no property, and no two of them are the
same. -/
theorem exportNames_fresh (aliasName : String) (taken fields : List String) :
    ((hiddenColumns aliasName taken fields).map (·.exportName)).Nodup ∧
      ∀ column ∈ hiddenColumns aliasName taken fields, column.exportName ∉ taken := by
  -- Each name is taken for the columns after it.
  induction fields generalizing taken with
  | nil => simp [hiddenColumns]
  | cons field fields ih =>
      obtain ⟨distinct, apart⟩ := ih (Text.freshName ("_" ++ field) "_" taken :: taken)
      rw [hiddenColumns]
      constructor
      · rw [List.map_cons, List.nodup_cons]
        refine ⟨?_, distinct⟩
        intro again
        obtain ⟨column, later, same⟩ := List.mem_map.mp again
        exact apart column later (same ▸ List.mem_cons_self)
      · intro column member
        rcases List.mem_cons.mp member with rfl | later
        · exact Text.freshName_not_mem _ _ _
        · exact fun used => apart column later (List.mem_cons_of_mem _ used)

/-- The fields that are exported begin with those of the primary key. -/
theorem isPrefix_exportedFields (keyFields : List String) (pairs : List FieldPair) :
    keyFields <+: exportedFields keyFields pairs := by
  induction pairs generalizing keyFields with
  | nil => exact List.prefix_rfl
  | cons pair pairs ih =>
      by_cases old : pair.parent ∈ keyFields
      · have step : exportedFields keyFields (pair :: pairs) = exportedFields keyFields pairs := by
          simp [exportedFields, old]
        rw [step]
        exact ih keyFields
      · have step : exportedFields keyFields (pair :: pairs) =
            exportedFields (keyFields ++ [pair.parent]) pairs := by
          simp [exportedFields, old]
        rw [step]
        exact (List.prefix_append _ _).trans (ih _)

/-- A name that only one hidden column has, and no property, is the name of one column. -/
theorem Statement.count_columns {statement : Statement}
    (distinct : (statement.hidden.map (·.exportName)).Nodup)
    (unprojected : ∀ column ∈ statement.hidden, column.exportName ∉ statement.names)
    {column : HiddenColumn} (member : column ∈ statement.hidden) :
    statement.columns.count column.exportName = 1 := by
  have hidden : (statement.hidden.map (·.exportName)).count column.exportName = 1 :=
    List.count_eq_one_of_mem distinct (List.mem_map_of_mem member)
  rw [Statement.columns, List.count_append, List.count_eq_zero.mpr (unprojected column member),
    hidden]

namespace TablePlan

variable (plan : TablePlan) (site : Site)

theorem nodup_exportNames_statement :
    ((plan.statement site).hidden.map (·.exportName)).Nodup := by
  rw [hidden_statement]
  exact (exportNames_fresh _ _ _).1

theorem exportName_not_mem_names :
    ∀ column ∈ (plan.statement site).hidden, column.exportName ∉ (plan.statement site).names := by
  rw [hidden_statement]
  exact (exportNames_fresh _ _ _).2

end TablePlan

/-- **The join of an inline parent** is on hidden columns of its sub-query, whatever properties the
sub-query has. -/
theorem InlinedParent.joinsOnce (parent : InlinedParent) {target : Relation}
    (key : parent.plan.head.keyFields = target.keyFields.map (·.name)) (tableAlias : String)
    (scope : AliasScope) :
    JoinsOnce target parent.link.matching.pairs (parent.query scope)
      (joinCondition tableAlias (parent.aliasIn scope) parent.link.matching
        (parent.query scope)) := by
  have distinct : ((parent.query scope).hidden.map (·.exportName)).Nodup :=
    parent.plan.nodup_exportNames_statement _
  have unprojected : ∀ column ∈ (parent.query scope).hidden,
      column.exportName ∉ (parent.query scope).names :=
    parent.plan.exportName_not_mem_names _
  have fields : (parent.query scope).hidden.map (·.field) =
      exportedFields parent.plan.head.keyFields parent.link.matching.pairs :=
    parent.plan.hidden_fields_statement _
  have exported : ∀ pair ∈ parent.link.matching.pairs,
      pair.parent ∈ (parent.query scope).hidden.map (·.field) := by
    intro pair member
    rw [fields, mem_exportedFields]
    exact .inr ⟨pair, member, rfl⟩
  refine ⟨distinct, unprojected, ⟨target.keyFields, target.isKey_keyFields, ?_⟩, exported, ?_⟩
  · rw [fields, key]
    exact isPrefix_exportedFields _ _
  · rw [joinCondition, List.forall₂_map_right_iff]
    refine List.forall₂_same.mpr fun pair member => ?_
    -- The name looked up for a field is that of a column that exports it.
    obtain ⟨column, inHidden, ofField, found⟩ := Statement.exportName?_of_mem (exported pair member)
    have name : ((parent.query scope).exportName? pair.parent).getD pair.parent =
        column.exportName := by
      rw [found]
      rfl
    refine ⟨rfl, ⟨column, inHidden, ofField, name.symm⟩, ?_⟩
    show (parent.query scope).columns.count
      (((parent.query scope).exportName? pair.parent).getD pair.parent) = 1
    rw [name]
    exact Statement.count_columns distinct unprojected inHidden

/-! ### Statements -/

namespace Resolver

variable {r : Resolver} {location : Location} {relation : Relation}

/-- The statements of a table are joined by exports, wherever they stand. -/
def JoinsByExports (r : Resolver) (spec : TableSpec) : Prop :=
  ∀ location relation plan site, r.planTable location relation spec = .ok plan →
    JoinedByExports r relation spec (plan.statement site)

theorem keyFields_of_planTable {spec : TableSpec} {plan : TablePlan}
    (planned : r.planTable location relation spec = .ok plan) :
    plan.head.keyFields = relation.keyFields.map (·.name) :=
  congrArg TableHead.keyFields (planTable_parts planned).head

theorem PlansInline.joinByExports {parent : ParentTable} {inlined : InlinedParent}
    {target : Relation} (resolved : PlansInline r location relation parent inlined target)
    (inner : r.JoinsByExports parent.spec) (tableAlias : String) (scope : AliasScope) :
    JoinByExports r ⟨relation, parent⟩ (inlined.source tableAlias scope) := by
  obtain ⟨pairs, linked, equal⟩ := bind_eq_ok.mp resolved.matching
  have matched : pairs = inlined.link.matching.pairs :=
    congrArg RowMatch.pairs (Except.ok.inj equal)
  rw [matched] at linked
  have once := inlined.joinsOnce (keyFields_of_planTable resolved.plan) tableAlias scope
  exact .intro resolved.found linked rfl once (inner _ _ _ _ resolved.plan)

/-- The sources that inline parents add are joined by exports. -/
theorem joinByExports_of_planned {parents : List ParentTable} {inlined : List InlinedParent}
    (inner : ∀ parent ∈ parents, r.JoinsByExports parent.spec)
    (planned : List.Forall₂ (fun parent inlined => ∃ target,
      PlansInline r location relation parent inlined target) parents inlined)
    (tableAlias : String) (scope : AliasScope) :
    List.Forall₂ (JoinByExports r) (parents.map (AttachedParent.mk relation))
      (InlinedParent.joins tableAlias scope inlined).sources := by
  induction planned generalizing scope with
  | nil => exact .nil
  | @cons parent inlined parents _ head _ ih =>
      obtain ⟨target, resolved⟩ := head
      have rest := ih (fun other member => inner other (List.mem_cons_of_mem _ member))
        (scope.insert (inlined.aliasIn scope))
      rw [List.map_cons, InlinedParent.joins_cons]
      exact .cons (resolved.joinByExports (inner parent List.mem_cons_self) tableAlias scope) rest

/-- **All statements of a table are joined by exports.** -/
theorem joinsByExports (r : Resolver) (spec : TableSpec) : r.JoinsByExports spec := by
  induction spec using TableSpec.tree_induction with
  | step spec parentsJoin childrenJoin =>
      intro location relation plan site planned
      have parts := planTable_parts planned
      have inlineJoin : ∀ parent ∈ spec.inlineParents, r.JoinsByExports parent.spec :=
        fun parent member => parentsJoin parent (List.mem_filter.mp member).1
      have joins := joinByExports_of_planned inlineJoin (planInlined_forall₂ parts.inlined)
        (plan.baseAlias site) (site.scope.insert (plan.baseAlias site))
      have sources := plan.sources_statement site
      rw [relation_of_planTable planned] at sources
      refine .intro sources joins ?_
      intro entry member
      rcases TablePlan.mem_select_statement.mp member with
        ⟨field, -, rfl⟩ | lifted | ⟨reference, inPlan, rfl⟩ | ⟨collection, inPlan, rfl⟩
      · unfold PlannedField.entry
        cases field.source with
        | field stored => exact .field
        | expression sql placeholder => exact .expression
      · obtain ⟨parent, -, scope, inLifted, -⟩ := InlinedParent.mem_joins_entries lifted
        obtain ⟨label, -, rfl⟩ := mem_liftedEntries inLifted
        exact .inlined
      · obtain ⟨parent, inSpec, target, resolved⟩ :=
          forall₂_mem_right (planReferences_forall₂ parts.references) inPlan
        have inner := parentsJoin parent (List.mem_filter.mp inSpec).1 _ _ _
          (reference.link.site (plan.baseAlias site) (plan.joins site).scope) resolved.plan
        exact .reference inSpec resolved.name resolved.found
          (inner.congr ⟨rfl, rfl, rfl, rfl, rfl, rfl⟩)
      · obtain ⟨child, inSpec, target, resolved⟩ :=
          forall₂_mem_right (planCollections_forall₂ parts.collections) inPlan
        have inner := childrenJoin child inSpec _ _ _
          (collection.link.site (plan.baseAlias site) (plan.joins site).scope) resolved.plan
        have name : child.link.collectionName = collection.link.name :=
          (congrArg CollectionLink.name resolved.link).symm
        exact .collection inSpec name resolved.found (inner.congr ⟨rfl, rfl, rfl, rfl, rfl, rfl⟩)

end Resolver

/-- **Joins hit one hidden column.** In the statements of a query, each sub-query that is joined
exports the primary key of its table and the fields that it is matched by, under names that differ
from one another and from its properties. The condition that joins it is on these columns. -/
theorem joins_hit_one_hidden_column (r : Resolver) (query : Query)
    {statements : List (Representation × Statement)}
    (made : query.statements r = .ok statements) :
    ∃ relation, r.relation? query.table.table = some relation ∧
      ∀ representation statement, (representation, statement) ∈ statements →
        JoinedByExports r relation query.table statement := by
  obtain ⟨plan, planned⟩ := Query.plan_of_statements made
  obtain ⟨relation, found, tablePlanned⟩ := bind_eq_ok.mp planned
  refine ⟨relation, Resolver.table_eq_ok.mp found, ?_⟩
  intro representation statement member
  obtain ⟨plan', planned', rfl⟩ :=
    Query.statement_eq_ok (Query.statement_of_mem_statements made member)
  rw [planned] at planned'
  cases planned'
  have joined := r.joinsByExports query.table _ _ plan { orderBy := query.orderBy } tablePlanned
  exact joined.congr (query.represent_sameRows _ _)

namespace Pharmacy

/-- The key of a table as a property of the given name. -/
def keyAs (property : String) : FieldEntry :=
  .detailed ⟨some "id", none, some property, none, none, none⟩

/-- Drugs with their compounds and the analysts who approved these, under names like those of hidden
columns. -/
def underscoredQuery : Query :=
  { drugQuery with
    table := ⟨"drug", none, [.named "name"],
      [inlineParent none ⟨"compound", none, [keyAs "_id"],
        [inlineParent (some ["approved_by"])
          ⟨"analyst", none, [keyAs "_id_1"], [], [], none, none⟩],
        [], none, none⟩], [], none, none⟩ }

end Pharmacy

/-- The properties and the hidden columns of the sub-queries that are joined, and the columns that
they are joined by. -/
def Statement.joinedColumns (statement : Statement) :
    List (List String × List String × List FieldPair) :=
  statement.sources.filterMap fun source =>
    match source with
    | .table _ _ => none
    | .query query _ join _ => some (query.names, query.hidden.map (·.exportName), join.pairs)

/-- The compounds have the property `_id` themselves and `_id_1` from their analysts, so the key
that they are joined by goes by the next name. -/
theorem underscoredQuery_joins_hit_one_hidden_column :
    ∃ relation statements,
      Pharmacy.resolver.relation? Pharmacy.underscoredQuery.table.table = some relation ∧
      Pharmacy.underscoredQuery.statements Pharmacy.resolver = .ok statements ∧
      (statements.map fun made => made.2.joinedColumns) =
        [[(["_id", "_id_1"], ["_id_2"], [⟨"compound_id", "_id_2"⟩])],
          [(["_id", "_id_1"], ["_id_2"], [⟨"compound_id", "_id_2"⟩])]] ∧
      ∀ representation statement, (representation, statement) ∈ statements →
        JoinedByExports Pharmacy.resolver relation Pharmacy.underscoredQuery.table statement := by
  have columns : (Pharmacy.underscoredQuery.statements Pharmacy.resolver).map
      (·.map fun made => made.2.joinedColumns) =
      .ok [[(["_id", "_id_1"], ["_id_2"], [⟨"compound_id", "_id_2"⟩])],
        [(["_id", "_id_1"], ["_id_2"], [⟨"compound_id", "_id_2"⟩])]] := by
    decide +kernel
  obtain ⟨statements, made, joinedBy⟩ := map_eq_ok.mp columns
  obtain ⟨relation, found, joined⟩ :=
    joins_hit_one_hidden_column Pharmacy.resolver Pharmacy.underscoredQuery made
  exact ⟨relation, statements, found, made, joinedBy, joined⟩

end NestedQuery
