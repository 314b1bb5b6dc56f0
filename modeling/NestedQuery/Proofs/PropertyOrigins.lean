import NestedQuery.Proofs.FreshName
import NestedQuery.Proofs.Nullability
import NestedQuery.Proofs.StatementParts
import NestedQuery.Proofs.Validity
import NestedQuery.Spec.Pharmacy
import NestedQuery.Statement.Provenance

/-!
# Origins of properties

Nothing is kept of where the properties of a statement come from. It is found out afterwards: for a
property of an inline parent, the sub-query is searched by its alias and the entry in it by its
name, and that entry may again be for a property of an inline parent. Fresh aliases make the first
search hit the right sub-query, so that the origins are always found; if moreover the names of the
properties of each table are different, the second search hits the right entry, and what is told is
what the specification says.

## Main Definitions

* `Lists`, `ListsEntry`: origins that go with the entries of a statement, at every level
* `Traced`, `Originates`: origins that are those of the specification
* `TableSpec.Unaliased`, `Resolver.DistinctNames`: when they are found, and when they are right

## Main Results

* `InlinedParent.find?_withScopes`: the search by alias
* `find?_of_nodup`: the search by name
* `Resolver.derivable_of_planTable`: the origins are found
* `Resolver.entryOrigins_of_planTable`: the origins are right
* `origins_are_found_and_truthful`: the statements of a query
-/

namespace NestedQuery

/-! ### Origins that go with a statement -/

/-- An origin as seen by a table that has the inline parent. -/
def PropertyOrigin.through (step : ParentStep) (origin : PropertyOrigin) : PropertyOrigin :=
  { origin with via := step :: origin.via }

mutual

/-- There is an origin for each entry of a statement, of the same name and at the same place. -/
inductive Lists : Statement → List PropertyOrigin → Prop
  | intro {statement : Statement} {origins : List PropertyOrigin}
      (names : origins.map (·.property) = statement.names)
      (each : ∀ entry origin, (entry, origin) ∈ statement.select.zip origins →
        ListsEntry statement.sources entry origin) :
      Lists statement origins

/-- An origin that goes with an entry, in a statement with the given sources. -/
inductive ListsEntry : List FromEntry → SelectEntry → PropertyOrigin → Prop
  | field {sources : List FromEntry} {label : EntryLabel} {stored : Field} {tableAlias : String}
      {sourceType : Option SourceType} :
      ListsEntry sources (.field label stored tableAlias sourceType)
        ⟨label.name, .field stored.name, []⟩
  | expression {sources : List FromEntry} {label : EntryLabel}
      {sql placeholder tableAlias : String} {sourceType : Option SourceType} :
      ListsEntry sources (.expression label sql placeholder tableAlias sourceType)
        ⟨label.name, .expression sql, []⟩
  | reference {sources : List FromEntry} {label : EntryLabel} {query : Statement}
      {relation : RelationId} {properties : List PropertyOrigin}
      (base : query.baseTable? = some relation) (inner : Lists query properties) :
      ListsEntry sources (.reference label query) ⟨label.name, .reference relation properties, []⟩
  | collection {sources : List FromEntry} {label : EntryLabel} {query : Statement}
      {relation : RelationId} {properties : List PropertyOrigin}
      (base : query.baseTable? = some relation) (inner : Lists query properties) :
      ListsEntry sources (.collection label query)
        ⟨label.name, .collection relation properties (!query.objectWrap), []⟩
  /-- A column of a joined sub-query has the origin of an entry of that name in it. -/
  | inlined {sources : List FromEntry} {label : EntryLabel} {aliasName : String}
      {parent relation : RelationId} {query : Statement} {join : MatchCondition}
      {comment : Option String} {entry : SelectEntry} {origin : PropertyOrigin}
      (joined : FromEntry.query query aliasName join comment ∈ sources)
      (base : query.baseTable? = some relation) (has : entry ∈ query.select)
      (name : entry.name = label.name) (inner : ListsEntry query.sources entry origin) :
      ListsEntry sources (.inlined label aliasName parent)
        ⟨label.name, origin.source, ⟨relation, join.pairs.map (·.child)⟩ :: origin.via⟩

end

theorem ListsEntry.property_eq {sources : List FromEntry} {entry : SelectEntry}
    {origin : PropertyOrigin} (lists : ListsEntry sources entry origin) :
    origin.property = entry.name := by
  cases lists with
  | field => rfl
  | expression => rfl
  | reference => rfl
  | collection => rfl
  | inlined => rfl

/-! ### Origins that go with a specification -/

/-- The name of the property. -/
def OwnEntry.name (r : Resolver) : OwnEntry → String
  | field entry => entry.propertyName r
  | reference parent => parent.link.referenceName.getD ""
  | collection child => child.link.collectionName

/-- The step to an inline parent, by the fields of the table that its link equates. -/
def StepsTo (r : Resolver) (link : AttachedParent) (step : ParentStep) : Prop :=
  ∃ location target pairs, r.relation? link.parent.spec.table = some target ∧
    r.linkPairs location link.child target link.parent.link.customMatch
      link.parent.link.foreignKeyFields = .ok pairs ∧
    step = ⟨target.id, pairs.map (·.child)⟩

mutual

/-- The origins are those of what a table has properties for, place by place. -/
inductive Traced (r : Resolver) : Relation → TableSpec → List PropertyOrigin → Prop
  | intro {relation : Relation} {spec : TableSpec} {origins : List PropertyOrigin}
      (each : List.Forall₂ (Originates r) (r.contributions relation spec) origins) :
      Traced r relation spec origins

/-- The origin of the property for a contribution: its own name and source, after the steps by its
links. -/
inductive Originates (r : Resolver) : Contribution → PropertyOrigin → Prop
  | field {links : List AttachedParent} {table : Relation} {entry : FieldEntry} {written : String}
      {stored : Field} {via : List ParentStep}
      (names : entry.field? = some written)
      (found : r.database.field? table written = some stored)
      (steps : List.Forall₂ (StepsTo r) links via) :
      Originates r ⟨links, table, .field entry⟩ ⟨entry.propertyName r, .field stored.name, via⟩
  | expression {links : List AttachedParent} {table : Relation} {entry : FieldEntry} {sql : String}
      {via : List ParentStep}
      (holds : entry.expression? = some sql) (steps : List.Forall₂ (StepsTo r) links via) :
      Originates r ⟨links, table, .field entry⟩ ⟨entry.propertyName r, .expression sql, via⟩
  | reference {links : List AttachedParent} {table target : Relation} {parent : ParentTable}
      {name : String} {properties : List PropertyOrigin} {via : List ParentStep}
      (names : parent.link.referenceName = some name)
      (found : r.relation? parent.spec.table = some target)
      (inner : Traced r target parent.spec properties)
      (steps : List.Forall₂ (StepsTo r) links via) :
      Originates r ⟨links, table, .reference parent⟩ ⟨name, .reference target.id properties, via⟩
  | collection {links : List AttachedParent} {table target : Relation} {child : ChildTable}
      {properties : List PropertyOrigin} {via : List ParentStep}
      (found : r.relation? child.spec.table = some target)
      (inner : Traced r target child.spec properties)
      (steps : List.Forall₂ (StepsTo r) links via) :
      Originates r ⟨links, table, .collection child⟩
        ⟨child.link.collectionName, .collection target.id properties child.link.unwraps, via⟩

end

/-- One more link is one more step. -/
theorem Originates.through {r : Resolver} {link : AttachedParent} {step : ParentStep}
    (stepsTo : StepsTo r link step) {contribution : Contribution} {origin : PropertyOrigin}
    (originates : Originates r contribution origin) :
    Originates r (contribution.through link) (origin.through step) := by
  cases originates with
  | field names found steps => exact .field names found (.cons stepsTo steps)
  | expression holds steps => exact .expression holds (.cons stepsTo steps)
  | reference names found inner steps => exact .reference names found inner (.cons stepsTo steps)
  | collection found inner steps => exact .collection found inner (.cons stepsTo steps)

/-- No inline parent is given an alias. -/
def TableSpec.Unaliased (spec : TableSpec) : Prop :=
  ∀ table, spec.Node table → ∀ parent ∈ table.parents, parent.link.subqueryAlias = none

/-- The properties of each table have different names. -/
def Resolver.DistinctNames (r : Resolver) (spec : TableSpec) : Prop :=
  ∀ table, spec.Node table → ∀ relation ∈ r.relation? table.table,
    ((r.contributions relation table).map (·.own.name r)).Nodup

theorem TableSpec.Unaliased.of_node {root spec : TableSpec} (unaliased : root.Unaliased)
    (node : root.Node spec) : spec.Unaliased :=
  fun table reached => unaliased table (node.trans reached)

theorem Resolver.DistinctNames.of_node {r : Resolver} {root spec : TableSpec}
    (distinct : r.DistinctNames root) (node : root.Node spec) : r.DistinctNames spec :=
  fun table reached => distinct table (node.trans reached)

/-! Both can be checked table by table. -/

mutual

/-- The tables of a specification in a list. -/
def TableSpec.tables : TableSpec → List TableSpec
  | ⟨table, aliasName, fields, parents, children, condition, resultTypeName⟩ =>
    ⟨table, aliasName, fields, parents, children, condition, resultTypeName⟩
      :: (ParentTable.tables parents ++ ChildTable.tables children)
termination_by structural spec => spec

/-- The tables of parents. -/
def ParentTable.tables : List ParentTable → List TableSpec
  | [] => []
  | ⟨_, spec⟩ :: parents => spec.tables ++ ParentTable.tables parents
termination_by structural parents => parents

/-- The tables of children. -/
def ChildTable.tables : List ChildTable → List TableSpec
  | [] => []
  | ⟨_, spec⟩ :: children => spec.tables ++ ChildTable.tables children
termination_by structural children => children

end

theorem ParentTable.tables_eq_flatMap (parents : List ParentTable) :
    ParentTable.tables parents = parents.flatMap (·.spec.tables) := by
  induction parents with
  | nil => rfl
  | cons parent parents ih =>
      obtain ⟨link, spec⟩ := parent
      rw [ParentTable.tables, ih, List.flatMap_cons]

theorem ChildTable.tables_eq_flatMap (children : List ChildTable) :
    ChildTable.tables children = children.flatMap (·.spec.tables) := by
  induction children with
  | nil => rfl
  | cons child children ih =>
      obtain ⟨link, spec⟩ := child
      rw [ChildTable.tables, ih, List.flatMap_cons]

theorem TableSpec.mem_tables {spec table : TableSpec} : table ∈ spec.tables ↔ spec.Node table := by
  induction spec using TableSpec.tree_induction with
  | step spec ofParent ofChild =>
      have split : spec.tables = spec :: (spec.parents.flatMap (·.spec.tables) ++
          spec.children.flatMap (·.spec.tables)) := by
        rw [← ParentTable.tables_eq_flatMap, ← ChildTable.tables_eq_flatMap]
        obtain ⟨name, aliasName, fields, parents, children, condition, resultTypeName⟩ := spec
        rfl
      rw [split, List.mem_cons, List.mem_append, List.mem_flatMap, List.mem_flatMap]
      constructor
      · rintro (rfl | ⟨parent, member, inner⟩ | ⟨child, member, inner⟩)
        · exact .root
        · exact (TableSpec.Node.root.parent member).trans ((ofParent parent member).mp inner)
        · exact (TableSpec.Node.root.child member).trans ((ofChild child member).mp inner)
      · intro node
        rcases node.cases_root with rfl | ⟨parent, member, inner⟩ | ⟨child, member, inner⟩
        · exact .inl rfl
        · exact .inr (.inl ⟨parent, member, (ofParent parent member).mpr inner⟩)
        · exact .inr (.inr ⟨child, member, (ofChild child member).mpr inner⟩)

instance (spec : TableSpec) : Decidable spec.Unaliased :=
  decidable_of_iff
    (∀ table ∈ spec.tables, ∀ parent ∈ table.parents, parent.link.subqueryAlias = none)
    (forall_congr' fun _ => imp_congr_left TableSpec.mem_tables)

instance (r : Resolver) (spec : TableSpec) : Decidable (r.DistinctNames spec) :=
  decidable_of_iff
    (∀ table ∈ spec.tables, ∀ relation ∈ r.relation? table.table,
      ((r.contributions relation table).map (·.own.name r)).Nodup)
    (forall_congr' fun _ => imp_congr_left TableSpec.mem_tables)

/-! ### Origins of entries -/

/-- The origin of an entry, in a statement with the given sub-queries. -/
def SelectEntry.origin (sources : List TracedSource) :
    SelectEntry → Except Inconsistency PropertyOrigin
  | .field label stored _ _ => .ok ⟨label.name, .field stored.name, []⟩
  | .expression label sql _ _ _ => .ok ⟨label.name, .expression sql, []⟩
  | .inlined label parentAlias _ => traceInlined sources label.name parentAlias
  | .reference label query => do
    let relation ← query.baseTable
    let properties ← query.trace.mapM (·.origin)
    return ⟨label.name, .reference relation properties, []⟩
  | .collection label query => do
    let relation ← query.baseTable
    let properties ← query.trace.mapM (·.origin)
    return ⟨label.name, .collection relation properties (!query.objectWrap), []⟩

theorem SelectEntry.traceAll_eq_map (sources : List TracedSource) (entries : List SelectEntry) :
    SelectEntry.traceAll sources entries =
      entries.map fun entry => ⟨entry.name, entry.origin sources⟩ := by
  induction entries with
  | nil => rfl
  | cons entry entries ih =>
      cases entry with
      | field => rw [SelectEntry.traceAll, ih]; rfl
      | expression => rw [SelectEntry.traceAll, ih]; rfl
      | inlined => rw [SelectEntry.traceAll, ih]; rfl
      | reference => rw [SelectEntry.traceAll, ih]; rfl
      | collection => rw [SelectEntry.traceAll, ih]; rfl

namespace Statement

/-- The sub-queries that the origins of a statement's entries are looked for in. -/
def tracedSources (statement : Statement) : List TracedSource :=
  FromEntry.traceAll statement.sources

theorem trace_eq (statement : Statement) :
    statement.trace = statement.select.map fun entry =>
      ⟨entry.name, entry.origin statement.tracedSources⟩ := by
  rw [← SelectEntry.traceAll_eq_map]
  obtain ⟨select, hidden, sources, conditions, orderBy, forUpdate, objectWrap, aggregate,
    additionalColumns, resultTypeName, leadingComment⟩ := statement
  rfl

theorem mapM_trace (statement : Statement) :
    statement.trace.mapM (·.origin) =
      statement.select.mapM (·.origin statement.tracedSources) := by
  rw [trace_eq, List.mapM_map]
  rfl

/-- The origins of all entries are found. -/
def Derivable (statement : Statement) : Prop :=
  ∀ entry ∈ statement.select, ∃ origin, entry.origin statement.tracedSources = .ok origin ∧
    ListsEntry statement.sources entry origin

theorem Derivable.lists {statement : Statement} (derivable : statement.Derivable) :
    ∃ origins, statement.trace.mapM (·.origin) = .ok origins ∧ Lists statement origins := by
  rw [mapM_trace]
  obtain ⟨origins, found⟩ : Succeeds (statement.select.mapM (·.origin statement.tracedSources)) :=
    succeeds_mapM.mpr fun entry member => by
      obtain ⟨origin, here, -⟩ := derivable entry member
      exact ⟨origin, here⟩
  have each : List.Forall₂ (ListsEntry statement.sources) statement.select origins := by
    refine ((List.forall₂_and_left _ _).mpr ⟨fun _ member => member, mapM_eq_ok.mp found⟩).imp ?_
    rintro entry origin ⟨member, here⟩
    obtain ⟨other, same, lists⟩ := derivable entry member
    rw [here] at same
    cases same
    exact lists
  refine ⟨origins, found, .intro ?_ fun entry origin => List.forall₂_zip each⟩
  have names : List.Forall₂ (· = ·) (origins.map (·.property)) statement.names := by
    rw [Statement.names, List.forall₂_map_left_iff, List.forall₂_map_right_iff]
    exact each.flip.imp fun _ _ lists => lists.property_eq
  rwa [List.forall₂_eq_eq_eq] at names

end Statement

/-! ### The search for a sub-query -/

/-- A join condition is on the fields of the table that its link equates. -/
theorem children_joinCondition (tableAlias subqueryAlias : String) (matching : RowMatch)
    (parent : Statement) :
    (joinCondition tableAlias subqueryAlias matching parent).pairs.map (·.child) =
      matching.pairs.map (·.child) := by
  rw [joinCondition, List.map_map]
  rfl

namespace InlinedParent

/-- The step to an inline parent. -/
def step (parent : InlinedParent) : ParentStep :=
  ⟨parent.plan.head.relation, parent.link.matching.pairs.map (·.child)⟩

/-- What the sub-query of an inline parent tells about its properties. -/
def traced (parent : InlinedParent) (scope : AliasScope) : TracedSource :=
  ⟨parent.aliasIn scope, (parent.query scope).baseTable, parent.step.fields,
    (parent.query scope).trace⟩

variable {tableAlias : String} {scope : AliasScope} {parents : List InlinedParent}

theorem traceAll_joins :
    FromEntry.traceAll (joins tableAlias scope parents).sources =
      (withScopes scope parents).map fun joined => joined.1.traced joined.2 := by
  induction parents generalizing scope with
  | nil => rfl
  | cons parent parents ih =>
      rw [joins_cons, withScopes, List.map_cons, source, InlineLink.source, FromEntry.traceAll, ih,
        children_joinCondition]
      rfl

/-- Aliases that are not given are new to the scope. -/
theorem contains_of_mem_withScopes
    (unaliased : ∀ parent ∈ parents, parent.link.subqueryAlias = none)
    {joined : InlinedParent × AliasScope} (member : joined ∈ withScopes scope parents) :
    scope.contains (joined.1.aliasIn joined.2) = false := by
  induction parents generalizing scope with
  | nil => cases member
  | cons parent parents ih =>
      rcases List.mem_cons.mp member with rfl | later
      · rw [aliasIn, unaliased _ List.mem_cons_self]
        exact scope.contains_fresh "q"
      · have absent := ih (fun other among => unaliased other (List.mem_cons_of_mem _ among)) later
        rw [Bool.eq_false_iff, ne_eq, AliasScope.contains_insert, not_or] at absent
        exact Bool.eq_false_iff.mpr absent.2

/-- **The search by alias hits the right sub-query.** -/
theorem find?_withScopes (unaliased : ∀ parent ∈ parents, parent.link.subqueryAlias = none)
    {joined : InlinedParent × AliasScope} (member : joined ∈ withScopes scope parents) :
    ((withScopes scope parents).map fun other => other.1.traced other.2).find?
      (·.aliasName == joined.1.aliasIn joined.2) = some (joined.1.traced joined.2) := by
  induction parents generalizing scope with
  | nil => cases member
  | cons parent parents ih =>
      rw [withScopes, List.map_cons, List.find?_cons]
      rcases List.mem_cons.mp member with rfl | later
      · simp [traced]
      · -- The alias of the first parent is in the scope of the later ones.
        have others : ∀ other ∈ parents, other.link.subqueryAlias = none :=
          fun other among => unaliased other (List.mem_cons_of_mem _ among)
        have absent := contains_of_mem_withScopes others later
        rw [Bool.eq_false_iff, ne_eq, AliasScope.contains_insert, not_or] at absent
        have differs : ((parent.traced scope).aliasName == joined.1.aliasIn joined.2) = false :=
          beq_false_of_ne fun same => absent.1 same.symm
        rw [differs]
        exact ih others later

end InlinedParent

/-- **The search by name hits the right entry**, if the names are different. -/
theorem find?_of_nodup [BEq β] [LawfulBEq β] {f : α → β} {xs : List α} (distinct : (xs.map f).Nodup)
    {x : α} (member : x ∈ xs) : xs.find? (fun y => f y == f x) = some x := by
  induction xs with
  | nil => cases member
  | cons y ys ih =>
      rw [List.map_cons, List.nodup_cons] at distinct
      rw [List.find?_cons]
      rcases List.mem_cons.mp member with rfl | later
      · simp
      · have differs : (f y == f x) = false :=
          beq_false_of_ne fun same => distinct.1 (same ▸ List.mem_map_of_mem later)
        rw [differs]
        exact ih distinct.2 later

namespace TablePlan

variable {plan : TablePlan} {site : Site}

/-- The inline parents of a plan with the scopes in which they get their aliases. -/
def joinedParents (plan : TablePlan) (site : Site) : List (InlinedParent × AliasScope) :=
  InlinedParent.withScopes (site.scope.insert (plan.baseAlias site)) plan.inlined

theorem tracedSources_statement (plan : TablePlan) (site : Site) :
    (plan.statement site).tracedSources =
      (plan.joinedParents site).map fun joined => joined.1.traced joined.2 := by
  rw [Statement.tracedSources, sources_statement, FromEntry.traceAll]
  exact InlinedParent.traceAll_joins

theorem baseTable_statement (plan : TablePlan) (site : Site) :
    (plan.statement site).baseTable = .ok plan.head.relation := by
  rw [Statement.baseTable, baseTable?_statement]

/-- The origin of a property of an inline parent, from the entry of that name in its sub-query. -/
theorem traceInlined_statement
    (unaliased : ∀ parent ∈ plan.inlined, parent.link.subqueryAlias = none)
    {joined : InlinedParent × AliasScope} (member : joined ∈ plan.joinedParents site)
    {name : String} {entry : SelectEntry}
    (found : (joined.1.query joined.2).select.find? (·.name == name) = some entry) :
    traceInlined (plan.statement site).tracedSources name (joined.1.aliasIn joined.2) =
      (entry.origin (joined.1.query joined.2).tracedSources).map (·.through joined.1.step) := by
  have base : (joined.1.traced joined.2).baseTable = .ok joined.1.plan.head.relation :=
    joined.1.plan.baseTable_statement _
  have entryFound : (joined.1.traced joined.2).properties.find? (·.property == name) =
      some ⟨entry.name, entry.origin (joined.1.query joined.2).tracedSources⟩ := by
    change (joined.1.query joined.2).trace.find? _ = _
    rw [Statement.trace_eq, List.find?_map]
    exact congrArg (Option.map _) found
  rw [traceInlined, tracedSources_statement, joinedParents,
    InlinedParent.find?_withScopes unaliased member]
  simp only [entryFound, base]
  cases entry.origin (joined.1.query joined.2).tracedSources with
  | error error => rfl
  | ok origin => rfl

/-- The sub-query of an inline parent is joined under its alias. -/
theorem mem_sources_of_mem_joinedParents {joined : InlinedParent × AliasScope}
    (member : joined ∈ plan.joinedParents site) :
    joined.1.source (plan.baseAlias site) joined.2 ∈ (plan.statement site).sources := by
  rw [sources_statement, joins, InlinedParent.joins_sources_eq_map]
  exact List.mem_cons_of_mem _ (List.mem_map.mpr ⟨joined, member, rfl⟩)

end TablePlan

/-! ### The origins are found -/

section Derivable

variable {traced : List TracedSource} {sources : List FromEntry} {label : EntryLabel}
  {query : Statement} {relation : RelationId}

theorem PlannedField.derivable (field : PlannedField) (aliasName : String) :
    ∃ origin, (field.entry aliasName).origin traced = .ok origin ∧
      ListsEntry sources (field.entry aliasName) origin := by
  unfold PlannedField.entry
  split
  · exact ⟨_, rfl, .field⟩
  · exact ⟨_, rfl, .expression⟩

theorem SelectEntry.derivable_reference (base : query.baseTable? = some relation)
    (derivable : query.Derivable) :
    ∃ origin, (SelectEntry.reference label query).origin traced = .ok origin ∧
      ListsEntry sources (.reference label query) origin := by
  obtain ⟨origins, found, lists⟩ := derivable.lists
  refine ⟨_, ?_, .reference base lists⟩
  simp only [SelectEntry.origin, Statement.baseTable, base, found]
  rfl

theorem SelectEntry.derivable_collection (base : query.baseTable? = some relation)
    (derivable : query.Derivable) :
    ∃ origin, (SelectEntry.collection label query).origin traced = .ok origin ∧
      ListsEntry sources (.collection label query) origin := by
  obtain ⟨origins, found, lists⟩ := derivable.lists
  refine ⟨_, ?_, .collection base lists⟩
  simp only [SelectEntry.origin, Statement.baseTable, base, found]
  rfl

end Derivable

/-- The origin of a lifted entry is found if those of the sub-query are. -/
theorem TablePlan.derivable_lifted {plan : TablePlan} {site : Site}
    (unaliased : ∀ parent ∈ plan.inlined, parent.link.subqueryAlias = none)
    {joined : InlinedParent × AliasScope} (member : joined ∈ plan.joinedParents site)
    (derivable : (joined.1.query joined.2).Derivable) {entry : SelectEntry}
    (lifted : entry ∈ joined.1.lifted joined.2) :
    ∃ origin, entry.origin (plan.statement site).tracedSources = .ok origin ∧
      ListsEntry (plan.statement site).sources entry origin := by
  obtain ⟨label, named, rfl⟩ := mem_liftedEntries lifted
  obtain ⟨inner, found⟩ : ∃ inner,
      (joined.1.query joined.2).select.find? (·.name == label.name) = some inner := by
    obtain ⟨first, has, same⟩ := List.mem_map.mp named
    rw [← Option.isSome_iff_exists, List.find?_isSome]
    exact ⟨first, has, by simp [same]⟩
  have name : inner.name = label.name := by simpa using List.find?_some found
  obtain ⟨origin, here, lists⟩ := derivable inner (List.mem_of_find?_eq_some found)
  refine ⟨⟨label.name, origin.source, joined.1.step :: origin.via⟩, ?_, ?_⟩
  · change traceInlined _ label.name _ = _
    rw [traceInlined_statement unaliased member found, here, ← name, ← lists.property_eq]
    rfl
  · have base := joined.1.plan.baseTable?_statement
      (joined.1.link.site joined.1.plan.head.linked
        (joined.2.insert (joined.1.aliasIn joined.2)))
    rw [InlinedParent.step, ← children_joinCondition (plan.baseAlias site)
      (joined.1.aliasIn joined.2) joined.1.link.matching (joined.1.query joined.2)]
    exact .inlined (mem_sources_of_mem_joinedParents member) base
      (List.mem_of_find?_eq_some found) name lists

namespace Resolver

variable {r : Resolver} {location : Location} {relation : Relation} {spec : TableSpec}
  {plan : TablePlan}

theorem PlanParts.unaliased (parts : PlanParts r location relation spec plan)
    (unaliased : spec.Unaliased) : ∀ parent ∈ plan.inlined, parent.link.subqueryAlias = none := by
  intro parent member
  obtain ⟨source, written, target, plans⟩ :=
    forall₂_mem_right (planInlined_forall₂ parts.inlined) member
  rw [plans.subqueryAlias]
  exact unaliased spec .root source (List.mem_filter.mp written).1

/-- **The origins are found** in the statements of a specification without given aliases. -/
theorem derivable_of_planTable (unaliased : spec.Unaliased)
    (planned : r.planTable location relation spec = .ok plan) (site : Site) :
    (plan.statement site).Derivable := by
  induction spec using TableSpec.tree_induction generalizing location relation plan site with
  | step spec ofParent ofChild =>
      have parts := planTable_parts planned
      intro entry selected
      rcases TablePlan.mem_select_statement.mp selected with ⟨field, -, rfl⟩ | lifted |
        ⟨reference, member, rfl⟩ | ⟨collection, member, rfl⟩
      · exact field.derivable _
      · rw [TablePlan.joins, InlinedParent.joins_entries_eq_flatMap, List.mem_flatMap] at lifted
        obtain ⟨joined, member, lifts⟩ := lifted
        obtain ⟨parent, written, target, plans⟩ :=
          forall₂_mem_right (planInlined_forall₂ parts.inlined)
            (InlinedParent.mem_of_mem_withScopes member)
        have inSpec := (List.mem_filter.mp written).1
        have inner := ofParent parent inSpec (unaliased.of_node (TableSpec.Node.root.parent inSpec))
          plans.plan
        exact TablePlan.derivable_lifted (parts.unaliased unaliased) member (inner _) lifts
      · obtain ⟨parent, written, target, plans⟩ :=
          forall₂_mem_right (planReferences_forall₂ parts.references) member
        have inSpec := (List.mem_filter.mp written).1
        have inner := ofParent parent inSpec (unaliased.of_node (TableSpec.Node.root.parent inSpec))
          plans.plan (reference.link.site (plan.baseAlias site) (plan.joins site).scope)
        exact SelectEntry.derivable_reference (reference.plan.baseTable?_statement _) inner
      · obtain ⟨child, written, target, plans⟩ :=
          forall₂_mem_right (planCollections_forall₂ parts.collections) member
        have inner := ofChild child written (unaliased.of_node (TableSpec.Node.root.child written))
          plans.plan (collection.link.site (plan.baseAlias site) (plan.joins site).scope)
        exact SelectEntry.derivable_collection (collection.plan.baseTable?_statement _) inner

end Resolver

/-! ### The origins are right -/

/-- The entry for a contribution, whose origin is that of the contribution once it is found. -/
structure EntryOrigin (r : Resolver) (sources : List TracedSource) (contribution : Contribution)
    (entry : SelectEntry) : Prop where
  order : contribution.own.displayOrder = entry.displayOrder
  name : entry.name = contribution.own.name r
  origin : ∀ origin, entry.origin sources = .ok origin → Originates r contribution origin

section EntryOrigin

variable {r : Resolver} {location : Location} {relation target : Relation} {spec : TableSpec}
  {traced : List TracedSource}

theorem names_of_entryOrigins {contributions : List Contribution} {entries : List SelectEntry}
    (each : List.Forall₂ (EntryOrigin r traced) contributions entries) :
    entries.map (·.name) = contributions.map (·.own.name r) := by
  induction each with
  | nil => rfl
  | cons head _ ih => rw [List.map_cons, List.map_cons, head.name, ih]

theorem originates_of_entryOrigins {contributions : List Contribution}
    {entries : List SelectEntry} {origins : List PropertyOrigin}
    (each : List.Forall₂ (EntryOrigin r traced) contributions entries)
    (found : List.Forall₂ (fun entry origin => entry.origin traced = .ok origin) entries origins) :
    List.Forall₂ (Originates r) contributions origins := by
  induction each generalizing origins with
  | nil =>
      cases found
      exact .nil
  | cons head _ ih =>
      cases found with
      | cons here later => exact .cons (head.origin _ here) (ih later)

/-- What is found for a query that has the sources and entries of a plan. -/
theorem Traced.of_query {plan : TablePlan} {site : Site} {query : Statement}
    {base : RelationId} {origins : List PropertyOrigin} (based : query.baseTable = .ok base)
    (found : query.trace.mapM (·.origin) = .ok origins)
    (planned : r.planTable location target spec = .ok plan)
    (each : List.Forall₂ (EntryOrigin r (plan.statement site).tracedSources)
      (r.contributions target spec) (plan.statement site).select)
    (sources : query.sources = (plan.statement site).sources)
    (select : query.select = (plan.statement site).select) :
    base = target.id ∧ Traced r target spec origins := by
  constructor
  · have same : query.baseTable = (plan.statement site).baseTable := by
      rw [Statement.baseTable, Statement.baseTable, Statement.baseTable?, Statement.baseTable?,
        sources]
    rw [same, plan.baseTable_statement, Resolver.relation_of_planTable planned] at based
    exact (Except.ok.inj based).symm
  · rw [Statement.mapM_trace, Statement.tracedSources, sources, select, mapM_eq_ok] at found
    exact .intro (originates_of_entryOrigins each found)

theorem PlannedField.entryOrigin {entry : FieldEntry} {field : PlannedField} (aliasName : String)
    (resolved : r.fieldEntry location relation entry = .ok field) :
    EntryOrigin r traced ⟨[], relation, .field entry⟩ (field.entry aliasName) := by
  obtain ⟨order, source⟩ := Resolver.fieldEntry_source resolved
  have name := (Resolver.fieldEntry_label resolved).1
  obtain ⟨own, valueSource, sourceType, displayOrder⟩ := field
  cases valueSource with
  | field stored =>
      obtain ⟨written, names, found⟩ := source
      refine ⟨order, name, ?_⟩
      rintro origin here
      cases here
      cases name
      exact .field names found .nil
  | expression sql placeholder =>
      refine ⟨order, name, ?_⟩
      rintro origin here
      cases here
      cases name
      exact .expression source .nil

theorem Resolver.PlansInline.stepsTo {parent : ParentTable} {inlined : InlinedParent}
    (plans : r.PlansInline location relation parent inlined target) :
    StepsTo r ⟨relation, parent⟩ inlined.step := by
  obtain ⟨pairs, linked, same⟩ := bind_eq_ok.mp plans.matching
  refine ⟨_, target, pairs, plans.found, linked, ?_⟩
  rw [InlinedParent.step, Resolver.relation_of_planTable plans.plan, ← Except.ok.inj same]

/-- The entries lifted from an inline parent are for what the parent has properties for. -/
theorem TablePlan.entryOrigins_lifted {plan : TablePlan} {site : Site}
    (unaliased : ∀ parent ∈ plan.inlined, parent.link.subqueryAlias = none)
    {joined : InlinedParent × AliasScope} (member : joined ∈ plan.joinedParents site)
    {link : AttachedParent} (stepsTo : StepsTo r link joined.1.step)
    {contributions : List Contribution} (distinct : (contributions.map (·.own.name r)).Nodup)
    (each : List.Forall₂ (EntryOrigin r (joined.1.query joined.2).tracedSources) contributions
      (joined.1.query joined.2).select) :
    List.Forall₂ (EntryOrigin r (plan.statement site).tracedSources)
      (contributions.map (·.through link)) (joined.1.lifted joined.2) := by
  rw [← names_of_entryOrigins each] at distinct
  have columns := forall₂_with_mem each
  rw [← List.zipIdx_map_fst 0 (joined.1.query joined.2).select, List.forall₂_map_right_iff,
    List.zipIdx_map_fst] at columns
  rw [InlinedParent.lifted, liftedEntries, List.forall₂_map_left_iff, List.forall₂_map_right_iff]
  refine columns.imp ?_
  rintro contribution ⟨entry, position⟩ ⟨-, has, column⟩
  refine ⟨column.order, column.name, ?_⟩
  intro origin here
  -- The entry is looked up by its name, and the names are different.
  have found := find?_of_nodup distinct has
  change traceInlined _ entry.name _ = _ at here
  rw [traceInlined_statement unaliased member found, map_eq_ok] at here
  obtain ⟨inner, innerFound, rfl⟩ := here
  exact (column.origin inner innerFound).through stepsTo

theorem Reference.entryOrigin {parent : ParentTable} {reference : Reference}
    (plans : r.PlansReference location relation parent reference target) (tableAlias : String)
    (scope : AliasScope)
    (inner : List.Forall₂ (EntryOrigin r (reference.query tableAlias scope).tracedSources)
      (r.contributions target parent.spec) (reference.query tableAlias scope).select) :
    EntryOrigin r traced ⟨[], relation, .reference parent⟩ (reference.entry tableAlias scope) := by
  have name : (OwnEntry.reference parent).name r = reference.link.name := by
    rw [OwnEntry.name, plans.name, Option.getD_some]
  refine ⟨plans.displayOrder.symm, name.symm, ?_⟩
  intro origin here
  obtain ⟨base, based, rest⟩ := bind_eq_ok.mp here
  obtain ⟨properties, found, same⟩ := bind_eq_ok.mp rest
  cases same
  obtain ⟨rfl, traced⟩ := Traced.of_query based found plans.plan inner rfl rfl
  exact .reference plans.name plans.found traced .nil

theorem Collection.entryOrigin {child : ChildTable} {collection : Collection}
    (plans : r.PlansCollection location relation child collection target) (tableAlias : String)
    (scope : AliasScope)
    (inner : List.Forall₂ (EntryOrigin r (collection.query tableAlias scope).tracedSources)
      (r.contributions target child.spec) (collection.query tableAlias scope).select) :
    EntryOrigin r traced ⟨[], relation, .collection child⟩
      (collection.entry tableAlias scope) := by
  have order : collection.link.displayOrder = child.link.displayOrder := by rw [plans.link]
  have name : collection.link.name = child.link.collectionName := by rw [plans.link]
  have unwrap : collection.link.unwrap = child.link.unwraps := by rw [plans.link]
  refine ⟨order.symm, name, ?_⟩
  intro origin here
  obtain ⟨base, based, rest⟩ := bind_eq_ok.mp here
  obtain ⟨properties, found, same⟩ := bind_eq_ok.mp rest
  obtain ⟨rfl, traced⟩ := Traced.of_query based found plans.plan inner rfl rfl
  have equal : (⟨child.link.collectionName, .collection target.id properties child.link.unwraps,
      []⟩ : PropertyOrigin) = origin := by
    rw [← Except.ok.inj same, ← name, ← unwrap, Bool.not_not]
  rw [← equal]
  exact .collection plans.found traced .nil

end EntryOrigin

namespace Resolver

variable {r : Resolver} {location : Location} {relation : Relation} {spec : TableSpec}
  {plan : TablePlan}

theorem contributions_eq (r : Resolver) (relation : Relation) (spec : TableSpec) :
    r.contributions relation spec = inDisplayOrder (·.own.displayOrder)
      (spec.fields.map (fun entry => ⟨[], relation, .field entry⟩)
        ++ r.inlineContributions relation spec.parents
        ++ spec.referencedParents.map (fun parent => ⟨[], relation, .reference parent⟩)
        ++ spec.children.map (fun child => ⟨[], relation, .collection child⟩)) := by
  obtain ⟨table, aliasName, fields, parents, children, condition, resultTypeName⟩ := spec
  rfl

/-- **The origins are right** in the statements of a specification without given aliases, whose
properties have different names at each table. -/
theorem entryOrigins_of_planTable (unaliased : spec.Unaliased) (distinct : r.DistinctNames spec)
    (planned : r.planTable location relation spec = .ok plan) (site : Site) :
    List.Forall₂ (EntryOrigin r (plan.statement site).tracedSources)
      (r.contributions relation spec) (plan.statement site).select := by
  induction spec using TableSpec.tree_induction generalizing location relation plan site with
  | step spec ofParent ofChild =>
      have parts := planTable_parts planned
      have ofParent : ∀ parent ∈ spec.parents, ∀ {here target} {inner : TablePlan},
          r.planTable here target parent.spec = .ok inner → ∀ site,
            List.Forall₂ (EntryOrigin r (inner.statement site).tracedSources)
              (r.contributions target parent.spec) (inner.statement site).select := by
        intro parent member here target inner made site
        have node : spec.Node parent.spec := TableSpec.Node.root.parent member
        exact ofParent parent member (unaliased.of_node node) (distinct.of_node node) made site
      have ofChild : ∀ child ∈ spec.children, ∀ {here target} {inner : TablePlan},
          r.planTable here target child.spec = .ok inner → ∀ site,
            List.Forall₂ (EntryOrigin r (inner.statement site).tracedSources)
              (r.contributions target child.spec) (inner.statement site).select := by
        intro child member here target inner made site
        have node : spec.Node child.spec := TableSpec.Node.root.child member
        exact ofChild child member (unaliased.of_node node) (distinct.of_node node) made site
      have inlined : List.Forall₂ (EntryOrigin r (plan.statement site).tracedSources)
          (r.inlineContributions relation spec.parents) (plan.joins site).entries := by
        have pairs := planInlined_forall₂ parts.inlined
        rw [← InlinedParent.map_fst_withScopes (site.scope.insert (plan.baseAlias site))
          plan.inlined, List.forall₂_map_right_iff] at pairs
        rw [inlineContributions_eq_flatMap, TablePlan.joins,
          InlinedParent.joins_entries_eq_flatMap]
        refine List.rel_flatMap (forall₂_with_mem pairs) ?_
        rintro parent joined ⟨written, member, target, plans⟩
        have inSpec := (List.mem_filter.mp written).1
        have names := distinct parent.spec (TableSpec.Node.root.parent inSpec) target plans.found
        rw [lifted, plans.found]
        exact TablePlan.entryOrigins_lifted (parts.unaliased unaliased) member plans.stepsTo names
          (ofParent parent inSpec plans.plan _)
      -- Contributions and entries are lists of the same four parts, sorted in the same way.
      rw [contributions_eq, TablePlan.select_statement, TablePlan.walkEntries]
      refine inDisplayOrder_forall₂ (fun _ _ here => here.order) ?_
      refine List.rel_append (List.rel_append (List.rel_append ?_ inlined) ?_) ?_
      · rw [List.forall₂_map_left_iff, List.forall₂_map_right_iff]
        refine (fieldEntries_forall₂ parts.fields).imp ?_
        rintro entry field ⟨here, resolved⟩
        exact field.entryOrigin _ resolved
      · rw [List.forall₂_map_left_iff, List.forall₂_map_right_iff]
        refine (forall₂_with_mem (planReferences_forall₂ parts.references)).imp ?_
        rintro parent reference ⟨written, -, target, plans⟩
        have inSpec := (List.mem_filter.mp written).1
        exact reference.entryOrigin plans _ _ (ofParent parent inSpec plans.plan _)
      · rw [List.forall₂_map_left_iff, List.forall₂_map_right_iff]
        refine (forall₂_with_mem (planCollections_forall₂ parts.collections)).imp ?_
        rintro child collection ⟨written, -, target, plans⟩
        exact collection.entryOrigin plans _ _ (ofChild child written plans.plan _)

end Resolver

/-! ### Queries -/

/-- **The origins of properties are found, and are right.** For every statement of a query without
given aliases for inline parents, there is an origin for each entry at each level. If moreover the
properties of each table have different names, the origins are those that the specification and the
schema give the properties: the field, the expression, or the parent or child with its own
properties, and a step for each inline parent on the way. -/
theorem origins_are_found_and_truthful (r : Resolver) (query : Query)
    (unaliased : query.table.Unaliased) {statements : List (Representation × Statement)}
    (made : query.statements r = .ok statements) {representation : Representation}
    {statement : Statement} (member : (representation, statement) ∈ statements) :
    ∃ relation properties, r.relation? query.table.table = some relation ∧
      statement.origins query.name = .ok ⟨query.name, relation.id, properties⟩ ∧
      Lists statement properties ∧
      (r.DistinctNames query.table → Traced r relation query.table properties) := by
  obtain ⟨plan, planned, rfl⟩ :=
    Query.statement_eq_ok (Query.statement_of_mem_statements made member)
  obtain ⟨relation, named, made⟩ := bind_eq_ok.mp planned
  obtain ⟨select, -, sources, -, -, -⟩ :=
    query.represent_sameRows (plan.statement { orderBy := query.orderBy }) representation
  have derivable : (query.represent (plan.statement { orderBy := query.orderBy })
      representation).Derivable := by
    unfold Statement.Derivable Statement.tracedSources
    rw [sources, select]
    exact Resolver.derivable_of_planTable unaliased made _
  have based : (query.represent (plan.statement { orderBy := query.orderBy })
      representation).baseTable = .ok relation.id := by
    rw [Statement.baseTable, Statement.baseTable?, sources, ← Statement.baseTable?,
      plan.baseTable?_statement, Resolver.relation_of_planTable made]
  obtain ⟨properties, found, lists⟩ := derivable.lists
  refine ⟨relation, properties, Resolver.table_eq_ok.mp named, ?_, lists, ?_⟩
  · simp only [Statement.origins, Statement.originsOf, based, found]
    rfl
  · intro distinct
    exact (Traced.of_query based found made
      (Resolver.entryOrigins_of_planTable unaliased distinct made _) sources select).2

/-- The drugs, with the names of analysts that are two inline parents away. -/
theorem drugQuery_origins :
    Pharmacy.drugQuery.table.Unaliased ∧
    Pharmacy.resolver.DistinctNames Pharmacy.drugQuery.table ∧
    ∃ statements, Pharmacy.drugQuery.statements Pharmacy.resolver = .ok statements ∧
      statements.map Prod.fst = [.jsonObjectRows, .jsonArrayRow] ∧
      ∀ representation statement, (representation, statement) ∈ statements →
        ∃ relation properties,
          Pharmacy.resolver.relation? Pharmacy.drugQuery.table.table = some relation ∧
          statement.origins Pharmacy.drugQuery.name =
            .ok ⟨Pharmacy.drugQuery.name, relation.id, properties⟩ ∧
          Lists statement properties ∧
          Traced Pharmacy.resolver relation Pharmacy.drugQuery.table properties := by
  have unaliased : Pharmacy.drugQuery.table.Unaliased := by decide +kernel
  have distinct : Pharmacy.resolver.DistinctNames Pharmacy.drugQuery.table := by decide +kernel
  obtain ⟨statements, made, wanted⟩ := Pharmacy.statements_drugQuery
  refine ⟨unaliased, distinct, statements, made, wanted, ?_⟩
  intro representation statement member
  obtain ⟨relation, properties, found, origins, lists, traced⟩ :=
    origins_are_found_and_truthful Pharmacy.resolver Pharmacy.drugQuery unaliased made member
  exact ⟨relation, properties, found, origins, lists, traced distinct⟩

end NestedQuery
