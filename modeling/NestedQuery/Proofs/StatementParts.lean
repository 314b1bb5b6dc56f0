import NestedQuery.Proofs.DisplayOrder
import NestedQuery.Proofs.Resolution
import NestedQuery.Statement.Build

/-!
# The parts of a statement

What the statement of a plan consists of, part by part: its sources, its entries before they are
sorted, its conditions and its hidden columns. Facts about statements go by these parts and do not
look into the recursion that makes them.

## Main Definitions

* `TablePlan.baseAlias`, `TablePlan.joins`, `TablePlan.walkEntries`: the parts of a statement
* `InlinedParent.query`, `Reference.query`, `Collection.query`: the sub-queries
* `InlinedParent.withScopes`: inline parents and where they get their aliases
* `Statement.Uncorrelated`, `Statement.CorrelatedBy`: whether a query belongs to an enclosing row

## Main Results

* `TablePlan.statement_eq`: a statement is made of its parts
* `TablePlan.mem_select_statement`: where the entries of a statement come from
* `InlinedParent.mem_joins_sources`, `InlinedParent.mem_joins_entries`: what inline parents add
-/

namespace NestedQuery

/-! ### Sub-queries -/

namespace InlinedParent

/-- The alias of the sub-query of an inline parent: the one it is given, else a fresh one. -/
def aliasIn (parent : InlinedParent) (scope : AliasScope) : String :=
  parent.link.subqueryAlias.getD (scope.fresh "q")

/-- The sub-query of an inline parent. -/
def query (parent : InlinedParent) (scope : AliasScope) : Statement :=
  parent.plan.statement
    (parent.link.site parent.plan.head.linked (scope.insert (parent.aliasIn scope)))

/-- The sub-query of an inline parent as a source of the table with the given alias. -/
def source (parent : InlinedParent) (tableAlias : String) (scope : AliasScope) : FromEntry :=
  parent.link.source parent.plan.head.linked tableAlias (parent.aliasIn scope)
    (parent.query scope)

/-- The entries lifted from an inline parent. -/
def lifted (parent : InlinedParent) (scope : AliasScope) : List SelectEntry :=
  liftedEntries (parent.aliasIn scope) parent.plan.head.written parent.plan.head.relation
    (parent.query scope)

variable {tableAlias : String} {scope : AliasScope}

theorem joins_cons (parent : InlinedParent) (parents : List InlinedParent) :
    joins tableAlias scope (parent :: parents) =
      ⟨parent.source tableAlias scope ::
          (joins tableAlias (scope.insert (parent.aliasIn scope)) parents).sources,
        parent.lifted scope ++
          (joins tableAlias (scope.insert (parent.aliasIn scope)) parents).entries,
        (joins tableAlias (scope.insert (parent.aliasIn scope)) parents).scope⟩ := by
  obtain ⟨link, plan⟩ := parent
  rfl

/-- Inline parents with the scopes in which they get their aliases. -/
def withScopes (scope : AliasScope) : List InlinedParent → List (InlinedParent × AliasScope)
  | [] => []
  | parent :: parents => (parent, scope) :: withScopes (scope.insert (parent.aliasIn scope)) parents

theorem map_fst_withScopes (scope : AliasScope) (parents : List InlinedParent) :
    (withScopes scope parents).map Prod.fst = parents := by
  induction parents generalizing scope with
  | nil => rfl
  | cons parent parents ih => rw [withScopes, List.map_cons, ih]

theorem joins_sources_eq_map (parents : List InlinedParent) :
    (joins tableAlias scope parents).sources =
      (withScopes scope parents).map fun joined => joined.1.source tableAlias joined.2 := by
  induction parents generalizing scope with
  | nil => rfl
  | cons parent parents ih => rw [joins_cons, withScopes, List.map_cons, ih]

theorem joins_entries_eq_flatMap (parents : List InlinedParent) :
    (joins tableAlias scope parents).entries =
      (withScopes scope parents).flatMap fun joined => joined.1.lifted joined.2 := by
  induction parents generalizing scope with
  | nil => rfl
  | cons parent parents ih => rw [joins_cons, withScopes, List.flatMap_cons, ih]

theorem mem_of_mem_withScopes {parents : List InlinedParent} {joined : InlinedParent × AliasScope}
    (member : joined ∈ withScopes scope parents) : joined.1 ∈ parents := by
  rw [← map_fst_withScopes scope parents]
  exact List.mem_map_of_mem member

/-- Each source that inline parents add is the sub-query of one of them, made in some scope. -/
theorem mem_joins_sources {parents : List InlinedParent} {source : FromEntry}
    (member : source ∈ (joins tableAlias scope parents).sources) :
    ∃ parent ∈ parents, ∃ within : AliasScope, source = parent.source tableAlias within := by
  rw [joins_sources_eq_map] at member
  obtain ⟨joined, found, rfl⟩ := List.mem_map.mp member
  exact ⟨joined.1, mem_of_mem_withScopes found, joined.2, rfl⟩

/-- The sub-query of each inline parent is among the sources. -/
theorem mem_sources_of_mem {parents : List InlinedParent} {parent : InlinedParent}
    (member : parent ∈ parents) :
    ∃ within, parent.source tableAlias within ∈ (joins tableAlias scope parents).sources := by
  rw [← map_fst_withScopes scope parents] at member
  obtain ⟨joined, found, rfl⟩ := List.mem_map.mp member
  rw [joins_sources_eq_map]
  exact ⟨joined.2, List.mem_map.mpr ⟨joined, found, rfl⟩⟩

/-- Each entry that inline parents add is lifted from the sub-query of one of them, which is among
the sources that they add. -/
theorem mem_joins_entries {parents : List InlinedParent} {entry : SelectEntry}
    (member : entry ∈ (joins tableAlias scope parents).entries) :
    ∃ parent ∈ parents, ∃ within : AliasScope, entry ∈ parent.lifted within ∧
      parent.source tableAlias within ∈ (joins tableAlias scope parents).sources := by
  rw [joins_entries_eq_flatMap] at member
  obtain ⟨joined, found, lifts⟩ := List.mem_flatMap.mp member
  refine ⟨joined.1, mem_of_mem_withScopes found, joined.2, lifts, ?_⟩
  rw [joins_sources_eq_map]
  exact List.mem_map.mpr ⟨joined, found, rfl⟩

end InlinedParent

/-- A lifted entry has the name of an entry of the sub-query. -/
theorem mem_liftedEntries {subqueryAlias written : String} {relation : RelationId}
    {parent : Statement} {entry : SelectEntry}
    (member : entry ∈ liftedEntries subqueryAlias written relation parent) :
    ∃ label : EntryLabel, label.name ∈ parent.names ∧
      entry = .inlined label subqueryAlias relation := by
  obtain ⟨⟨lifted, position⟩, indexed, equal⟩ := List.mem_map.mp member
  have inSelect : lifted ∈ parent.select := List.fst_mem_of_mem_zipIdx indexed
  refine ⟨_, ?_, equal.symm⟩
  exact List.mem_map_of_mem inSelect

/-- The sub-query of a referenced parent. -/
def Reference.query (reference : Reference) (tableAlias : String) (scope : AliasScope) :
    Statement :=
  reference.plan.statement (reference.link.site tableAlias scope)

/-- The entry of a referenced parent. -/
def Reference.entry (reference : Reference) (tableAlias : String) (scope : AliasScope) :
    SelectEntry :=
  reference.link.entry reference.plan.head.linked (reference.query tableAlias scope)

theorem Reference.entries_eq_map (tableAlias : String) (scope : AliasScope)
    (references : List Reference) :
    Reference.entries tableAlias scope references = references.map (·.entry tableAlias scope) := by
  induction references with
  | nil => rfl
  | cons reference references ih =>
      obtain ⟨link, plan⟩ := reference
      rw [Reference.entries, ih]
      rfl

/-- The sub-query of a child. -/
def Collection.query (collection : Collection) (tableAlias : String) (scope : AliasScope) :
    Statement :=
  collection.plan.statement (collection.link.site tableAlias scope)

/-- The entry of a child. -/
def Collection.entry (collection : Collection) (tableAlias : String) (scope : AliasScope) :
    SelectEntry :=
  collection.link.entry collection.plan.head.linked (collection.query tableAlias scope)

theorem Collection.entries_eq_map (tableAlias : String) (scope : AliasScope)
    (collections : List Collection) :
    Collection.entries tableAlias scope collections =
      collections.map (·.entry tableAlias scope) := by
  induction collections with
  | nil => rfl
  | cons collection collections ih =>
      obtain ⟨link, plan⟩ := collection
      rw [Collection.entries, ih]
      rfl

/-! ### Statements -/

namespace TablePlan

/-- The alias of the table in the statement of a plan. -/
def baseAlias (plan : TablePlan) (site : Site) : String := plan.head.aliasIn site.scope

/-- What the inline parents add to the statement of a plan. -/
def joins (plan : TablePlan) (site : Site) : Joins :=
  InlinedParent.joins (plan.baseAlias site) (site.scope.insert (plan.baseAlias site)) plan.inlined

/-- The entries of the statement of a plan, before they are sorted. -/
def walkEntries (plan : TablePlan) (site : Site) : List SelectEntry :=
  plan.head.fields.map (·.entry (plan.baseAlias site)) ++ (plan.joins site).entries
    ++ plan.references.map (·.entry (plan.baseAlias site) (plan.joins site).scope)
    ++ plan.collections.map (·.entry (plan.baseAlias site) (plan.joins site).scope)

variable (plan : TablePlan) (site : Site)

/-- **A statement is made of its parts.** -/
theorem statement_eq :
    plan.statement site = plan.head.statement (plan.baseAlias site) site
      (inDisplayOrder (·.displayOrder) (plan.walkEntries site)) (plan.joins site).sources := by
  obtain ⟨head, inlined, references, collections⟩ := plan
  rw [TablePlan.statement, Reference.entries_eq_map, Collection.entries_eq_map]
  rfl

theorem sources_statement :
    (plan.statement site).sources =
      .table plan.head.relation (plan.baseAlias site) :: (plan.joins site).sources := by
  rw [statement_eq]
  rfl

theorem select_statement :
    (plan.statement site).select =
      inDisplayOrder (·.displayOrder) (plan.walkEntries site) := by
  rw [statement_eq]
  rfl

theorem hidden_statement :
    (plan.statement site).hidden =
      hiddenColumns (plan.baseAlias site) (plan.statement site).names site.exports := by
  rw [statement_eq]
  rfl

theorem conditions_statement_eq :
    (plan.statement site).conditions = plan.head.conditions (plan.baseAlias site) site := by
  rw [statement_eq]
  rfl

theorem orderBy_statement :
    (plan.statement site).orderBy =
      site.orderBy.map fun sql => ⟨sql, plan.baseAlias site⟩ := by
  rw [statement_eq]
  rfl

variable {plan : TablePlan} {site : Site}

/-- An entry of a statement is that of a field, is lifted from an inline parent, or is that of a
referenced parent or a child. -/
theorem mem_select_statement {entry : SelectEntry} :
    entry ∈ (plan.statement site).select ↔
      (∃ field ∈ plan.head.fields, field.entry (plan.baseAlias site) = entry) ∨
      entry ∈ (plan.joins site).entries ∨
      (∃ reference ∈ plan.references,
        reference.entry (plan.baseAlias site) (plan.joins site).scope = entry) ∨
      ∃ collection ∈ plan.collections,
        collection.entry (plan.baseAlias site) (plan.joins site).scope = entry := by
  rw [select_statement, (inDisplayOrder_perm _ _).mem_iff, walkEntries]
  simp only [List.mem_append, List.mem_map, or_assoc]

end TablePlan

/-! ### Conditions -/

/-- A query that does not depend on a row of an enclosing query. -/
def Statement.Uncorrelated (statement : Statement) : Prop :=
  ∀ condition, WhereEntry.matching condition ∉ statement.conditions

/-- A query whose rows belong to a row of the enclosing query just by the given condition. -/
def Statement.CorrelatedBy (statement : Statement) (condition : MatchCondition) : Prop :=
  ∀ other, WhereEntry.matching other ∈ statement.conditions ↔ other = condition

namespace TablePlan

variable {plan : TablePlan} {site : Site}

/-- The conditions that a table or its filter gives are on the table itself. -/
theorem tableAlias_of_mem_conditions {sql placeholder tableAlias : String}
    (member : WhereEntry.condition sql placeholder tableAlias ∈ (plan.statement site).conditions) :
    tableAlias = plan.baseAlias site := by
  rw [conditions_statement_eq, TableHead.conditions, List.mem_append, List.mem_append] at member
  rcases member with (correlated | own) | filtered
  · simp at correlated
  · simp only [Option.mem_toList, Option.map_eq_some_iff, WhereEntry.condition.injEq] at own
    obtain ⟨_, -, -, -, equal⟩ := own
    exact equal.symm
  · simp only [Option.mem_toList, Option.map_eq_some_iff, WhereEntry.condition.injEq] at filtered
    obtain ⟨_, -, -, -, equal⟩ := filtered
    exact equal.symm

/-- The matches that a statement asks for are those of its correlation. -/
theorem matching_mem_conditions {condition : MatchCondition} :
    WhereEntry.matching condition ∈ (plan.statement site).conditions ↔
      ∃ correlation, site.correlation = some correlation ∧
        correlation.condition (plan.baseAlias site) = condition := by
  rw [conditions_statement_eq, TableHead.conditions]
  simp

theorem uncorrelated_statement (alone : site.correlation = none) :
    (plan.statement site).Uncorrelated := by
  intro condition member
  obtain ⟨correlation, some, -⟩ := matching_mem_conditions.mp member
  rw [alone] at some
  cases some

theorem correlatedBy_statement (plan : TablePlan) (site : Site) {correlation : Correlation}
    (correlated : site.correlation = some correlation) :
    (plan.statement site).CorrelatedBy (correlation.condition (plan.baseAlias site)) := by
  intro other
  rw [matching_mem_conditions, correlated]
  constructor
  · rintro ⟨_, same, rfl⟩
    cases same
    rfl
  · rintro rfl
    exact ⟨correlation, rfl, rfl⟩

end TablePlan

/-- The sub-query of a referenced parent is about the parent of the enclosing row. -/
theorem Reference.query_correlatedBy (reference : Reference) (tableAlias : String)
    (scope : AliasScope) :
    (reference.query tableAlias scope).CorrelatedBy
      ⟨reference.plan.baseAlias (reference.link.site tableAlias scope), tableAlias,
        reference.link.matching.pairs, reference.link.matching.guaranteed⟩ :=
  reference.plan.correlatedBy_statement (reference.link.site tableAlias scope) rfl

/-- The sub-query of a child is about the children of the enclosing row. -/
theorem Collection.query_correlatedBy (collection : Collection) (tableAlias : String)
    (scope : AliasScope) :
    (collection.query tableAlias scope).CorrelatedBy
      ⟨tableAlias, collection.plan.baseAlias (collection.link.site tableAlias scope),
        collection.link.pairs, false⟩ :=
  collection.plan.correlatedBy_statement (collection.link.site tableAlias scope) rfl

/-! ### Hidden columns -/

theorem hiddenColumns_fields (aliasName : String) (taken fields : List String) :
    (hiddenColumns aliasName taken fields).map (·.field) = fields := by
  induction fields generalizing taken with
  | nil => rfl
  | cons field fields ih => rw [hiddenColumns, List.map_cons, ih]

theorem tableAlias_of_mem_hiddenColumns {aliasName : String} {taken fields : List String}
    {column : HiddenColumn} (member : column ∈ hiddenColumns aliasName taken fields) :
    column.tableAlias = aliasName := by
  induction fields generalizing taken with
  | nil => exact absurd member List.not_mem_nil
  | cons field fields ih =>
      rcases List.mem_cons.mp member with rfl | later
      · rfl
      · exact ih later

/-- An inline parent exports its primary key and the fields that its link equates. -/
theorem mem_exportedFields {keyFields : List String} {pairs : List FieldPair} {field : String} :
    field ∈ exportedFields keyFields pairs ↔
      field ∈ keyFields ∨ ∃ pair ∈ pairs, pair.parent = field := by
  induction pairs generalizing keyFields with
  | nil => simp [exportedFields]
  | cons pair pairs ih =>
      have step : exportedFields keyFields (pair :: pairs) =
          exportedFields (if keyFields.contains pair.parent then keyFields
            else keyFields ++ [pair.parent]) pairs := rfl
      rw [step, ih]
      by_cases old : pair.parent ∈ keyFields
      · have kept : keyFields.contains pair.parent = true := List.contains_iff_mem.mpr old
        rw [if_pos kept]
        grind
      · have new : ¬ keyFields.contains pair.parent = true := fun found =>
          old (List.contains_iff_mem.mp found)
        rw [if_neg new]
        grind

/-- A field is looked up among the hidden columns, and found if one of them exports it. -/
theorem Statement.exportName?_of_mem {statement : Statement} {field : String}
    (exported : field ∈ statement.hidden.map (·.field)) :
    ∃ column ∈ statement.hidden, column.field = field ∧
      statement.exportName? field = some column.exportName := by
  obtain ⟨column, inColumns, named⟩ := List.mem_map.mp exported
  have found : (statement.hidden.find? (·.field == field)).isSome := by
    rw [List.find?_isSome]
    exact ⟨column, inColumns, by simp [named]⟩
  obtain ⟨first, equal⟩ := Option.isSome_iff_exists.mp found
  refine ⟨first, List.mem_of_find?_eq_some equal, by simpa using List.find?_some equal, ?_⟩
  rw [Statement.exportName?, equal]
  rfl

theorem TablePlan.hidden_fields_statement (plan : TablePlan) (site : Site) :
    (plan.statement site).hidden.map (·.field) = site.exports := by
  rw [hidden_statement, hiddenColumns_fields]

/-- Every field that a site asks for is exported under some name. -/
theorem TablePlan.exportName?_statement {plan : TablePlan} {site : Site} {field : String}
    (exported : field ∈ site.exports) :
    ∃ name, (plan.statement site).exportName? field = some name := by
  rw [← plan.hidden_fields_statement site] at exported
  obtain ⟨column, -, -, found⟩ := Statement.exportName?_of_mem exported
  exact ⟨column.exportName, found⟩

end NestedQuery
