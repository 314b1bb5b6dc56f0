import NestedQuery.Proofs.Agreement
import NestedQuery.Proofs.StatementParts
import NestedQuery.Proofs.Validity
import NestedQuery.Spec.Pharmacy
import NestedQuery.Sql.Render

/-!
# Which statements can be written

To write a statement is to write all queries in it, and only a query that aggregates its rows can
fail to be written: bare values need a single property, and MySQL does not order the elements of an
array. In the statements of a specification the aggregated queries are those of the children,
wherever in the tree they are, and that of a query for a single array. So it can be read off the
specification whether its statements can be written.

## Main Definitions

* `Statement.subqueries`, `Statement.Node`, `Statement.Below`: the queries in a statement
* `TablePlan.Collects`: the children of the tables in a plan
* `Query.OrdersArray`: whether the elements of an array are ordered

## Main Results

* `Statement.render_eq_error`, `Statement.Node.aggregateValue_of_render`: a statement is written
  query by query
* `TablePlan.collects_of_below`, `TablePlan.Collects.below_statement`: the aggregated queries within
  a statement are those of the children
* `rendering_fails_only_for_ordered_arrays`: the statements of a query
-/

namespace NestedQuery

/-! ### Trees of queries -/

/-- The sub-query that an entry of a select list holds. -/
def SelectEntry.query? : SelectEntry → Option Statement
  | .field _ _ _ _ => none
  | .expression _ _ _ _ _ => none
  | .inlined _ _ _ => none
  | .reference _ query => some query
  | .collection _ query => some query

/-- The sub-query that a source is. -/
def FromEntry.query? : FromEntry → Option Statement
  | .table _ _ => none
  | .query statement _ _ _ => some statement

namespace Statement

/-- The queries directly within a statement. -/
def subqueries (statement : Statement) : List Statement :=
  statement.select.filterMap (·.query?) ++ statement.sources.filterMap (·.query?)

/-- The queries in a statement, itself among them. -/
inductive Node : Statement → Statement → Prop
  | root (statement : Statement) : Node statement statement
  | within {statement sub node : Statement} (member : sub ∈ statement.subqueries)
      (below : Node sub node) : Node statement node

/-- The queries in a statement without itself. -/
def Below (statement node : Statement) : Prop :=
  ∃ sub ∈ statement.subqueries, sub.Node node

theorem mem_subqueries {statement sub : Statement} :
    sub ∈ statement.subqueries ↔
      (∃ entry ∈ statement.select, entry.query? = some sub) ∨
        ∃ source ∈ statement.sources, source.query? = some sub := by
  simp only [subqueries, List.mem_append, List.mem_filterMap]

theorem node_iff {statement node : Statement} :
    statement.Node node ↔ node = statement ∨ statement.Below node := by
  constructor
  · intro reached
    cases reached with
    | root => exact .inl rfl
    | within member below => exact .inr ⟨_, member, below⟩
  · rintro (rfl | ⟨sub, member, below⟩)
    · exact .root _
    · exact .within member below

/-- What holds of a query whenever it holds of the queries within it holds of every query. -/
theorem tree_induction {motive : Statement → Prop}
    (step : ∀ statement : Statement, (∀ sub ∈ statement.subqueries, motive sub) →
      motive statement) (statement : Statement) : motive statement :=
  step statement fun sub _ => tree_induction step sub
termination_by sizeOf statement
decreasing_by
  rename_i member
  obtain ⟨select, hidden, sources, conditions, orderBy, forUpdate, objectWrap, aggregate,
    additionalColumns, resultTypeName, leadingComment⟩ := statement
  rcases mem_subqueries.mp member with ⟨entry, inSelect, holds⟩ | ⟨source, inSources, holds⟩
  · have smaller := List.sizeOf_lt_of_mem inSelect
    cases entry with
    | field => cases holds
    | expression => cases holds
    | inlined => cases holds
    | reference label query =>
        cases holds
        simp only [SelectEntry.reference.sizeOf_spec, mk.sizeOf_spec] at smaller ⊢
        omega
    | collection label query =>
        cases holds
        simp only [SelectEntry.collection.sizeOf_spec, mk.sizeOf_spec] at smaller ⊢
        omega
  · have smaller := List.sizeOf_lt_of_mem inSources
    cases source with
    | table => cases holds
    | query query aliasName join comment =>
        cases holds
        simp only [FromEntry.query.sizeOf_spec, mk.sizeOf_spec] at smaller ⊢
        omega

end Statement

/-! ### Texts of queries -/

section Texts

variable {w : SqlWriter}

theorem SelectEntry.renderAll_eq_mapM (entries : List SelectEntry) :
    SelectEntry.renderAll w entries = entries.mapM (·.render w) := by
  induction entries with
  | nil => rfl
  | cons entry entries ih => rw [SelectEntry.renderAll, ih, List.mapM_cons]

theorem FromEntry.renderAll_eq_mapM (sources : List FromEntry) :
    FromEntry.renderAll w sources = sources.mapM (·.render w) := by
  induction sources with
  | nil => rfl
  | cons source sources ih => rw [FromEntry.renderAll, ih, List.mapM_cons]

/-- An entry cannot be written just if its sub-query cannot. -/
theorem SelectEntry.render_eq_error {entry : SelectEntry} {error : SqlError} :
    entry.render w = .error error ↔ ∃ query ∈ entry.query?, query.render w = .error error := by
  cases entry with
  | field => simp [SelectEntry.render, SelectEntry.query?]
  | expression => simp [SelectEntry.render, SelectEntry.query?]
  | inlined => simp [SelectEntry.render, SelectEntry.query?]
  | reference label query =>
      rw [SelectEntry.render, bind_eq_error]
      simp [SelectEntry.query?, pure, Except.pure]
  | collection label query =>
      rw [SelectEntry.render, bind_eq_error]
      simp [SelectEntry.query?, pure, Except.pure]

theorem FromEntry.render_eq_error {source : FromEntry} {error : SqlError} :
    source.render w = .error error ↔ ∃ query ∈ source.query?, query.render w = .error error := by
  cases source with
  | table => simp [FromEntry.render, FromEntry.query?]
  | query query aliasName join comment =>
      rw [FromEntry.render, bind_eq_error]
      simp [FromEntry.query?, pure, Except.pure]

theorem SqlWriter.statement_eq_error {statement : Statement}
    {entries sources : Except SqlError (List String)} {error : SqlError}
    (failed : w.statement statement entries sources = .error error) :
    (statement.aggregate = true ∧ w.aggregateValue statement = .error error) ∨
      entries = .error error ∨ sources = .error error := by
  unfold SqlWriter.statement at failed
  split at failed
  · rename_i aggregated
    simp only [bind_eq_error] at failed
    rcases failed with value | ⟨_, -, inEntries | ⟨_, -, inSources | ⟨_, -, impossible⟩⟩⟩
    · exact .inl ⟨aggregated, value⟩
    · exact .inr (.inl inEntries)
    · exact .inr (.inr inSources)
    · cases impossible
  · simp only [bind_eq_error] at failed
    rcases failed with inEntries | ⟨_, -, inSources | ⟨_, -, impossible⟩⟩
    · exact .inr (.inl inEntries)
    · exact .inr (.inr inSources)
    · cases impossible

/-- The text of a statement needs the texts of all its parts. -/
theorem SqlWriter.parts_of_statement {statement : Statement}
    {entries sources : Except SqlError (List String)} {text : String}
    (written : w.statement statement entries sources = .ok text) :
    (statement.aggregate = true → ∃ value, w.aggregateValue statement = .ok value) ∧
      (∃ texts, entries = .ok texts) ∧ ∃ texts, sources = .ok texts := by
  unfold SqlWriter.statement at written
  split at written
  · simp only [bind_eq_ok] at written
    obtain ⟨value, aggregated, selected, inEntries, joined, inSources, -⟩ := written
    exact ⟨fun _ => ⟨value, aggregated⟩, ⟨selected, inEntries⟩, joined, inSources⟩
  · rename_i plain
    simp only [bind_eq_ok] at written
    obtain ⟨selected, inEntries, joined, inSources, -⟩ := written
    exact ⟨fun aggregated => absurd aggregated plain, ⟨selected, inEntries⟩, joined, inSources⟩

namespace Statement

theorem render_eq (statement : Statement) :
    statement.render w = w.statement statement (statement.select.mapM (·.render w))
      (statement.sources.mapM (·.render w)) := by
  rw [← SelectEntry.renderAll_eq_mapM, ← FromEntry.renderAll_eq_mapM]
  obtain ⟨select, hidden, sources, conditions, orderBy, forUpdate, objectWrap, aggregate,
    additionalColumns, resultTypeName, leadingComment⟩ := statement
  rfl

/-- **Why a statement cannot be written.** The error is that of a query in it that aggregates its
rows. -/
theorem render_eq_error {statement : Statement} {error : SqlError}
    (failed : statement.render w = .error error) :
    ∃ node, statement.Node node ∧ node.aggregate = true ∧ w.aggregateValue node = .error error := by
  induction statement using Statement.tree_induction with
  | step statement inner =>
      rw [render_eq] at failed
      rcases SqlWriter.statement_eq_error failed with ⟨aggregated, value⟩ | inSelect | inSources
      · exact ⟨statement, .root _, aggregated, value⟩
      · obtain ⟨before, entry, after, split, -, here⟩ := mapM_eq_error.mp inSelect
        obtain ⟨sub, holds, subFailed⟩ := SelectEntry.render_eq_error.mp here
        have member : sub ∈ statement.subqueries :=
          mem_subqueries.mpr (.inl ⟨entry, by simp [split], holds⟩)
        obtain ⟨node, below, fault⟩ := inner sub member subFailed
        exact ⟨node, .within member below, fault⟩
      · obtain ⟨before, source, after, split, -, here⟩ := mapM_eq_error.mp inSources
        obtain ⟨sub, holds, subFailed⟩ := FromEntry.render_eq_error.mp here
        have member : sub ∈ statement.subqueries :=
          mem_subqueries.mpr (.inr ⟨source, by simp [split], holds⟩)
        obtain ⟨node, below, fault⟩ := inner sub member subFailed
        exact ⟨node, .within member below, fault⟩

/-- A statement is written only if all queries directly within it are. -/
theorem subqueries_of_render {statement sub : Statement} {text : String}
    (written : statement.render w = .ok text) (member : sub ∈ statement.subqueries) :
    ∃ inner, sub.render w = .ok inner := by
  rw [render_eq] at written
  obtain ⟨-, ⟨selected, inEntries⟩, joined, inSources⟩ := SqlWriter.parts_of_statement written
  cases result : sub.render w with
  | ok inner => exact ⟨inner, rfl⟩
  | error error =>
      rcases mem_subqueries.mp member with ⟨entry, inSelect, holds⟩ | ⟨source, among, holds⟩
      · have failed := SelectEntry.render_eq_error.mpr ⟨sub, holds, result⟩
        obtain ⟨first, impossible⟩ := mapM_fails_iff.mpr ⟨entry, inSelect, error, failed⟩
        rw [inEntries] at impossible
        cases impossible
      · have failed := FromEntry.render_eq_error.mpr ⟨sub, holds, result⟩
        obtain ⟨first, impossible⟩ := mapM_fails_iff.mpr ⟨source, among, error, failed⟩
        rw [inSources] at impossible
        cases impossible

/-- **A statement is written only if all aggregated queries in it are.** -/
theorem Node.aggregateValue_of_render {statement node : Statement} (reached : statement.Node node)
    (aggregated : node.aggregate = true) {text : String}
    (written : statement.render w = .ok text) : ∃ value, w.aggregateValue node = .ok value := by
  induction reached generalizing text with
  | root statement =>
      rw [render_eq] at written
      exact (SqlWriter.parts_of_statement written).1 aggregated
  | within member _ ih =>
      obtain ⟨inner, subWritten⟩ := subqueries_of_render written member
      exact ih aggregated subWritten

end Statement

theorem Dialect.aggregateValues_eq_error {dialect : Dialect} {value : String}
    {orderBy : Option String} {error : SqlError} :
    dialect.aggregateValues value orderBy = .error error ↔
      dialect = .mysql ∧ orderBy.isSome = true ∧ error = .aggregateOrdering .mysql := by
  cases dialect with
  | postgres => simp [Dialect.aggregateValues]
  | oracle => simp [Dialect.aggregateValues]
  | mysql =>
      cases orderBy with
      | none => simp [Dialect.aggregateValues]
      | some sql => simp [Dialect.aggregateValues, eq_comm]

/-- Rows cannot be aggregated if bare values are asked for and there is not just one property, or
if they are ordered and the dialect is that of MySQL. -/
theorem SqlWriter.aggregateValue_eq_error {statement : Statement} {error : SqlError} :
    w.aggregateValue statement = .error error ↔
      if statement.objectWrap = true ∨ statement.select.length = 1 then
        w.dialect = .mysql ∧ statement.orderBy.isSome = true ∧ error = .aggregateOrdering .mysql
      else
        error = .unwrappedProperties (tableName statement) statement.select.length := by
  have order : (wrappedOrder statement).isSome = statement.orderBy.isSome := by
    simp [wrappedOrder]
  have length : statement.names.length = statement.select.length := by simp [Statement.names]
  unfold SqlWriter.aggregateValue
  cases wrap : statement.objectWrap with
  | true =>
      simp only [if_true, true_or, bind_eq_error, Dialect.aggregateRows,
        Dialect.aggregateValues_eq_error, order]
      simp [pure, Except.pure]
  | false =>
      simp only [Bool.false_eq_true, if_false, false_or]
      rw [← length]
      split
      · rename_i name only
        simp only [only, List.length_singleton, if_true, bind_eq_error, Dialect.aggregateColumn,
          Dialect.aggregateValues_eq_error, order]
        simp [pure, Except.pure]
      · rename_i several
        have notOne : statement.names.length ≠ 1 := by
          intro one
          obtain ⟨name, only⟩ := List.length_eq_one_iff.mp one
          exact several name only
        rw [if_neg notOne]
        simp [eq_comm]

end Texts

/-! ### Aggregated queries of a plan -/

/-- The query for the rows of a child, aggregated. -/
def Collection.aggregated (collection : Collection) (tableAlias : String) (scope : AliasScope) :
    Statement :=
  { collection.query tableAlias scope with
    aggregate := true
    objectWrap := !collection.link.unwrap
    leadingComment := some (baseQueryComment collection.plan.head.written) }

namespace TablePlan

/-- The children of the tables in a plan. -/
inductive Collects : TablePlan → Collection → Prop
  | own {plan : TablePlan} {collection : Collection} (member : collection ∈ plan.collections) :
      Collects plan collection
  | inlined {plan : TablePlan} {parent : InlinedParent} {collection : Collection}
      (member : parent ∈ plan.inlined) (deeper : Collects parent.plan collection) :
      Collects plan collection
  | referenced {plan : TablePlan} {reference : Reference} {collection : Collection}
      (member : reference ∈ plan.references) (deeper : Collects reference.plan collection) :
      Collects plan collection
  | collected {plan : TablePlan} {child collection : Collection}
      (member : child ∈ plan.collections) (deeper : Collects child.plan collection) :
      Collects plan collection

variable {plan : TablePlan} {site : Site}

theorem aggregate_statement (plan : TablePlan) (site : Site) :
    (plan.statement site).aggregate = false := by
  rw [statement_eq]
  rfl

/-- The queries directly within the statement of a plan. -/
theorem mem_subqueries_statement {sub : Statement} :
    sub ∈ (plan.statement site).subqueries ↔
      (∃ reference ∈ plan.references,
        { reference.query (plan.baseAlias site) (plan.joins site).scope with
          objectWrap := true } = sub) ∨
      (∃ collection ∈ plan.collections,
        collection.aggregated (plan.baseAlias site) (plan.joins site).scope = sub) ∨
      ∃ source ∈ (plan.joins site).sources, source.query? = some sub := by
  rw [Statement.mem_subqueries, sources_statement]
  constructor
  · rintro (⟨entry, selected, holds⟩ | ⟨source, among, holds⟩)
    · rcases mem_select_statement.mp selected with ⟨field, -, rfl⟩ | lifted |
        ⟨reference, member, rfl⟩ | ⟨collection, member, rfl⟩
      · unfold PlannedField.entry at holds
        split at holds
        · cases holds
        · cases holds
      · obtain ⟨parent, -, within, lifts, -⟩ := InlinedParent.mem_joins_entries lifted
        obtain ⟨label, -, rfl⟩ := mem_liftedEntries lifts
        cases holds
      · exact .inl ⟨reference, member, Option.some.inj holds⟩
      · exact .inr (.inl ⟨collection, member, Option.some.inj holds⟩)
    · rcases List.mem_cons.mp among with rfl | joined
      · cases holds
      · exact .inr (.inr ⟨source, joined, holds⟩)
  · rintro (⟨reference, member, rfl⟩ | ⟨collection, member, rfl⟩ | ⟨source, joined, holds⟩)
    · exact .inl ⟨_, mem_select_statement.mpr (.inr (.inr (.inl ⟨reference, member, rfl⟩))), rfl⟩
    · exact .inl ⟨_, mem_select_statement.mpr (.inr (.inr (.inr ⟨collection, member, rfl⟩))), rfl⟩
    · exact .inr ⟨source, List.mem_cons_of_mem _ joined, holds⟩

/-- An aggregated query within the statement of a plan is that of a child. -/
theorem collects_of_below {node : Statement} (below : (plan.statement site).Below node)
    (aggregated : node.aggregate = true) :
    ∃ collection tableAlias scope, plan.Collects collection ∧
      node = collection.aggregated tableAlias scope := by
  induction plan using TablePlan.tree_induction generalizing site with
  | step plan ofInlined ofReference ofCollection =>
      -- What is below a sub-query is below the statement of its plan; it is only wrapped.
      obtain ⟨sub, member, reached⟩ := below
      rcases mem_subqueries_statement.mp member with ⟨reference, among, rfl⟩ |
        ⟨collection, among, rfl⟩ | ⟨source, joined, holds⟩
      · rcases Statement.node_iff.mp reached with rfl | deeper
        · have plain := reference.plan.aggregate_statement
            (reference.link.site (plan.baseAlias site) (plan.joins site).scope)
          exact absurd (plain.symm.trans aggregated) Bool.false_ne_true
        · obtain ⟨collection, tableAlias, scope, collects, equal⟩ :=
            ofReference reference among deeper
          exact ⟨collection, tableAlias, scope, .referenced among collects, equal⟩
      · rcases Statement.node_iff.mp reached with rfl | deeper
        · exact ⟨collection, _, _, .own among, rfl⟩
        · obtain ⟨inner, tableAlias, scope, collects, equal⟩ :=
            ofCollection collection among deeper
          exact ⟨inner, tableAlias, scope, .collected among collects, equal⟩
      · obtain ⟨parent, among, within, rfl⟩ := InlinedParent.mem_joins_sources joined
        cases holds
        rcases Statement.node_iff.mp reached with rfl | deeper
        · exact absurd ((aggregate_statement _ _).symm.trans aggregated) Bool.false_ne_true
        · obtain ⟨collection, tableAlias, scope, collects, equal⟩ := ofInlined parent among deeper
          exact ⟨collection, tableAlias, scope, .inlined among collects, equal⟩

/-- The query of each child is within the statement of a plan. -/
theorem Collects.below_statement {collection : Collection} (collects : plan.Collects collection)
    (site : Site) : ∃ tableAlias scope,
      (plan.statement site).Below (collection.aggregated tableAlias scope) := by
  induction collects generalizing site with
  | own member =>
      exact ⟨_, _, _, mem_subqueries_statement.mpr (.inr (.inl ⟨_, member, rfl⟩)), .root _⟩
  | inlined member _ ih =>
      obtain ⟨within, joined⟩ := InlinedParent.mem_sources_of_mem member
      obtain ⟨tableAlias, scope, deeper⟩ := ih _
      exact ⟨tableAlias, scope, _, mem_subqueries_statement.mpr (.inr (.inr ⟨_, joined, rfl⟩)),
        Statement.node_iff.mpr (.inr deeper)⟩
  | referenced member _ ih =>
      obtain ⟨tableAlias, scope, deeper⟩ := ih _
      exact ⟨tableAlias, scope, _, mem_subqueries_statement.mpr (.inl ⟨_, member, rfl⟩),
        Statement.node_iff.mpr (.inr deeper)⟩
  | collected member _ ih =>
      obtain ⟨tableAlias, scope, deeper⟩ := ih _
      exact ⟨tableAlias, scope, _, mem_subqueries_statement.mpr (.inr (.inl ⟨_, member, rfl⟩)),
        Statement.node_iff.mpr (.inr deeper)⟩

end TablePlan

/-! ### Children of a specification -/

namespace Resolver

/-- A plan for a child of one of the tables in a specification. -/
def PlansChild (r : Resolver) (spec : TableSpec) (child : ChildTable) (collection : Collection) :
    Prop :=
  ∃ table, spec.Node table ∧ child ∈ table.children ∧
    ∃ location relation target, r.PlansCollection location relation child collection target

variable {r : Resolver} {location : Location} {relation : Relation}

theorem PlansChild.within {spec root : TableSpec} {child : ChildTable} {collection : Collection}
    (plans : r.PlansChild spec child collection) (node : root.Node spec) :
    r.PlansChild root child collection := by
  obtain ⟨table, reached, member, planned⟩ := plans
  exact ⟨table, node.trans reached, member, planned⟩

/-- What a plan collects are children of the specification. -/
theorem child_of_collects {spec : TableSpec} {plan : TablePlan}
    (planned : r.planTable location relation spec = .ok plan) {collection : Collection}
    (collects : plan.Collects collection) : ∃ child, r.PlansChild spec child collection := by
  induction collects generalizing location relation spec with
  | own member =>
      obtain ⟨child, written, target, plans⟩ :=
        forall₂_mem_right (planCollections_forall₂ (planTable_parts planned).collections) member
      exact ⟨child, spec, .root, written, location, relation, target, plans⟩
  | inlined member _ ih =>
      obtain ⟨parent, written, target, plans⟩ :=
        forall₂_mem_right (planInlined_forall₂ (planTable_parts planned).inlined) member
      obtain ⟨child, inner⟩ := ih plans.plan
      exact ⟨child, inner.within (TableSpec.Node.root.parent (List.mem_filter.mp written).1)⟩
  | referenced member _ ih =>
      obtain ⟨parent, written, target, plans⟩ :=
        forall₂_mem_right (planReferences_forall₂ (planTable_parts planned).references) member
      obtain ⟨child, inner⟩ := ih plans.plan
      exact ⟨child, inner.within (TableSpec.Node.root.parent (List.mem_filter.mp written).1)⟩
  | collected member _ ih =>
      obtain ⟨parent, written, target, plans⟩ :=
        forall₂_mem_right (planCollections_forall₂ (planTable_parts planned).collections) member
      obtain ⟨child, inner⟩ := ih plans.plan
      exact ⟨child, inner.within (TableSpec.Node.root.child written)⟩

/-- All children of a specification are collected by its plan. -/
theorem collects_of_child {spec : TableSpec} {plan : TablePlan}
    (planned : r.planTable location relation spec = .ok plan) {table : TableSpec}
    (node : spec.Node table) {child : ChildTable} (member : child ∈ table.children) :
    ∃ collection, plan.Collects collection ∧ r.PlansChild spec child collection := by
  induction spec using TableSpec.tree_induction generalizing location relation plan with
  | step spec ofParent ofChild =>
      have parts := planTable_parts planned
      rcases node.cases_root with rfl | ⟨parent, written, inner⟩ | ⟨above, written, inner⟩
      · obtain ⟨collection, collected, target, plans⟩ :=
          forall₂_mem_right (planCollections_forall₂ parts.collections).flip member
        exact ⟨collection, .own collected, table, .root, member, location, relation, target, plans⟩
      · have inSpec : spec.Node parent.spec := TableSpec.Node.root.parent written
        -- A parent is planned inline or as a reference.
        cases inline : parent.isInline with
        | true =>
            obtain ⟨inlined, found, target, plans⟩ :=
              forall₂_mem_right (planInlined_forall₂ parts.inlined).flip
                (List.mem_filter.mpr ⟨written, inline⟩)
            obtain ⟨collection, collects, plansChild⟩ := ofParent parent written plans.plan inner
            exact ⟨collection, .inlined found collects, plansChild.within inSpec⟩
        | false =>
            obtain ⟨reference, found, target, plans⟩ :=
              forall₂_mem_right (planReferences_forall₂ parts.references).flip
                (List.mem_filter.mpr ⟨written, by rw [inline]; rfl⟩)
            obtain ⟨collection, collects, plansChild⟩ := ofParent parent written plans.plan inner
            exact ⟨collection, .referenced found collects, plansChild.within inSpec⟩
      · obtain ⟨collection, found, target, plans⟩ :=
          forall₂_mem_right (planCollections_forall₂ parts.collections).flip written
        obtain ⟨deeper, collects, plansChild⟩ := ofChild above written plans.plan inner
        exact ⟨deeper, .collected found collects,
          plansChild.within (TableSpec.Node.root.child written)⟩

/-- The query of a child has one entry if its values are bare, and is ordered if the child is. -/
theorem PlansChild.aggregated {spec : TableSpec} {child : ChildTable} {collection : Collection}
    (plans : r.PlansChild spec child collection) (tableAlias : String) (scope : AliasScope) :
    ((collection.aggregated tableAlias scope).objectWrap = true ∨
      (collection.aggregated tableAlias scope).select.length = 1) ∧
    (collection.aggregated tableAlias scope).orderBy.isSome = child.link.orderBy.isSome := by
  obtain ⟨table, -, -, location, relation, target, planned⟩ := plans
  have unwrap : collection.link.unwrap = child.link.unwraps := by rw [planned.link]
  have order : collection.link.orderBy = child.link.orderBy := by rw [planned.link]
  constructor
  · cases bare : child.link.unwraps with
    | false =>
        left
        change (!collection.link.unwrap) = true
        rw [unwrap, bare]
        rfl
    | true =>
        right
        exact (collection.plan.length_select_statement _).trans (planned.unwrapped bare)
  · change (collection.plan.statement _).orderBy.isSome = _
    rw [TablePlan.orderBy_statement, Option.isSome_map, ← order]
    rfl

end Resolver

/-! ### Queries -/

namespace Query

/-- The elements of an array are ordered: the rows of a query for a single array, or the children of
some table. -/
def OrdersArray (query : Query) (representation : Representation) : Prop :=
  (representation = .jsonArrayRow ∧ query.orderBy.isSome = true) ∨
    ∃ table, query.table.Node table ∧ ∃ child ∈ table.children, child.link.orderBy.isSome = true

variable {r : Resolver} {query : Query} {plan : TablePlan} {representation : Representation}
  {w : SqlWriter}

theorem below_represent {statement node : Statement} :
    (query.represent statement representation).Below node ↔ statement.Below node := by
  have same := query.represent_sameRows statement representation
  unfold Statement.Below Statement.subqueries
  rw [same.select, same.sources]

/-- The aggregated queries of a statement are that of a query for a single array, and those of the
children. -/
theorem aggregated_cases (planned : r.plan (Location.root query.name) query.table = .ok plan)
    {node : Statement}
    (reached : (query.represent (plan.statement { orderBy := query.orderBy })
      representation).Node node) (aggregated : node.aggregate = true) :
    (node.objectWrap = true ∨ node.select.length = 1) ∧
      (node.orderBy.isSome = true → query.OrdersArray representation) := by
  rcases Statement.node_iff.mp reached with rfl | below
  · cases representation with
    | multiColumnRows =>
        exact absurd ((plan.aggregate_statement _).symm.trans aggregated) Bool.false_ne_true
    | jsonObjectRows =>
        exact absurd ((plan.aggregate_statement _).symm.trans aggregated) Bool.false_ne_true
    | jsonArrayRow =>
        refine ⟨.inl rfl, fun ordered => .inl ⟨rfl, ?_⟩⟩
        change (plan.statement _).orderBy.isSome = true at ordered
        rwa [TablePlan.orderBy_statement, Option.isSome_map] at ordered
  · obtain ⟨collection, tableAlias, scope, collects, rfl⟩ :=
      TablePlan.collects_of_below (below_represent.mp below) aggregated
    obtain ⟨relation, -, made⟩ := bind_eq_ok.mp planned
    obtain ⟨child, plans⟩ := Resolver.child_of_collects made collects
    obtain ⟨single, order⟩ := plans.aggregated tableAlias scope
    obtain ⟨table, inSpec, member, -⟩ := plans
    refine ⟨single, fun ordered => .inr ⟨table, inSpec, child, member, ?_⟩⟩
    exact order.symm.trans ordered

/-- There is an aggregated query for what is ordered. -/
theorem exists_aggregated (planned : r.plan (Location.root query.name) query.table = .ok plan)
    (ordered : query.OrdersArray representation) :
    ∃ node, (query.represent (plan.statement { orderBy := query.orderBy })
        representation).Node node ∧ node.aggregate = true ∧
      (node.objectWrap = true ∨ node.select.length = 1) ∧ node.orderBy.isSome = true := by
  rcases ordered with ⟨rfl, order⟩ | ⟨table, inSpec, child, member, order⟩
  · refine ⟨_, .root _, rfl, .inl rfl, ?_⟩
    change (plan.statement _).orderBy.isSome = _
    rw [TablePlan.orderBy_statement, Option.isSome_map]
    exact order
  · obtain ⟨relation, -, made⟩ := bind_eq_ok.mp planned
    obtain ⟨collection, collects, plans⟩ := Resolver.collects_of_child made inSpec member
    obtain ⟨tableAlias, scope, below⟩ := collects.below_statement { orderBy := query.orderBy }
    obtain ⟨single, same⟩ := plans.aggregated tableAlias scope
    exact ⟨_, Statement.node_iff.mpr (.inr (below_represent.mpr below)), rfl, single,
      same.trans order⟩

/-- Every error is that of an aggregated query whose rows are ordered. -/
theorem ordersArray_of_render_eq_error
    (planned : r.plan (Location.root query.name) query.table = .ok plan) {error : SqlError}
    (failed : (query.represent (plan.statement { orderBy := query.orderBy })
      representation).render w = .error error) :
    w.dialect = .mysql ∧ error = .aggregateOrdering .mysql ∧ query.OrdersArray representation := by
  obtain ⟨node, reached, aggregated, value⟩ := Statement.render_eq_error failed
  obtain ⟨single, origin⟩ := aggregated_cases planned reached aggregated
  rw [SqlWriter.aggregateValue_eq_error, if_pos single] at value
  obtain ⟨dialect, ordered, rfl⟩ := value
  exact ⟨dialect, rfl, origin ordered⟩

/-- What is ordered cannot be written for MySQL. -/
theorem OrdersArray.render_fails (ordered : query.OrdersArray representation)
    (planned : r.plan (Location.root query.name) query.table = .ok plan)
    (dialect : w.dialect = .mysql) :
    ∃ error, (query.represent (plan.statement { orderBy := query.orderBy })
      representation).render w = .error error := by
  obtain ⟨node, reached, aggregated, single, order⟩ := exists_aggregated planned ordered
  have refused : w.aggregateValue node = .error (.aggregateOrdering .mysql) := by
    rw [SqlWriter.aggregateValue_eq_error, if_pos single]
    exact ⟨dialect, order, rfl⟩
  cases result : (query.represent (plan.statement { orderBy := query.orderBy })
      representation).render w with
  | error error => exact ⟨error, rfl⟩
  | ok text =>
      obtain ⟨value, written⟩ := reached.aggregateValue_of_render aggregated result
      rw [written] at refused
      cases refused

end Query

/-- **Only MySQL refuses a statement, for the order of an array.** In the other dialects all
statements of a query can be written. In that of MySQL they can be written unless the elements of an
array are ordered, whether it is the single one of the query or one of children, wherever their
table is. Collections of bare values always have one property. -/
theorem rendering_fails_only_for_ordered_arrays (r : Resolver) (query : Query)
    {statements : List (Representation × Statement)}
    (made : query.statements r = .ok statements) {representation : Representation}
    {statement : Statement} (member : (representation, statement) ∈ statements) (w : SqlWriter) :
    (w.dialect ≠ .mysql → ∃ text, statement.render w = .ok text) ∧
    (w.dialect = .mysql →
      ((∃ error, statement.render w = .error error) ↔ query.OrdersArray representation)) ∧
    (∀ error, statement.render w = .error error → error = .aggregateOrdering .mysql) ∧
    ∀ node, statement.Node node → node.aggregate = true → node.objectWrap = false →
      node.select.length = 1 := by
  obtain ⟨plan, planned, rfl⟩ :=
    Query.statement_eq_ok (Query.statement_of_mem_statements made member)
  refine ⟨?_, ?_, ?_, ?_⟩
  · intro other
    cases result : (query.represent (plan.statement { orderBy := query.orderBy })
        representation).render w with
    | ok text => exact ⟨text, rfl⟩
    | error error => exact absurd (Query.ordersArray_of_render_eq_error planned result).1 other
  · intro dialect
    constructor
    · rintro ⟨error, failed⟩
      exact (Query.ordersArray_of_render_eq_error planned failed).2.2
    · intro ordered
      exact ordered.render_fails planned dialect
  · intro error failed
    exact (Query.ordersArray_of_render_eq_error planned failed).2.1
  · intro node reached aggregated bare
    rcases (Query.aggregated_cases planned reached aggregated).1 with wrapped | single
    · rw [bare] at wrapped
      cases wrapped
    · exact single

/-- A compound with the names of all its drugs in their order, which are bare values. -/
def Pharmacy.orderedCompounds : TableSpec :=
  ⟨"compound", none, [.named "entered_by"], [],
    [⟨⟨"drug_names", none, none, none, some true, some "name", none⟩,
      ⟨"drug", none, [.named "name"], [], [], none, none⟩⟩], none, none⟩

/-- Drugs with the ordered children of an inline parent. -/
def Pharmacy.orderedQuery : Query :=
  { drugQuery with
    table := ⟨"drug", none, [.named "name"], [inlineParent none orderedCompounds], [], none, none⟩ }

/-- Both statements can be written for PostgreSQL, and none for MySQL: it does not matter that only
the children of an inline parent are ordered. -/
theorem orderedQuery_rendering :
    ∃ statements, Pharmacy.orderedQuery.statements Pharmacy.resolver = .ok statements ∧
      statements.map Prod.fst = [.jsonObjectRows, .jsonArrayRow] ∧
      ∀ representation statement, (representation, statement) ∈ statements →
        (∃ text, statement.render ⟨.postgres, [], true⟩ = .ok text) ∧
        statement.render ⟨.mysql, [], true⟩ = .error (.aggregateOrdering .mysql) := by
  have representations : (Pharmacy.orderedQuery.statements Pharmacy.resolver).map
      (·.map Prod.fst) = .ok [.jsonObjectRows, .jsonArrayRow] := by
    decide +kernel
  obtain ⟨statements, made, wanted⟩ := map_eq_ok.mp representations
  refine ⟨statements, made, wanted, ?_⟩
  intro representation statement member
  have postgres := rendering_fails_only_for_ordered_arrays Pharmacy.resolver Pharmacy.orderedQuery
    made member ⟨.postgres, [], true⟩
  have mysql := rendering_fails_only_for_ordered_arrays Pharmacy.resolver Pharmacy.orderedQuery
    made member ⟨.mysql, [], true⟩
  have inSpec : Pharmacy.orderedQuery.table.Node
      (Pharmacy.inlineParent none Pharmacy.orderedCompounds).spec :=
    TableSpec.Node.root.parent List.mem_cons_self
  obtain ⟨error, failed⟩ := (mysql.2.1 rfl).mpr
    (.inr ⟨_, inSpec, _, List.mem_cons_self, rfl⟩)
  obtain rfl := mysql.2.2.1 error failed
  exact ⟨postgres.1 (by decide), failed⟩

end NestedQuery
