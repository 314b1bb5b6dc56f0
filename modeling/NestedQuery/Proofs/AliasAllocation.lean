import NestedQuery.Proofs.Agreement
import NestedQuery.Proofs.FreshName
import NestedQuery.Proofs.StatementParts
import NestedQuery.Spec.Pharmacy

/-!
# Automatic aliases do not capture

A table or a joined sub-query that is given no alias gets one that is not in the scope at that
moment. The scope grows by one alias for the base table and by one for each join, and it is handed
down and never back: what matters is therefore how it is related to the aliases that can be seen
from a place in the finished statement. Here the scope is rebuilt from the statement and its
specification.

## Main Definitions

* `TableSpec.explicitAliases`: the aliases that a specification gives
* `Allocates`, `IsAutomatic`: how a single alias comes about
* `Allocated`: how all aliases of a statement come about, each in its scope
* `Uncaptured`: no alias of a statement hides another one

## Main Results

* `Resolver.allocated_of_planTable`: the statements that a resolver makes
* `Allocated.uncaptured`: without explicit aliases nothing is hidden
* `automatic_aliases_never_capture`: the statements of a query
-/

namespace NestedQuery

/-! ### Explicit aliases -/

mutual

/-- The aliases that a specification gives, to tables and to the sub-queries of parents. -/
def TableSpec.explicitAliases : TableSpec → List String
  | ⟨_, aliasName, _, parents, children, _, _⟩ =>
    aliasName.toList ++ ParentTable.explicitAliasesAll parents
      ++ ChildTable.explicitAliasesAll children
termination_by structural spec => spec

/-- The aliases that some parents give. -/
def ParentTable.explicitAliasesAll : List ParentTable → List String
  | [] => []
  | ⟨link, spec⟩ :: parents =>
    link.subqueryAlias.toList ++ spec.explicitAliases ++ ParentTable.explicitAliasesAll parents
termination_by structural parents => parents

/-- The aliases that some children give. -/
def ChildTable.explicitAliasesAll : List ChildTable → List String
  | [] => []
  | ⟨_, spec⟩ :: children => spec.explicitAliases ++ ChildTable.explicitAliasesAll children
termination_by structural children => children

end

/-- The aliases that a parent gives. -/
def ParentTable.explicitAliases (parent : ParentTable) : List String :=
  parent.link.subqueryAlias.toList ++ parent.spec.explicitAliases

theorem ParentTable.explicitAliasesAll_eq_flatMap (parents : List ParentTable) :
    ParentTable.explicitAliasesAll parents = parents.flatMap (·.explicitAliases) := by
  induction parents with
  | nil => rfl
  | cons parent parents ih =>
      obtain ⟨link, spec⟩ := parent
      rw [ParentTable.explicitAliasesAll, ih, List.flatMap_cons]
      rfl

theorem ChildTable.explicitAliasesAll_eq_flatMap (children : List ChildTable) :
    ChildTable.explicitAliasesAll children = children.flatMap (·.spec.explicitAliases) := by
  induction children with
  | nil => rfl
  | cons child children ih =>
      obtain ⟨link, spec⟩ := child
      rw [ChildTable.explicitAliasesAll, ih, List.flatMap_cons]

/-- The aliases that a specification gives: its own, then those of the tables around it. -/
theorem TableSpec.explicitAliases_eq (spec : TableSpec) :
    spec.explicitAliases = spec.aliasName.toList ++
      (spec.parents.flatMap (·.explicitAliases) ++
        spec.children.flatMap (·.spec.explicitAliases)) := by
  obtain ⟨table, aliasName, fields, parents, children, condition, resultTypeName⟩ := spec
  rw [TableSpec.explicitAliases, ParentTable.explicitAliasesAll_eq_flatMap,
    ChildTable.explicitAliasesAll_eq_flatMap, List.append_assoc]

/-- Nothing is given by a specification just if nothing is given by any of its parts. -/
theorem TableSpec.explicitAliases_eq_nil {spec : TableSpec} :
    spec.explicitAliases = [] ↔ spec.aliasName = none ∧
      (∀ parent ∈ spec.parents, parent.link.subqueryAlias = none ∧
        parent.spec.explicitAliases = []) ∧
      ∀ child ∈ spec.children, child.spec.explicitAliases = [] := by
  rw [spec.explicitAliases_eq]
  simp [ParentTable.explicitAliases]

/-! ### Allocation -/

/-- What automatic aliases begin with: the initials of a table, or a letter for a sub-query. -/
inductive AutomaticBase : String → Prop
  | table (name : String) : AutomaticBase (Text.initials name ++ "_")
  | subquery : AutomaticBase "q"

/-- An alias of the form that is chosen if none is given, with or without a number. -/
def IsAutomatic (aliasName : String) : Prop :=
  ∃ base, AutomaticBase base ∧ (aliasName = base ∨ ∃ i, aliasName = Text.numbered base "" i)

/-- How an alias comes about in a scope: it is the one that is given, and if none is given it is an
automatic one that the scope does not have. -/
inductive Allocates (scope : AliasScope) : Option String → String → Prop
  | given (aliasName : String) : Allocates scope (some aliasName) aliasName
  | fresh {aliasName : String} (automatic : IsAutomatic aliasName)
      (free : scope.contains aliasName = false) : Allocates scope none aliasName

mutual

/-- How the aliases of the statement of a table come about, in the scope that it is handed: first
that of the table, then those of the sub-queries joined to it. Queries in the select list are handed
the scope with all of these. -/
inductive Allocated : AliasScope → TableSpec → Statement → Prop
  | intro {scope inner : AliasScope} {spec : TableSpec} {statement : Statement}
      {relation : RelationId} {aliasName : String} {joined : List FromEntry}
      (sources : statement.sources = .table relation aliasName :: joined)
      (base : Allocates scope spec.aliasName aliasName)
      (joins : AllocatedJoins (scope.insert aliasName) spec.inlineParents joined inner)
      (entries : ∀ entry ∈ statement.select, AllocatedEntry inner spec entry) :
      Allocated scope spec statement

/-- How the aliases of joined sub-queries come about, one after the other. A sub-query is handed the
scope with its own alias; what is left in the end is the scope with all of them. -/
inductive AllocatedJoins :
    AliasScope → List ParentTable → List FromEntry → AliasScope → Prop
  | nil {scope : AliasScope} : AllocatedJoins scope [] [] scope
  | cons {scope inner : AliasScope} {parent : ParentTable} {parents : List ParentTable}
      {query : Statement} {aliasName : String} {join : MatchCondition} {comment : Option String}
      {joined : List FromEntry} (here : Allocates scope parent.link.subqueryAlias aliasName)
      (within : Allocated (scope.insert aliasName) parent.spec query)
      (rest : AllocatedJoins (scope.insert aliasName) parents joined inner) :
      AllocatedJoins scope (parent :: parents) (.query query aliasName join comment :: joined)
        inner

/-- How the aliases come about in the query of an entry, if it has one. -/
inductive AllocatedEntry : AliasScope → TableSpec → SelectEntry → Prop
  | field {scope : AliasScope} {spec : TableSpec} {label : EntryLabel} {stored : Field}
      {tableAlias : String} {sourceType : Option SourceType} :
      AllocatedEntry scope spec (.field label stored tableAlias sourceType)
  | expression {scope : AliasScope} {spec : TableSpec} {label : EntryLabel}
      {sql placeholder tableAlias : String} {sourceType : Option SourceType} :
      AllocatedEntry scope spec (.expression label sql placeholder tableAlias sourceType)
  | inlined {scope : AliasScope} {spec : TableSpec} {label : EntryLabel} {parentAlias : String}
      {relation : RelationId} : AllocatedEntry scope spec (.inlined label parentAlias relation)
  | reference {scope : AliasScope} {spec : TableSpec} {label : EntryLabel} {query : Statement}
      {parent : ParentTable} (member : parent ∈ spec.referencedParents)
      (name : parent.link.referenceName = some label.name)
      (within : Allocated scope parent.spec query) :
      AllocatedEntry scope spec (.reference label query)
  | collection {scope : AliasScope} {spec : TableSpec} {label : EntryLabel} {query : Statement}
      {child : ChildTable} (member : child ∈ spec.children)
      (name : child.link.collectionName = label.name)
      (within : Allocated scope child.spec query) :
      AllocatedEntry scope spec (.collection label query)

end

/-- How the rows of a statement are returned has no part in its aliases. -/
theorem Allocated.congr {scope : AliasScope} {spec : TableSpec} {statement other : Statement}
    (allocated : Allocated scope spec statement) (same : other.SameRows statement) :
    Allocated scope spec other := by
  obtain ⟨base, chosen, joins, entries⟩ := allocated
  refine .intro (same.sources.trans base) chosen joins ?_
  rw [same.select]
  exact entries

theorem AliasScope.isAutomatic_fresh (scope : AliasScope) {base : String}
    (automatic : AutomaticBase base) : IsAutomatic (scope.fresh base) := by
  unfold AliasScope.fresh
  rcases Text.freshName_cases base "" scope.aliases with ⟨-, equal⟩ | ⟨i, -, equal⟩
  · exact ⟨base, automatic, .inl equal⟩
  · exact ⟨base, automatic, .inr ⟨i, equal⟩⟩

/-- The alias that is given, or else a fresh one with an automatic base. -/
theorem AliasScope.allocates_getD (scope : AliasScope) (given : Option String) {base : String}
    (automatic : AutomaticBase base) : Allocates scope given (given.getD (scope.fresh base)) := by
  cases given with
  | some aliasName => exact .given aliasName
  | none => exact .fresh (scope.isAutomatic_fresh automatic) (scope.contains_fresh base)

/-! ### Plans -/

/-- The aliases in the statements of a table come about as they should, wherever they stand. -/
def Resolver.AllocatesAnywhere (r : Resolver) (spec : TableSpec) : Prop :=
  ∀ location relation plan site, r.planTable location relation spec = .ok plan →
    Allocated site.scope spec (plan.statement site)

theorem InlinedParent.joins_allocated {r : Resolver} {location : Location} {relation : Relation}
    {parents : List ParentTable} {inlined : List InlinedParent}
    (allocates : ∀ parent ∈ parents, r.AllocatesAnywhere parent.spec)
    (planned : List.Forall₂ (fun parent inlined => ∃ target,
      Resolver.PlansInline r location relation parent inlined target) parents inlined)
    (tableAlias : String) (scope : AliasScope) :
    AllocatedJoins scope parents (joins tableAlias scope inlined).sources
      (joins tableAlias scope inlined).scope := by
  induction planned generalizing scope with
  | nil => exact .nil
  | @cons parent inlined parents _ head _ ih =>
      obtain ⟨target, resolved⟩ := head
      have rest := ih (fun other member => allocates other (List.mem_cons_of_mem _ member))
        (scope.insert (inlined.aliasIn scope))
      have here : Allocates scope parent.link.subqueryAlias (inlined.aliasIn scope) := by
        rw [← resolved.subqueryAlias]
        exact scope.allocates_getD _ .subquery
      rw [InlinedParent.joins_cons]
      refine .cons here ?_ rest
      exact allocates parent List.mem_cons_self _ _ _
        (inlined.link.site inlined.plan.head.linked _) resolved.plan

/-- **Aliases come about in their scopes**, at every table of a specification. -/
theorem Resolver.allocated_of_planTable (r : Resolver) (spec : TableSpec) :
    r.AllocatesAnywhere spec := by
  induction spec using TableSpec.tree_induction with
  | step spec parentsAllocate childrenAllocate =>
      intro location relation plan site planned
      have parts := planTable_parts planned
      have inlineAllocate : ∀ parent ∈ spec.inlineParents, r.AllocatesAnywhere parent.spec :=
        fun parent member => parentsAllocate parent (List.mem_filter.mp member).1
      have base : Allocates site.scope spec.aliasName (plan.baseAlias site) := by
        have given : plan.head.aliasName = spec.aliasName :=
          congrArg TableHead.aliasName parts.head
        rw [← given]
        exact site.scope.allocates_getD _ (.table _)
      have joins := InlinedParent.joins_allocated inlineAllocate (planInlined_forall₂ parts.inlined)
        (plan.baseAlias site) (site.scope.insert (plan.baseAlias site))
      refine .intro (plan.sources_statement site) base joins ?_
      intro entry member
      rcases TablePlan.mem_select_statement.mp member with
        ⟨field, -, rfl⟩ | lifted | ⟨reference, inPlan, rfl⟩ | ⟨collection, inPlan, rfl⟩
      · unfold PlannedField.entry
        cases field.source with
        | field stored => exact .field
        | expression sql placeholder => exact .expression
      · obtain ⟨parent, -, scope, inLifted, -⟩ := InlinedParent.mem_joins_entries lifted
        obtain ⟨label, -, rfl⟩ := mem_liftedEntries inLifted
        exact .inlined
      · obtain ⟨parent, inSpec, target, resolved⟩ :=
          forall₂_mem_right (planReferences_forall₂ parts.references) inPlan
        have within := parentsAllocate parent (List.mem_filter.mp inSpec).1 _ _ _
          (reference.link.site (plan.baseAlias site) (plan.joins site).scope) resolved.plan
        exact .reference inSpec resolved.name (within.congr ⟨rfl, rfl, rfl, rfl, rfl, rfl⟩)
      · obtain ⟨child, inSpec, target, resolved⟩ :=
          forall₂_mem_right (planCollections_forall₂ parts.collections) inPlan
        have within := childrenAllocate child inSpec _ _ _
          (collection.link.site (plan.baseAlias site) (plan.joins site).scope) resolved.plan
        have name : child.link.collectionName = collection.link.name :=
          (congrArg CollectionLink.name resolved.link).symm
        exact .collection inSpec name (within.congr ⟨rfl, rfl, rfl, rfl, rfl, rfl⟩)

/-! ### Visibility -/

/-- No alias of a statement hides another one, given those that can be seen from where it stands.
The aliases of its sources differ from each other and from those that can be seen. From the select
list all of its sources can be seen; from a joined sub-query, the base table, the sub-queries
joined before, and the alias of the sub-query itself. -/
inductive Uncaptured : List String → Statement → Prop
  | intro {visible : List String} {statement : Statement}
      (distinct : (statement.sources.map (·.aliasName)).Nodup)
      (free : ∀ source ∈ statement.sources, source.aliasName ∉ visible)
      (joined : ∀ before query aliasName join comment after,
        statement.sources = before ++ .query query aliasName join comment :: after →
          Uncaptured (visible ++ before.map (·.aliasName) ++ [aliasName]) query)
      (references : ∀ label query, .reference label query ∈ statement.select →
        Uncaptured (visible ++ statement.sources.map (·.aliasName)) query)
      (collections : ∀ label query, .collection label query ∈ statement.select →
        Uncaptured (visible ++ statement.sources.map (·.aliasName)) query) :
      Uncaptured visible statement

/-- All of the aliases are in the scope. -/
def AliasScope.Holds (scope : AliasScope) (visible : List String) : Prop :=
  ∀ aliasName ∈ visible, scope.contains aliasName = true

/-- The aliases are different and none of them is in the scope. -/
def AliasScope.Avoids (scope : AliasScope) (aliases : List String) : Prop :=
  aliases.Nodup ∧ ∀ aliasName ∈ aliases, scope.contains aliasName = false

namespace AliasScope

variable {scope : AliasScope} {visible aliases : List String}

theorem Holds.insert (holds : scope.Holds visible) (aliasName : String) :
    (scope.insert aliasName).Holds (visible ++ [aliasName]) := by
  intro other member
  rw [contains_insert]
  rcases List.mem_append.mp member with old | new
  · exact .inr (holds other old)
  · exact .inl (List.mem_singleton.mp new)

/-- Aliases that are chosen one by one, each put into the scope before the next, are different. -/
theorem Avoids.cons {aliasName : String} (free : scope.contains aliasName = false)
    (later : (scope.insert aliasName).Avoids aliases) : scope.Avoids (aliasName :: aliases) := by
  obtain ⟨distinct, unused⟩ := later
  have outside : ∀ other ∈ aliases, other ≠ aliasName ∧ scope.contains other = false := by
    intro other member
    have absent := unused other member
    rw [Bool.eq_false_iff, Ne, contains_insert, not_or] at absent
    exact ⟨absent.1, Bool.eq_false_iff.mpr absent.2⟩
  constructor
  · refine List.nodup_cons.mpr ⟨?_, distinct⟩
    intro repeated
    exact (outside aliasName repeated).1 rfl
  · intro other member
    rcases List.mem_cons.mp member with rfl | old
    · exact free
    · exact (outside other old).2

theorem Avoids.not_mem_visible (avoids : scope.Avoids aliases) (holds : scope.Holds visible)
    {aliasName : String} (member : aliasName ∈ aliases) : aliasName ∉ visible := by
  intro seen
  have absent := avoids.2 aliasName member
  rw [holds aliasName seen] at absent
  cases absent

end AliasScope

theorem Allocates.free {scope : AliasScope} {aliasName : String}
    (allocates : Allocates scope none aliasName) : scope.contains aliasName = false := by
  cases allocates with
  | fresh _ free => exact free

namespace AllocatedJoins

variable {scope inner : AliasScope} {parents : List ParentTable} {joined : List FromEntry}

/-- In the end the scope has the aliases that it had and those of the joined sub-queries. -/
theorem holds_inner (joins : AllocatedJoins scope parents joined inner) {visible : List String}
    (holds : scope.Holds visible) : inner.Holds (visible ++ joined.map (·.aliasName)) := by
  induction parents generalizing scope joined visible with
  | nil =>
      cases joins
      rw [List.map_nil, List.append_nil]
      exact holds
  | cons parent parents ih =>
      cases joins with
      | @cons _ _ _ _ query aliasName _ _ joined _ _ rest =>
          have later := ih rest (holds.insert aliasName)
          rw [List.append_assoc] at later
          exact later

/-- Sub-queries that are given no alias get different ones, none of which was in the scope. -/
theorem avoids (joins : AllocatedJoins scope parents joined inner)
    (automatic : ∀ parent ∈ parents, parent.link.subqueryAlias = none) :
    scope.Avoids (joined.map (·.aliasName)) := by
  induction parents generalizing scope joined with
  | nil =>
      cases joins
      exact ⟨List.nodup_nil, fun _ none => nomatch none⟩
  | cons parent parents ih =>
      cases joins with
      | cons here _ rest =>
          have later := ih rest fun other member => automatic other (List.mem_cons_of_mem _ member)
          rw [automatic parent List.mem_cons_self] at here
          exact .cons here.free later

/-- Nothing is hidden in joined sub-queries, if nothing is hidden in each by itself. -/
theorem uncaptured (joins : AllocatedJoins scope parents joined inner)
    (each : ∀ parent ∈ parents, ∀ within visible query, Allocated within parent.spec query →
      within.Holds visible → Uncaptured visible query) {visible : List String}
    (holds : scope.Holds visible) {before after : List FromEntry} {query : Statement}
    {aliasName : String} {join : MatchCondition} {comment : Option String}
    (split : joined = before ++ .query query aliasName join comment :: after) :
    Uncaptured (visible ++ before.map (·.aliasName) ++ [aliasName]) query := by
  induction parents generalizing scope joined visible before with
  | nil =>
      cases joins
      simp at split
  | cons parent parents ih =>
      cases joins with
      | @cons _ _ _ _ first firstAlias _ _ joined _ within rest =>
          cases before with
          | nil =>
              cases split
              rw [List.map_nil, List.append_nil]
              exact each parent List.mem_cons_self _ _ _ within (holds.insert aliasName)
          | cons source before =>
              obtain ⟨rfl, remaining⟩ := List.cons.inj split
              have later := ih rest
                (fun other member => each other (List.mem_cons_of_mem _ member))
                (holds.insert firstAlias) remaining
              rw [List.append_assoc visible] at later
              exact later

end AllocatedJoins

/-- **Without explicit aliases nothing is hidden.** -/
theorem Allocated.uncaptured (spec : TableSpec) :
    ∀ scope visible statement, Allocated scope spec statement → scope.Holds visible →
      spec.explicitAliases = [] → Uncaptured visible statement := by
  induction spec using TableSpec.tree_induction with
  | step spec parentsUncaptured childrenUncaptured =>
      intro scope visible statement allocated holds automatic
      obtain ⟨own, parents, children⟩ := TableSpec.explicitAliases_eq_nil.mp automatic
      cases allocated with
      | @intro _ inner _ _ relation aliasName joined sources base joins entries =>
          rw [own] at base
          have within : (scope.insert aliasName).Holds (visible ++ [aliasName]) :=
            holds.insert aliasName
          have avoids : scope.Avoids (statement.sources.map (·.aliasName)) := by
            rw [sources]
            exact .cons base.free <| joins.avoids fun parent member =>
              (parents parent (List.mem_filter.mp member).1).1
          have seen : inner.Holds (visible ++ statement.sources.map (·.aliasName)) := by
            have all := joins.holds_inner within
            rw [List.append_assoc] at all
            rw [sources]
            exact all
          refine .intro avoids.1 ?_ ?_ ?_ ?_
          · intro source member
            exact avoids.not_mem_visible holds (List.mem_map_of_mem member)
          · intro before query subqueryAlias join comment after split
            rw [sources] at split
            cases before with
            | nil => cases split
            | cons table before =>
                obtain ⟨rfl, remaining⟩ := List.cons.inj split
                have each : ∀ parent ∈ spec.inlineParents, ∀ inScope seen query,
                    Allocated inScope parent.spec query → inScope.Holds seen →
                      Uncaptured seen query := by
                  intro parent member inScope seen query allocatedThere holdsThere
                  have inSpec := (List.mem_filter.mp member).1
                  exact parentsUncaptured parent inSpec _ _ _ allocatedThere holdsThere
                    (parents parent inSpec).2
                have inJoin := joins.uncaptured each within remaining
                rw [List.append_assoc visible] at inJoin
                exact inJoin
          · intro label query member
            cases entries _ member with
            | @reference _ _ _ _ parent inSpec name allocatedThere =>
                have inParents := (List.mem_filter.mp inSpec).1
                exact parentsUncaptured parent inParents _ _ _ allocatedThere seen
                  (parents parent inParents).2
          · intro label query member
            cases entries _ member with
            | @collection _ _ _ _ child inSpec name allocatedThere =>
                exact childrenUncaptured child inSpec _ _ _ allocatedThere seen
                  (children child inSpec)

/-! ### Queries -/

/-- The aliases of the statements of a query come about in scopes that begin empty. -/
theorem Query.allocated_of_statements {r : Resolver} {query : Query}
    {statements : List (Representation × Statement)} (made : query.statements r = .ok statements)
    {representation : Representation} {statement : Statement}
    (member : (representation, statement) ∈ statements) :
    Allocated .empty query.table statement := by
  obtain ⟨plan, planned, rfl⟩ :=
    Query.statement_eq_ok (Query.statement_of_mem_statements made member)
  obtain ⟨relation, -, tablePlanned⟩ := bind_eq_ok.mp planned
  have allocated := r.allocated_of_planTable query.table _ relation plan
    { orderBy := query.orderBy } tablePlanned
  exact allocated.congr (query.represent_sameRows _ _)

/-- **Automatic aliases never capture.** In the statements of any query, an alias that is not given
differs from all aliases of the scope in which it is chosen, given or not. If the query gives none
at all, then the sources of each statement and sub-query have different aliases, and none of them
is an alias that can be seen from there. -/
theorem automatic_aliases_never_capture (r : Resolver) (query : Query)
    {statements : List (Representation × Statement)}
    (made : query.statements r = .ok statements) :
    ∀ representation statement, (representation, statement) ∈ statements →
      Allocated .empty query.table statement ∧
        (query.table.explicitAliases = [] → Uncaptured [] statement) := by
  intro representation statement member
  have allocated := Query.allocated_of_statements made member
  refine ⟨allocated, ?_⟩
  intro automatic
  exact Allocated.uncaptured query.table _ [] statement allocated (fun _ none => nomatch none)
    automatic

/-- The drug query gives no alias. Analysts occur twice in it: once below the compounds that are
joined to a drug, and once in the select list. -/
theorem drugQuery_aliases_never_capture :
    Pharmacy.drugQuery.table.explicitAliases = [] ∧
    ∃ statements, Pharmacy.drugQuery.statements Pharmacy.resolver = .ok statements ∧
      statements.map Prod.fst = [.jsonObjectRows, .jsonArrayRow] ∧
      ∀ representation statement, (representation, statement) ∈ statements →
        Allocated .empty Pharmacy.drugQuery.table statement ∧ Uncaptured [] statement := by
  have automatic : Pharmacy.drugQuery.table.explicitAliases = [] := by decide
  obtain ⟨statements, made, wanted⟩ := Pharmacy.statements_drugQuery
  refine ⟨automatic, statements, made, wanted, ?_⟩
  intro representation statement member
  obtain ⟨allocated, uncaptured⟩ := automatic_aliases_never_capture Pharmacy.resolver
    Pharmacy.drugQuery made representation statement member
  exact ⟨allocated, uncaptured automatic⟩

end NestedQuery
