import NestedQuery.Proofs.Agreement

/-!
# Nullability along inline parents

A property of a result type comes from an entry of some table: of the table itself, or of a table
reached from it through inline parents. What is known of its nullability depends on that entry and
on each of the links on the way, and on nothing else. Whether a link is certain to find a row is
said here of the specification and the schema alone, and both walks are held to it.

## Main Definitions

* `AttachedParent.Guaranteed`: a link under which every row has a parent row
* `Contribution`, `Resolver.contributions`: what a table has properties for, in display order
* `Typed`, `Yields`: the nullability of properties, by where they come from
* `Linked`: a statement whose conditions say which links are certain

## Main Results

* `Resolver.guaranteed_iff`: the check of a link
* `Resolver.lawful_of_planTable`: the properties and the statement of a plan
* `nullability_follows_links`: result types and statements of a query, at every table

## Design Notes

A `Contribution` keeps the whole list of links, so that the law is stated once for chains of any
length. The walks know just one link at a time.
-/

namespace NestedQuery

/-! ### Links -/

/-- A parent and the relation of the table that it belongs to. -/
structure AttachedParent where
  child : Relation
  parent : ParentTable

/-- Every row is certain to have a parent row: there is no condition on the parent's records, and
either the custom match is said to always exist, or there is none and a field of the foreign key
cannot be null. -/
def AttachedParent.Guaranteed (r : Resolver) (link : AttachedParent) : Prop :=
  link.parent.spec.condition = none ∧
    match link.parent.link.customMatch with
    | some custom => custom.alwaysExists = some true
    | none => ∃ target key,
        r.relation? link.parent.spec.table = some target ∧
        r.database.foreignKey? link.child.id target.id link.parent.link.foreignKeyFields =
          .ok (some key) ∧
        ∃ column ∈ key.columns, link.child.Requires column.child

/-! ### Where properties come from -/

/-- The field that an entry of a field list names. -/
def FieldEntry.field? : FieldEntry → Option String
  | named field => some field
  | detailed detail => detail.field

/-- The expression that an entry of a field list holds. -/
def FieldEntry.expression? : FieldEntry → Option String
  | named _ => none
  | detailed detail => detail.expression

/-- The name of the property for an entry of a field list. -/
def FieldEntry.propertyName (r : Resolver) : FieldEntry → String
  | named field => r.propertyName field
  | detailed detail => detail.jsonProperty.getD (r.propertyName (detail.field.getD ""))

/-- The type that an entry of a field list declares for its property. -/
def FieldEntry.sourceType : FieldEntry → Option SourceType
  | named _ => none
  | detailed detail => detail.sourceType

/-- What a table has properties for by itself. -/
inductive OwnEntry where
  | field (entry : FieldEntry)
  | reference (parent : ParentTable)
  | collection (child : ChildTable)

/-- The display order that is asked for. -/
def OwnEntry.displayOrder : OwnEntry → Option UInt32
  | field entry => entry.displayOrder
  | reference parent => parent.link.displayOrder
  | collection child => child.link.displayOrder

/-- What there is a property for: the inline parents that lead to a table, the outermost first, then
the table and its entry. -/
structure Contribution where
  links : List AttachedParent
  table : Relation
  own : OwnEntry

/-- A contribution as seen by a table that has the inline parent. -/
def Contribution.through (link : AttachedParent) (contribution : Contribution) : Contribution :=
  ⟨link :: contribution.links, contribution.table, contribution.own⟩

namespace Resolver

variable (r : Resolver)

mutual

/-- What a table has properties for, in display order. -/
def contributions (relation : Relation) : TableSpec → List Contribution
  | ⟨_, _, fields, parents, children, _, _⟩ =>
    inDisplayOrder (·.own.displayOrder)
      (fields.map (fun entry => ⟨[], relation, .field entry⟩)
        ++ inlineContributions relation parents
        ++ (parents.filter (!·.isInline)).map (fun parent => ⟨[], relation, .reference parent⟩)
        ++ children.map (fun child => ⟨[], relation, .collection child⟩))
termination_by structural spec => spec

/-- What the inline ones of some parents have properties for. -/
def inlineContributions (relation : Relation) : List ParentTable → List Contribution
  | [] => []
  | ⟨link, spec⟩ :: parents =>
    match link.referenceName, r.relation? spec.table with
    | none, some target =>
      (contributions target spec).map (·.through ⟨relation, ⟨link, spec⟩⟩)
        ++ inlineContributions relation parents
    | _, _ => inlineContributions relation parents
termination_by structural parents => parents

end

end Resolver

/-! ### The law for result types -/

mutual

/-- A type of a table has, at each place, the property for what the table has there. -/
inductive Typed (r : Resolver) (query : String) : Relation → TableSpec → ResultType → Prop
  | intro {relation : Relation} {spec : TableSpec} {unwrapped : Bool} {properties : List Property}
      (each : List.Forall₂ (Yields r query) (r.contributions relation spec) properties) :
      Typed r query relation spec
        ⟨query, relation.id, spec.resultTypeName, unwrapped, properties⟩

/-- The property for a contribution. Nested types are typed by themselves, whatever the links that
lead to them. -/
inductive Yields (r : Resolver) (query : String) : Contribution → Property → Prop
  /-- As the schema has it, unless some parent row may be missing. -/
  | field {links : List AttachedParent} {table : Relation} {entry : FieldEntry}
      {written : String} {stored : Field} {nullable : Option Bool}
      (names : entry.field? = some written)
      (found : r.database.field? table written = some stored)
      (certain : (∀ link ∈ links, link.Guaranteed r) → nullable = stored.nullable)
      (missing : (∃ link ∈ links, ¬ link.Guaranteed r) → nullable = some true) :
      Yields r query ⟨links, table, .field entry⟩
        (.field (entry.propertyName r) stored.facts nullable entry.sourceType)
  /-- As the entry has it, whatever the links. -/
  | expression {links : List AttachedParent} {table : Relation} {entry : FieldEntry} {sql : String}
      (holds : entry.expression? = some sql) :
      Yields r query ⟨links, table, .field entry⟩
        (.expression (entry.propertyName r) sql entry.sourceType)
  | reference {links : List AttachedParent} {table target : Relation} {parent : ParentTable}
      {name : String} {type : ResultType} {nullable : Bool}
      (names : parent.link.referenceName = some name)
      (found : r.relation? parent.spec.table = some target)
      (inner : Typed r query target parent.spec type) (whole : type.unwrapped = false)
      (missing : nullable = true ↔
        ¬ AttachedParent.Guaranteed r ⟨table, parent⟩ ∨ ∃ link ∈ links, ¬ link.Guaranteed r) :
      Yields r query ⟨links, table, .reference parent⟩ (.reference name type nullable)
  | collection {links : List AttachedParent} {table target : Relation} {child : ChildTable}
      {element : ResultType} {nullable : Bool}
      (found : r.relation? child.spec.table = some target)
      (inner : Typed r query target child.spec element)
      (bare : element.unwrapped = child.link.unwraps)
      (missing : nullable = true ↔ ∃ link ∈ links, ¬ link.Guaranteed r) :
      Yields r query ⟨links, table, .collection child⟩
        (.collection child.link.collectionName element nullable)

end

/-! ### The law for statements -/

mutual

/-- A statement of a table joins its inline parents in their order, and has an entry for each
property; its conditions tell which links are certain. -/
inductive Linked (r : Resolver) : Relation → TableSpec → Statement → Prop
  | intro {relation : Relation} {spec : TableSpec} {statement : Statement} {aliasName : String}
      {joined : List FromEntry}
      (sources : statement.sources = .table relation.id aliasName :: joined)
      (joins : List.Forall₂ (JoinLinked r) (spec.inlineParents.map (AttachedParent.mk relation))
        joined)
      (entries : List.Forall₂ (EntryLinked r) (r.contributions relation spec) statement.select) :
      Linked r relation spec statement

/-- The join of an inline parent. -/
inductive JoinLinked (r : Resolver) : AttachedParent → FromEntry → Prop
  | intro {link : AttachedParent} {target : Relation} {query : Statement} {aliasName : String}
      {join : MatchCondition} {comment : Option String}
      (found : r.relation? link.parent.spec.table = some target)
      (inner : Linked r target link.parent.spec query)
      (certain : join.guaranteed = true ↔ link.Guaranteed r) :
      JoinLinked r link (.query query aliasName join comment)

/-- The entry for a contribution. -/
inductive EntryLinked (r : Resolver) : Contribution → SelectEntry → Prop
  | field {table : Relation} {entry : FieldEntry} {written : String} {stored : Field}
      {label : EntryLabel} {tableAlias : String} {sourceType : Option SourceType}
      (names : entry.field? = some written)
      (found : r.database.field? table written = some stored) :
      EntryLinked r ⟨[], table, .field entry⟩ (.field label stored tableAlias sourceType)
  | expression {table : Relation} {entry : FieldEntry} {sql placeholder : String}
      {label : EntryLabel} {tableAlias : String} {sourceType : Option SourceType}
      (holds : entry.expression? = some sql) :
      EntryLinked r ⟨[], table, .field entry⟩
        (.expression label sql placeholder tableAlias sourceType)
  /-- What comes through an inline parent is a column of its sub-query. -/
  | inlined {link : AttachedParent} {links : List AttachedParent} {table : Relation}
      {own : OwnEntry} {label : EntryLabel} {parentAlias : String} {relation : RelationId} :
      EntryLinked r ⟨link :: links, table, own⟩ (.inlined label parentAlias relation)
  | reference {table target : Relation} {parent : ParentTable} {label : EntryLabel}
      {query : Statement} {condition : MatchCondition} {others : List WhereEntry}
      (found : r.relation? parent.spec.table = some target)
      (inner : Linked r target parent.spec query)
      (correlated : query.conditions = .matching condition :: others)
      (certain : condition.guaranteed = true ↔ AttachedParent.Guaranteed r ⟨table, parent⟩) :
      EntryLinked r ⟨[], table, .reference parent⟩ (.reference label query)
  /-- A row may have no children. -/
  | collection {table target : Relation} {child : ChildTable} {label : EntryLabel}
      {query : Statement} {condition : MatchCondition} {others : List WhereEntry}
      (found : r.relation? child.spec.table = some target)
      (inner : Linked r target child.spec query)
      (correlated : query.conditions = .matching condition :: others)
      (uncertain : condition.guaranteed = false) :
      EntryLinked r ⟨[], table, .collection child⟩ (.collection label query)

end

/-! ### Links and fields in a plan -/

namespace Resolver

variable {r : Resolver} {location : Location} {relation : Relation}

/-- The check of a link says what it should. -/
theorem guaranteed_iff {target : Relation} {parent : ParentTable} {matching : RowMatch}
    (found : r.relation? parent.spec.table = some target)
    (matched : r.parentMatch location relation target parent.link parent.spec.condition.isSome =
      .ok matching) :
    matching.guaranteed = true ↔ AttachedParent.Guaranteed r ⟨relation, parent⟩ := by
  rw [parentMatch, bind_eq_ok] at matched
  obtain ⟨pairs, linked, equal⟩ := matched
  cases equal
  unfold AttachedParent.Guaranteed
  cases conditioned : parent.spec.condition with
  | some condition => simp [guaranteed]
  | none =>
      cases custom : parent.link.customMatch with
      | some custom => simp [guaranteed, Option.getD_eq_iff]
      | none =>
          rw [custom, linkPairs] at linked
          obtain ⟨key, chosen, rfl⟩ := foreignKeyPairs_eq_ok.mp linked
          show guaranteed relation key.columns none false = true ↔ _
          rw [guaranteed_foreignKey_iff]
          -- The parent and the key are those that were found.
          constructor
          · intro required
            exact ⟨rfl, target, key, found, chosen, required⟩
          · rintro ⟨-, target', key', found', chosen', required⟩
            rw [found] at found'
            cases found'
            rw [chosen] at chosen'
            cases chosen'
            exact required

theorem fieldProperty_eq_ok {written : String} {property : Option String}
    {sourceType : Option SourceType} {displayOrder : Option UInt32} {field : PlannedField}
    (resolved : r.fieldProperty location relation written property sourceType displayOrder =
      .ok field) :
    ∃ stored, r.database.field? relation written = some stored ∧
      field = ⟨property.getD (r.propertyName written), .field stored, sourceType,
        displayOrder⟩ := by
  rw [fieldProperty, Resolver.field] at resolved
  cases found : r.database.field? relation written with
  | none =>
      rw [found] at resolved
      cases resolved
  | some stored =>
      rw [found] at resolved
      exact ⟨stored, rfl, (Except.ok.inj resolved).symm⟩

/-- Where the value of an entry of a field list comes from. -/
theorem fieldEntry_source {entry : FieldEntry} {field : PlannedField}
    (resolved : r.fieldEntry location relation entry = .ok field) :
    entry.displayOrder = field.displayOrder ∧
      match field.source with
      | .field stored => ∃ written, entry.field? = some written ∧
          r.database.field? relation written = some stored
      | .expression sql _ => entry.expression? = some sql := by
  cases entry with
  | named written =>
      obtain ⟨stored, found, rfl⟩ := fieldProperty_eq_ok resolved
      exact ⟨rfl, written, rfl, found⟩
  | detailed detail =>
      obtain ⟨named, expression, property, sourceType, placeholder, displayOrder⟩ := detail
      rw [fieldEntry] at resolved
      split at resolved
      · rename_i written equal none
        obtain ⟨stored, found, rfl⟩ := fieldProperty_eq_ok resolved
        exact ⟨rfl, written, equal, found⟩
      · rename_i sql none equal
        rw [expressionProperty] at resolved
        split at resolved
        · cases resolved
        · cases resolved
        · cases resolved
          exact ⟨rfl, equal⟩
      · cases resolved

/-- The name and the type of the property for an entry of a field list. -/
theorem fieldEntry_label {entry : FieldEntry} {field : PlannedField}
    (resolved : r.fieldEntry location relation entry = .ok field) :
    field.name = entry.propertyName r ∧ field.sourceType = entry.sourceType := by
  cases entry with
  | named written =>
      obtain ⟨stored, -, rfl⟩ := fieldProperty_eq_ok resolved
      exact ⟨rfl, rfl⟩
  | detailed detail =>
      rw [fieldEntry] at resolved
      split at resolved
      · rename_i written named none
        obtain ⟨stored, -, rfl⟩ := fieldProperty_eq_ok resolved
        simp only [FieldEntry.propertyName, FieldEntry.sourceType, named, Option.getD_some,
          true_and]
      · rw [expressionProperty] at resolved
        split at resolved
        · cases resolved
        · cases resolved
        · rename_i name sourceType given declared
          cases resolved
          simp only [FieldEntry.propertyName, FieldEntry.sourceType, given, declared,
            Option.getD_some, true_and]
      · cases resolved

end Resolver

/-! ### Properties and entries, one by one -/

/-- The property for a contribution, with its display order. -/
structure YieldsAt (r : Resolver) (query : String) (contribution : Contribution)
    (property : Option UInt32 × Property) : Prop where
  order : contribution.own.displayOrder = property.1
  yields : Yields r query contribution property.2

/-- The entry for a contribution, with its display order. -/
structure EntryAt (r : Resolver) (contribution : Contribution) (entry : SelectEntry) : Prop where
  order : contribution.own.displayOrder = entry.displayOrder
  linked : EntryLinked r contribution entry

/-- One more link: a property that comes through it is nullable if it was before, or if the link may
find no row. -/
theorem Yields.through {r : Resolver} {query : String} {link : AttachedParent}
    {matching : RowMatch} (certain : matching.guaranteed = true ↔ link.Guaranteed r)
    {contribution : Contribution} {property : Property}
    (yields : Yields r query contribution property) :
    Yields r query (contribution.through link) (matching.lift property) := by
  unfold RowMatch.lift
  by_cases found : matching.guaranteed = true
  · -- The property is as before, and the link adds nothing to what may be missing.
    have here : link.Guaranteed r := certain.mp found
    rw [if_pos found]
    cases yields with
    | field names stored known missing =>
        refine .field names stored (fun all => known ?_) (fun some => missing ?_)
        · intro other member
          exact all other (List.mem_cons_of_mem _ member)
        · simpa [here] using some
    | expression holds => exact .expression holds
    | reference names target inner whole missing =>
        exact .reference names target inner whole (by simpa [here] using missing)
    | collection target inner bare missing =>
        exact .collection target inner bare (by simpa [here] using missing)
  · -- Whatever the other links are, this one may find no row.
    have here : ¬ link.Guaranteed r := fun holds => found (certain.mpr holds)
    have first : ∃ other ∈ link :: contribution.links, ¬ other.Guaranteed r :=
      ⟨link, List.mem_cons_self, here⟩
    rw [if_neg found]
    cases yields with
    | field names stored known missing =>
        refine .field names stored (fun all => ?_) (fun _ => rfl)
        exact absurd (all link List.mem_cons_self) here
    | expression holds => exact .expression holds
    | reference names target inner whole missing =>
        exact .reference names target inner whole (iff_of_true rfl (Or.inr first))
    | collection target inner bare missing =>
        exact .collection target inner bare (iff_of_true rfl first)

theorem PlannedField.yieldsAt {r : Resolver} {location : Location} {relation : Relation}
    {entry : FieldEntry} {field : PlannedField} (query : String)
    (resolved : r.fieldEntry location relation entry = .ok field) :
    YieldsAt r query ⟨[], relation, .field entry⟩ (field.displayOrder, field.property) := by
  obtain ⟨order, source⟩ := Resolver.fieldEntry_source resolved
  obtain ⟨named, typed⟩ := Resolver.fieldEntry_label resolved
  refine ⟨order, ?_⟩
  obtain ⟨name, valueSource, sourceType, displayOrder⟩ := field
  cases named
  cases typed
  cases valueSource with
  | field stored =>
      obtain ⟨written, names, found⟩ := source
      exact .field names found (fun _ => rfl) (by simp)
  | expression sql placeholder => exact .expression source

theorem PlannedField.entryAt {r : Resolver} {location : Location} {relation : Relation}
    {entry : FieldEntry} {field : PlannedField} (aliasName : String)
    (resolved : r.fieldEntry location relation entry = .ok field) :
    EntryAt r ⟨[], relation, .field entry⟩ (field.entry aliasName) := by
  obtain ⟨order, source⟩ := Resolver.fieldEntry_source resolved
  obtain ⟨name, valueSource, sourceType, displayOrder⟩ := field
  cases valueSource with
  | field stored =>
      obtain ⟨written, names, found⟩ := source
      exact ⟨order, .field names found⟩
  | expression sql placeholder => exact ⟨order, .expression source⟩

/-! ### Plans -/

/-- A plan of a table keeps to the law, in its properties and in its statement at any site. -/
structure Lawful (r : Resolver) (relation : Relation) (spec : TableSpec) (plan : TablePlan) :
    Prop where
  base : plan.head.relation = relation.id
  typeName : plan.head.resultTypeName = spec.resultTypeName
  properties : ∀ query, List.Forall₂ (YieldsAt r query) (r.contributions relation spec)
    (plan.properties query)
  entries : ∀ site, List.Forall₂ (EntryAt r) (r.contributions relation spec)
    (plan.statement site).select
  joins : ∀ site, ∃ aliasName joined,
    (plan.statement site).sources = .table relation.id aliasName :: joined ∧
      List.Forall₂ (JoinLinked r) (spec.inlineParents.map (AttachedParent.mk relation)) joined

/-- A parent whose link is checked as it should be and whose plan keeps to the law. -/
structure LawfulParent (r : Resolver) (relation : Relation) (parent : ParentTable)
    (matching : RowMatch) (plan : TablePlan) (target : Relation) : Prop where
  found : r.relation? parent.spec.table = some target
  certain : matching.guaranteed = true ↔ AttachedParent.Guaranteed r ⟨relation, parent⟩
  lawful : Lawful r target parent.spec plan

/-- A referenced parent with a plan that keeps to the law. -/
structure LawfulReference (r : Resolver) (relation : Relation) (parent : ParentTable)
    (reference : Reference) (target : Relation) : Prop extends
    LawfulParent r relation parent reference.link.matching reference.plan target where
  name : parent.link.referenceName = some reference.link.name
  order : parent.link.displayOrder = reference.link.displayOrder

/-- A child with a plan that keeps to the law. -/
structure LawfulChild (r : Resolver) (child : ChildTable) (collection : Collection)
    (target : Relation) : Prop where
  found : r.relation? child.spec.table = some target
  link : collection.link = ⟨child.link.collectionName, collection.link.pairs, child.link.filter,
    child.link.unwraps, child.link.orderBy, child.link.displayOrder⟩
  lawful : Lawful r target child.spec collection.plan

variable {r : Resolver} {relation : Relation} {spec : TableSpec} {plan : TablePlan}

theorem Lawful.typed (lawful : Lawful r relation spec plan) (query : String) (unwrapped : Bool) :
    Typed r query relation spec
      (plan.head.resultType query unwrapped ((plan.properties query).map Prod.snd)) := by
  rw [TableHead.resultType, lawful.base, lawful.typeName]
  refine .intro ?_
  rw [List.forall₂_map_right_iff]
  exact (lawful.properties query).imp fun _ _ property => property.yields

/-- What is done to the statement of a plan besides its sources and entries does not matter. -/
theorem Lawful.linked (lawful : Lawful r relation spec plan) (site : Site) {statement : Statement}
    (same : statement.SameRows (plan.statement site)) : Linked r relation spec statement := by
  obtain ⟨aliasName, joined, equal, joins⟩ := lawful.joins site
  refine .intro (same.sources.trans equal) joins ?_
  rw [same.select]
  exact (lawful.entries site).imp fun _ _ entry => entry.linked

/-! ### Inline parents -/

/-- What an inline parent has properties for, as seen by the table. -/
def Resolver.lifted (r : Resolver) (relation : Relation) (parent : ParentTable) :
    List Contribution :=
  match r.relation? parent.spec.table with
  | some target => (r.contributions target parent.spec).map (·.through ⟨relation, parent⟩)
  | none => []

theorem Resolver.inlineContributions_eq_flatMap (r : Resolver) (relation : Relation)
    (parents : List ParentTable) :
    r.inlineContributions relation parents =
      (parents.filter (·.isInline)).flatMap (r.lifted relation) := by
  induction parents with
  | nil => rfl
  | cons parent parents ih =>
      obtain ⟨link, spec⟩ := parent
      rw [Resolver.inlineContributions, ih]
      cases named : link.referenceName with
      | some name => simp [ParentTable.isInline, named]
      | none =>
          cases found : r.relation? spec.table with
          | none => simp [ParentTable.isInline, named, Resolver.lifted, found]
          | some target => simp [ParentTable.isInline, named, Resolver.lifted, found]

theorem LawfulParent.lifted_eq {parent : ParentTable} {matching : RowMatch} {target : Relation}
    (lawful : LawfulParent r relation parent matching plan target) :
    r.lifted relation parent =
      (r.contributions target parent.spec).map (·.through ⟨relation, parent⟩) := by
  unfold Resolver.lifted
  rw [lawful.found]

theorem InlinedParent.properties_yieldsAt {parents : List ParentTable}
    {inlined : List InlinedParent} (query : String)
    (lawful : List.Forall₂ (fun parent inlined => ∃ target,
      LawfulParent r relation parent inlined.link.matching inlined.plan target) parents inlined) :
    List.Forall₂ (YieldsAt r query) (parents.flatMap (r.lifted relation))
      (InlinedParent.properties query inlined) := by
  induction lawful with
  | nil => exact .nil
  | @cons parent inlined _ _ head _ ih =>
      obtain ⟨link, plan⟩ := inlined
      obtain ⟨target, lawful⟩ := head
      rw [List.flatMap_cons, InlinedParent.properties, lawful.lifted_eq]
      refine List.rel_append ?_ ih
      rw [List.forall₂_map_left_iff, List.forall₂_map_right_iff]
      refine (lawful.lawful.properties query).imp ?_
      intro contribution property here
      exact ⟨here.order, here.yields.through lawful.certain⟩

/-- The entries of inline parents are columns of their sub-queries. -/
theorem InlinedParent.joins_entryAt {parents : List ParentTable} {inlined : List InlinedParent}
    (tableAlias : String) (scope : AliasScope)
    (lawful : List.Forall₂ (fun parent inlined => ∃ target,
      LawfulParent r relation parent inlined.link.matching inlined.plan target) parents inlined) :
    List.Forall₂ (EntryAt r) (parents.flatMap (r.lifted relation))
      (InlinedParent.joins tableAlias scope inlined).entries := by
  induction lawful generalizing scope with
  | nil => exact .nil
  | @cons parent inlined _ _ head _ ih =>
      obtain ⟨link, plan⟩ := inlined
      obtain ⟨target, lawful⟩ := head
      rw [List.flatMap_cons, InlinedParent.joins, lawful.lifted_eq]
      refine List.rel_append ?_ (ih _)
      have columns := lawful.lawful.entries
        (link.site plan.head.linked (scope.insert (link.subqueryAlias.getD (scope.fresh "q"))))
      rw [← List.zipIdx_map_fst 0 (plan.statement _).select, List.forall₂_map_right_iff] at columns
      rw [liftedEntries, List.forall₂_map_left_iff, List.forall₂_map_right_iff]
      exact columns.imp fun _ _ column => ⟨column.order, .inlined⟩

theorem InlinedParent.joins_joinLinked {parents : List ParentTable} {inlined : List InlinedParent}
    (tableAlias : String) (scope : AliasScope)
    (lawful : List.Forall₂ (fun parent inlined => ∃ target,
      LawfulParent r relation parent inlined.link.matching inlined.plan target) parents inlined) :
    List.Forall₂ (JoinLinked r) (parents.map (AttachedParent.mk relation))
      (InlinedParent.joins tableAlias scope inlined).sources := by
  induction lawful generalizing scope with
  | nil => exact .nil
  | @cons parent inlined _ _ head _ ih =>
      obtain ⟨link, plan⟩ := inlined
      obtain ⟨target, lawful⟩ := head
      rw [InlinedParent.joins]
      exact .cons (.intro lawful.found (lawful.lawful.linked _ (.refl _)) lawful.certain) (ih _)

/-! ### References and children -/

theorem Reference.properties_yieldsAt {parents : List ParentTable} {references : List Reference}
    (query : String)
    (lawful : List.Forall₂ (fun parent reference => ∃ target,
      LawfulReference r relation parent reference target) parents references) :
    List.Forall₂ (YieldsAt r query)
      (parents.map fun parent => ⟨[], relation, .reference parent⟩)
      (Reference.properties query references) := by
  induction lawful with
  | nil => exact .nil
  | @cons parent reference _ _ head _ ih =>
      obtain ⟨link, plan⟩ := reference
      obtain ⟨target, lawful⟩ := head
      rw [Reference.properties]
      refine .cons ⟨lawful.order, ?_⟩ ih
      refine .reference lawful.name lawful.found (lawful.lawful.typed query false) rfl ?_
      rw [← lawful.certain]
      simp

theorem Reference.entries_entryAt {parents : List ParentTable} {references : List Reference}
    (tableAlias : String) (scope : AliasScope)
    (lawful : List.Forall₂ (fun parent reference => ∃ target,
      LawfulReference r relation parent reference target) parents references) :
    List.Forall₂ (EntryAt r) (parents.map fun parent => ⟨[], relation, .reference parent⟩)
      (Reference.entries tableAlias scope references) := by
  induction lawful with
  | nil => exact .nil
  | @cons parent reference _ _ head _ ih =>
      obtain ⟨link, plan⟩ := reference
      obtain ⟨target, lawful⟩ := head
      obtain ⟨aliasName, others, correlated⟩ :=
        plan.conditions_statement (link.site tableAlias scope) rfl
      rw [Reference.entries]
      refine .cons ⟨lawful.order, ?_⟩ ih
      exact .reference lawful.found (lawful.lawful.linked (link.site tableAlias scope)
        ⟨rfl, rfl, rfl, rfl, rfl, rfl⟩) correlated lawful.certain

theorem Collection.properties_yieldsAt {children : List ChildTable}
    {collections : List Collection} (query : String) (relation : Relation)
    (lawful : List.Forall₂ (fun child collection => ∃ target,
      LawfulChild r child collection target) children collections) :
    List.Forall₂ (YieldsAt r query)
      (children.map fun child => ⟨[], relation, .collection child⟩)
      (Collection.properties query collections) := by
  induction lawful with
  | nil => exact .nil
  | @cons child collection _ _ head _ ih =>
      obtain ⟨link, plan⟩ := collection
      obtain ⟨target, lawful⟩ := head
      obtain ⟨name, pairs, filter, unwrap, orderBy, displayOrder⟩ := link
      cases lawful.link
      rw [Collection.properties]
      refine .cons ⟨rfl, ?_⟩ ih
      exact .collection lawful.found (lawful.lawful.typed query child.link.unwraps) rfl (by simp)

theorem Collection.entries_entryAt {children : List ChildTable} {collections : List Collection}
    (tableAlias : String) (scope : AliasScope) (relation : Relation)
    (lawful : List.Forall₂ (fun child collection => ∃ target,
      LawfulChild r child collection target) children collections) :
    List.Forall₂ (EntryAt r) (children.map fun child => ⟨[], relation, .collection child⟩)
      (Collection.entries tableAlias scope collections) := by
  induction lawful with
  | nil => exact .nil
  | @cons child collection _ _ head _ ih =>
      obtain ⟨link, plan⟩ := collection
      obtain ⟨target, lawful⟩ := head
      obtain ⟨aliasName, others, correlated⟩ :=
        plan.conditions_statement (link.site tableAlias scope) rfl
      have order : child.link.displayOrder = link.displayOrder := by
        rw [show link = _ from lawful.link]
      rw [Collection.entries]
      refine .cons ⟨order, ?_⟩ ih
      exact .collection lawful.found (lawful.lawful.linked (link.site tableAlias scope)
        ⟨rfl, rfl, rfl, rfl, rfl, rfl⟩) correlated rfl

/-! ### Trees -/

namespace Resolver

variable {location : Location}

/-- The plans of a table keep to the law, wherever they are made. -/
def PlansLawfully (r : Resolver) (spec : TableSpec) : Prop :=
  ∀ location relation plan, r.planTable location relation spec = .ok plan →
    Lawful r relation spec plan

theorem PlanParts.inlined_lawful (parts : PlanParts r location relation spec plan)
    (inner : ∀ parent ∈ spec.parents, r.PlansLawfully parent.spec) :
    List.Forall₂ (fun parent inlined => ∃ target,
      LawfulParent r relation parent inlined.link.matching inlined.plan target)
      spec.inlineParents plan.inlined := by
  have members : ∀ parent ∈ spec.inlineParents, parent ∈ spec.parents :=
    fun _ member => (List.mem_filter.mp member).1
  refine ((List.forall₂_and_left _ _).mpr ⟨members, planInlined_forall₂ parts.inlined⟩).imp ?_
  rintro parent inlined ⟨member, target, resolved⟩
  exact ⟨target, resolved.found, guaranteed_iff resolved.found resolved.matching,
    inner parent member _ _ _ resolved.plan⟩

theorem PlanParts.references_lawful (parts : PlanParts r location relation spec plan)
    (inner : ∀ parent ∈ spec.parents, r.PlansLawfully parent.spec) :
    List.Forall₂ (fun parent reference => ∃ target,
      LawfulReference r relation parent reference target)
      spec.referencedParents plan.references := by
  have members : ∀ parent ∈ spec.referencedParents, parent ∈ spec.parents :=
    fun _ member => (List.mem_filter.mp member).1
  refine ((List.forall₂_and_left _ _).mpr
    ⟨members, planReferences_forall₂ parts.references⟩).imp ?_
  rintro parent reference ⟨member, target, resolved⟩
  exact ⟨target, ⟨resolved.found, guaranteed_iff resolved.found resolved.matching,
    inner parent member _ _ _ resolved.plan⟩, resolved.name, resolved.displayOrder.symm⟩

theorem PlanParts.collections_lawful (parts : PlanParts r location relation spec plan)
    (inner : ∀ child ∈ spec.children, r.PlansLawfully child.spec) :
    List.Forall₂ (fun child collection => ∃ target, LawfulChild r child collection target)
      spec.children plan.collections := by
  refine ((List.forall₂_and_left _ _).mpr
    ⟨fun _ member => member, planCollections_forall₂ parts.collections⟩).imp ?_
  rintro child collection ⟨member, target, resolved⟩
  exact ⟨target, resolved.found, resolved.link, inner child member _ _ _ resolved.plan⟩

/-- The plan of every table keeps to the law. -/
theorem lawful_of_planTable (r : Resolver) (spec : TableSpec) : r.PlansLawfully spec := by
  induction spec using TableSpec.tree_induction with
  | step spec parentsLawful childrenLawful =>
      intro location relation plan planned
      have parts := planTable_parts planned
      have fields := fieldEntries_forall₂ parts.fields
      have inlined := parts.inlined_lawful parentsLawful
      have references := parts.references_lawful parentsLawful
      have collections := parts.collections_lawful childrenLawful
      have base : plan.head.relation = relation.id := congrArg TableHead.relation parts.head
      have typeName := congrArg TableHead.resultTypeName parts.head
      obtain ⟨table, aliasName, entries, parents, children, condition, resultTypeName⟩ := spec
      obtain ⟨head, inlinedPlans, referencePlans, collectionPlans⟩ := plan
      -- Properties and entries are lists of the same four parts, sorted in the same way.
      refine ⟨base, typeName, ?_, ?_, ?_⟩
      · intro query
        rw [contributions, inlineContributions_eq_flatMap, TablePlan.properties]
        refine inDisplayOrder_forall₂ (fun _ _ here => here.order) ?_
        refine List.rel_append (List.rel_append (List.rel_append ?_ ?_) ?_) ?_
        · rw [List.forall₂_map_left_iff, List.forall₂_map_right_iff]
          refine fields.imp ?_
          rintro entry field ⟨here, resolved⟩
          exact field.yieldsAt query resolved
        · exact InlinedParent.properties_yieldsAt query inlined
        · exact Reference.properties_yieldsAt query references
        · exact Collection.properties_yieldsAt query relation collections
      · intro site
        rw [contributions, inlineContributions_eq_flatMap, TablePlan.statement]
        refine inDisplayOrder_forall₂ (fun _ _ here => here.order) ?_
        refine List.rel_append (List.rel_append (List.rel_append ?_ ?_) ?_) ?_
        · rw [List.forall₂_map_left_iff, List.forall₂_map_right_iff]
          refine fields.imp ?_
          rintro entry field ⟨here, resolved⟩
          exact field.entryAt _ resolved
        · exact InlinedParent.joins_entryAt _ _ inlined
        · exact Reference.entries_entryAt _ _ references
        · exact Collection.entries_entryAt _ _ relation collections
      · intro site
        rw [TablePlan.statement, ← base]
        exact ⟨head.aliasIn site.scope, _, rfl, InlinedParent.joins_joinLinked _ _ inlined⟩

end Resolver

/-- **Nullability follows the links.** At every table of a specification, the properties of its type
have the nullability that the schema and the links to their tables ask for, and the conditions of
its statement say which links are certain. So do the first result type and the statements of a
query. -/
theorem nullability_follows_links (r : Resolver) (query : Query) :
    (∀ location relation spec walked,
      r.walkTable (resultTypeFold query.name) location relation () spec = .ok walked →
        Typed r query.name relation spec walked.output) ∧
    (∀ location relation site spec walked,
      r.walkTable statementFold location relation site spec = .ok walked →
        Linked r relation spec walked.output) ∧
    ∀ types, query.table.resultTypes r query.name = .ok types →
      ∃ relation top others, r.relation? query.table.table = some relation ∧
        types = top :: others ∧ Typed r query.name relation query.table top ∧
        ∀ representation statement, query.statement r representation = .ok statement →
          Linked r relation query.table statement := by
  refine ⟨?_, ?_, ?_⟩
  · intro location relation spec walked made
    rw [r.walkTable_resultTypeFold, map_eq_ok] at made
    obtain ⟨plan, planned, rfl⟩ := made
    exact (r.lawful_of_planTable spec _ _ _ planned).typed query.name false
  · intro location relation site spec walked made
    rw [r.walkTable_statementFold, map_eq_ok] at made
    obtain ⟨plan, planned, rfl⟩ := made
    exact (r.lawful_of_planTable spec _ _ _ planned).linked site (.refl _)
  · intro types typed
    rw [TableSpec.resultTypes_eq_plan, map_eq_ok] at typed
    obtain ⟨plan, planned, rfl⟩ := typed
    obtain ⟨relation, found, made⟩ := bind_eq_ok.mp planned
    have lawful := r.lawful_of_planTable query.table _ _ _ made
    refine ⟨relation, _, _, Resolver.table_eq_ok.mp found, rfl, lawful.typed query.name false, ?_⟩
    intro representation statement stated
    obtain ⟨plan', planned', rfl⟩ := Query.statement_eq_ok stated
    rw [planned] at planned'
    cases planned'
    exact lawful.linked _ (query.represent_sameRows _ _)

/-- The drug query: all links are certain but the one from compounds to the analysts who approved
them, so their names are nullable although the schema requires them. -/
theorem drugQuery_nullability_follows_links :
    ∃ relation top others statement,
      Pharmacy.resolver.relation? Pharmacy.drugQuery.table.table = some relation ∧
      Pharmacy.drugQuery.table.resultTypes Pharmacy.resolver Pharmacy.drugQuery.name =
        .ok (top :: others) ∧
      Pharmacy.drugQuery.statement Pharmacy.resolver .jsonObjectRows = .ok statement ∧
      (top.properties.filterMap fun property =>
        match property with
        | .field name _ nullable _ => some (name, nullable)
        | _ => none) =
          [("name", some false), ("therapeutic_indications", none), ("entered_by", some false),
            ("short_name", some true)] ∧
      Typed Pharmacy.resolver Pharmacy.drugQuery.name relation Pharmacy.drugQuery.table top ∧
      Linked Pharmacy.resolver relation Pharmacy.drugQuery.table statement := by
  have fields : (Pharmacy.drugQuery.table.resultTypes Pharmacy.resolver
      Pharmacy.drugQuery.name).map (·.map fun type => type.properties.filterMap fun property =>
        match property with
        | .field name _ nullable _ => some (name, nullable)
        | _ => none) =
      .ok [[("name", some false), ("therapeutic_indications", none), ("entered_by", some false),
        ("short_name", some true)], [("short_name", some false)],
        [("text", some false), ("name", some false)]] := by
    decide +kernel
  have names : (Pharmacy.drugQuery.statement Pharmacy.resolver .jsonObjectRows).map (·.names) =
      .ok ["name", "registered_by", "therapeutic_indications", "entered_by", "short_name",
        "advisories", "brands"] := by
    decide +kernel
  obtain ⟨types, typed, nullable⟩ := map_eq_ok.mp fields
  obtain ⟨statement, stated, -⟩ := map_eq_ok.mp names
  obtain ⟨relation, top, others, found, rfl, law, linked⟩ :=
    (nullability_follows_links Pharmacy.resolver Pharmacy.drugQuery).2.2 types typed
  exact ⟨relation, top, others, statement, found, typed, stated, (List.cons.inj nullable).1, law,
    linked _ statement stated⟩

end NestedQuery
