import NestedQuery.Proofs.Agreement
import NestedQuery.Proofs.DeclaredTypes
import NestedQuery.Proofs.Transfer

/-!
# How names are spelled does not matter

The names in a specification may be folded, quoted or qualified in many ways. Here they are replaced
by one spelling of what they stand for: tables by their schema and name between quotes, the columns
of links by their stored name between quotes. The result types stay the same, and so do the
statements up to their comments, under every default schema. Wherever a statement or a type is made
from the written name instead of the relation, this would fail.

## Main Definitions

* `RelationId.quoted`: a relation id as a qualified name between quotes
* `Resolver.canonical`, `Query.canonical`: the spelling by quoted stored names
* `Statement.withoutComments`: a statement without the comments on its parts, at every level

## Main Results

* `QualifiedName.split_quoted`: quotes protect the parts of a qualified name
* `TablePlan.resultType_respell`, `TablePlan.withoutComments_statement_respell`: what is made of a
  plan
* `spelling_of_names_is_irrelevant`: queries with canonical spelling
-/

namespace NestedQuery

/-! ### Quoted names -/

namespace QualifiedName

/-- Within quotes nothing is cut off until they are closed. -/
theorem pieces_open {cs rest piece : List Char} {others : List (List Char)}
    (plain : '"' ∉ cs) (after : pieces false rest = piece :: others) :
    pieces true (cs ++ '"' :: rest) = (cs ++ '"' :: piece) :: others := by
  induction cs with
  | nil => simp [pieces, after]
  | cons c cs ih =>
      rw [List.mem_cons, not_or] at plain
      have other : c ≠ '"' := fun same => plain.1 same.symm
      simp [pieces, other, ih plain.2]

/-- A quoted part stays in one piece. -/
theorem pieces_quote {name : String} {rest piece : List Char} {others : List (List Char)}
    (plain : '"' ∉ name.toList) (after : pieces false rest = piece :: others) :
    pieces false ((Name.quote name).toList ++ rest) =
      ((Name.quote name).toList ++ piece) :: others := by
  have closed := pieces_open plain after
  simp [Name.toList_quote, pieces, closed]

/-- **Quotes protect the parts of a qualified name.** -/
theorem split_quoted {schema name : String} (plainSchema : '"' ∉ schema.toList)
    (plainName : '"' ∉ name.toList) :
    split (Name.quote schema ++ "." ++ Name.quote name) =
      some ⟨some (Name.quote schema), Name.quote name⟩ := by
  have nonempty : ∀ part, Name.quote part ≠ "" := by
    intro part empty
    have characters := congrArg String.toList empty
    simp [Name.toList_quote] at characters
  have last : pieces false (Name.quote name).toList = [(Name.quote name).toList] := by
    have alone := @pieces_quote name [] [] [] plainName rfl
    rwa [List.append_nil] at alone
  have cut : pieces false (Name.quote schema ++ "." ++ Name.quote name).toList =
      [(Name.quote schema).toList, (Name.quote name).toList] := by
    have dot : pieces false ('.' :: (Name.quote name).toList) =
        [] :: [(Name.quote name).toList] := by
      simp [pieces, last]
    simpa using pieces_quote plainSchema dot
  exact split_eq_some.mpr (.inr ⟨_, rfl, cut, nonempty _, nonempty _⟩)

end QualifiedName

/-! ### Canonical spelling -/

/-- A relation id as a qualified name between quotes. -/
def RelationId.quoted (id : RelationId) : String :=
  match id.schema with
  | some schema => Name.quote schema ++ "." ++ Name.quote id.name
  | none => Name.quote id.name

/-- There are no quotes in a schema or relation name. -/
def RelationId.Unquoted (id : RelationId) : Prop :=
  '"' ∉ id.name.toList ∧ ∀ schema ∈ id.schema, '"' ∉ schema.toList

instance (id : RelationId) : Decidable id.Unquoted := inferInstanceAs (Decidable (_ ∧ _))

/-- Tables are named by the relations that they stand for, columns by their stored names. -/
def Resolver.canonical (r : Resolver) : Spelling where
  table written :=
    match r.relation? written with
    | some relation => relation.id.quoted
    | none => written
  column written := Name.quote (r.database.exact written)

/-- A query with the names in it spelled canonically. -/
def Query.canonical (r : Resolver) (query : Query) : Query :=
  { query with table := query.table.respell r.canonical }

namespace Resolver

/-- The id of a relation that is found for a name has a schema. -/
theorem schema_of_relation? {r : Resolver} {written : String} {relation : Relation}
    (found : r.relation? written = some relation) : ∃ schema, relation.id.schema = some schema := by
  rcases relation?_eq_some.mp found with ⟨_, _, _, inDatabase⟩ | ⟨_, _, _, inDatabase⟩
  · exact ⟨_, congrArg RelationId.schema (Database.id_of_relation? inDatabase)⟩
  · exact ⟨_, congrArg RelationId.schema (Database.id_of_relation? inDatabase)⟩

/-- A relation is found by its quoted name, under every default schema. -/
theorem relation?_quoted {r : Resolver} {written : String} {relation : Relation}
    (found : r.relation? written = some relation) (unquoted : relation.id.Unquoted)
    (defaultSchema : Option String) :
    ({ r with defaultSchema := defaultSchema } : Resolver).relation? relation.id.quoted =
      some relation := by
  obtain ⟨schema, ofSchema⟩ := schema_of_relation? found
  have written' : relation.id.quoted = Name.quote schema ++ "." ++ Name.quote relation.id.name := by
    rw [RelationId.quoted, ofSchema]
  have read := QualifiedName.split_quoted (unquoted.2 schema ofSchema) unquoted.1
  have id : (⟨some schema, relation.id.name⟩ : RelationId) = relation.id := by
    rw [← ofSchema]
  unfold Resolver.relation? Database.relationId
  rw [written', read]
  simp only [Option.some_or, Option.map_some, Database.exact, CasePolicy.exact_quote, id,
    Option.isSome_some, if_true]
  exact relation?_id found

/-- The canonical spelling finds the same, under every default schema. -/
theorem carries_canonical {r : Resolver} {root : TableSpec}
    (unquoted : ∀ table, root.Node table → ∀ relation ∈ r.relation? table.table,
      relation.id.Unquoted) (defaultSchema : Option String) :
    r.Carries { r with defaultSchema := defaultSchema } r.canonical root where
  naming := rfl
  casePolicy := rfl
  columns name := CasePolicy.exact_quote _ _
  tables table node relation found := by
    refine ⟨relation, ?_, .refl r root relation⟩
    have spelled : r.canonical.table table.table = relation.id.quoted := by
      simp only [canonical, found]
    rw [spelled]
    exact relation?_quoted found (unquoted table node relation found) defaultSchema
  keys _ _ _ := rfl

end Resolver

/-! ### Result types -/

theorem InlinedParent.properties_respell (query : String) {table : String → String}
    {parents : List InlinedParent} (same : ∀ parent ∈ parents,
      (parent.plan.respell table).properties query = parent.plan.properties query) :
    InlinedParent.properties query (parents.map (·.respell table)) =
      InlinedParent.properties query parents := by
  induction parents with
  | nil => rfl
  | cons parent parents ih =>
      have own := same parent List.mem_cons_self
      have rest := ih fun other member => same other (List.mem_cons_of_mem _ member)
      obtain ⟨link, plan⟩ := parent
      dsimp only at own
      rw [List.map_cons, InlinedParent.respell, InlinedParent.properties, InlinedParent.properties,
        rest, own]

/-- The type of a table depends on its head only by the relation and the type name. -/
theorem TablePlan.resultType_respell_of_properties {query : String} {table : String → String}
    {plan : TablePlan}
    (same : (plan.respell table).properties query = plan.properties query) :
    (plan.respell table).resultType query = plan.resultType query := by
  rw [TablePlan.resultType, same, TablePlan.respell_eq]
  rfl

theorem TablePlan.properties_respell (query : String) (table : String → String)
    (plan : TablePlan) : (plan.respell table).properties query = plan.properties query := by
  induction plan using TablePlan.tree_induction with
  | step plan ofInlined ofReference ofCollection =>
      obtain ⟨head, inlined, references, collections⟩ := plan
      dsimp only at ofInlined ofReference ofCollection
      have lifted := InlinedParent.properties_respell query ofInlined
      have referenced : Reference.properties query (references.map (·.respell table)) =
          Reference.properties query references := by
        rw [Reference.properties_eq_map, Reference.properties_eq_map, List.map_map]
        refine List.map_congr_left fun reference member => ?_
        have type := resultType_respell_of_properties (ofReference reference member)
        exact congrArg (fun type => (reference.link.displayOrder, reference.link.property type))
          type
      have collected : Collection.properties query (collections.map (·.respell table)) =
          Collection.properties query collections := by
        rw [Collection.properties_eq_map, Collection.properties_eq_map, List.map_map]
        refine List.map_congr_left fun collection member => ?_
        have type := resultType_respell_of_properties (ofCollection collection member)
        exact congrArg (fun type => (collection.link.displayOrder, collection.link.property type))
          type
      rw [TablePlan.respell_eq, TablePlan.properties, TablePlan.properties]
      simp only [lifted, referenced, collected]

/-- **Result types do not depend on spellings.** -/
theorem TablePlan.resultType_respell (query : String) (table : String → String)
    (plan : TablePlan) : (plan.respell table).resultType query = plan.resultType query :=
  resultType_respell_of_properties (plan.properties_respell query table)

/-! ### Statements without comments -/

/-- A label without its comment. -/
def EntryLabel.withoutComment (label : EntryLabel) : EntryLabel := { label with comment := none }

mutual

/-- A statement without the comments in front of its queries, on the entries of its select lists and
on its sources. -/
def Statement.withoutComments : Statement → Statement
  | ⟨select, hidden, sources, conditions, orderBy, forUpdate, objectWrap, aggregate,
      additionalColumns, resultTypeName, _⟩ =>
    ⟨SelectEntry.withoutCommentsAll select, hidden, FromEntry.withoutCommentsAll sources,
      conditions, orderBy, forUpdate, objectWrap, aggregate, additionalColumns, resultTypeName,
      none⟩
termination_by structural statement => statement

/-- An entry without comments. -/
def SelectEntry.withoutComments : SelectEntry → SelectEntry
  | .field label field tableAlias sourceType =>
    .field label.withoutComment field tableAlias sourceType
  | .expression label sql placeholder tableAlias sourceType =>
    .expression label.withoutComment sql placeholder tableAlias sourceType
  | .inlined label parentAlias parent => .inlined label.withoutComment parentAlias parent
  | .reference label query => .reference label.withoutComment query.withoutComments
  | .collection label query => .collection label.withoutComment query.withoutComments
termination_by structural entry => entry

/-- Entries without comments. -/
def SelectEntry.withoutCommentsAll : List SelectEntry → List SelectEntry
  | [] => []
  | entry :: entries => entry.withoutComments :: SelectEntry.withoutCommentsAll entries
termination_by structural entries => entries

/-- A source without comments. -/
def FromEntry.withoutComments : FromEntry → FromEntry
  | .table relation aliasName => .table relation aliasName
  | .query query aliasName join _ => .query query.withoutComments aliasName join none
termination_by structural source => source

/-- Sources without comments. -/
def FromEntry.withoutCommentsAll : List FromEntry → List FromEntry
  | [] => []
  | source :: sources => source.withoutComments :: FromEntry.withoutCommentsAll sources
termination_by structural sources => sources

end

theorem SelectEntry.withoutCommentsAll_eq_map (entries : List SelectEntry) :
    SelectEntry.withoutCommentsAll entries = entries.map (·.withoutComments) := by
  induction entries with
  | nil => rfl
  | cons entry entries ih => rw [SelectEntry.withoutCommentsAll, ih, List.map_cons]

theorem FromEntry.withoutCommentsAll_eq_map (sources : List FromEntry) :
    FromEntry.withoutCommentsAll sources = sources.map (·.withoutComments) := by
  induction sources with
  | nil => rfl
  | cons source sources ih => rw [FromEntry.withoutCommentsAll, ih, List.map_cons]

namespace Statement

theorem select_withoutComments (statement : Statement) :
    statement.withoutComments.select = statement.select.map (·.withoutComments) := by
  obtain ⟨⟩ := statement
  exact SelectEntry.withoutCommentsAll_eq_map _

theorem hidden_withoutComments (statement : Statement) :
    statement.withoutComments.hidden = statement.hidden := by
  obtain ⟨⟩ := statement
  rfl

end Statement

@[simp]
theorem SelectEntry.name_withoutComments (entry : SelectEntry) :
    entry.withoutComments.name = entry.name := by
  cases entry <;> rfl

@[simp]
theorem SelectEntry.displayOrder_withoutComments (entry : SelectEntry) :
    entry.withoutComments.displayOrder = entry.displayOrder := by
  cases entry <;> rfl

theorem SelectEntry.names_of_withoutComments {entries others : List SelectEntry}
    (same : entries.map (·.withoutComments) = others.map (·.withoutComments)) :
    entries.map (·.name) = others.map (·.name) := by
  have names := congrArg (List.map SelectEntry.name) same
  simpa [Function.comp_def] using names

/-! ### Parts of a statement -/

/-- The statement of a table, from entries and sources that are the same up to comments. -/
theorem TableHead.withoutComments_statement {head : TableHead} {written : String} {site : Site}
    {tableAlias : String} {entries others : List SelectEntry} {joined otherJoined : List FromEntry}
    (sameEntries : entries.map (·.withoutComments) = others.map (·.withoutComments))
    (sameSources : joined.map (·.withoutComments) = otherJoined.map (·.withoutComments)) :
    (TableHead.statement { head with written } tableAlias site entries joined).withoutComments =
      (head.statement tableAlias site others otherJoined).withoutComments := by
  unfold TableHead.statement
  rw [Statement.withoutComments, Statement.withoutComments, SelectEntry.withoutCommentsAll_eq_map,
    SelectEntry.withoutCommentsAll_eq_map, FromEntry.withoutCommentsAll_eq_map,
    FromEntry.withoutCommentsAll_eq_map, List.map_cons, List.map_cons, sameEntries, sameSources,
    SelectEntry.names_of_withoutComments sameEntries]
  rfl

/-- Lifted entries take names and display orders from the sub-query. -/
theorem withoutComments_liftedEntries (subqueryAlias written : String) (relation : RelationId)
    (parent : Statement) :
    (liftedEntries subqueryAlias written relation parent).map (·.withoutComments) =
      parent.withoutComments.select.map fun entry =>
        .inlined ⟨entry.name, entry.displayOrder, none⟩ subqueryAlias relation := by
  have unnumbered : (liftedEntries subqueryAlias written relation parent).map (·.withoutComments) =
      (parent.select.zipIdx.map Prod.fst).map fun entry =>
        .inlined ⟨entry.name, entry.displayOrder, none⟩ subqueryAlias relation := by
    rw [liftedEntries, List.map_map, List.map_map]
    rfl
  rw [unnumbered, List.zipIdx_map_fst, parent.select_withoutComments, List.map_map]
  simp [Function.comp_def]

/-- The statements of a plan are the same, up to comments, if its table names are spelled in another
way. -/
def TablePlan.KeepsStatements (table : String → String) (plan : TablePlan) : Prop :=
  ∀ site, ((plan.respell table).statement site).withoutComments =
    (plan.statement site).withoutComments

namespace InlinedParent

variable {table : String → String}

theorem withoutComments_query {parent : InlinedParent} (keeps : parent.plan.KeepsStatements table)
    (scope : AliasScope) :
    ((parent.respell table).query scope).withoutComments =
      (parent.query scope).withoutComments := by
  have site : (parent.respell table).link.site (parent.respell table).plan.head.linked
      (scope.insert ((parent.respell table).aliasIn scope)) =
      parent.link.site parent.plan.head.linked (scope.insert (parent.aliasIn scope)) := by
    rw [respell, TablePlan.respell_eq]
    rfl
  unfold query
  rw [site]
  exact keeps _

theorem withoutComments_source {parent : InlinedParent} (keeps : parent.plan.KeepsStatements table)
    (tableAlias : String) (scope : AliasScope) :
    ((parent.respell table).source tableAlias scope).withoutComments =
      (parent.source tableAlias scope).withoutComments := by
  have same := withoutComments_query keeps scope
  have hidden : ((parent.respell table).query scope).hidden = (parent.query scope).hidden := by
    rw [← Statement.hidden_withoutComments, same, Statement.hidden_withoutComments]
  -- The join looks up names among the hidden columns only.
  have join : joinCondition tableAlias (parent.aliasIn scope) parent.link.matching
      ((parent.respell table).query scope) =
      joinCondition tableAlias (parent.aliasIn scope) parent.link.matching
        (parent.query scope) := by
    simp only [joinCondition, Statement.exportName?, hidden]
  unfold source InlineLink.source
  rw [FromEntry.withoutComments, FromEntry.withoutComments, same]
  exact congrArg (FromEntry.query _ _ · none) join

theorem withoutComments_lifted {parent : InlinedParent} (keeps : parent.plan.KeepsStatements table)
    (scope : AliasScope) :
    ((parent.respell table).lifted scope).map (·.withoutComments) =
      (parent.lifted scope).map (·.withoutComments) := by
  have relation : (parent.respell table).plan.head.relation = parent.plan.head.relation := by
    rw [respell, TablePlan.respell_eq]
  unfold lifted
  rw [withoutComments_liftedEntries, withoutComments_liftedEntries, withoutComments_query keeps,
    relation]
  rfl

/-- Inline parents add the same sources and entries, up to comments, and the same aliases. -/
theorem withoutComments_joins {parents : List InlinedParent}
    (keep : ∀ parent ∈ parents, parent.plan.KeepsStatements table) (tableAlias : String)
    (scope : AliasScope) :
    (joins tableAlias scope (parents.map (·.respell table))).sources.map (·.withoutComments) =
        (joins tableAlias scope parents).sources.map (·.withoutComments) ∧
      (joins tableAlias scope (parents.map (·.respell table))).entries.map (·.withoutComments) =
        (joins tableAlias scope parents).entries.map (·.withoutComments) ∧
      (joins tableAlias scope (parents.map (·.respell table))).scope =
        (joins tableAlias scope parents).scope := by
  induction parents generalizing scope with
  | nil => exact ⟨rfl, rfl, rfl⟩
  | cons parent parents ih =>
      have keeps := keep parent List.mem_cons_self
      obtain ⟨sources, entries, scopes⟩ :=
        ih (fun other member => keep other (List.mem_cons_of_mem _ member))
          (scope.insert (parent.aliasIn scope))
      have aliased : (parent.respell table).aliasIn scope = parent.aliasIn scope := rfl
      rw [List.map_cons, joins_cons, joins_cons, aliased]
      refine ⟨?_, ?_, scopes⟩
      · rw [List.map_cons, List.map_cons, sources, withoutComments_source keeps]
      · rw [List.map_append, List.map_append, entries, withoutComments_lifted keeps]

end InlinedParent

theorem Reference.withoutComments_entry {table : String → String} {reference : Reference}
    (keeps : reference.plan.KeepsStatements table) (tableAlias : String) (scope : AliasScope) :
    ((reference.respell table).entry tableAlias scope).withoutComments =
      (reference.entry tableAlias scope).withoutComments := by
  have wrapped : ∀ statement : Statement, ({ statement with objectWrap := true }).withoutComments =
      { statement.withoutComments with objectWrap := true } := by
    rintro ⟨⟩
    rfl
  have same : ((reference.respell table).query tableAlias scope).withoutComments =
      (reference.query tableAlias scope).withoutComments := keeps _
  unfold Reference.entry ReferenceLink.entry
  rw [SelectEntry.withoutComments, SelectEntry.withoutComments, wrapped, wrapped, same]
  rfl

theorem Collection.withoutComments_entry {table : String → String} {collection : Collection}
    (keeps : collection.plan.KeepsStatements table) (tableAlias : String) (scope : AliasScope) :
    ((collection.respell table).entry tableAlias scope).withoutComments =
      (collection.entry tableAlias scope).withoutComments := by
  have aggregated : ∀ (statement : Statement) (objectWrap : Bool) (leadingComment : Option String),
      ({ statement with aggregate := true, objectWrap, leadingComment }).withoutComments =
        { statement.withoutComments with aggregate := true, objectWrap } := by
    rintro ⟨⟩ objectWrap leadingComment
    rfl
  have same : ((collection.respell table).query tableAlias scope).withoutComments =
      (collection.query tableAlias scope).withoutComments := keeps _
  unfold Collection.entry CollectionLink.entry
  rw [SelectEntry.withoutComments, SelectEntry.withoutComments, aggregated, aggregated, same]
  rfl

/-- **Statements depend on spellings only in their comments.** -/
theorem TablePlan.withoutComments_statement_respell (table : String → String) (plan : TablePlan) :
    plan.KeepsStatements table := by
  induction plan using TablePlan.tree_induction with
  | step plan ofInlined ofReference ofCollection =>
      intro site
      have base : (plan.respell table).baseAlias site = plan.baseAlias site := by
        rw [respell_eq]
        rfl
      have head : (plan.respell table).head =
          { plan.head with written := table plan.head.written } := by
        rw [respell_eq]
      have inlined : (plan.respell table).joins site =
          InlinedParent.joins (plan.baseAlias site) (site.scope.insert (plan.baseAlias site))
            (plan.inlined.map (·.respell table)) := by
        rw [TablePlan.joins, base, respell_eq]
      obtain ⟨sources, entries, scope⟩ := InlinedParent.withoutComments_joins ofInlined
        (plan.baseAlias site) (site.scope.insert (plan.baseAlias site))
      rw [← inlined] at sources entries scope
      have walked : ((plan.respell table).walkEntries site).map (·.withoutComments) =
          (plan.walkEntries site).map (·.withoutComments) := by
        have references : ((plan.respell table).references.map
            (·.entry (plan.baseAlias site) (plan.joins site).scope)).map (·.withoutComments) =
            (plan.references.map
              (·.entry (plan.baseAlias site) (plan.joins site).scope)).map (·.withoutComments) := by
          rw [respell_eq, List.map_map, List.map_map, List.map_map]
          exact List.map_congr_left fun reference member =>
            Reference.withoutComments_entry (ofReference reference member) _ _
        have collections : ((plan.respell table).collections.map
            (·.entry (plan.baseAlias site) (plan.joins site).scope)).map (·.withoutComments) =
            (plan.collections.map
              (·.entry (plan.baseAlias site) (plan.joins site).scope)).map (·.withoutComments) := by
          rw [respell_eq, List.map_map, List.map_map, List.map_map]
          exact List.map_congr_left fun collection member =>
            Collection.withoutComments_entry (ofCollection collection member) _ _
        have scopes : ((plan.respell table).joins site).scope = (plan.joins site).scope := scope
        unfold walkEntries
        simp only [List.map_append, base, scopes, entries, references, collections, head]
        rfl
      -- The head differs in the written name only, which has no part in the statement itself.
      rw [statement_eq, statement_eq, base, head]
      refine TableHead.withoutComments_statement ?_ sources
      have sorted := congrArg (inDisplayOrder SelectEntry.displayOrder) walked
      rw [inDisplayOrder_map, inDisplayOrder_map] at sorted
      simpa using sorted

/-! ### Queries -/

theorem map_mapM (f : α → Except ε β) (view : β → γ) (xs : List α) :
    (xs.mapM f).map (·.map view) = xs.mapM fun x => (f x).map view := by
  induction xs with
  | nil => rfl
  | cons x xs ih =>
      rw [List.mapM_cons, List.mapM_cons, ← ih]
      cases f x with
      | error error => rfl
      | ok y =>
          cases xs.mapM f with
          | error error => rfl
          | ok ys => rfl

namespace Query

variable {r : Resolver} {query : Query}

/-- A representation adds nothing but comments that depends on the spelling of the table. -/
theorem withoutComments_represent (spec : TableSpec) {statement other : Statement}
    (same : statement.withoutComments = other.withoutComments) (representation : Representation) :
    (({ query with table := spec } : Query).represent statement representation).withoutComments =
      (query.represent other representation).withoutComments := by
  -- Each representation sets fields of a statement, and of what it sets only the comment goes away.
  have represented : ∀ (query : Query) (statement : Statement),
      (query.represent statement representation).withoutComments =
        { query.represent statement.withoutComments representation with
          leadingComment := none } := by
    rintro query ⟨⟩
    cases representation with
    | multiColumnRows => rfl
    | jsonObjectRows => rfl
    | jsonArrayRow => rfl
  rw [represented, represented, same]
  cases representation with
  | multiColumnRows => rfl
  | jsonObjectRows => rfl
  | jsonArrayRow => rfl

/-- If the statements of two queries are alike in each representation, they are so as a whole. -/
theorem map_statements_congr {other : Resolver} {respelled : Query} (view : Statement → α)
    (name : respelled.name = query.name)
    (wanted : respelled.wantedRepresentations = query.wantedRepresentations)
    (each : ∀ representation, (respelled.statement other representation).map view =
      (query.statement r representation).map view) :
    (respelled.statements other).map (·.map fun made => (made.1, view made.2)) =
      (query.statements r).map (·.map fun made => (made.1, view made.2)) := by
  have labelled : ∀ (representation : Representation) (made : Except SpecError Statement),
      (do return (representation, ← made)).map
          (fun made : Representation × Statement => (made.1, view made.2)) =
        (made.map view).map (representation, ·) := by
    intro representation made
    cases made with
    | error error => rfl
    | ok statement => rfl
  unfold Query.statements
  rw [name, wanted]
  cases query.wantedRepresentations with
  | nil => rfl
  | cons first others =>
      dsimp only
      rw [map_mapM, map_mapM]
      refine congrArg (List.mapM · _) (funext fun representation => ?_)
      rw [labelled, labelled, each]

/-- The statement of a query with other spellings of its names. -/
theorem withoutComments_statement {other : Resolver} {spelling : Spelling}
    (carries : r.Carries other spelling query.table) {plan : TablePlan}
    (planned : r.plan (Location.root query.name) query.table = .ok plan)
    (representation : Representation) :
    (({ query with table := query.table.respell spelling } : Query).statement other
        representation).map (·.withoutComments) =
      (query.statement r representation).map (·.withoutComments) := by
  by_cases locked : (query.locksRows && representation != .multiColumnRows) = true
  · rw [query.statement_of_locked r locked, Query.statement_of_locked other _ (by exact locked)]
  · rw [Bool.not_eq_true] at locked
    have respelled : other.plan (Location.root query.name) (query.table.respell spelling) =
        .ok (plan.respell spelling.table) := carries.plan planned
    rw [Query.statement_eq_plan _ _ representation (by exact locked),
      query.statement_eq_plan _ representation locked]
    dsimp only
    rw [respelled, planned]
    exact congrArg Except.ok (withoutComments_represent _
      (plan.withoutComments_statement_respell spelling.table _) representation)

end Query

/-- **How names are spelled does not matter.** If a query is accepted, and no relation that it uses
has a double quote in its name, then it can be written with canonical spellings under every default
schema: its result types are the same, and its statements are so except for their comments. -/
theorem spelling_of_names_is_irrelevant (r : Resolver) (query : Query) {types : List ResultType}
    (accepted : query.table.resultTypes r query.name = .ok types)
    (unquoted : ∀ table, query.table.Node table → ∀ relation ∈ r.relation? table.table,
      relation.id.Unquoted) (defaultSchema : Option String) :
    (query.canonical r).table.resultTypes { r with defaultSchema := defaultSchema } query.name =
        .ok types ∧
      ((query.canonical r).statements { r with defaultSchema := defaultSchema }).map
          (·.map fun made => (made.1, made.2.withoutComments)) =
        (query.statements r).map (·.map fun made => (made.1, made.2.withoutComments)) := by
  have carries := Resolver.carries_canonical unquoted defaultSchema
  rw [TableSpec.resultTypes_eq_plan, map_eq_ok] at accepted
  obtain ⟨plan, planned, rfl⟩ := accepted
  constructor
  · rw [TableSpec.resultTypes_eq_plan, Query.canonical, carries.plan planned, Except.map,
      plan.resultType_respell]
  · exact Query.map_statements_congr Statement.withoutComments rfl rfl
      (Query.withoutComments_statement carries planned)

/-- Drugs with their compounds and advisories, with names in capital letters, between quotes, and
with and without schema. -/
def Pharmacy.mixedSpellings : Query :=
  { drugQuery with
    table := ⟨"Drug", none, [.named "name"],
      [inlineParent (some ["COMPOUND_ID"])
        ⟨"DRUGS.Compound", none, [.named "entered_by"], [], [], none, none⟩],
      [⟨⟨"advisories", none, some ⟨[⟨"Drug_ID", "\"id\""⟩], none⟩, none, none, none, none⟩,
        ⟨"\"drugs\".ADVISORY", none, [.named "text"], [], [], none, none⟩⟩], none, none⟩ }

/-- Without a default schema the query is refused as it is written, but not as it is canonically
spelled. -/
theorem mixedSpellings_are_irrelevant :
    ∃ types,
      Pharmacy.mixedSpellings.table.resultTypes Pharmacy.resolver Pharmacy.mixedSpellings.name =
        .ok types ∧
      ((Pharmacy.mixedSpellings.canonical Pharmacy.resolver).table.tables.map (·.table)) =
        ["\"drugs\".\"drug\"", "\"drugs\".\"compound\"", "\"drugs\".\"advisory\""] ∧
      (∃ error, Pharmacy.mixedSpellings.table.resultTypes
        { Pharmacy.resolver with defaultSchema := none } Pharmacy.mixedSpellings.name =
          .error error) ∧
      (Pharmacy.mixedSpellings.canonical Pharmacy.resolver).table.resultTypes
        { Pharmacy.resolver with defaultSchema := none } Pharmacy.mixedSpellings.name =
          .ok types ∧
      ((Pharmacy.mixedSpellings.canonical Pharmacy.resolver).statements
        { Pharmacy.resolver with defaultSchema := none }).map
          (·.map fun made => (made.1, made.2.withoutComments)) =
        (Pharmacy.mixedSpellings.statements Pharmacy.resolver).map
          (·.map fun made => (made.1, made.2.withoutComments)) := by
  have names : (Pharmacy.mixedSpellings.table.resultTypes Pharmacy.resolver
      Pharmacy.mixedSpellings.name).map (·.map (·.relation.name)) =
      .ok ["drug", "advisory"] := by
    decide +kernel
  have refused : (Pharmacy.mixedSpellings.table.resultTypes
      { Pharmacy.resolver with defaultSchema := none } Pharmacy.mixedSpellings.name).map
        (·.map (·.relation.name)) =
      .error ⟨Location.root Pharmacy.mixedSpellings.name, .tableNotFound "Drug"⟩ := by
    decide +kernel
  have unquoted : ∀ table ∈ Pharmacy.mixedSpellings.table.tables,
      ∀ relation ∈ Pharmacy.resolver.relation? table.table, relation.id.Unquoted := by
    decide +kernel
  obtain ⟨types, accepted, -⟩ := map_eq_ok.mp names
  have irrelevant := spelling_of_names_is_irrelevant Pharmacy.resolver Pharmacy.mixedSpellings
    accepted (fun table node => unquoted table (TableSpec.mem_tables.mpr node)) none
  refine ⟨types, accepted, by decide +kernel, ?_, irrelevant.1, irrelevant.2⟩
  cases result : Pharmacy.mixedSpellings.table.resultTypes
      { Pharmacy.resolver with defaultSchema := none } Pharmacy.mixedSpellings.name with
  | error error => exact ⟨error, rfl⟩
  | ok types =>
      rw [result] at refused
      cases refused

end NestedQuery
