import Mathlib.Algebra.GroupWithZero.Nat
import NestedQuery.Proofs.ForeignKeyChoice
import NestedQuery.Proofs.Walk
import NestedQuery.Spec.Pharmacy

/-!
# Which specifications are accepted

A specification is resolved step by step, and the first fault ends it. Whether there is any
fault can be said without the steps: by a condition on each table of the tree, on its own. Two
of the parts depend on the number of properties of a table, which the walk finds out from what
it has made of the tables around; here it is counted in the specification.

## Main Definitions

* `TableSpec.count`: the number of properties of a table
* `Resolver.Names`: what a table name stands for
* `Resolver.ValidField`, `Resolver.ValidLink`: faultless field entries and links
* `TableSpec.Node`: the tables of a specification
* `Resolver.ValidNode`, `Resolver.Valid`: faultless tables, and specifications of such tables
  only
* `Resolver.KeyLinks`, `Resolver.FieldsDistinct`: the links by a foreign key, and what is
  asked of the keys that they may be by

## Main Results

* `Resolver.FieldsDistinct.valid_iff`: the keys that the resolution chooses are those with the
  given fields, unless one of them repeats a field
* `Resolver.propertyCount_of_planTable`: plans have as many properties as are counted
* `Resolver.plans_iff_valid`: there is a plan just for valid specifications
* `walk_succeeds_iff_valid`: the walks that make statements and result types
* `diagonal_link_is_misjudged`: a link that is refused by its own field, and accepted by two
  others
-/

namespace NestedQuery

/-! ### Counting properties -/

mutual

/-- The number of properties of a table: its field entries, the properties of its inline parents,
and one for each referenced parent and each child. -/
def TableSpec.count : TableSpec → Nat
  | ⟨_, _, fields, parents, children, _, _⟩ =>
    fields.length + ParentTable.inlineCount parents + (parents.filter (!·.isInline)).length
      + children.length
termination_by structural spec => spec

/-- The number of properties of the inline ones of some parents. -/
def ParentTable.inlineCount : List ParentTable → Nat
  | [] => 0
  | ⟨link, spec⟩ :: parents =>
    (if link.referenceName.isNone then spec.count else 0) + ParentTable.inlineCount parents
termination_by structural parents => parents

end

theorem ParentTable.inlineCount_eq_sum (parents : List ParentTable) :
    ParentTable.inlineCount parents =
      ((parents.filter (·.isInline)).map (·.spec.count)).sum := by
  induction parents with
  | nil => rfl
  | cons parent parents ih =>
      obtain ⟨link, spec⟩ := parent
      rw [ParentTable.inlineCount, ih]
      by_cases inline : link.referenceName.isNone = true
      · rw [if_pos inline, List.filter_cons_of_pos (by exact inline)]
        rfl
      · rw [if_neg inline, List.filter_cons_of_neg (by exact inline), Nat.zero_add]

/-- The count of a table, from those of its inline parents. -/
theorem TableSpec.count_eq (spec : TableSpec) :
    spec.count = spec.fields.length + (spec.inlineParents.map (·.spec.count)).sum
      + spec.referencedParents.length + spec.children.length := by
  obtain ⟨table, aliasName, fields, parents, children, condition, resultTypeName⟩ := spec
  rw [TableSpec.count, ParentTable.inlineCount_eq_sum]
  rfl

/-! ### Validity -/

namespace Resolver

variable (r : Resolver) (keys : KeyChoice)

/-- The relation that a table name stands for: the name has one or two parts, none of them empty,
the schema is the first of two or else the default one, and a relation has this schema and name in
their stored forms. -/
inductive Names (table : String) (relation : Relation) : Prop
  | bare {schema name : String} (parts : QualifiedName.pieces false table.toList = [name.toList])
      (named : name ≠ "") (default : r.defaultSchema = some schema)
      (found : r.database.relation? ⟨some (r.database.exact schema), r.database.exact name⟩ =
        some relation)
  | qualified {schema name : String}
      (parts : QualifiedName.pieces false table.toList = [schema.toList, name.toList])
      (schemaNamed : schema ≠ "") (named : name ≠ "")
      (found : r.database.relation? ⟨some (r.database.exact schema), r.database.exact name⟩ =
        some relation)

/-- The relation has a field whose name is the stored form of the given one. -/
def HasField (relation : Relation) (name : String) : Prop :=
  ∃ field ∈ relation.fields, field.name = r.database.exact name

/-- An entry of a field list has either a field, which exists, or an expression together with a
property name and a type. -/
def ValidField (relation : Relation) : FieldEntry → Prop
  | .named name => r.HasField relation name
  | .detailed detail =>
    (∃ name, detail.field = some name ∧ detail.expression = none ∧ r.HasField relation name) ∨
      (detail.field = none ∧ detail.expression.isSome ∧ detail.jsonProperty.isSome ∧
        detail.sourceType.isSome)

/-- A child and a parent are linked either by a custom match that equates some fields, all of which
exist, with no foreign key fields beside it; or by the one foreign key that can be chosen. -/
def ValidLink (child parent : Relation) (custom : Option CustomMatch)
    (fields : Option (List String)) : Prop :=
  (∃ given, custom = some given ∧ fields = none ∧ given.equated ≠ [] ∧
    ∀ pair ∈ given.equated, r.HasField child pair.child ∧ r.HasField parent pair.parent) ∨
  (custom = none ∧ (keys child.id parent.id fields).length = 1)

/-- A table without fault, given its relation. -/
structure ValidTable (relation : Relation) (spec : TableSpec) : Prop where
  fields : ∀ entry ∈ spec.fields, r.ValidField relation entry
  parents : ∀ parent ∈ spec.parents, ∃ target, r.Names parent.spec.table target ∧
    r.ValidLink keys relation target parent.link.customMatch parent.link.foreignKeyFields
  children : ∀ child ∈ spec.children, ∃ target, r.Names child.spec.table target ∧
    r.ValidLink keys target relation child.link.customMatch child.link.foreignKeyFields
  unwrapped : ∀ child ∈ spec.children, child.link.unwraps = true → child.spec.count = 1
  nonempty : spec.count ≠ 0

/-- A table without fault. -/
def ValidNode (spec : TableSpec) : Prop :=
  ∃ relation, r.Names spec.table relation ∧ r.ValidTable keys relation spec

end Resolver

/-- The tables of a specification. -/
inductive TableSpec.Node (root : TableSpec) : TableSpec → Prop
  | root : Node root root
  | parent {spec : TableSpec} {parent : ParentTable} (node : Node root spec)
      (member : parent ∈ spec.parents) : Node root parent.spec
  | child {spec : TableSpec} {child : ChildTable} (node : Node root spec)
      (member : child ∈ spec.children) : Node root child.spec

namespace Resolver

/-- All tables of a specification are without fault, with the given choice of keys. -/
def Valid (r : Resolver) (keys : KeyChoice) (spec : TableSpec) : Prop :=
  ∀ node, spec.Node node → r.ValidNode keys node

/-- The keys among which the resolution looks for the one of a link. -/
abbrev keys (r : Resolver) : KeyChoice := r.database.qualifyingKeys

/-- The links of a specification that are by a foreign key: the relation of the child, that of the
parent, and the names of the fields of the key, if they are given. -/
inductive KeyLinks (r : Resolver) (root : TableSpec) :
    Relation → Relation → Option (List String) → Prop
  | parent {spec : TableSpec} {parent : ParentTable} {relation target : Relation}
      (node : root.Node spec) (member : parent ∈ spec.parents)
      (byKey : parent.link.customMatch = none) (names : r.Names spec.table relation)
      (namesParent : r.Names parent.spec.table target) :
      KeyLinks r root relation target parent.link.foreignKeyFields
  | child {spec : TableSpec} {child : ChildTable} {relation target : Relation}
      (node : root.Node spec) (member : child ∈ spec.children)
      (byKey : child.link.customMatch = none) (names : r.Names spec.table relation)
      (namesChild : r.Names child.spec.table target) :
      KeyLinks r root target relation child.link.foreignKeyFields

/-- Two choices of keys are the same for the links of a specification. -/
def Agree (r : Resolver) (root : TableSpec) (keys others : KeyChoice) : Prop :=
  ∀ child parent fields, r.KeyLinks root child parent fields →
    keys child.id parent.id fields = others child.id parent.id fields

/-- No foreign key between linked relations repeats a child field, as far as the link has the
names of fields. -/
def FieldsDistinct (r : Resolver) (root : TableSpec) : Prop :=
  ∀ child parent names, r.KeyLinks root child parent (some names) →
    ∀ key ∈ r.database.foreignKeys, key.child = child.id → key.parent = parent.id →
      key.childFields.Nodup

/-! ### Keys that agree on links -/

variable {r : Resolver} {root : TableSpec} {keys others : KeyChoice}

theorem Agree.symm (agree : r.Agree root keys others) : r.Agree root others keys :=
  fun child parent fields linked => (agree child parent fields linked).symm

/-- If no key repeats a field, then the resolution looks for the one of a link among the keys
with the given set of fields. -/
theorem FieldsDistinct.agree (distinct : r.FieldsDistinct root) :
    r.Agree root r.keys r.database.keysOfFieldSet := by
  intro child parent fields linked
  refine Database.qualifyingKeys_eq_keysOfFieldSet fun names given => ?_
  rw [Option.mem_def] at given
  rw [given] at linked
  exact distinct child parent names linked

theorem ValidLink.congr {child parent : Relation} {custom : Option CustomMatch}
    {fields : Option (List String)}
    (same : custom = none → keys child.id parent.id fields = others child.id parent.id fields)
    (valid : r.ValidLink keys child parent custom fields) :
    r.ValidLink others child parent custom fields := by
  refine valid.imp_right fun byKey => ⟨byKey.1, ?_⟩
  rw [← same byKey.1]
  exact byKey.2

/-- Validity depends on the keys that are chosen for the links of the specification only. -/
theorem Valid.congr (agree : r.Agree root keys others) (valid : r.Valid keys root) :
    r.Valid others root := by
  intro node reached
  obtain ⟨relation, names, table⟩ := valid node reached
  refine ⟨relation, names, table.fields, ?_, ?_, table.unwrapped, table.nonempty⟩
  · intro parent member
    obtain ⟨target, namesParent, link⟩ := table.parents parent member
    exact ⟨target, namesParent,
      link.congr fun byKey => agree _ _ _ (.parent reached member byKey names namesParent)⟩
  · intro child member
    obtain ⟨target, namesChild, link⟩ := table.children child member
    exact ⟨target, namesChild,
      link.congr fun byKey => agree _ _ _ (.child reached member byKey names namesChild)⟩

/-- **Validity by the choice of the resolution is validity by field sets**, if no key repeats a
field. -/
theorem FieldsDistinct.valid_iff (distinct : r.FieldsDistinct root) :
    r.Valid r.keys root ↔ r.Valid r.database.keysOfFieldSet root :=
  ⟨.congr distinct.agree, .congr distinct.agree.symm⟩

end Resolver

/-! ### Computations that succeed -/

/-- A computation ends without an error. -/
def Succeeds (x : Except ε α) : Prop :=
  ∃ a, x = .ok a

instance (x : Except ε α) : Decidable (Succeeds x) :=
  match x with
  | .ok a => isTrue ⟨a, rfl⟩
  | .error _ => isFalse fun succeeds => nomatch succeeds

theorem succeeds_bind {x : Except ε α} {f : α → Except ε β} :
    Succeeds (x >>= f) ↔ ∃ a, x = .ok a ∧ Succeeds (f a) := by
  simp only [Succeeds, bind_eq_ok]
  constructor
  · rintro ⟨b, a, first, second⟩
    exact ⟨a, first, b, second⟩
  · rintro ⟨a, first, b, second⟩
    exact ⟨b, a, first, second⟩

/-- If the second step succeeds or fails regardless of the result of the first, the two can be told
apart. -/
theorem succeeds_bind_of {x : Except ε α} {f : α → Except ε β} {rest : Prop}
    (second : ∀ a, x = .ok a → (Succeeds (f a) ↔ rest)) :
    Succeeds (x >>= f) ↔ Succeeds x ∧ rest := by
  rw [succeeds_bind]
  constructor
  · rintro ⟨a, first, succeeds⟩
    exact ⟨⟨a, first⟩, (second a first).mp succeeds⟩
  · rintro ⟨⟨a, first⟩, holds⟩
    exact ⟨a, first, (second a first).mpr holds⟩

theorem succeeds_map {x : Except ε α} {f : α → β} : Succeeds (x.map f) ↔ Succeeds x := by
  cases x with
  | error error => simp [Succeeds, Except.map]
  | ok a => simp [Succeeds, Except.map]

theorem succeeds_mapM {f : α → Except ε β} {xs : List α} :
    Succeeds (xs.mapM f) ↔ ∀ x ∈ xs, Succeeds (f x) := by
  induction xs with
  | nil => simp [Succeeds, List.mapM_nil, pure, Except.pure]
  | cons x xs ih =>
      rw [List.mapM_cons, List.forall_mem_cons, ← ih]
      refine succeeds_bind_of fun y _ => ?_
      refine (succeeds_bind_of fun ys _ => ?_).trans (iff_of_eq (and_true _))
      simp [Succeeds, pure, Except.pure]

/-! ### Names and fields -/

/-- A written table name is read as the parts that it has. -/
theorem QualifiedName.split_eq_some {written : String} {parts : QualifiedName} :
    QualifiedName.split written = some parts ↔
      (parts.schema = none ∧ pieces false written.toList = [parts.name.toList] ∧
        parts.name ≠ "") ∨
      ∃ schema, parts.schema = some schema ∧
        pieces false written.toList = [schema.toList, parts.name.toList] ∧ schema ≠ "" ∧
        parts.name ≠ "" := by
  have empty : ∀ {cs : List Char} {s : String}, cs = s.toList → (cs.isEmpty = true ↔ s = "") := by
    rintro cs s rfl
    rw [List.isEmpty_iff, String.toList_eq_nil_iff]
  obtain ⟨schema, name⟩ := parts
  constructor
  · intro read
    unfold split at read
    split at read
    · rename_i only cut
      split at read
      · cases read
      · rename_i nonempty
        cases read
        refine .inl ⟨rfl, ?_, ?_⟩
        · rw [cut, String.toList_ofList]
        · exact fun isEmpty => nonempty ((empty String.toList_ofList.symm).mpr isEmpty)
    · rename_i first second cut
      split at read
      · cases read
      · rename_i nonempty
        rw [Bool.or_eq_true, not_or] at nonempty
        cases read
        refine .inr ⟨String.ofList first, rfl, ?_, ?_, ?_⟩
        · rw [cut, String.toList_ofList, String.toList_ofList]
        · exact fun isEmpty => nonempty.1 ((empty String.toList_ofList.symm).mpr isEmpty)
        · exact fun isEmpty => nonempty.2 ((empty String.toList_ofList.symm).mpr isEmpty)
    · cases read
  · unfold split
    rintro (⟨rfl, cut, nonempty⟩ | ⟨given, rfl, cut, schemaNonempty, nonempty⟩)
    · have named : ¬ name.toList.isEmpty = true := fun isEmpty => nonempty ((empty rfl).mp isEmpty)
      rw [cut]
      simp only [if_neg named, String.ofList_toList]
    · have named : ¬ (given.toList.isEmpty || name.toList.isEmpty) = true := by
        rw [Bool.or_eq_true, not_or]
        exact ⟨fun isEmpty => schemaNonempty ((empty rfl).mp isEmpty),
          fun isEmpty => nonempty ((empty rfl).mp isEmpty)⟩
      rw [cut]
      simp only [if_neg named, String.ofList_toList]

namespace Resolver

variable {r : Resolver} {location : Location} {relation : Relation}

/-- A table name is resolved to the relation that it stands for. -/
theorem relation?_eq_some {table : String} :
    r.relation? table = some relation ↔ r.Names table relation := by
  have resolved : r.relation? table = some relation ↔ ∃ parts schema,
      QualifiedName.split table = some parts ∧ parts.schema.or r.defaultSchema = some schema ∧
      r.database.relation? ⟨some (r.database.exact schema), r.database.exact parts.name⟩ =
        some relation := by
    unfold relation? Database.relationId
    cases QualifiedName.split table with
    | none => simp
    | some parts =>
        obtain ⟨given, name⟩ := parts
        cases given with
        | some schema => simp
        | none =>
            cases r.defaultSchema with
            | none => simp
            | some schema => simp
  rw [resolved]
  constructor
  · rintro ⟨⟨_, name⟩, schema, read, given, found⟩
    rcases QualifiedName.split_eq_some.mp read with
      ⟨rfl, cut, named⟩ | ⟨first, rfl, cut, schemaNamed, named⟩
    · exact .bare cut named given found
    · cases given
      exact .qualified cut schemaNamed named found
  · rintro (⟨cut, named, given, found⟩ | ⟨cut, schemaNamed, named, found⟩)
    · exact ⟨⟨none, _⟩, _, QualifiedName.split_eq_some.mpr (.inl ⟨rfl, cut, named⟩), given, found⟩
    · exact ⟨⟨some _, _⟩, _,
        QualifiedName.split_eq_some.mpr (.inr ⟨_, rfl, cut, schemaNamed, named⟩), rfl, found⟩

theorem Names.unique {table : String} {other : Relation} (names : r.Names table relation)
    (namesOther : r.Names table other) : relation = other :=
  Option.some.inj ((relation?_eq_some.mpr names).symm.trans (relation?_eq_some.mpr namesOther))

theorem isSome_field? {name : String} :
    (r.database.field? relation name).isSome = true ↔ r.HasField relation name := by
  unfold Database.field? Relation.field? HasField
  rw [List.find?_isSome]
  simp only [beq_iff_eq]

theorem succeeds_fieldProperty {name : String} {property : Option String}
    {sourceType : Option SourceType} {displayOrder : Option UInt32} :
    Succeeds (r.fieldProperty location relation name property sourceType displayOrder) ↔
      r.HasField relation name := by
  rw [← isSome_field?]
  unfold fieldProperty field
  cases r.database.field? relation name with
  | none => simp [Succeeds, bind, Except.bind]
  | some field => simp [Succeeds, bind, Except.bind, pure, Except.pure]

theorem succeeds_expressionProperty {sql : String} {detail : FieldDetail} :
    Succeeds (expressionProperty location sql detail) ↔
      detail.jsonProperty.isSome ∧ detail.sourceType.isSome := by
  unfold expressionProperty
  cases detail.jsonProperty with
  | none => simp [Succeeds]
  | some name =>
      cases detail.sourceType with
      | none => simp [Succeeds]
      | some sourceType => simp [Succeeds]

theorem succeeds_fieldEntry {entry : FieldEntry} :
    Succeeds (r.fieldEntry location relation entry) ↔ r.ValidField relation entry := by
  cases entry with
  | named name => exact succeeds_fieldProperty
  | detailed detail =>
      unfold fieldEntry ValidField
      cases named : detail.field with
      | none =>
          cases given : detail.expression with
          | none => simp [named, given, Succeeds]
          | some sql => simp [named, given, succeeds_expressionProperty]
      | some name =>
          cases given : detail.expression with
          | none => simp [named, given, succeeds_fieldProperty]
          | some sql => simp [named, given, Succeeds]

theorem succeeds_fieldEntries {table : String} {entries : List FieldEntry} :
    Succeeds (r.fieldEntries location table relation entries) ↔
      ∀ entry ∈ entries, r.ValidField relation entry := by
  unfold fieldEntries
  rw [succeeds_mapM]
  simp only [succeeds_fieldEntry]
  constructor
  · intro valid entry member
    obtain ⟨position, inRange, rfl⟩ := List.mem_iff_getElem.mp member
    exact valid (entries[position], position) (List.mem_zipIdx_iff_getElem?.mpr (by simp [inRange]))
  · rintro valid ⟨entry, position⟩ member
    exact valid entry (List.fst_mem_of_mem_zipIdx member)

/-! ### Links -/

theorem succeeds_equatedPair {child parent : Relation} {pair : FieldPair} :
    Succeeds (r.equatedPair location child parent pair) ↔
      r.HasField child pair.child ∧ r.HasField parent pair.parent := by
  rw [← isSome_field?, ← isSome_field?]
  unfold equatedPair
  cases r.database.field? child pair.child with
  | none => simp [Succeeds]
  | some childField =>
      cases r.database.field? parent pair.parent with
      | none => simp [Succeeds]
      | some parentField => simp [Succeeds]

theorem succeeds_customPairs {child parent : Relation} {custom : CustomMatch} :
    Succeeds (r.customPairs location child parent custom) ↔ custom.equated ≠ [] ∧
      ∀ pair ∈ custom.equated, r.HasField child pair.child ∧ r.HasField parent pair.parent := by
  unfold customPairs
  by_cases empty : custom.equated = []
  · simp [empty, Succeeds]
  · have nonempty : custom.equated.isEmpty = false := List.isEmpty_eq_false_iff.mpr empty
    simp only [nonempty, Bool.false_eq_true, if_false, succeeds_mapM, succeeds_equatedPair]
    exact (and_iff_right empty).symm

theorem succeeds_foreignKeyPairs {child parent : Relation} {fields : Option (List String)} :
    Succeeds (r.foreignKeyPairs location child parent fields) ↔
      (r.keys child.id parent.id fields).length = 1 := by
  unfold foreignKeyPairs Database.foreignKey? keys
  rcases r.database.qualifyingKeys child.id parent.id fields with _ | ⟨first, _ | ⟨second, rest⟩⟩
  · simp [Succeeds]
  · simp [Succeeds]
  · simp [Succeeds]

theorem succeeds_linkPairs {child parent : Relation} {custom : Option CustomMatch}
    {fields : Option (List String)} :
    Succeeds (r.linkPairs location child parent custom fields) ↔
      r.ValidLink r.keys child parent custom fields := by
  unfold linkPairs ValidLink
  cases custom with
  | none => simp [succeeds_foreignKeyPairs]
  | some given =>
      cases fields with
      | none => simp [succeeds_customPairs]
      | some names => simp [Succeeds]

theorem succeeds_parentMatch {child parent : Relation} {link : ParentLink} {condition : Bool} :
    Succeeds (r.parentMatch location child parent link condition) ↔
      r.ValidLink r.keys child parent link.customMatch link.foreignKeyFields := by
  rw [← @succeeds_linkPairs r location]
  refine (succeeds_bind_of fun pairs _ => ?_).trans (iff_of_eq (and_true _))
  simp [Succeeds, pure, Except.pure]

/-! ### The count of a plan -/

/-- The plans of a table have as many properties as are counted in its specification. -/
def CountsProperties (r : Resolver) (spec : TableSpec) : Prop :=
  ∀ location relation plan, r.planTable location relation spec = .ok plan →
    plan.propertyCount = spec.count

theorem propertyCountAll_of_planned {parents : List ParentTable} {inlined : List InlinedParent}
    (counts : ∀ parent ∈ parents, r.CountsProperties parent.spec)
    (planned : List.Forall₂ (fun parent inlined => ∃ target,
      PlansInline r location relation parent inlined target) parents inlined) :
    InlinedParent.propertyCountAll inlined = (parents.map (·.spec.count)).sum := by
  induction planned with
  | nil => rfl
  | @cons parent inlined parents _ head _ ih =>
      obtain ⟨target, resolved⟩ := head
      have own := counts parent List.mem_cons_self _ _ _ resolved.plan
      have rest := ih fun other member => counts other (List.mem_cons_of_mem _ member)
      obtain ⟨link, plan⟩ := inlined
      rw [InlinedParent.propertyCountAll, rest, List.map_cons, List.sum_cons]
      exact congrArg (· + _) own

/-- The parts of a plan, counted. -/
theorem count_of_parts {spec : TableSpec} {fields : List PlannedField}
    {inlined : List InlinedParent} {references : List Reference} {collections : List Collection}
    (counts : ∀ parent ∈ spec.parents, r.CountsProperties parent.spec)
    (fieldsPlanned : r.fieldEntries location spec.table relation spec.fields = .ok fields)
    (inlinedPlanned : r.planInlined location relation spec.parents = .ok inlined)
    (referencesPlanned : r.planReferences location relation spec.parents = .ok references)
    (collectionsPlanned : r.planCollections location relation spec.children = .ok collections) :
    fields.length + InlinedParent.propertyCountAll inlined + references.length +
      collections.length = spec.count := by
  have own := (fieldEntries_forall₂ fieldsPlanned).length_eq
  have lifted := propertyCountAll_of_planned
    (fun parent member => counts parent (List.mem_filter.mp member).1)
    (planInlined_forall₂ inlinedPlanned)
  have referenced := (planReferences_forall₂ referencesPlanned).length_eq
  have collected := (planCollections_forall₂ collectionsPlanned).length_eq
  rw [spec.count_eq, own, lifted, ← referenced, ← collected]
  rfl

/-- **Plans have as many properties as are counted.** -/
theorem propertyCount_of_planTable (r : Resolver) (spec : TableSpec) : r.CountsProperties spec := by
  induction spec using TableSpec.tree_induction with
  | step spec parentCounts _ =>
      intro location relation plan planned
      have parts := planTable_parts planned
      obtain ⟨head, inlined, references, collections⟩ := plan
      exact count_of_parts parentCounts parts.fields parts.inlined parts.references
        parts.collections

/-! ### Trees -/

/-- A table with a known relation is without fault, and so are all tables around it. -/
structure Admits (r : Resolver) (keys : KeyChoice) (relation : Relation) (spec : TableSpec) :
    Prop where
  table : r.ValidTable keys relation spec
  parents : ∀ parent ∈ spec.parents, r.Valid keys parent.spec
  children : ∀ child ∈ spec.children, r.Valid keys child.spec

end Resolver

theorem TableSpec.Node.cases_root {root node : TableSpec} (reached : root.Node node) :
    node = root ∨ (∃ parent ∈ root.parents, parent.spec.Node node) ∨
      ∃ child ∈ root.children, child.spec.Node node := by
  induction reached with
  | root => exact .inl rfl
  | parent _ member ih =>
      rcases ih with rfl | ⟨above, inParents, within⟩ | ⟨above, inChildren, within⟩
      · exact .inr (.inl ⟨_, member, .root⟩)
      · exact .inr (.inl ⟨above, inParents, within.parent member⟩)
      · exact .inr (.inr ⟨above, inChildren, within.parent member⟩)
  | child _ member ih =>
      rcases ih with rfl | ⟨above, inParents, within⟩ | ⟨above, inChildren, within⟩
      · exact .inr (.inr ⟨_, member, .root⟩)
      · exact .inr (.inl ⟨above, inParents, within.child member⟩)
      · exact .inr (.inr ⟨above, inChildren, within.child member⟩)

theorem TableSpec.Node.trans {root spec node : TableSpec} (first : root.Node spec)
    (second : spec.Node node) : root.Node node := by
  induction second with
  | root => exact first
  | parent _ member ih => exact ih.parent member
  | child _ member ih => exact ih.child member

namespace Resolver

variable {r : Resolver} {location : Location} {relation : Relation}

/-- Validity, from the root of a tree downwards. -/
theorem valid_iff_admits {keys : KeyChoice} {spec : TableSpec} :
    r.Valid keys spec ↔ ∃ relation, r.Names spec.table relation ∧ r.Admits keys relation spec := by
  constructor
  · intro valid
    obtain ⟨relation, names, table⟩ := valid spec .root
    refine ⟨relation, names, table, ?_, ?_⟩
    · intro parent member node reached
      exact valid node ((TableSpec.Node.root.parent member).trans reached)
    · intro child member node reached
      exact valid node ((TableSpec.Node.root.child member).trans reached)
  · rintro ⟨relation, names, table, parents, children⟩ node reached
    rcases reached.cases_root with rfl | ⟨parent, member, within⟩ | ⟨child, member, within⟩
    · exact ⟨relation, names, table⟩
    · exact parents parent member node within
    · exact children child member node within

/-- A parent of a table with the given relation is linked to it, and without fault. -/
def AdmitsParent (r : Resolver) (relation : Relation) (parent : ParentTable) : Prop :=
  ∃ target, r.Names parent.spec.table target ∧
    r.ValidLink r.keys relation target parent.link.customMatch parent.link.foreignKeyFields ∧
    r.Admits r.keys target parent.spec

/-- A child of a table with the given relation is linked to it, and without fault. -/
def AdmitsChild (r : Resolver) (relation : Relation) (child : ChildTable) : Prop :=
  ∃ target, r.Names child.spec.table target ∧
    r.ValidLink r.keys target relation child.link.customMatch child.link.foreignKeyFields ∧
    r.Admits r.keys target child.spec ∧ (child.link.unwraps = true → child.spec.count = 1)

/-- There is a plan of a table, wherever it is met, just if it and the tables around it are without
fault. -/
def PlansExactly (r : Resolver) (spec : TableSpec) : Prop :=
  ∀ location relation, Succeeds (r.planTable location relation spec) ↔ r.Admits r.keys relation spec

/-- One parent and what comes after it. Inline and referenced parents differ only in what is made of
them. -/
theorem succeeds_parent_step {here : Location} {parent : ParentTable}
    (plans : r.PlansExactly parent.spec) {others : Except SpecError β}
    {finish : RowMatch → TablePlan → β → γ} :
    Succeeds (do
      let target ← r.table here parent.spec.table
      let matching ← r.parentMatch here relation target parent.link parent.spec.condition.isSome
      let plan ← r.planTable here target parent.spec
      let rest ← others
      return finish matching plan rest) ↔ r.AdmitsParent relation parent ∧ Succeeds others := by
  have after : ∀ target, Succeeds (do
      let matching ← r.parentMatch here relation target parent.link parent.spec.condition.isSome
      let plan ← r.planTable here target parent.spec
      let rest ← others
      return finish matching plan rest) ↔
        r.ValidLink r.keys relation target parent.link.customMatch parent.link.foreignKeyFields ∧
          r.Admits r.keys target parent.spec ∧ Succeeds others := by
    intro target
    rw [← plans here target, ← @succeeds_parentMatch r here relation target parent.link
      parent.spec.condition.isSome]
    refine succeeds_bind_of fun matching _ => succeeds_bind_of fun plan _ => ?_
    refine (succeeds_bind_of fun rest _ => ?_).trans (iff_of_eq (and_true _))
    exact iff_of_true ⟨_, rfl⟩ trivial
  rw [succeeds_bind]
  constructor
  · rintro ⟨target, found, succeeds⟩
    obtain ⟨link, admits, rest⟩ := (after target).mp succeeds
    exact ⟨⟨target, relation?_eq_some.mp (table_eq_ok.mp found), link, admits⟩, rest⟩
  · rintro ⟨⟨target, names, link, admits⟩, rest⟩
    exact ⟨target, table_eq_ok.mpr (relation?_eq_some.mpr names),
      (after target).mpr ⟨link, admits, rest⟩⟩

theorem succeeds_planInlined {parents : List ParentTable}
    (plans : ∀ parent ∈ parents, r.PlansExactly parent.spec) :
    Succeeds (r.planInlined location relation parents) ↔
      ∀ parent ∈ parents, parent.isInline = true → r.AdmitsParent relation parent := by
  induction parents with
  | nil => exact iff_of_true ⟨_, rfl⟩ (fun _ none => nomatch none)
  | cons parent parents ih =>
      have rest := ih fun other member => plans other (List.mem_cons_of_mem _ member)
      have step := plans parent List.mem_cons_self
      obtain ⟨link, spec⟩ := parent
      rw [planInlined, List.forall_mem_cons, ← rest]
      cases named : link.referenceName with
      | some name => simp [ParentTable.isInline, named]
      | none =>
          have inline : (ParentTable.mk link spec).isInline = true := by
            simp [ParentTable.isInline, named]
          rw [forall_prop_of_true inline]
          exact succeeds_parent_step step

theorem succeeds_planReferences {parents : List ParentTable}
    (plans : ∀ parent ∈ parents, r.PlansExactly parent.spec) :
    Succeeds (r.planReferences location relation parents) ↔
      ∀ parent ∈ parents, ¬ parent.isInline = true → r.AdmitsParent relation parent := by
  induction parents with
  | nil => exact iff_of_true ⟨_, rfl⟩ (fun _ none => nomatch none)
  | cons parent parents ih =>
      have rest := ih fun other member => plans other (List.mem_cons_of_mem _ member)
      have step := plans parent List.mem_cons_self
      obtain ⟨link, spec⟩ := parent
      rw [planReferences, List.forall_mem_cons, ← rest]
      cases named : link.referenceName with
      | none => simp [ParentTable.isInline, named]
      | some name =>
          have referenced : ¬ (ParentTable.mk link spec).isInline = true := by
            simp [ParentTable.isInline, named]
          rw [forall_prop_of_true referenced]
          exact succeeds_parent_step step

theorem succeeds_planCollections {children : List ChildTable}
    (plans : ∀ child ∈ children, r.PlansExactly child.spec) :
    Succeeds (r.planCollections location relation children) ↔
      ∀ child ∈ children, r.AdmitsChild relation child := by
  induction children with
  | nil => exact iff_of_true ⟨_, rfl⟩ (List.forall_mem_nil _)
  | cons child children ih =>
      have rest := @ih fun other member => plans other (List.mem_cons_of_mem _ member)
      have step := plans child List.mem_cons_self
      obtain ⟨link, spec⟩ := child
      rw [planCollections, List.forall_mem_cons, ← rest, succeeds_bind]
      have after : ∀ target here, Succeeds (do
          let pairs ← r.childPairs here target relation link
          let plan ← r.planTable here target spec
          if link.unwraps && plan.propertyCount != 1 then
            .error ⟨here, .invalidUnwrap plan.propertyCount⟩
          else
            let others ← r.planCollections location relation children
            return (⟨⟨link.collectionName, pairs, link.filter, link.unwraps, link.orderBy,
              link.displayOrder⟩, plan⟩ : Collection) :: others) ↔
          r.ValidLink r.keys target relation link.customMatch link.foreignKeyFields ∧
            r.Admits r.keys target spec ∧ (link.unwraps = true → spec.count = 1) ∧
              Succeeds (r.planCollections location relation children) := by
        intro target here
        rw [← step here target, ← @succeeds_linkPairs r here]
        refine succeeds_bind_of fun pairs _ => succeeds_bind_of fun plan planned => ?_
        -- Here the properties of the plan have to be as many as are counted.
        rw [r.propertyCount_of_planTable spec here target plan planned]
        by_cases allowed : link.unwraps = true → spec.count = 1
        · have unchecked : (link.unwraps && spec.count != 1) = false := by
            cases unwraps : link.unwraps with
            | false => rfl
            | true => simp [allowed unwraps]
          rw [unchecked, if_neg Bool.false_ne_true, and_iff_right allowed]
          refine (succeeds_bind_of fun others _ => ?_).trans (iff_of_eq (and_true _))
          exact iff_of_true ⟨_, rfl⟩ trivial
        · have refused : (link.unwraps && spec.count != 1) = true := by
            simpa using allowed
          rw [if_pos refused]
          refine iff_of_false ?_ fun both => allowed both.1
          rintro ⟨_, impossible⟩
          cases impossible
      constructor
      · rintro ⟨target, found, succeeds⟩
        obtain ⟨linked, admits, single, others⟩ := (after target _).mp succeeds
        exact ⟨⟨target, relation?_eq_some.mp (table_eq_ok.mp found), linked, admits, single⟩,
          others⟩
      · rintro ⟨⟨target, names, linked, admits, single⟩, others⟩
        exact ⟨target, table_eq_ok.mpr (relation?_eq_some.mpr names),
          (after target _).mpr ⟨linked, admits, single, others⟩⟩

theorem admitsParent_iff {parent : ParentTable} :
    r.AdmitsParent relation parent ↔ (∃ target, r.Names parent.spec.table target ∧
      r.ValidLink r.keys relation target parent.link.customMatch parent.link.foreignKeyFields) ∧
        r.Valid r.keys parent.spec := by
  constructor
  · rintro ⟨target, names, link, admits⟩
    exact ⟨⟨target, names, link⟩, valid_iff_admits.mpr ⟨target, names, admits⟩⟩
  · rintro ⟨⟨target, names, link⟩, valid⟩
    obtain ⟨other, namesOther, admits⟩ := valid_iff_admits.mp valid
    obtain rfl := names.unique namesOther
    exact ⟨target, names, link, admits⟩

theorem admitsChild_iff {child : ChildTable} :
    r.AdmitsChild relation child ↔ (∃ target, r.Names child.spec.table target ∧
      r.ValidLink r.keys target relation child.link.customMatch child.link.foreignKeyFields) ∧
        (child.link.unwraps = true → child.spec.count = 1) ∧ r.Valid r.keys child.spec := by
  constructor
  · rintro ⟨target, names, link, admits, single⟩
    exact ⟨⟨target, names, link⟩, single, valid_iff_admits.mpr ⟨target, names, admits⟩⟩
  · rintro ⟨⟨target, names, link⟩, single, valid⟩
    obtain ⟨other, namesOther, admits⟩ := valid_iff_admits.mp valid
    obtain rfl := names.unique namesOther
    exact ⟨target, names, link, admits, single⟩

/-- **There is a plan of a table just if it and the tables around it are without fault.** -/
theorem planTable_exact (r : Resolver) (spec : TableSpec) : r.PlansExactly spec := by
  induction spec using TableSpec.tree_induction with
  | step spec parentPlans childPlans =>
      intro location relation
      constructor
      · rintro ⟨plan, planned⟩
        have parts := planTable_parts planned
        have inlined := (succeeds_planInlined parentPlans).mp ⟨_, parts.inlined⟩
        have referenced := (succeeds_planReferences parentPlans).mp ⟨_, parts.references⟩
        have collected := (succeeds_planCollections childPlans).mp ⟨_, parts.collections⟩
        have parents : ∀ parent ∈ spec.parents, r.AdmitsParent relation parent := by
          intro parent member
          by_cases inline : parent.isInline = true
          · exact inlined parent member inline
          · exact referenced parent member inline
        have nonempty : spec.count ≠ 0 := by
          rw [← r.propertyCount_of_planTable spec location relation plan planned]
          exact parts.count
        refine ⟨⟨succeeds_fieldEntries.mp ⟨_, parts.fields⟩, ?_, ?_, ?_, nonempty⟩, ?_, ?_⟩
        · exact fun parent member => (admitsParent_iff.mp (parents parent member)).1
        · exact fun child member => (admitsChild_iff.mp (collected child member)).1
        · exact fun child member => (admitsChild_iff.mp (collected child member)).2.1
        · exact fun parent member => (admitsParent_iff.mp (parents parent member)).2
        · exact fun child member => (admitsChild_iff.mp (collected child member)).2.2
      · rintro ⟨table, parents, children⟩
        have admitsParents : ∀ parent ∈ spec.parents, r.AdmitsParent relation parent :=
          fun parent member =>
            admitsParent_iff.mpr ⟨table.parents parent member, parents parent member⟩
        have admitsChildren : ∀ child ∈ spec.children, r.AdmitsChild relation child :=
          fun child member => admitsChild_iff.mpr
            ⟨table.children child member, table.unwrapped child member, children child member⟩
        obtain ⟨fields, fieldsPlanned⟩ :=
          (@succeeds_fieldEntries r location relation spec.table _).mpr table.fields
        obtain ⟨inlined, inlinedPlanned⟩ := (@succeeds_planInlined r location _ _ parentPlans).mpr
          fun parent member _ => admitsParents parent member
        obtain ⟨references, referencesPlanned⟩ :=
          (@succeeds_planReferences r location _ _ parentPlans).mpr
            fun parent member _ => admitsParents parent member
        obtain ⟨collections, collectionsPlanned⟩ :=
          (@succeeds_planCollections r location _ _ childPlans).mpr admitsChildren
        have count := count_of_parts (fun parent _ => r.propertyCount_of_planTable parent.spec)
          fieldsPlanned inlinedPlanned referencesPlanned collectionsPlanned
        have nonempty := table.nonempty
        rw [← count] at nonempty
        obtain ⟨name, aliasName, entries, parentTables, childTables, condition, typeName⟩ := spec
        dsimp only at fieldsPlanned inlinedPlanned referencesPlanned collectionsPlanned
        rw [planTable, fieldsPlanned, inlinedPlanned, referencesPlanned, collectionsPlanned]
        exact ⟨_, if_neg nonempty⟩

/-- **There is a plan just for valid specifications.** -/
theorem plans_iff_valid (r : Resolver) (location : Location) (spec : TableSpec) :
    Succeeds (r.plan location spec) ↔ r.Valid r.keys spec := by
  unfold plan
  rw [succeeds_bind, valid_iff_admits]
  refine exists_congr fun relation => ?_
  rw [table_eq_ok, relation?_eq_some, r.planTable_exact spec location relation]

end Resolver

/-- **Acceptance is validity.** For any snapshot, settings and specification in which no foreign key
between linked relations repeats a child field, the walk that makes statements and the walk that
makes result types succeed just if every table of the specification is without fault. -/
theorem walk_succeeds_iff_valid (r : Resolver) (location : Location) (spec : TableSpec)
    (distinct : r.FieldsDistinct spec) :
    (∀ site, Succeeds (r.walk statementFold location site spec) ↔
      r.Valid r.database.keysOfFieldSet spec) ∧
    ∀ query, Succeeds (r.walk (resultTypeFold query) location () spec) ↔
      r.Valid r.database.keysOfFieldSet spec := by
  have planned : Succeeds (r.plan location spec) ↔ r.Valid r.database.keysOfFieldSet spec :=
    (r.plans_iff_valid location spec).trans distinct.valid_iff
  constructor
  · intro site
    rw [r.walk_statementFold, succeeds_map]
    exact planned
  · intro query
    rw [r.walk_resultTypeFold, succeeds_map]
    exact planned

theorem Pharmacy.fieldsDistinct (root : TableSpec) : Pharmacy.resolver.FieldsDistinct root := by
  have distinct : ∀ key ∈ Pharmacy.resolver.database.foreignKeys, key.childFields.Nodup := by
    decide +kernel
  exact fun _ _ _ _ key stored _ _ => distinct key stored

/-- The drugs with the tables around them are accepted, so all these tables are without fault; drugs
with their advisories as bare values are refused. -/
theorem drugs_are_valid :
    Pharmacy.resolver.Valid Pharmacy.lowerCase.keysOfFieldSet Pharmacy.drugs ∧
      ¬ Pharmacy.resolver.Valid Pharmacy.lowerCase.keysOfFieldSet
        Pharmacy.bareAdvisoryQuery.table := by
  refine ⟨((walk_succeeds_iff_valid Pharmacy.resolver (Location.root "drugs") Pharmacy.drugs
    (Pharmacy.fieldsDistinct _)).2 "drugs").mp ?_, fun valid => ?_⟩
  · decide +kernel
  · have accepted := ((walk_succeeds_iff_valid Pharmacy.resolver (Location.root "drugs")
      Pharmacy.bareAdvisoryQuery.table (Pharmacy.fieldsDistinct _)).2 "drugs").mpr valid
    exact absurd accepted (by decide +kernel)

/-! ### A link by a key with a repeated field -/

namespace Diagonal

def resolver : Resolver := ⟨database, some "geo", .asInDatabase⟩

/-- The link from the diagonal to its cells, by the key with the given fields. -/
def cellLink (fields : List String) : ParentLink := ⟨none, some fields, none, none, none⟩

/-- The diagonal with a field of its cells. -/
def labels (fields : List String) (cellField : String) : TableSpec :=
  ⟨"diagonal", none, [.named "label"],
    [⟨cellLink fields, ⟨"cell", none, [.named cellField], [], [], none, none⟩⟩], [], none, none⟩

theorem names_diagonal : resolver.Names "diagonal" diagonals :=
  Resolver.relation?_eq_some.mp (by decide +kernel)

theorem names_cell : resolver.Names "cell" cells :=
  Resolver.relation?_eq_some.mp (by decide +kernel)

theorem valid_cell {keys : KeyChoice} :
    resolver.Valid keys ⟨"cell", none, [.named "row"], [], [], none, none⟩ := by
  have row : resolver.HasField cells "row" := Resolver.isSome_field?.mp (by decide +kernel)
  refine Resolver.valid_iff_admits.mpr ⟨cells, names_cell, ⟨List.forall_mem_singleton.mpr row,
    List.forall_mem_nil _, List.forall_mem_nil _, List.forall_mem_nil _, ?_⟩,
    List.forall_mem_nil _, List.forall_mem_nil _⟩
  simp [TableSpec.count]

/-- With a single key for the link, the diagonal with its cells is without fault. -/
theorem valid_labels {keys : KeyChoice} {fields : List String}
    (single : (keys diagonal cell (some fields)).length = 1) :
    resolver.Valid keys (labels fields "row") := by
  have label : resolver.HasField diagonals "label" := Resolver.isSome_field?.mp (by decide +kernel)
  refine Resolver.valid_iff_admits.mpr ⟨diagonals, names_diagonal, ⟨List.forall_mem_singleton.mpr
    label, ?_, List.forall_mem_nil _, List.forall_mem_nil _, ?_⟩,
    List.forall_mem_singleton.mpr valid_cell, List.forall_mem_nil _⟩
  · exact List.forall_mem_singleton.mpr ⟨cells, names_cell, .inr ⟨rfl, single⟩⟩
  · simp [labels, TableSpec.count]

/-- The diagonal with its cells is without fault only if there is a single key for the link. -/
theorem single_of_valid_labels {keys : KeyChoice} {fields : List String} {cellField : String}
    (valid : resolver.Valid keys (labels fields cellField)) :
    (keys diagonal cell (some fields)).length = 1 := by
  obtain ⟨relation, names, table⟩ := valid _ .root
  obtain ⟨target, namesTarget, link⟩ := table.parents _ List.mem_cons_self
  obtain rfl := names.unique names_diagonal
  obtain rfl := namesTarget.unique names_cell
  rcases link with ⟨given, custom, -⟩ | ⟨-, single⟩
  · cases custom
  · exact single

end Diagonal

/-- **A link that is misjudged.** By its only field, the key of the diagonal is the one for
the link, and the link is refused. By this field and another one there is none, and the link
is accepted. -/
theorem diagonal_link_is_misjudged :
    (Diagonal.resolver.Valid Diagonal.database.keysOfFieldSet (Diagonal.labels ["number"] "row") ∧
      ¬ Succeeds (Diagonal.resolver.walk (resultTypeFold "labels") (Location.root "labels") ()
        (Diagonal.labels ["number"] "row"))) ∧
    ¬ Diagonal.resolver.Valid Diagonal.database.keysOfFieldSet
        (Diagonal.labels ["number", "label"] "row") ∧
      Succeeds (Diagonal.resolver.walk (resultTypeFold "labels") (Location.root "labels") ()
        (Diagonal.labels ["number", "label"] "row")) := by
  refine ⟨⟨Diagonal.valid_labels ?_, ?_⟩, fun valid => ?_, ?_⟩
  · decide +kernel
  · decide +kernel
  · exact absurd (Diagonal.single_of_valid_labels valid) (by decide +kernel)
  · decide +kernel

end NestedQuery
