import NestedQuery.Proofs.Validity

/-!
# What is checked, and what is found

A specification is checked table by table while it is walked over. Here its checks are listed in the
order of the walk, each with the table that it is made at and the path to it. For each check it is
said, without the walk, when it passes and which faults it can find.

## Main Definitions

* `Attachment`, `Place`, `TableSpec.HasPlace`: the tables of a specification with the paths to them
* `Check`, `TableSpec.checks`: what is checked, in the order of the walk
* `Resolver.Passes`, `Resolver.Faulty`: checks that pass, and faults that they find

## Main Results

* `TableSpec.hasPlace_of_mem_checks`: checks are made at the tables of the specification
* `Resolver.fieldEntry_eq_error`, `Resolver.FaultyField.fieldEntry_eq_error` and the like: why a
  single step of the resolution fails
* `Resolver.Faulty.unique`, `Resolver.Faulty.not_passes`: a check has one fault at most, and then it
  does not pass
* `Resolver.Faulty.congr`, `Resolver.Passes.congr`: only the keys for the links of a specification
  matter
-/

namespace NestedQuery

/-! ### Places -/

/-- How a table of a specification is attached to the table around it. -/
inductive Attachment where
  | parent (link : ParentLink)
  | child (link : ChildLink)

namespace Attachment

/-- How a table that is attached in this way is described. -/
def part (table : String) : Attachment → String
  | parent link =>
    match link.referenceName with
    | none => Resolver.inlineParentPart table
    | some name => Resolver.referencePart table name
  | child link => Resolver.collectionPart table link.collectionName

def customMatch : Attachment → Option CustomMatch
  | parent link => link.customMatch
  | child link => link.customMatch

def foreignKeyFields : Attachment → Option (List String)
  | parent link => link.foreignKeyFields
  | child link => link.foreignKeyFields

/-- Whether the attached table is to have a single property. -/
def unwraps : Attachment → Bool
  | parent _ => false
  | child link => link.unwraps

end Attachment

/-- The tables attached to a table. -/
inductive TableSpec.Attaches (spec : TableSpec) : Attachment → TableSpec → Prop
  | parent {parent : ParentTable} (member : parent ∈ spec.parents) :
      Attaches spec (.parent parent.link) parent.spec
  | child {child : ChildTable} (member : child ∈ spec.children) :
      Attaches spec (.child child.link) child.spec

/-- A table within a specification. -/
structure Place where
  /-- The descriptions of the tables on the way to the table, its own at the end. The table of the
  whole specification is not described. -/
  path : List String
  table : TableSpec
  /-- The table around it, and how it is attached to that. -/
  attached : Option (TableSpec × Attachment)

/-- The place of a table that is attached to another one. -/
def Place.below (place : Place) (attachment : Attachment) (table : TableSpec) : Place :=
  ⟨place.path ++ [attachment.part table.table], table, some (place.table, attachment)⟩

/-- The place of the whole specification. -/
def TableSpec.place (root : TableSpec) : Place := ⟨[], root, none⟩

/-- The places of a specification. -/
inductive TableSpec.HasPlace (root : TableSpec) : Place → Prop
  | root : HasPlace root root.place
  | attached {place : Place} {attachment : Attachment} {table : TableSpec}
      (around : HasPlace root place) (attaches : place.table.Attaches attachment table) :
      HasPlace root (place.below attachment table)

/-! ### Checks -/

/-- What is checked of a table. -/
inductive Subject where
  /-- Its name stands for a relation. -/
  | name
  /-- An entry of its field list is resolved. -/
  | field (position : Nat)
  /-- It is linked to the table around it. -/
  | link
  /-- It has a single property, if it is to have one. -/
  | bareValues
  /-- It has properties. -/
  | properties

/-- A check of a table. -/
structure Check where
  place : Place
  subject : Subject

mutual

/-- The checks of a table after that of its name, in the order in which they are made. -/
def TableSpec.checksAt (path : List String) (attached : Option (TableSpec × Attachment)) :
    TableSpec → List Check
  | ⟨table, aliasName, fields, parents, children, condition, resultTypeName⟩ =>
    let place : Place := ⟨path,
      ⟨table, aliasName, fields, parents, children, condition, resultTypeName⟩, attached⟩
    fields.zipIdx.map (fun entry => ⟨place, .field entry.2⟩)
      ++ (ParentTable.checksBelow place true parents
        ++ (ParentTable.checksBelow place false parents
          ++ (ChildTable.checksBelow place children ++ [⟨place, .properties⟩])))
termination_by structural spec => spec

/-- The checks of the inline ones, or of the referenced ones, of some parents. -/
def ParentTable.checksBelow (place : Place) (inline : Bool) : List ParentTable → List Check
  | [] => []
  | ⟨link, spec⟩ :: parents =>
    let here := place.below (.parent link) spec
    if link.referenceName.isNone = inline then
      ⟨here, .name⟩ :: ⟨here, .link⟩ :: (spec.checksAt here.path here.attached
        ++ ParentTable.checksBelow place inline parents)
    else ParentTable.checksBelow place inline parents
termination_by structural parents => parents

/-- The checks of some children. -/
def ChildTable.checksBelow (place : Place) : List ChildTable → List Check
  | [] => []
  | ⟨link, spec⟩ :: children =>
    let here := place.below (.child link) spec
    ⟨here, .name⟩ :: ⟨here, .link⟩ :: (spec.checksAt here.path here.attached
      ++ ⟨here, .bareValues⟩ :: ChildTable.checksBelow place children)
termination_by structural children => children

end

/-- The checks of the table at a place after that of its name. -/
def Place.checks (place : Place) : List Check := place.table.checksAt place.path place.attached

/-- The checks of a specification, in the order in which they are made. -/
def TableSpec.checks (root : TableSpec) : List Check := ⟨root.place, .name⟩ :: root.place.checks

theorem Place.checks_eq (place : Place) :
    place.checks = place.table.fields.zipIdx.map (fun entry => ⟨place, .field entry.2⟩)
      ++ (ParentTable.checksBelow place true place.table.parents
        ++ (ParentTable.checksBelow place false place.table.parents
          ++ (ChildTable.checksBelow place place.table.children ++ [⟨place, .properties⟩]))) := by
  obtain ⟨path, table, attached⟩ := place
  obtain ⟨name, aliasName, fields, parents, children, condition, resultTypeName⟩ := table
  rfl

/-- What a location has after the path to the table: the entry of the field list, or that the fault
is in a custom match. -/
def Check.extension (check : Check) (fault : Fault) : List String :=
  match check.subject, fault with
  | .field position, _ => [Resolver.fieldEntryPart check.place.table.table position]
  | _, .invalidCustomMatch _ => ["custom match condition"]
  | _, _ => []

/-! ### The places of checks -/

theorem ParentTable.mem_checksBelow {place : Place} {inline : Bool} {parents : List ParentTable}
    {check : Check} (member : check ∈ ParentTable.checksBelow place inline parents) :
    ∃ parent ∈ parents, check.place = place.below (.parent parent.link) parent.spec ∨
      check ∈ (place.below (.parent parent.link) parent.spec).checks := by
  induction parents with
  | nil => cases member
  | cons parent parents ih =>
      obtain ⟨link, spec⟩ := parent
      rw [ParentTable.checksBelow] at member
      split at member
      · simp only [List.mem_cons, List.mem_append] at member
        rcases member with rfl | rfl | own | later
        · exact ⟨_, List.mem_cons_self, .inl rfl⟩
        · exact ⟨_, List.mem_cons_self, .inl rfl⟩
        · exact ⟨_, List.mem_cons_self, .inr own⟩
        · obtain ⟨parent, found, below⟩ := ih later
          exact ⟨parent, List.mem_cons_of_mem _ found, below⟩
      · obtain ⟨parent, found, below⟩ := ih member
        exact ⟨parent, List.mem_cons_of_mem _ found, below⟩

theorem ChildTable.mem_checksBelow {place : Place} {children : List ChildTable} {check : Check}
    (member : check ∈ ChildTable.checksBelow place children) :
    ∃ child ∈ children, check.place = place.below (.child child.link) child.spec ∨
      check ∈ (place.below (.child child.link) child.spec).checks := by
  induction children with
  | nil => cases member
  | cons child children ih =>
      obtain ⟨link, spec⟩ := child
      rw [ChildTable.checksBelow] at member
      simp only [List.mem_cons, List.mem_append] at member
      rcases member with rfl | rfl | own | rfl | later
      · exact ⟨_, List.mem_cons_self, .inl rfl⟩
      · exact ⟨_, List.mem_cons_self, .inl rfl⟩
      · exact ⟨_, List.mem_cons_self, .inr own⟩
      · exact ⟨_, List.mem_cons_self, .inl rfl⟩
      · obtain ⟨child, found, below⟩ := ih later
        exact ⟨child, List.mem_cons_of_mem _ found, below⟩

/-- Whatever is checked from a place of a specification on is checked at its places. -/
theorem Place.hasPlace_of_mem_checks {root : TableSpec} (place : Place)
    (reached : root.HasPlace place) {check : Check} (member : check ∈ place.checks) :
    root.HasPlace check.place := by
  generalize same : place.table = spec
  induction spec using TableSpec.tree_induction generalizing place with
  | step spec parentPlaces childPlaces =>
      subst same
      -- A check below the place is made at the attached table or further below.
      have below : ∀ {attachment table}, place.table.Attaches attachment table →
          (∀ other : Place, root.HasPlace other → check ∈ other.checks → other.table = table →
            root.HasPlace check.place) →
          check.place = place.below attachment table ∨
            check ∈ (place.below attachment table).checks →
          root.HasPlace check.place := by
        rintro attachment table attaches further (here | inside)
        · rw [here]
          exact reached.attached attaches
        · exact further _ (reached.attached attaches) inside rfl
      rw [place.checks_eq] at member
      simp only [List.mem_append, List.mem_map, List.mem_singleton] at member
      rcases member with ⟨entry, -, rfl⟩ | inlined | referenced | collected | rfl
      · exact reached
      · obtain ⟨parent, found, somewhere⟩ := ParentTable.mem_checksBelow inlined
        exact below (.parent found) (parentPlaces parent found) somewhere
      · obtain ⟨parent, found, somewhere⟩ := ParentTable.mem_checksBelow referenced
        exact below (.parent found) (parentPlaces parent found) somewhere
      · obtain ⟨child, found, somewhere⟩ := ChildTable.mem_checksBelow collected
        exact below (.child found) (childPlaces child found) somewhere
      · exact reached

theorem TableSpec.hasPlace_of_mem_checks {root : TableSpec} {check : Check}
    (member : check ∈ root.checks) : root.HasPlace check.place := by
  rcases List.mem_cons.mp member with rfl | later
  · exact .root
  · exact root.place.hasPlace_of_mem_checks .root later

theorem TableSpec.HasPlace.node {root : TableSpec} {place : Place} (placed : root.HasPlace place) :
    root.Node place.table := by
  induction placed with
  | root => exact .root
  | attached _ attaches ih =>
      cases attaches with
      | parent member => exact ih.parent member
      | child member => exact ih.child member

/-- A place that is attached is so to a table of the specification. -/
theorem TableSpec.HasPlace.attaches {root around : TableSpec} {place : Place}
    {attachment : Attachment} (placed : root.HasPlace place)
    (attached : place.attached = some (around, attachment)) :
    root.Node around ∧ around.Attaches attachment place.table := by
  cases placed with
  | root => cases attached
  | attached above attaches =>
      cases attached
      exact ⟨above.node, attaches⟩

/-! ### Faults -/

namespace Resolver

section Faults

variable (r : Resolver) (keys : KeyChoice)

/-- The relations of a link, that of the child first: a table is the child of its parents, and the
parent of its children. -/
def Ends (around table : TableSpec) : Attachment → Relation → Relation → Prop
  | .parent _, child, parent => r.Names around.table child ∧ r.Names table.table parent
  | .child _, child, parent => r.Names table.table child ∧ r.Names around.table parent

/-- The faults of an entry of a field list: a field that does not exist, an expression without
property name or else without type, and both or neither of field and expression. -/
inductive FaultyField (relation : Relation) : FieldEntry → Fault → Prop
  | unknownName {name : String} (unknown : ¬ r.HasField relation name) :
      FaultyField relation (.named name) (.fieldNotFound relation.id name)
  | unknownField {detail : FieldDetail} {name : String} (field : detail.field = some name)
      (alone : detail.expression = none) (unknown : ¬ r.HasField relation name) :
      FaultyField relation (.detailed detail) (.fieldNotFound relation.id name)
  | unnamed {detail : FieldDetail} {sql : String} (alone : detail.field = none)
      (expression : detail.expression = some sql) (unnamed : detail.jsonProperty = none) :
      FaultyField relation (.detailed detail) (.missingJsonProperty sql)
  | untyped {detail : FieldDetail} {sql : String} (alone : detail.field = none)
      (expression : detail.expression = some sql) (named : detail.jsonProperty.isSome = true)
      (untyped : detail.sourceType = none) :
      FaultyField relation (.detailed detail) (.missingSourceType sql)
  | conflict {detail : FieldDetail} (same : detail.field.isSome = detail.expression.isSome) :
      FaultyField relation (.detailed detail) .conflictingFieldAndExpression

/-- Both fields of a pair exist. -/
def KnownPair (child parent : Relation) (pair : FieldPair) : Prop :=
  r.HasField child pair.child ∧ r.HasField parent pair.parent

/-- The faults of a link: there is no foreign key for it, or several; a custom match is given beside
fields of a foreign key, it equates nothing, or a field of its first bad pair does not exist. -/
inductive FaultyLink (child parent : Relation) :
    Option CustomMatch → Option (List String) → Fault → Prop
  | missing {fields : Option (List String)} (nothing : keys child.id parent.id fields = []) :
      FaultyLink child parent none fields (.foreignKeyNotFound child.id parent.id fields)
  | ambiguous {fields : Option (List String)}
      (several : 1 < (keys child.id parent.id fields).length) :
      FaultyLink child parent none fields (.ambiguousForeignKey child.id parent.id)
  | overspecified {custom : CustomMatch} {fields : List String} :
      FaultyLink child parent (some custom) (some fields) .foreignKeyFieldsWithCustomMatch
  | nothingEquated {custom : CustomMatch} (empty : custom.equated = []) :
      FaultyLink child parent (some custom) none (.invalidCustomMatch .nothingEquated)
  | unknownChildField {custom : CustomMatch} {before after : List FieldPair} {pair : FieldPair}
      (split : custom.equated = before ++ pair :: after)
      (known : ∀ earlier ∈ before, r.KnownPair child parent earlier)
      (unknown : ¬ r.HasField child pair.child) :
      FaultyLink child parent (some custom) none
        (.invalidCustomMatch (.childFieldNotFound pair.child child.id))
  | unknownParentField {custom : CustomMatch} {before after : List FieldPair} {pair : FieldPair}
      (split : custom.equated = before ++ pair :: after)
      (known : ∀ earlier ∈ before, r.KnownPair child parent earlier)
      (knownChild : r.HasField child pair.child) (unknown : ¬ r.HasField parent pair.parent) :
      FaultyLink child parent (some custom) none
        (.invalidCustomMatch (.parentFieldNotFound pair.parent parent.id))

/-- The fault that a check finds. -/
inductive Faulty : Check → Fault → Prop
  | name {place : Place} (unknown : ∀ relation, ¬ r.Names place.table.table relation) :
      Faulty ⟨place, .name⟩ (.tableNotFound place.table.table)
  | field {place : Place} {position : Nat} {entry : FieldEntry} {relation : Relation}
      {fault : Fault} (entryAt : place.table.fields[position]? = some entry)
      (names : r.Names place.table.table relation) (faulty : r.FaultyField relation entry fault) :
      Faulty ⟨place, .field position⟩ fault
  | link {place : Place} {around : TableSpec} {attachment : Attachment} {child parent : Relation}
      {fault : Fault} (attached : place.attached = some (around, attachment))
      (ends : r.Ends around place.table attachment child parent)
      (faulty : r.FaultyLink keys child parent attachment.customMatch attachment.foreignKeyFields
        fault) : Faulty ⟨place, .link⟩ fault
  | bareValues {place : Place} {around : TableSpec} {attachment : Attachment}
      (attached : place.attached = some (around, attachment))
      (unwraps : attachment.unwraps = true) (several : place.table.count ≠ 1) :
      Faulty ⟨place, .bareValues⟩ (.invalidUnwrap place.table.count)
  | properties {place : Place} (nothing : place.table.count = 0) :
      Faulty ⟨place, .properties⟩ .emptySelectList

/-- A check finds what it asks for. -/
inductive Passes : Check → Prop
  | name {place : Place} {relation : Relation} (names : r.Names place.table.table relation) :
      Passes ⟨place, .name⟩
  | field {place : Place} {position : Nat} {entry : FieldEntry} {relation : Relation}
      (entryAt : place.table.fields[position]? = some entry)
      (names : r.Names place.table.table relation) (valid : r.ValidField relation entry) :
      Passes ⟨place, .field position⟩
  | link {place : Place} {around : TableSpec} {attachment : Attachment} {child parent : Relation}
      (attached : place.attached = some (around, attachment))
      (ends : r.Ends around place.table attachment child parent)
      (valid : r.ValidLink keys child parent attachment.customMatch attachment.foreignKeyFields) :
      Passes ⟨place, .link⟩
  | bareValues {place : Place} {around : TableSpec} {attachment : Attachment}
      (attached : place.attached = some (around, attachment))
      (single : attachment.unwraps = true → place.table.count = 1) : Passes ⟨place, .bareValues⟩
  | properties {place : Place} (nonempty : place.table.count ≠ 0) : Passes ⟨place, .properties⟩

end Faults

variable {r : Resolver} {location : Location} {relation : Relation}

/-! ### Faulty fields -/

theorem field?_eq_none {name : String} :
    r.database.field? relation name = none ↔ ¬ r.HasField relation name := by
  rw [← isSome_field?, Bool.not_eq_true, Option.isSome_eq_false_iff, Option.isNone_iff_eq_none]

/-- Why a field is not resolved. -/
theorem fieldProperty_eq_error {name : String} {property : Option String}
    {sourceType : Option SourceType} {displayOrder : Option UInt32} {error : SpecError}
    (failed : r.fieldProperty location relation name property sourceType displayOrder =
      .error error) :
    error = ⟨location, .fieldNotFound relation.id name⟩ ∧ ¬ r.HasField relation name := by
  rw [← isSome_field?]
  unfold fieldProperty field at failed
  cases found : r.database.field? relation name with
  | none =>
      rw [found] at failed
      cases failed
      exact ⟨rfl, by simp⟩
  | some field =>
      rw [found] at failed
      cases failed

/-- Why an entry of a field list is not resolved. -/
theorem fieldEntry_eq_error {entry : FieldEntry} {error : SpecError}
    (failed : r.fieldEntry location relation entry = .error error) :
    error.location = location ∧ r.FaultyField relation entry error.fault := by
  cases entry with
  | named name =>
      obtain ⟨rfl, unknown⟩ := fieldProperty_eq_error failed
      exact ⟨rfl, .unknownName unknown⟩
  | detailed detail =>
      rw [fieldEntry] at failed
      split at failed
      · rename_i field alone
        obtain ⟨rfl, unknown⟩ := fieldProperty_eq_error failed
        exact ⟨rfl, .unknownField field alone unknown⟩
      · rename_i alone expression
        rw [expressionProperty] at failed
        split at failed
        · rename_i unnamed
          cases failed
          exact ⟨rfl, .unnamed alone expression unnamed⟩
        · rename_i named untyped
          cases failed
          exact ⟨rfl, .untyped alone expression (by simp [named]) untyped⟩
        · cases failed
      · rename_i notField notExpression
        cases failed
        refine ⟨rfl, .conflict ?_⟩
        cases field : detail.field with
        | none =>
            cases expression : detail.expression with
            | none => rfl
            | some sql => exact absurd expression (notExpression sql field)
        | some name =>
            cases expression : detail.expression with
            | none => exact absurd expression (notField name field)
            | some sql => rfl

/-- A faulty entry of a field list is not resolved. -/
theorem FaultyField.fieldEntry_eq_error {entry : FieldEntry} {fault : Fault}
    (faulty : r.FaultyField relation entry fault) (location : Location) :
    r.fieldEntry location relation entry = .error ⟨location, fault⟩ := by
  cases faulty with
  | unknownName unknown =>
      rw [fieldEntry, fieldProperty, field, field?_eq_none.mpr unknown]
      rfl
  | unknownField field alone unknown =>
      rw [fieldEntry, field, alone]
      dsimp only
      rw [fieldProperty, Resolver.field, field?_eq_none.mpr unknown]
      rfl
  | unnamed alone expression unnamed =>
      simp [fieldEntry, alone, expression, expressionProperty, unnamed]
  | untyped alone expression named untyped =>
      obtain ⟨name, given⟩ := Option.isSome_iff_exists.mp named
      simp [fieldEntry, alone, expression, expressionProperty, given, untyped]
  | @conflict detail same =>
      rw [fieldEntry]
      cases field : detail.field with
      | none =>
          cases expression : detail.expression with
          | none => rfl
          | some sql => simp [field, expression] at same
      | some name =>
          cases expression : detail.expression with
          | none => simp [field, expression] at same
          | some sql => rfl

/-! ### Faulty links -/

variable {child parent : Relation}

theorem foreignKeyPairs_eq_error {fields : Option (List String)} {error : SpecError}
    (failed : r.foreignKeyPairs location child parent fields = .error error) :
    r.FaultyLink r.keys child parent none fields error.fault ∧ error.location = location := by
  unfold foreignKeyPairs Database.foreignKey? at failed
  rcases found : r.database.qualifyingKeys child.id parent.id fields with
    _ | ⟨first, _ | ⟨second, rest⟩⟩ <;> rw [found] at failed <;> cases failed
  · exact ⟨.missing found, rfl⟩
  · exact ⟨.ambiguous (by simp [found]), rfl⟩

/-- Which of two equated fields does not exist. -/
theorem equatedPair_eq_error {pair : FieldPair} {error : SpecError}
    (failed : r.equatedPair location child parent pair = .error error) :
    (¬ r.HasField child pair.child ∧
      error = ⟨location, .invalidCustomMatch (.childFieldNotFound pair.child child.id)⟩) ∨
    (r.HasField child pair.child ∧ ¬ r.HasField parent pair.parent ∧
      error = ⟨location, .invalidCustomMatch (.parentFieldNotFound pair.parent parent.id)⟩) := by
  rw [← isSome_field?, ← isSome_field?]
  unfold equatedPair at failed
  cases childField : r.database.field? child pair.child with
  | none =>
      rw [childField] at failed
      cases failed
      exact .inl ⟨by simp, rfl⟩
  | some found =>
      cases parentField : r.database.field? parent pair.parent with
      | none =>
          rw [childField, parentField] at failed
          cases failed
          exact .inr ⟨rfl, by simp, rfl⟩
      | some other =>
          rw [childField, parentField] at failed
          cases failed

theorem customPairs_eq_error {custom : CustomMatch} {error : SpecError}
    (failed : r.customPairs location child parent custom = .error error) :
    r.FaultyLink r.keys child parent (some custom) none error.fault ∧
      error.location = location.enter "custom match condition" ∧
      ∃ fault, error.fault = .invalidCustomMatch fault := by
  unfold customPairs at failed
  split at failed
  · rename_i empty
    cases failed
    exact ⟨.nothingEquated (List.isEmpty_iff.mp empty), rfl, _, rfl⟩
  · obtain ⟨before, pair, after, split, earlier, here⟩ := mapM_eq_error.mp failed
    have known : ∀ other ∈ before, r.KnownPair child parent other := fun other member =>
      succeeds_equatedPair.mp (earlier other member)
    rcases equatedPair_eq_error here with ⟨unknown, rfl⟩ | ⟨knownChild, unknown, rfl⟩
    · exact ⟨.unknownChildField split known unknown, rfl, _, rfl⟩
    · exact ⟨.unknownParentField split known knownChild unknown, rfl, _, rfl⟩

/-- The first bad pair of a custom match ends it. -/
theorem linkPairs_of_first {custom : CustomMatch} {before after : List FieldPair} {pair : FieldPair}
    (split : custom.equated = before ++ pair :: after)
    (known : ∀ earlier ∈ before, r.KnownPair child parent earlier) {error : SpecError}
    (here : r.equatedPair (location.enter "custom match condition") child parent pair =
      .error error) :
    r.linkPairs location child parent (some custom) none = .error error := by
  have nonempty : ¬ custom.equated.isEmpty = true := by simp [split]
  have failed := mapM_eq_error.mpr ⟨before, pair, after, split,
    fun earlier member => succeeds_equatedPair.mpr (known earlier member), here⟩
  rwa [linkPairs, Option.isSome_none, if_neg Bool.false_ne_true, customPairs, if_neg nonempty]

/-- A faulty link is not resolved. -/
theorem FaultyLink.linkPairs_eq_error {custom : Option CustomMatch} {fields : Option (List String)}
    {fault : Fault} (faulty : r.FaultyLink r.keys child parent custom fields fault)
    (location : Location) :
    ∃ here, r.linkPairs location child parent custom fields = .error ⟨here, fault⟩ := by
  cases faulty with
  | missing nothing =>
      unfold keys at nothing
      refine ⟨location, ?_⟩
      rw [linkPairs, foreignKeyPairs, Database.foreignKey?, nothing]
  | ambiguous several =>
      unfold keys at several
      refine ⟨location, ?_⟩
      rw [linkPairs, foreignKeyPairs, Database.foreignKey?]
      generalize r.database.qualifyingKeys child.id parent.id fields = found at several
      rcases found with _ | ⟨first, _ | ⟨second, rest⟩⟩
      · simp at several
      · simp at several
      · rfl
  | overspecified => exact ⟨location, rfl⟩
  | nothingEquated empty =>
      refine ⟨location.enter "custom match condition", ?_⟩
      simp [linkPairs, customPairs, empty]
  | unknownChildField split known unknown =>
      refine ⟨location.enter "custom match condition", linkPairs_of_first split known ?_⟩
      rw [equatedPair, field?_eq_none.mpr unknown]
  | unknownParentField split known knownChild unknown =>
      obtain ⟨found, field⟩ := Option.isSome_iff_exists.mp (isSome_field?.mpr knownChild)
      refine ⟨location.enter "custom match condition", linkPairs_of_first split known ?_⟩
      rw [equatedPair, field, field?_eq_none.mpr unknown]

/-! ### One fault at most -/

theorem FaultyField.unique {entry : FieldEntry} {fault other : Fault}
    (faulty : r.FaultyField relation entry fault)
    (faultyOther : r.FaultyField relation entry other) : fault = other := by
  have failed := faulty.fieldEntry_eq_error (Location.root "")
  rw [faultyOther.fieldEntry_eq_error] at failed
  cases failed
  rfl

theorem FaultyField.not_valid {entry : FieldEntry} {fault : Fault}
    (faulty : r.FaultyField relation entry fault) : ¬ r.ValidField relation entry := by
  intro valid
  obtain ⟨field, resolved⟩ := (@succeeds_fieldEntry r (Location.root "") relation entry).mpr valid
  rw [faulty.fieldEntry_eq_error] at resolved
  cases resolved

theorem FaultyLink.unique {custom : Option CustomMatch} {fields : Option (List String)}
    {fault other : Fault} (faulty : r.FaultyLink r.keys child parent custom fields fault)
    (faultyOther : r.FaultyLink r.keys child parent custom fields other) : fault = other := by
  obtain ⟨here, failed⟩ := faulty.linkPairs_eq_error (Location.root "")
  obtain ⟨there, failedOther⟩ := faultyOther.linkPairs_eq_error (Location.root "")
  rw [failedOther] at failed
  cases failed
  rfl

theorem FaultyLink.not_valid {custom : Option CustomMatch} {fields : Option (List String)}
    {fault : Fault} (faulty : r.FaultyLink r.keys child parent custom fields fault) :
    ¬ r.ValidLink r.keys child parent custom fields := by
  intro valid
  obtain ⟨pairs, linked⟩ := (@succeeds_linkPairs r (Location.root "") _ _ _ _).mpr valid
  obtain ⟨here, failed⟩ := faulty.linkPairs_eq_error (Location.root "")
  rw [failed] at linked
  cases linked

theorem Ends.unique {around table : TableSpec} {attachment : Attachment}
    {child parent child' parent' : Relation} (ends : r.Ends around table attachment child parent)
    (others : r.Ends around table attachment child' parent') :
    child = child' ∧ parent = parent' := by
  cases attachment with
  | parent link => exact ⟨ends.1.unique others.1, ends.2.unique others.2⟩
  | child link => exact ⟨ends.1.unique others.1, ends.2.unique others.2⟩

variable {check : Check}

/-- **A check has one fault at most.** -/
theorem Faulty.unique {fault other : Fault} (faulty : r.Faulty r.keys check fault)
    (faultyOther : r.Faulty r.keys check other) : fault = other := by
  cases faulty with
  | name =>
      cases faultyOther
      rfl
  | field entryAt names faulty =>
      obtain _ | ⟨entryAt', names', faulty'⟩ := faultyOther
      cases entryAt.symm.trans entryAt'
      cases names.unique names'
      exact faulty.unique faulty'
  | link attached ends faulty =>
      obtain _ | _ | ⟨attached', ends', faulty'⟩ := faultyOther
      cases attached.symm.trans attached'
      obtain ⟨rfl, rfl⟩ := ends.unique ends'
      exact faulty.unique faulty'
  | bareValues =>
      cases faultyOther
      rfl
  | properties =>
      cases faultyOther
      rfl

/-- A check with a fault does not pass. -/
theorem Faulty.not_passes {fault : Fault} (faulty : r.Faulty r.keys check fault) :
    ¬ r.Passes r.keys check := by
  intro passes
  cases faulty with
  | name unknown =>
      obtain ⟨names⟩ := passes
      exact unknown _ names
  | field entryAt names faulty =>
      obtain _ | ⟨entryAt', names', valid⟩ := passes
      cases entryAt.symm.trans entryAt'
      cases names.unique names'
      exact faulty.not_valid valid
  | link attached ends faulty =>
      obtain _ | _ | ⟨attached', ends', valid⟩ := passes
      cases attached.symm.trans attached'
      obtain ⟨rfl, rfl⟩ := ends.unique ends'
      exact faulty.not_valid valid
  | bareValues attached unwraps several =>
      obtain _ | _ | _ | ⟨attached', single⟩ := passes
      cases attached.symm.trans attached'
      exact several (single unwraps)
  | properties nothing =>
      obtain _ | _ | _ | _ | nonempty := passes
      exact nonempty nothing

/-! ### Choices of keys -/

variable {keys others : KeyChoice}

theorem FaultyLink.nothing {custom : Option CustomMatch} {given fields : Option (List String)}
    {childId parentId : RelationId} (faulty : r.FaultyLink keys child parent custom given
      (.foreignKeyNotFound childId parentId fields)) : keys childId parentId fields = [] := by
  cases faulty with
  | missing nothing => exact nothing

/-- If the fault is that no foreign key is found, then there is none to choose. -/
theorem Faulty.nothing {childId parentId : RelationId} {fields : Option (List String)}
    (faulty : r.Faulty keys check (.foreignKeyNotFound childId parentId fields)) :
    keys childId parentId fields = [] := by
  cases faulty with
  | field entryAt names faulty => cases faulty
  | link attached ends faulty => exact faulty.nothing

theorem FaultyLink.congr {custom : Option CustomMatch} {fields : Option (List String)}
    {fault : Fault}
    (same : custom = none → keys child.id parent.id fields = others child.id parent.id fields)
    (faulty : r.FaultyLink keys child parent custom fields fault) :
    r.FaultyLink others child parent custom fields fault := by
  cases faulty with
  | missing nothing => exact .missing ((same rfl).symm.trans nothing)
  | ambiguous several => exact .ambiguous (same rfl ▸ several)
  | overspecified => exact .overspecified
  | nothingEquated empty => exact .nothingEquated empty
  | unknownChildField split known unknown => exact .unknownChildField split known unknown
  | unknownParentField split known knownChild unknown =>
      exact .unknownParentField split known knownChild unknown

theorem Ends.keyLinks {root around table : TableSpec} {attachment : Attachment}
    (ends : r.Ends around table attachment child parent) (node : root.Node around)
    (attaches : around.Attaches attachment table) (byKey : attachment.customMatch = none) :
    r.KeyLinks root child parent attachment.foreignKeyFields := by
  cases attaches with
  | parent member => exact .parent node member byKey ends.1 ends.2
  | child member => exact .child node member byKey ends.2 ends.1

variable {root : TableSpec}

/-- Which fault a check of a specification finds depends on the keys for its links only. -/
theorem Faulty.congr {fault : Fault} (agree : r.Agree root keys others)
    (placed : root.HasPlace check.place) (faulty : r.Faulty keys check fault) :
    r.Faulty others check fault := by
  cases faulty with
  | name unknown => exact .name unknown
  | field entryAt names faulty => exact .field entryAt names faulty
  | link attached ends faulty =>
      obtain ⟨node, attaches⟩ := placed.attaches attached
      exact .link attached ends
        (faulty.congr fun byKey => agree _ _ _ (ends.keyLinks node attaches byKey))
  | bareValues attached unwraps several => exact .bareValues attached unwraps several
  | properties nothing => exact .properties nothing

theorem Passes.congr (agree : r.Agree root keys others) (placed : root.HasPlace check.place)
    (passes : r.Passes keys check) : r.Passes others check := by
  cases passes with
  | name names => exact .name names
  | field entryAt names valid => exact .field entryAt names valid
  | link attached ends valid =>
      obtain ⟨node, attaches⟩ := placed.attaches attached
      exact .link attached ends
        (valid.congr fun byKey => agree _ _ _ (ends.keyLinks node attaches byKey))
  | bareValues attached single => exact .bareValues attached single
  | properties nonempty => exact .properties nonempty

end Resolver

end NestedQuery
