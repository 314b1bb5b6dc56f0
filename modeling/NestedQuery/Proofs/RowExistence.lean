import NestedQuery.Proofs.Resolution

/-!
# When a foreign key finds a row

A link is taken to be certain if one field of its foreign key cannot be null. What the database
enforces is less: a key with several fields is not looked at for a row that has a null in any of
them. Here the contents of a database are compared with its schema, and the links that really find a
row for every row are told exactly.

## Main Definitions

* `Contents`, `Contents.Satisfies`: the rows of a database that keep to a schema
* `Contents.MatchesAll`: every child row has a parent row
* `Contents.withGap`: contents in which one field of one row is null

## Main Results

* `matchesAll_iff_required`: a foreign key finds a row for every row just if all of its fields are
  required
* `guaranteed_matchesAll_iff`: what this means for the links that are taken to be certain
* `item_without_shelf`: a link that is taken to be certain, and a row without a parent row
-/

namespace NestedQuery

variable {Value : Type}

/-! ### Contents -/

/-- A row: the value of each field by its stored name, where there is one. -/
def Row (Value : Type) : Type := String → Option Value

/-- The rows of the relations of a database. -/
structure Contents (Value : Type) where
  rows : RelationId → List (Row Value)

/-- Some relation with the given id has a field of the given name that cannot be null. -/
def Database.Requires (database : Database) (id : RelationId) (name : String) : Prop :=
  ∃ relation ∈ database.relations, relation.id = id ∧
    ∃ field ∈ relation.fields, field.name = name ∧ field.nullable = some false

/-- The contents keep to a schema: required fields have values, and a row without null in the fields
of a foreign key has a parent row with the same values. -/
structure Contents.Satisfies (contents : Contents Value) (database : Database) : Prop where
  required : ∀ id name, database.Requires id name →
    ∀ row ∈ contents.rows id, ∃ value, row name = some value
  referenced : ∀ key ∈ database.foreignKeys, ∀ row ∈ contents.rows key.child,
    (∀ column ∈ key.columns, row column.child ≠ none) →
      ∃ parent ∈ contents.rows key.parent,
        ∀ column ∈ key.columns, parent column.parent = row column.child

/-- Every row of the child has a row of the parent with the same values in the paired fields, and no
null among them. -/
def Contents.MatchesAll (contents : Contents Value) (child parent : RelationId)
    (pairs : List FieldPair) : Prop :=
  ∀ row ∈ contents.rows child, ∃ parentRow ∈ contents.rows parent,
    ∀ pair ∈ pairs, ∃ value, row pair.child = some value ∧ parentRow pair.parent = some value

theorem Relation.Requires.requires {database : Database} {relation : Relation} {name : String}
    (required : relation.Requires name) (member : relation ∈ database.relations) :
    database.Requires relation.id name := by
  obtain ⟨field, found, notNull⟩ := required
  have named : field.name = name := by
    simpa using List.find?_some found
  exact ⟨relation, member, rfl, field, List.mem_of_find?_eq_some found, named, notNull⟩

/-! ### A gap -/

section Gap

variable [Inhabited Value]

/-- The row with the same value in all fields. -/
def Row.full : Row Value := fun _ => some default

/-- A full row but for one field. -/
def Row.gap (name : String) : Row Value := fun field => if field = name then none else some default

/-- Each relation has a full row, and the given one has a row with a null in the given field. -/
def Contents.withGap (child : RelationId) (name : String) : Contents Value where
  rows id := if id = child then [Row.full, Row.gap name] else [Row.full]

theorem Contents.mem_withGap {child id : RelationId} {name : String} {row : Row Value} :
    row ∈ (Contents.withGap child name).rows id ↔
      row = Row.full ∨ id = child ∧ row = Row.gap name := by
  unfold Contents.withGap
  by_cases here : id = child
  · simp [here]
  · simp [here]

/-- A null in a field that is not required breaks nothing: the row has no parent row, but no foreign
key with that field looks for one. -/
theorem Contents.withGap_satisfies {database : Database} {child : RelationId} {name : String}
    (free : ¬ database.Requires child name) :
    (Contents.withGap child name : Contents Value).Satisfies database := by
  constructor
  · intro id field required row member
    rcases Contents.mem_withGap.mp member with rfl | ⟨rfl, rfl⟩
    · exact ⟨default, rfl⟩
    · have other : field ≠ name := by
        rintro rfl
        exact free required
      exact ⟨default, if_neg other⟩
  · -- A row that is looked at has no null in the key, so the full row is its parent.
    intro key _ row member complete
    refine ⟨Row.full, Contents.mem_withGap.mpr (Or.inl rfl), ?_⟩
    intro column inKey
    rcases Contents.mem_withGap.mp member with rfl | ⟨-, rfl⟩
    · rfl
    · have present : column.child ≠ name := by
        intro equal
        exact complete column inKey (if_pos equal)
      exact (if_neg present).symm

theorem Contents.not_matchesAll_withGap {child parent : RelationId} {pairs : List FieldPair}
    {pair : FieldPair} (member : pair ∈ pairs) :
    ¬ (Contents.withGap child pair.child : Contents Value).MatchesAll child parent pairs := by
  intro matched
  obtain ⟨parentRow, -, equal⟩ := matched (Row.gap pair.child)
    (Contents.mem_withGap.mpr (Or.inr ⟨rfl, rfl⟩))
  obtain ⟨value, present, -⟩ := equal pair member
  have null : (Row.gap pair.child : Row Value) pair.child = none := if_pos rfl
  rw [null] at present
  cases present

/-! ### Foreign keys -/

/-- **A foreign key finds a row for every row just if all of its fields are required.** -/
theorem matchesAll_iff_required {database : Database} {key : ForeignKey}
    (member : key ∈ database.foreignKeys) :
    (∀ contents : Contents Value, contents.Satisfies database →
      contents.MatchesAll key.child key.parent key.columns) ↔
      ∀ column ∈ key.columns, database.Requires key.child column.child := by
  constructor
  · intro matched column inKey
    by_contra free
    exact Contents.not_matchesAll_withGap inKey (matched _ (Contents.withGap_satisfies free))
  · intro required contents satisfies row inChild
    have present : ∀ column ∈ key.columns, ∃ value, row column.child = some value :=
      fun column inKey => satisfies.required _ _ (required column inKey) row inChild
    obtain ⟨parentRow, inParent, equal⟩ := satisfies.referenced key member row inChild (by
      intro column inKey null
      obtain ⟨value, stored⟩ := present column inKey
      rw [null] at stored
      cases stored)
    refine ⟨parentRow, inParent, ?_⟩
    intro column inKey
    obtain ⟨value, stored⟩ := present column inKey
    exact ⟨value, stored, (equal column inKey).trans stored⟩

end Gap

/-- The foreign key that is found is one of the schema, between the two relations. -/
theorem Database.mem_of_foreignKey? {database : Database} {child parent : RelationId}
    {fields : Option (List String)} {key : ForeignKey}
    (found : database.foreignKey? child parent fields = .ok (some key)) :
    key ∈ database.foreignKeys ∧ key.child = child ∧ key.parent = parent := by
  unfold Database.foreignKey? at found
  split at found
  · cases found
  · rename_i only equal
    cases found
    have qualifies : key ∈ database.qualifyingKeys child parent fields := by
      rw [equal]
      exact List.mem_singleton_self key
    have between := (List.mem_filter.mp qualifies).1
    simpa [Database.foreignKeysBetween] using between
  · cases found

/-! ### Links -/

/-- The foreign key behind a link without custom match. -/
theorem Resolver.foreignKey_of_parentMatch {r : Resolver} {location : Location}
    {child parent : Relation} {link : ParentLink} {parentHasCondition : Bool}
    {matching : RowMatch} (uncustomized : link.customMatch = none)
    (matched : r.parentMatch location child parent link parentHasCondition = .ok matching) :
    ∃ key ∈ r.database.foreignKeys, key.child = child.id ∧ key.parent = parent.id ∧
      key.columns = matching.pairs ∧
      (matching.guaranteed = true → ∃ pair ∈ matching.pairs, child.Requires pair.child) := by
  rw [Resolver.parentMatch, bind_eq_ok, uncustomized] at matched
  obtain ⟨pairs, linked, equal⟩ := matched
  obtain ⟨key, found, rfl⟩ := Resolver.foreignKeyPairs_eq_ok.mp linked
  obtain ⟨member, ofChild, ofParent⟩ := Database.mem_of_foreignKey? found
  cases equal
  refine ⟨key, member, ofChild, ofParent, rfl, ?_⟩
  intro certain
  cases parentHasCondition with
  | true => cases certain
  | false => exact Resolver.guaranteed_foreignKey_iff.mp certain

/-- **Which certain links find a row.** A link by foreign key that is taken to be certain finds a
parent row for every row, in all contents that keep to the schema, just if all fields of the key are
required. It does so for keys with one field. -/
theorem guaranteed_matchesAll_iff [Inhabited Value] (r : Resolver) {location : Location}
    {child parent : Relation} {link : ParentLink} {parentHasCondition : Bool}
    {matching : RowMatch} (member : child ∈ r.database.relations)
    (uncustomized : link.customMatch = none)
    (matched : r.parentMatch location child parent link parentHasCondition = .ok matching)
    (certain : matching.guaranteed = true) :
    ((∀ contents : Contents Value, contents.Satisfies r.database →
      contents.MatchesAll child.id parent.id matching.pairs) ↔
        ∀ pair ∈ matching.pairs, r.database.Requires child.id pair.child) ∧
    (matching.pairs.length = 1 → ∀ contents : Contents Value, contents.Satisfies r.database →
      contents.MatchesAll child.id parent.id matching.pairs) := by
  obtain ⟨key, inSchema, ofChild, ofParent, columns, required⟩ :=
    Resolver.foreignKey_of_parentMatch uncustomized matched
  have condition : (∀ contents : Contents Value, contents.Satisfies r.database →
      contents.MatchesAll key.child key.parent key.columns) ↔
        ∀ column ∈ key.columns, r.database.Requires key.child column.child :=
    matchesAll_iff_required inSchema
  rw [ofChild, ofParent, columns] at condition
  refine ⟨condition, ?_⟩
  intro single
  refine condition.mpr ?_
  intro pair inPairs
  obtain ⟨first, inFirst, notNull⟩ := required certain
  obtain ⟨only, equal⟩ := List.length_eq_one_iff.mp single
  rw [equal, List.mem_singleton] at inPairs inFirst
  rw [inPairs, ← inFirst]
  exact notNull.requires member

/-! ### A store -/

namespace Store

/-- A number in a table, with its position in the primary key. -/
def number (name : String) (nullable : Bool) (keyPart : Option UInt32) : Field :=
  ⟨name, "int4", some nullable, keyPart, none, none, none, none⟩

def aisle : Relation := ⟨⟨some "store", "aisle"⟩, .table, [number "number" false (some 1)]⟩

def shelf : Relation :=
  ⟨⟨some "store", "shelf"⟩, .table,
    [number "aisle" false (some 1), number "number" false (some 2)]⟩

/-- Items belong to an aisle. They may wait there for a place on a shelf. -/
def item : Relation :=
  ⟨⟨some "store", "item"⟩, .table,
    [number "id" false (some 1), number "aisle" false none, number "shelf_number" true none]⟩

/-- Shelves are in aisles, and items are on shelves. -/
def database : Database :=
  ⟨"PostgreSQL", "16.2", .storedLower, [aisle, shelf, item],
    [⟨some "shelf_aisle_fk", shelf.id, aisle.id, [⟨"aisle", "number"⟩]⟩,
      ⟨some "item_shelf_fk", item.id, shelf.id,
        [⟨"aisle", "aisle"⟩, ⟨"shelf_number", "number"⟩]⟩]⟩

def resolver : Resolver := ⟨database, some "store", .camelCase⟩

/-- A parent as an object, by the foreign key to it. -/
def link (name : String) : ParentLink := ⟨some name, none, none, none, none⟩

/-- An item that waits in aisle seven, and nothing else. -/
def waiting : Contents Nat where
  rows id := if id = item.id then
    [fun field => if field = "id" then some 1 else if field = "aisle" then some 7 else none]
  else []

end Store

/-- Shelves find their aisles. The link from items to shelves is taken to be certain as well, but it
finds no row in some contents. -/
theorem store_guaranteed_matchesAll :
    (Store.resolver.parentMatch (Location.root "shelves") Store.shelf Store.aisle
      (Store.link "aisle") false = .ok ⟨[⟨"aisle", "number"⟩], true⟩ ∧
      ∀ contents : Contents Nat, contents.Satisfies Store.database →
        contents.MatchesAll Store.shelf.id Store.aisle.id [⟨"aisle", "number"⟩]) ∧
    (Store.resolver.parentMatch (Location.root "items") Store.item Store.shelf
      (Store.link "shelf") false =
        .ok ⟨[⟨"aisle", "aisle"⟩, ⟨"shelf_number", "number"⟩], true⟩ ∧
      ¬ ∀ contents : Contents Nat, contents.Satisfies Store.database →
        contents.MatchesAll Store.item.id Store.shelf.id
          [⟨"aisle", "aisle"⟩, ⟨"shelf_number", "number"⟩]) := by
  have aisles : Store.resolver.parentMatch (Location.root "shelves") Store.shelf Store.aisle
      (Store.link "aisle") false = .ok ⟨[⟨"aisle", "number"⟩], true⟩ := by
    decide +kernel
  have shelves : Store.resolver.parentMatch (Location.root "items") Store.item Store.shelf
      (Store.link "shelf") false =
        .ok ⟨[⟨"aisle", "aisle"⟩, ⟨"shelf_number", "number"⟩], true⟩ := by
    decide +kernel
  have free : ¬ Store.database.Requires Store.item.id "shelf_number" := by
    simp [Database.Requires, Store.database, Store.item, Store.shelf, Store.aisle, Store.number]
  refine ⟨⟨aisles, ?_⟩, shelves, ?_⟩
  · exact (guaranteed_matchesAll_iff Store.resolver (by simp [Store.resolver, Store.database])
      rfl aisles rfl).2 rfl
  · intro sound
    have required := (guaranteed_matchesAll_iff Store.resolver
      (by simp [Store.resolver, Store.database]) rfl shelves rfl).1.mp sound
    exact free (required ⟨"shelf_number", "number"⟩ (by simp))

/-- **A certain link without a row.** One field of the foreign key from items to shelves is
required, so the link is taken to be certain. An item that waits in an aisle keeps to the
schema and has no shelf. -/
theorem item_without_shelf :
    Store.resolver.relation? "item" = some Store.item ∧
    Store.resolver.relation? "shelf" = some Store.shelf ∧
    Store.resolver.parentMatch (Location.root "items") Store.item Store.shelf
      (Store.link "shelf") false =
        .ok ⟨[⟨"aisle", "aisle"⟩, ⟨"shelf_number", "number"⟩], true⟩ ∧
    Store.waiting.Satisfies Store.database ∧
    ¬ Store.waiting.MatchesAll Store.item.id Store.shelf.id
      [⟨"aisle", "aisle"⟩, ⟨"shelf_number", "number"⟩] := by
  have empty : Store.waiting.rows Store.shelf.id = [] ∧ Store.waiting.rows Store.aisle.id = [] :=
    ⟨rfl, rfl⟩
  refine ⟨by decide +kernel, by decide +kernel, by decide +kernel, ?_, ?_⟩
  · constructor
    · rintro id name ⟨relation, inSchema, rfl, field, inRelation, rfl, notNull⟩ row member
      simp only [Store.database, List.mem_cons, List.not_mem_nil, or_false] at inSchema
      rcases inSchema with rfl | rfl | rfl
      · simp [empty] at member
      · simp [empty] at member
      · simp only [Store.item, List.mem_cons, List.not_mem_nil, or_false] at inRelation
        obtain rfl := List.mem_singleton.mp member
        rcases inRelation with rfl | rfl | rfl
        · exact ⟨1, rfl⟩
        · exact ⟨7, rfl⟩
        · cases notNull
    · intro key inSchema row member complete
      simp only [Store.database, List.mem_cons, List.not_mem_nil, or_false] at inSchema
      rcases inSchema with rfl | rfl
      · simp [empty] at member
      · -- The item has no shelf number, so its key is not looked at.
        obtain rfl := List.mem_singleton.mp member
        exact absurd rfl (complete ⟨"shelf_number", "number"⟩ (by simp))
  · intro matched
    obtain ⟨parentRow, inShelves, -⟩ := matched _ (List.mem_singleton_self _)
    simp [empty] at inShelves

end NestedQuery
