import NestedQuery.Spec.Basic

/-!
# Result types

The shape of the values that a query returns for a table: for a row of the result, for a referenced
parent, or for an element of a collection.

## Main Definitions

* `ResultType`, `Property`: the tree of types
* `Property.toNullable`: a property that may be missing with the row it comes from
* `ResultType.same`: equality of types, part by part
-/

namespace NestedQuery

/-- What a property tells about the field that it holds. -/
structure ColumnFacts where
  field : String
  databaseType : String
  length : Option UInt32
  precision : Option UInt32
  fractionalDigits : Option Int32
deriving DecidableEq, Repr, Inhabited

mutual

/-- The type of the values for a table. -/
structure ResultType where
  query : String
  relation : RelationId
  /-- The name that the specification asks for. -/
  typeName : Option String
  /-- Whether the values are those of the only property, without an object around them. -/
  unwrapped : Bool
  /-- The properties, in display order. -/
  properties : List Property

/-- A property of a type. -/
inductive Property where
  /-- The value of a field; `nullable` is absent if it is not known. -/
  | field (name : String) (column : ColumnFacts) (nullable : Option Bool)
      (sourceType : Option SourceType)
  /-- The value of an expression. -/
  | expression (name sql : String) (sourceType : Option SourceType)
  /-- The object for a parent row. -/
  | reference (name : String) (type : ResultType) (nullable : Bool)
  /-- The collection of child rows. -/
  | collection (name : String) (element : ResultType) (nullable : Bool)

end

instance : Inhabited ResultType := ⟨⟨"", default, none, false, []⟩⟩

namespace Property

/-- The name of a property. -/
def name : Property → String
  | field name _ _ _ => name
  | expression name _ _ => name
  | reference name _ _ => name
  | collection name _ _ => name

/-- A property that comes from a row that may be missing. Nothing is known about the nullability of
expressions. -/
def toNullable : Property → Property
  | field name column _ sourceType => field name column (some true) sourceType
  | expression name sql sourceType => expression name sql sourceType
  | reference name type _ => reference name type true
  | collection name element _ => collection name element true

end Property

/-! ### Equality -/

mutual

/-- Whether two types are equal. -/
def ResultType.same : ResultType → ResultType → Bool
  | ⟨query, relation, typeName, unwrapped, properties⟩, t =>
    query == t.query && relation == t.relation && typeName == t.typeName
      && unwrapped == t.unwrapped && Property.sameAll properties t.properties
termination_by structural s => s

/-- Whether two lists of properties are equal. -/
def Property.sameAll : List Property → List Property → Bool
  | [], [] => true
  | p :: ps, q :: qs => p.same q && Property.sameAll ps qs
  | _, _ => false
termination_by structural ps => ps

/-- Whether two properties are equal. -/
def Property.same : Property → Property → Bool
  | .field name column nullable sourceType, .field name' column' nullable' sourceType' =>
    name == name' && column == column' && nullable == nullable' && sourceType == sourceType'
  | .expression name sql sourceType, .expression name' sql' sourceType' =>
    name == name' && sql == sql' && sourceType == sourceType'
  | .reference name type nullable, .reference name' type' nullable' =>
    name == name' && type.same type' && nullable == nullable'
  | .collection name element nullable, .collection name' element' nullable' =>
    name == name' && element.same element' && nullable == nullable'
  | _, _ => false
termination_by structural p => p

end

mutual

theorem ResultType.same_iff (s t : ResultType) : s.same t = true ↔ s = t := by
  obtain ⟨query, relation, typeName, unwrapped, properties⟩ := s
  obtain ⟨query', relation', typeName', unwrapped', properties'⟩ := t
  simp [ResultType.same, Property.sameAll_iff properties properties', and_assoc]
termination_by structural s

theorem Property.sameAll_iff (ps qs : List Property) :
    Property.sameAll ps qs = true ↔ ps = qs := by
  match ps, qs with
  | [], [] => simp [Property.sameAll]
  | [], _ :: _ => simp [Property.sameAll]
  | _ :: _, [] => simp [Property.sameAll]
  | p :: ps, q :: qs =>
    simp [Property.sameAll, Property.same_iff p q, Property.sameAll_iff ps qs]
termination_by structural ps

theorem Property.same_iff (p q : Property) : p.same q = true ↔ p = q := by
  match p with
  | .field .. => cases q <;> simp [Property.same, and_assoc]
  | .expression .. => cases q <;> simp [Property.same, and_assoc]
  | .reference name type nullable =>
    cases q <;> simp [Property.same, ResultType.same_iff type, and_assoc]
  | .collection name element nullable =>
    cases q <;> simp [Property.same, ResultType.same_iff element, and_assoc]
termination_by structural p

end

instance : DecidableEq ResultType := fun s t =>
  decidable_of_iff (s.same t = true) (ResultType.same_iff s t)

instance : DecidableEq Property := fun p q =>
  decidable_of_iff (p.same q = true) (Property.same_iff p q)

end NestedQuery
