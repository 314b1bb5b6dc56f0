import NestedQuery.ResultType.Naming
import NestedQuery.Source.Unit

/-!
# Source of result types

## Main Definitions

* `Property.typeText`: the declared type of a property
* `NamedTypes.declarations`: the declarations of named types
* `NamedTypes.source`: the file that declares the result types of a query
* `SourceError`: why a type cannot be declared
-/

namespace NestedQuery

/-- Why a type cannot be declared. -/
inductive SourceError where
  | unsupportedDatabaseType (field databaseType : String)
  | missingTypeForLanguage (property : String) (language : Language)
  | missingSourceType (property : String)
  | unnamedResultType (relation : RelationId)
  | invalidUnwrappedType (relation : RelationId) (propertyCount : Nat)
deriving DecidableEq, Repr

/-- The text of an error. -/
def SourceError.message : SourceError → String
  | unsupportedDatabaseType field databaseType =>
    "Unsupported database type '" ++ databaseType ++ "' for field '" ++ field ++ "'"
  | missingTypeForLanguage property language =>
    "No " ++ language.label ++ " type is specified for property '" ++ property ++ "'"
  | missingSourceType property =>
    "A generated source type is required for expression property '" ++ property ++ "'"
  | unnamedResultType relation =>
    "No declared result type for a property referring to table '" ++ relation.text ++ "'"
  | invalidUnwrappedType relation propertyCount =>
    "An unwrapped result type of table '" ++ relation.text
      ++ "' must have exactly one property, found " ++ toString propertyCount

/-- A generated source file. -/
structure GeneratedSource where
  unit : String
  code : String
deriving DecidableEq, Repr, Inhabited

/-- What a file tells about a query besides its result types. -/
structure QueryFacts where
  name : String
  /-- The SQL resource for each representation. -/
  sqlResources : List (Representation × String)
  paramNames : List String
  typesFileHeader : Option String
deriving DecidableEq, Repr

/-! ### Types of properties -/

/-- The type that the user declares for a language. -/
def SourceType.textFor (language : Language) (property : String) (type : SourceType) :
    Except SourceError String :=
  match type.forLanguage language with
  | some text => .ok text
  | none => .error (.missingTypeForLanguage property language)

/-- The type of a field: an override for its database type, or else that of its category. What may
be null or is not known to be otherwise gets a nullable type. -/
def ColumnFacts.typeText (options : SourceOptions) (column : ColumnFacts)
    (nullable : Option Bool) : Except SourceError String :=
  match options.override? column.databaseType with
  | some type => .ok (options.language.withNullability (nullable.getD true) type)
  | none =>
    match TypeCategory.ofDatabaseType? column.databaseType with
    | some category =>
      .ok (options.language.withNullability (nullable.getD true)
        (options.language.fieldType category column))
    | none => .error (.unsupportedDatabaseType column.field column.databaseType)

/-- The name of a declared type. -/
def NamedTypes.declaredName (named : NamedTypes) (type : ResultType) :
    Except SourceError String :=
  match named.nameOf? type with
  | some name => .ok name
  | none => .error (.unnamedResultType type.relation)

mutual

/-- The declared type of a property. -/
def Property.typeText (options : SourceOptions) (named : NamedTypes) :
    Property → Except SourceError String
  | .field name column nullable sourceType =>
    match sourceType with
    | some type => type.textFor options.language name
    | none => column.typeText options nullable
  | .expression name _ sourceType =>
    match sourceType with
    | some type => type.textFor options.language name
    | none => .error (.missingSourceType name)
  | .reference _ type nullable => do
    let text ← named.declaredName type
    return options.language.withNullability nullable text
  | .collection _ element nullable => do
    let text ←
      if element.unwrapped then element.soleTypeText options named
      else named.declaredName element
    return options.language.withNullability nullable (options.language.collection text)
termination_by structural property => property

/-- The type that an unwrapped type stands for: that of its only property. -/
def ResultType.soleTypeText (options : SourceOptions) (named : NamedTypes) :
    ResultType → Except SourceError String
  | ⟨_, relation, _, _, properties⟩ => Property.soleTypeText options named relation properties
termination_by structural type => type

/-- The type of the only one of some properties. -/
def Property.soleTypeText (options : SourceOptions) (named : NamedTypes) (relation : RelationId) :
    List Property → Except SourceError String
  | [] => .error (.invalidUnwrappedType relation 0)
  | [property] => property.typeText options named
  | _ :: _ :: others => .error (.invalidUnwrappedType relation (others.length + 2))
termination_by structural properties => properties

end

/-! ### Files -/

/-- The declaration of a named type. -/
def ResultType.declaration (options : SourceOptions) (named : NamedTypes) (name : String)
    (type : ResultType) : Except SourceError TypeDeclaration := do
  let properties ← type.properties.mapM fun property => do
    let text ← property.typeText options named
    return (property.name, text)
  return ⟨name, properties⟩

/-- Whether a pair of texts comes before or with another one. -/
def pairLe (a b : String × String) : Bool :=
  a.1 < b.1 || (a.1 == b.1 && a.2 ≤ b.2)

/-- The constants for SQL resources, by the names of their representations. Just one resource needs
no representation in the name of its constant. -/
def sqlResourceMembers (options : SourceOptions) (resources : List (Representation × String)) :
    List (String × String) :=
  let sorted := sortBy pairLe
    (resources.map fun (representation, resource) => (representation.label, resource))
  sorted.map fun (representation, resource) =>
    (if sorted.length = 1 then "sqlResource" else "sqlResource" ++ Text.upperCamel representation,
      options.sqlResourcePrefix.getD "" ++ resource)

/-- The general header above that of the query. -/
def joinHeaders : Option String → Option String → Option String
  | some general, some query => some (general ++ "\n" ++ query)
  | some general, none => some general
  | none, query => query

namespace NamedTypes

/-- The declarations of the named types; unwrapped types are not declared. -/
def declarations (options : SourceOptions) (named : NamedTypes) :
    Except SourceError (List TypeDeclaration) :=
  (named.entries.filter (fun entry => !entry.2.unwrapped)).mapM
    fun (name, type) => type.declaration options named name

/-- What the file with the result types of a query declares. -/
def unit (options : SourceOptions) (facts : QueryFacts) (named : NamedTypes) :
    Except SourceError CompilationUnit := do
  let declarations ← named.declarations options
  return {
    name := options.language.unitName facts.name
    header := joinHeaders options.typesFileHeader facts.typesFileHeader
    sqlResources := sqlResourceMembers options facts.sqlResources
    paramNames := facts.paramNames
    declarations }

/-- The file that declares the result types of a query. -/
def source (options : SourceOptions) (facts : QueryFacts) (named : NamedTypes) :
    Except SourceError GeneratedSource := do
  let unit ← named.unit options facts
  return ⟨unit.name, options.language.render options.java unit⟩

end NamedTypes

end NestedQuery
