import NestedQuery.Proofs.DeclaredTypes

/-!
# Shapes of declared types

The declared type of a property is put together as text: around a name there is what makes a
type nullable and what makes it a collection, as often as unwrapped collections are nested. In
TypeScript both are written behind a type, and a type with a space in it is put in parentheses
to be the element of a collection; in Java both are written in front, and a primitive type is
replaced by the type of the objects that hold its values.

Here the layers are read back from the text. A text is cut into words and signs, and the
reader for a language goes by its grammar: in TypeScript a collection binds its elements
tighter than a union.

## Main Definitions

* `TypeShape`: a name with its layers
* `Property.HasShape`: the layers that the parts of a property ask for
* `Text.lexemes`: the words and signs of a text
* `Language.readType`: the layers that a text has

## Main Results

* `Text.lexemes_append`: texts that meet at a sign are cut one by one
* `TypeShape.readType_text`: the layers of a shape are read back from its text
* `Property.HasShape.typeText`: the declared type of a property is the text of its shape
* `declared_types_tell_their_shapes`: the types that a specification leads to
-/

namespace NestedQuery

/-! ### Words and signs -/

namespace Text

/-- A letter, a digit or an underscore. -/
def isWordChar (c : Char) : Bool := c == '_' || isAlphanumeric c

/-- A text of letters, digits and underscores that is not empty. -/
def isWord (s : String) : Bool := s != "" && s.toList.all isWordChar

/-- A word, or a character between words. -/
inductive Lexeme where
  | word (text : String)
  | sign (c : Char)
deriving DecidableEq, Repr

/-- End a word, if there is one. -/
def endWord (word : List Char) (rest : List Lexeme) : List Lexeme :=
  if word.isEmpty then rest else .word (String.ofList word) :: rest

/-- The words and signs of a text that goes on with a word. -/
def lexemesFrom (word : List Char) : List Char → List Lexeme
  | [] => endWord word []
  | c :: cs =>
    if isWordChar c then lexemesFrom (word ++ [c]) cs
    else endWord word (.sign c :: lexemesFrom [] cs)

/-- The words and signs of a text. -/
def lexemes (s : String) : List Lexeme := lexemesFrom [] s.toList

theorem endWord_append (word : List Char) (xs ys : List Lexeme) :
    endWord word (xs ++ ys) = endWord word xs ++ ys := by
  unfold endWord
  split
  · rfl
  · rfl

theorem lexemesFrom_sign {c : Char} (isSign : isWordChar c = false) (word rest : List Char) :
    lexemesFrom word (c :: rest) = endWord word (.sign c :: lexemesFrom [] rest) := by
  rw [lexemesFrom, if_neg (by simp [isSign])]

theorem lexemesFrom_append_sign {c : Char} (isSign : isWordChar c = false) (rest : List Char)
    (chars : List Char) : ∀ word, lexemesFrom word (chars ++ c :: rest) =
      lexemesFrom word chars ++ .sign c :: lexemesFrom [] rest := by
  induction chars with
  | nil =>
      intro word
      rw [List.nil_append, lexemesFrom_sign isSign, lexemesFrom, ← endWord_append, List.nil_append]
  | cons d chars ih =>
      intro word
      rw [List.cons_append, lexemesFrom, lexemesFrom, ih, ih]
      split
      · rfl
      · rw [← endWord_append, List.cons_append]

theorem lexemesFrom_of_all {chars : List Char} (all : chars.all isWordChar = true) :
    ∀ word, lexemesFrom word chars = endWord (word ++ chars) [] := by
  induction chars with
  | nil =>
      intro word
      rw [List.append_nil]
      rfl
  | cons c chars ih =>
      intro word
      rw [List.all_cons, Bool.and_eq_true] at all
      rw [lexemesFrom, if_pos all.1, ih all.2, List.append_assoc, List.singleton_append]

/-- **Texts that meet at a sign are cut one by one.** -/
theorem lexemes_append {s t : String}
    (meet : (∃ c ∈ s.toList.getLast?, isWordChar c = false) ∨
      ∃ c ∈ t.toList.head?, isWordChar c = false) :
    lexemes (s ++ t) = lexemes s ++ lexemes t := by
  unfold lexemes
  rw [String.toList_append]
  rcases meet with ⟨c, last, isSign⟩ | ⟨c, first, isSign⟩
  · obtain ⟨before, split⟩ := List.getLast?_eq_some_iff.mp last
    rw [split, List.append_assoc, List.singleton_append, lexemesFrom_append_sign isSign,
      lexemesFrom_append_sign isSign, List.append_assoc]
    rfl
  · obtain ⟨after, split⟩ := List.head?_eq_some_iff.mp first
    rw [split, lexemesFrom_append_sign isSign, lexemesFrom_sign isSign]
    rfl

theorem lexemes_of_isWord {s : String} (isWord : isWord s = true) : lexemes s = [.word s] := by
  rw [Text.isWord, Bool.and_eq_true, bne_iff_ne] at isWord
  unfold lexemes
  rw [lexemesFrom_of_all isWord.2, List.nil_append, endWord, if_neg, String.ofList_toList]
  rw [List.isEmpty_iff, String.toList_eq_nil_iff]
  exact isWord.1

end Text

open Text (Lexeme lexemes lexemes_append lexemes_of_isWord isWord)

/-! ### Shapes -/

/-- A name with its layers: a named type, or a list, either of them possibly nullable. -/
inductive TypeShape where
  | named (nullable : Bool) (name : String)
  | list (nullable : Bool) (element : TypeShape)
deriving DecidableEq, Repr

namespace TypeShape

/-- The name inside all layers. -/
def name : TypeShape → String
  | named _ name => name
  | list _ element => element.name

/-- The same layers around another name. -/
def mapName (f : String → String) : TypeShape → TypeShape
  | named nullable name => named nullable (f name)
  | list nullable element => list nullable (element.mapName f)

/-- Whether the outermost layer is nullable. -/
def isNullable : TypeShape → Bool
  | named nullable _ => nullable
  | list nullable _ => nullable

/-- The shape with a nullable layer outermost. -/
def orNull : TypeShape → TypeShape
  | named _ name => named true name
  | list _ element => list true element

/-- How a language writes a shape. -/
def text (language : Language) : TypeShape → String
  | named nullable name => language.withNullability nullable name
  | list nullable element =>
    language.withNullability nullable (language.collection (element.text language))

end TypeShape

/-! ### Reading TypeScript -/

namespace TypeScript

/-- Read what stands behind a type inside some open parentheses. A collection of a union needs
parentheses around the union. -/
def readLayers (opened : Nat) (union : Bool) (shape : TypeShape) :
    List Lexeme → Option TypeShape
  | [] => if opened = 0 then some shape else none
  | .sign ')' :: rest =>
    match opened with
    | 0 => none
    | opened + 1 => readLayers opened false shape rest
  | .sign '[' :: .sign ']' :: rest =>
    if union then none else readLayers opened false (.list false shape) rest
  | .sign ' ' :: .sign '|' :: .sign ' ' :: .word "null" :: rest =>
    if union then none else readLayers opened true shape.orNull rest
  | _ => none

/-- Read a type inside some open parentheses. -/
def readOpen : Nat → List Lexeme → Option TypeShape
  | opened, .sign '(' :: rest => readOpen (opened + 1) rest
  | opened, .word name :: rest => readLayers opened false (.named false name) rest
  | _, _ => none

/-- A text is read as a shape, whatever follows it. -/
def Reads (text : String) (shape : TypeShape) : Prop :=
  ∀ opened rest, readOpen opened (lexemes text ++ rest) =
    readLayers opened shape.isNullable shape rest

variable {text : String} {shape : TypeShape}

theorem reads_word {name : String} (word : isWord name = true) :
    Reads name (.named false name) := by
  intro opened rest
  rw [lexemes_of_isWord word]
  rfl

theorem Reads.nullable (reads : Reads text shape) (once : shape.isNullable = false) :
    Reads (Language.typeScript.nullable text) shape.orNull := by
  intro opened rest
  have cut : lexemes (Language.typeScript.nullable text) =
      lexemes text ++ [.sign ' ', .sign '|', .sign ' ', .word "null"] :=
    lexemes_append (.inr ⟨' ', by decide, by decide⟩)
  rw [cut, List.append_assoc, reads, once]
  cases shape with
  | named => rfl
  | list => rfl

theorem Reads.collection (reads : Reads text shape)
    (spaced : shape.isNullable = true → ' ' ∈ text.toList) :
    Reads (Language.typeScript.collection text) (.list false shape) := by
  intro opened rest
  by_cases hasSpace : text.toList.contains ' ' = true
  · have written : Language.typeScript.collection text = "(" ++ text ++ ")[]" := if_pos hasSpace
    have cut : lexemes ("(" ++ text ++ ")[]") =
        .sign '(' :: lexemes text ++ [.sign ')', .sign '[', .sign ']'] := by
      rw [lexemes_append (.inr ⟨')', by decide, by decide⟩),
        lexemes_append (.inl ⟨'(', by decide, by decide⟩)]
      rfl
    rw [written, cut, List.append_assoc, List.cons_append, readOpen, reads]
    rfl
  · have written : Language.typeScript.collection text = text ++ "[]" := if_neg hasSpace
    have once : shape.isNullable = false := by
      refine Bool.eq_false_iff.mpr fun isNullable => hasSpace ?_
      rw [List.contains_iff_mem]
      exact spaced isNullable
    have cut : lexemes (text ++ "[]") = lexemes text ++ [.sign '[', .sign ']'] :=
      lexemes_append (.inr ⟨'[', by decide, by decide⟩)
    rw [written, cut, List.append_assoc, reads, once]
    rfl

end TypeScript

namespace TypeShape

/-- A nullable type has a space in its text. -/
theorem space_mem_text {shape : TypeShape} (isNullable : shape.isNullable = true) :
    ' ' ∈ (shape.text .typeScript).toList := by
  have behind : ∀ text, ' ' ∈ (Language.typeScript.nullable text).toList := by
    intro text
    unfold Language.nullable
    rw [String.toList_append, List.mem_append]
    exact .inr (by decide)
  cases shape with
  | named nullable name =>
      cases isNullable
      exact behind _
  | list nullable element =>
      cases isNullable
      exact behind _

theorem reads_typeScript {shape : TypeShape} (word : isWord shape.name = true) :
    TypeScript.Reads (shape.text .typeScript) shape := by
  induction shape with
  | named nullable name =>
      have reads := TypeScript.reads_word word
      cases nullable with
      | false => exact reads
      | true => exact reads.nullable rfl
  | list nullable element ih =>
      have reads := (ih word).collection space_mem_text
      cases nullable with
      | false => exact reads
      | true => exact reads.nullable rfl

end TypeShape

/-! ### Reading Java -/

/-- A primitive type is a word, and so is the type of its objects. -/
theorem javaReferenceType_cases (type : String) :
    javaReferenceType type = type ∨
      isWord type = true ∧ isWord (javaReferenceType type) = true ∧
        javaReferenceType (javaReferenceType type) = javaReferenceType type := by
  by_cases primitive : type ∈ ["int", "long", "double", "float", "boolean", "char", "short", "byte"]
  · right
    revert type
    decide +kernel
  · left
    unfold javaReferenceType
    rw [List.lookup_eq_none_iff.mpr, Option.getD_none]
    intro pair listed
    rw [bne_iff_ne]
    rintro rfl
    exact primitive (List.mem_map_of_mem listed)

namespace Java

/-- Read a type at the front of some words and signs. -/
def readFront : List Lexeme → Option (TypeShape × List Lexeme)
  | .sign '@' :: .word "Nullable" :: .sign ' ' :: rest =>
    (readFront rest).map fun (shape, rest) => (shape.orNull, rest)
  | .word "List" :: .sign '<' :: rest =>
    match readFront rest with
    | some (element, .sign '>' :: rest) => some (.list false element, rest)
    | _ => none
  | .word name :: rest => some (.named false (javaReferenceType name), rest)
  | _ => none

/-- A text is read as a shape in front of anything but type arguments. -/
def Reads (text : String) (shape : TypeShape) : Prop :=
  ∀ rest, rest.head? ≠ some (.sign '<') → readFront (lexemes text ++ rest) = some (shape, rest)

variable {text : String} {shape : TypeShape}

theorem reads_word {name : String} (word : isWord name = true) :
    Reads name (.named false (javaReferenceType name)) := by
  intro rest noArguments
  rw [lexemes_of_isWord word, List.singleton_append, readFront]
  intro arguments starts _
  exact noArguments (congrArg List.head? starts)

/-- The type of the objects is read as the primitive type is. -/
theorem Reads.boxed (reads : Reads text shape) : Reads (javaReferenceType text) shape := by
  rcases javaReferenceType_cases text with same | ⟨word, boxedWord, again⟩
  · rw [same]
    exact reads
  · have alone : shape = .named false (javaReferenceType text) := by
      have read := (reads [] nofun).symm.trans (reads_word word [] nofun)
      exact congrArg Prod.fst (Option.some.inj read)
    have boxed := reads_word boxedWord
    rw [again] at boxed
    rw [alone]
    exact boxed

theorem Reads.nullable (reads : Reads text shape) :
    Reads (Language.java.nullable text) shape.orNull := by
  intro rest noArguments
  have cut : lexemes (Language.java.nullable text) =
      [.sign '@', .word "Nullable", .sign ' '] ++ lexemes (javaReferenceType text) :=
    lexemes_append (.inl ⟨' ', by decide, by decide⟩)
  rw [cut, List.append_assoc, List.cons_append, List.cons_append, List.cons_append, List.nil_append,
    readFront, reads.boxed rest noArguments]
  rfl

theorem Reads.collection (reads : Reads text shape) :
    Reads (Language.java.collection text) (.list false shape) := by
  intro rest _
  have cut : lexemes (Language.java.collection text) =
      .word "List" :: .sign '<' :: lexemes (javaReferenceType text) ++ [.sign '>'] := by
    unfold Language.collection
    rw [lexemes_append (.inr ⟨'>', by decide, by decide⟩),
      lexemes_append (.inl ⟨'<', by decide, by decide⟩)]
    rfl
  have closes : (Lexeme.sign '>' :: rest).head? ≠ some (.sign '<') := by simp
  rw [cut, List.append_assoc, List.cons_append, List.cons_append, List.singleton_append, readFront,
    reads.boxed _ closes]
  rfl

end Java

theorem TypeShape.reads_java {shape : TypeShape} (word : isWord shape.name = true) :
    Java.Reads (shape.text .java) (shape.mapName javaReferenceType) := by
  induction shape with
  | named nullable name =>
      have reads := Java.reads_word word
      cases nullable with
      | false => exact reads
      | true => exact reads.nullable
  | list nullable element ih =>
      have reads := (ih word).collection
      cases nullable with
      | false => exact reads
      | true => exact reads.nullable

/-! ### Texts of shapes -/

namespace Language

/-- The shape that a text has in a language. -/
def readType : Language → String → Option TypeShape
  | typeScript, text => TypeScript.readOpen 0 (lexemes text)
  | java, text =>
    match Java.readFront (lexemes text) with
    | some (shape, []) => some shape
    | _ => none

/-- The name that can be told from a text: in Java it is that of a type of objects. -/
def toldName : Language → String → String
  | typeScript, name => name
  | java, name => javaReferenceType name

end Language

/-- **The layers of a shape are read back from its text.** -/
theorem TypeShape.readType_text (language : Language) {shape : TypeShape}
    (word : isWord shape.name = true) :
    language.readType (shape.text language) = some (shape.mapName language.toldName) := by
  cases language with
  | typeScript =>
      have same : shape.mapName Language.typeScript.toldName = shape := by
        induction shape with
        | named => rfl
        | list nullable element ih => exact congrArg (list nullable) (ih word)
      have read := shape.reads_typeScript word 0 []
      rw [List.append_nil] at read
      rw [same]
      exact read
  | java =>
      have read := shape.reads_java word [] nofun
      rw [List.append_nil] at read
      unfold Language.readType
      simp only [read]
      rfl

-- Without parentheses there would be a collection of nulls.
example : Language.typeScript.readType "(string | null)[]" =
    some (.list false (.named true "string")) := by decide +kernel
example : Language.typeScript.readType "string | null[]" = none := by decide +kernel

/-! ### Shapes of properties -/

/-- The type of a field without its nullability: an override for its database type, or else the
built-in type. -/
inductive ColumnFacts.HasName (options : SourceOptions) (column : ColumnFacts) : String → Prop
  | override {name : String} (found : options.override? column.databaseType = some name) :
      HasName options column name
  | category {category : TypeCategory} (unchanged : options.override? column.databaseType = none)
      (known : TypeCategory.ofDatabaseType? column.databaseType = some category) :
      HasName options column (options.language.fieldType category column)

/-- The layers that the parts of a property ask for. A field that is not known to have values may
be null; the elements of an unwrapped collection have the shape of their only property. -/
inductive Property.HasShape (options : SourceOptions) (named : NamedTypes) :
    Property → TypeShape → Prop
  | field {name typeName : String} {column : ColumnFacts} {nullable : Option Bool}
      (hasName : column.HasName options typeName) :
      HasShape options named (.field name column nullable none)
        (.named (nullable.getD true) typeName)
  | reference {name typeName : String} {type : ResultType} {nullable : Bool}
      (declared : (typeName, type) ∈ named.entries) :
      HasShape options named (.reference name type nullable) (.named nullable typeName)
  | collection {name typeName : String} {element : ResultType} {nullable : Bool}
      (whole : element.unwrapped = false) (declared : (typeName, element) ∈ named.entries) :
      HasShape options named (.collection name element nullable)
        (.list nullable (.named false typeName))
  | unwrapped {name : String} {element : ResultType} {nullable : Bool} {sole : Property}
      {shape : TypeShape} (bare : element.unwrapped = true) (only : element.properties = [sole])
      (inner : HasShape options named sole shape) :
      HasShape options named (.collection name element nullable) (.list nullable shape)

/-- The type that the user declares for a property. -/
def Property.sourceType? : Property → Option SourceType
  | .field _ _ _ sourceType => sourceType
  | .expression _ _ sourceType => sourceType
  | .reference _ _ _ => none
  | .collection _ _ _ => none

/-- No type is declared by the user for a property and for what it reaches. -/
def Property.Undeclared (property : Property) : Prop :=
  ∀ target, property.Reaches target → target.sourceType? = none

section Properties

variable {options : SourceOptions} {types : List ResultType} {named : NamedTypes}

theorem ColumnFacts.HasName.unique {column : ColumnFacts} {name other : String}
    (first : column.HasName options name) (second : column.HasName options other) :
    name = other := by
  cases first with
  | override found =>
      cases second with
      | override again => exact Option.some.inj (found.symm.trans again)
      | category unchanged _ => rw [unchanged] at found; cases found
  | category unchanged known =>
      cases second with
      | override found => rw [unchanged] at found; cases found
      | category _ again => rw [Option.some.inj (known.symm.trans again)]

theorem ColumnFacts.HasName.typeText {column : ColumnFacts} {name : String}
    (hasName : column.HasName options name) (nullable : Option Bool) :
    column.typeText options nullable =
      .ok (options.language.withNullability (nullable.getD true) name) := by
  unfold ColumnFacts.typeText
  cases hasName with
  | override found => rw [found]
  | category unchanged known => rw [unchanged, known]

theorem Language.isWord_fieldType (language : Language) (category : TypeCategory)
    (column : ColumnFacts) : isWord (language.fieldType category column) = true := by
  have words : ∀ text ∈ ["number", "string", "boolean", "any", "int", "long", "BigDecimal",
      "double", "String", "JsonNode"], isWord text = true := by decide +kernel
  refine words _ ?_
  unfold Language.fieldType javaDecimalType
  repeat' split
  all_goals simp

/-- The types of fields are words if the overrides are. -/
theorem ColumnFacts.HasName.isWord {column : ColumnFacts} {name : String}
    (hasName : column.HasName options name)
    (overrides : ∀ entry ∈ options.overrides.entries, isWord entry.2 = true) :
    isWord name = true := by
  cases hasName with
  | override found =>
      obtain ⟨before, after, split, -⟩ := List.lookup_eq_some_iff.mp found
      exact overrides (Text.toLower column.databaseType, name) (by rw [split]; simp)
  | category => exact options.language.isWord_fieldType _ _

namespace Property.HasShape

variable {property : Property} {shape : TypeShape}

/-- **The declared type of a property is the text of its shape.** -/
theorem typeText (hasShape : property.HasShape options named shape)
    (names : NamedTypes.Names types named) :
    property.typeText options named = .ok (shape.text options.language) := by
  have declaredName : ∀ {name type}, (name, type) ∈ named.entries →
      named.declaredName type = .ok name := fun declared =>
    NamedTypes.declaredName_of_nameOf? ((names.nameOf _ _).mpr declared)
  induction hasShape with
  | field hasName =>
      rw [Property.typeText]
      exact hasName.typeText _
  | reference declared =>
      rw [Property.typeText, declaredName declared]
      rfl
  | collection whole declared =>
      rw [Property.typeText, whole, if_neg Bool.false_ne_true, declaredName declared]
      rfl
  | unwrapped bare only inner ih =>
      rw [Property.typeText_sole bare only, ih]
      rfl

/-- The name in a shape is a word if the overrides and the names of result types are. -/
theorem isWord (hasShape : property.HasShape options named shape)
    (overrides : ∀ entry ∈ options.overrides.entries, isWord entry.2 = true)
    (words : ∀ name ∈ named.names, isWord name = true) : isWord shape.name = true := by
  induction hasShape with
  | field hasName => exact hasName.isWord overrides
  | reference declared => exact words _ (List.mem_map_of_mem declared)
  | collection whole declared => exact words _ (List.mem_map_of_mem declared)
  | unwrapped bare only inner ih => exact ih

theorem unique (hasShape : property.HasShape options named shape)
    (names : NamedTypes.Names types named) {other : TypeShape}
    (again : property.HasShape options named other) : shape = other := by
  have oneName : ∀ {type name another}, (name, type) ∈ named.entries →
      (another, type) ∈ named.entries → name = another := by
    intro type name another first second
    have known := (names.nameOf type name).mpr first
    rw [(names.nameOf type another).mpr second] at known
    exact (Option.some.inj known).symm
  induction hasShape generalizing other with
  | field hasName =>
      cases again with
      | field otherName => rw [hasName.unique otherName]
  | reference declared =>
      cases again with
      | reference otherDeclared => rw [oneName declared otherDeclared]
  | collection whole declared =>
      cases again with
      | collection _ otherDeclared => rw [oneName declared otherDeclared]
      | unwrapped bare _ _ => rw [whole] at bare; cases bare
  | unwrapped bare only inner ih =>
      cases again with
      | collection whole _ => rw [whole] at bare; cases bare
      | unwrapped _ alsoOnly otherInner =>
          rw [only] at alsoOnly
          cases alsoOnly
          rw [ih otherInner]

end Property.HasShape

/-- A property that gets a type without one declared by the user has a shape. -/
theorem ResultType.hasShape_of_typeText (names : NamedTypes.Names types named)
    {type : ResultType} {property : Property} (has : property ∈ type.properties)
    (regular : property.Regular)
    (known : property.MentionsNamed named) (undeclared : property.Undeclared) {text : String}
    (written : property.typeText options named = .ok text) :
    ∃ shape, property.HasShape options named shape := by
  induction type using ResultType.tree_induction generalizing property text with
  | step type inside =>
      cases regular with
      | @field name column nullable sourceType =>
          cases undeclared _ (.self _)
          rw [Property.typeText] at written
          cases changed : options.override? column.databaseType with
          | some typeName => exact ⟨_, .field (.override changed)⟩
          | none =>
              cases category : TypeCategory.ofDatabaseType? column.databaseType with
              | some category => exact ⟨_, .field (.category changed category)⟩
              | none =>
                  rw [ColumnFacts.typeText_eq_error.mpr ⟨changed, category, rfl⟩] at written
                  cases written
      | expression => cases undeclared _ (.self _)
      | @reference name target nullable whole inner =>
          obtain ⟨typeName, found⟩ := known target ⟨_, .self _, .object⟩
          exact ⟨_, .reference ((names.nameOf _ _).mp found)⟩
      | @collection name element nullable single inner =>
          cases bare : element.unwrapped with
          | false =>
              obtain ⟨typeName, found⟩ := known element ⟨_, .self _, .elements bare⟩
              exact ⟨_, .collection bare ((names.nameOf _ _).mp found)⟩
          | true =>
              -- The elements have the shape of their only property.
              obtain ⟨sole, only⟩ := List.length_eq_one_iff.mp (single bare)
              have member : sole ∈ element.properties := by simp [only]
              rw [Property.typeText_sole bare only, map_eq_ok] at written
              obtain ⟨within, writtenWithin, -⟩ := written
              obtain ⟨shape, hasShape⟩ := inside _ has element rfl member (inner.of_mem member)
                (known.sole bare only)
                (fun target reaches => undeclared target (.sole bare only reaches)) writtenWithin
              exact ⟨_, .unwrapped bare only hasShape⟩

end Properties

/-- **Declared types tell their shapes.** Take a specification whose result types have words as
names, and overrides that are words. A property without a type declared by the user has just one
shape, unless it reaches a field that there is no type for; whatever the shape is, it can be read
from the declared type, with the name up to primitive types of Java. So properties with the same
declared type have the same layers around the same name. -/
theorem declared_types_tell_their_shapes (r : Resolver) (query : String) (spec : TableSpec)
    {types : List ResultType} {named : NamedTypes}
    (typed : spec.resultTypes r query = .ok types)
    (assigned : NamedTypes.assign query types = .ok named) (options : SourceOptions)
    (overrides : ∀ entry ∈ options.overrides.entries, isWord entry.2 = true)
    (names : ∀ name ∈ named.names, isWord name = true) :
    (∀ type ∈ types, ∀ property ∈ type.properties, property.Undeclared →
      (∃! shape, property.HasShape options named shape) ∨
      ∃ target error, property.Reaches target ∧ target.Unmapped options error ∧
        property.typeText options named = .error error) ∧
    (∀ (property : Property) shape, property.HasShape options named shape →
      ∃ text, property.typeText options named = .ok text ∧
        options.language.readType text = some (shape.mapName options.language.toldName)) ∧
    ∀ (first second : Property) firstShape secondShape,
      first.HasShape options named firstShape →
      second.HasShape options named secondShape →
      first.typeText options named = second.typeText options named →
        firstShape.mapName options.language.toldName =
          secondShape.mapName options.language.toldName := by
  have closed := NamedTypes.closed_of_assign typed assigned
  have assignedNames := NamedTypes.names_of_assign assigned
  have readBack : ∀ (property : Property) shape, property.HasShape options named shape →
      options.language.readType (shape.text options.language) =
        some (shape.mapName options.language.toldName) := fun property shape hasShape =>
    TypeShape.readType_text _ (hasShape.isWord overrides names)
  refine ⟨?_, ?_, ?_⟩
  · intro type member property has undeclared
    obtain ⟨name, entry⟩ := assignedNames.exists_entry member
    have regular := (closed.regular name type entry).of_mem has
    have known := closed.mentioned name type entry property has
    cases written : property.typeText options named with
    | error error =>
        right
        obtain ⟨target, reaches, unmapped⟩ :=
          ResultType.unmapped_of_typeText_eq_error has regular known written
        exact ⟨target, error, reaches, unmapped, rfl⟩
    | ok text =>
        left
        obtain ⟨shape, hasShape⟩ :=
          ResultType.hasShape_of_typeText assignedNames has regular known undeclared written
        exact ⟨shape, hasShape, fun other again => again.unique assignedNames hasShape⟩
  · intro property shape hasShape
    exact ⟨_, hasShape.typeText assignedNames, readBack property shape hasShape⟩
  · intro first second firstShape secondShape hasFirst hasSecond same
    rw [hasFirst.typeText assignedNames, hasSecond.typeText assignedNames] at same
    have read := readBack second secondShape hasSecond
    rw [← Except.ok.inj same, readBack first firstShape hasFirst] at read
    exact Option.some.inj read

namespace Pharmacy

/-- Analysts; for each compound that an analyst entered, the indications of the drugs which the one
who approved it registered. -/
def indications : TableSpec :=
  ⟨"analyst", none, [.named "id"], [], [
    ⟨⟨"indications", some ["entered_by"], none, none, some true, none, none⟩,
      ⟨"compound", none, [], [inlineParent (some ["approved_by"])
        ⟨"analyst", none, [], [], [children "indications" true
          ⟨"drug", none, [.named "therapeutic_indications"], [], [], none, none⟩], none, none⟩], [],
        none, none⟩⟩], none, none⟩

/-- The collection of the compounds, each of them a collection that is missing without approval. -/
def indicationsProperty : Property :=
  .collection "indications"
    ⟨"indications", ⟨some schema, "compound"⟩, none, true, [
      .collection "indications"
        ⟨"indications", ⟨some schema, "drug"⟩, none, true, [
          .field "therapeutic_indications"
            ⟨"therapeutic_indications", "text", none, none, none⟩ none none]⟩
        true]⟩
    false

end Pharmacy

/-- All layers of the indications are read from their declared type. -/
theorem indications_tell_their_shape :
    ∃ types named,
      Pharmacy.indications.resultTypes Pharmacy.resolver "indications" = .ok types ∧
      NamedTypes.assign "indications" types = .ok named ∧
      (∃ type ∈ types, Pharmacy.indicationsProperty ∈ type.properties) ∧
      Pharmacy.indicationsProperty.typeText (.forLanguage .typeScript) named =
        .ok "((string | null)[] | null)[]" ∧
      Language.typeScript.readType "((string | null)[] | null)[]" =
        some (.list false (.list true (.named true "string"))) := by
  have ran : ((Pharmacy.indications.resultTypes Pharmacy.resolver "indications").bind fun types =>
      (NamedTypes.assign "indications" types).map fun named =>
        (types.any (·.properties.contains Pharmacy.indicationsProperty),
          named.names.all isWord,
          (Pharmacy.indicationsProperty.typeText (.forLanguage .typeScript) named).toOption)) =
      .ok (true, true, some "((string | null)[] | null)[]") := by decide +kernel
  obtain ⟨types, typed, rest⟩ := bind_eq_ok.mp ran
  obtain ⟨named, assigned, facts⟩ := map_eq_ok.mp rest
  obtain ⟨listed, words, text⟩ : _ ∧ _ ∧ _ := by simpa only [Prod.mk.injEq] using facts
  have hasShape : Pharmacy.indicationsProperty.HasShape (.forLanguage .typeScript) named
      (.list false (.list true (.named true "string"))) :=
    .unwrapped rfl rfl (.unwrapped rfl rfl
      (.field (@ColumnFacts.HasName.category _ _ .text rfl (by decide +kernel))))
  obtain ⟨written, typeText, read⟩ := (declared_types_tell_their_shapes Pharmacy.resolver
    "indications" Pharmacy.indications typed assigned (.forLanguage .typeScript) nofun
    (List.all_eq_true.mp words)).2.1 _ _ hasShape
  rw [typeText] at text
  cases text
  refine ⟨types, named, typed, assigned, ?_, typeText, read⟩
  simpa [List.any_eq_true] using listed

end NestedQuery
