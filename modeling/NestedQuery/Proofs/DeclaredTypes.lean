import NestedQuery.Proofs.TypeNames
import NestedQuery.Proofs.Walk
import NestedQuery.Source.ResultTypes
import NestedQuery.Spec.Pharmacy

/-!
# Declared types are closed

A file declares the type of the result rows and the types that its parts refer to. An unwrapped
collection has no type of its own: the type of its elements is that of their only property, which
may again be an unwrapped collection. So the types that a declaration refers to are found through
any number of such collections, and each of them has to be among the declared ones. Nothing but a
type that is missing in the specification or in the options can then keep the file from being
written.

## Main Definitions

* `Property.RefersTo`, `Property.Reaches`, `Property.Mentions`: the types whose names are written
  for a property
* `ResultType.Regular`, `Property.Regular`: what the types of a specification keep to
* `Property.Unmapped`: a property that there is no declared type for
* `WritesName`: a type written around the name of a result type
* `NamedTypes.Closed`: types that can be declared together
* `DeclaresAll`: what a file tells of them

## Main Results

* `ResultType.mem_declared_of_mentions`: what a declared type mentions is declared
* `Resolver.regular_of_planTable`: the types of a specification are regular
* `ResultType.unmapped_of_typeText_eq_error`: why the type of a property cannot be written
* `source_fails_only_for_missing_types`: the file for a specification
-/

namespace NestedQuery

/-! ### Trees of types -/

/-- The type that is nested in a property. -/
def Property.type? : Property → Option ResultType
  | .field _ _ _ _ => none
  | .expression _ _ _ => none
  | .reference _ type _ => some type
  | .collection _ element _ => some element

/-- What holds of a type whenever it holds of the types nested in it holds of every type. -/
theorem ResultType.tree_induction {motive : ResultType → Prop}
    (step : ∀ type : ResultType, (∀ property ∈ type.properties, ∀ nested ∈ property.type?,
      motive nested) → motive type) (type : ResultType) : motive type :=
  step type fun _ _ nested _ => tree_induction step nested
termination_by sizeOf type
decreasing_by
  rename_i property member inProperty
  have smaller := List.sizeOf_lt_of_mem member
  obtain ⟨query, relation, typeName, unwrapped, properties⟩ := type
  cases property with
  | field => cases inProperty
  | expression => cases inProperty
  | reference name target nullable =>
      cases inProperty
      simp only [Property.reference.sizeOf_spec, ResultType.mk.sizeOf_spec] at smaller ⊢
      omega
  | collection name element nullable =>
      cases inProperty
      simp only [Property.collection.sizeOf_spec, ResultType.mk.sizeOf_spec] at smaller ⊢
      omega

/-! ### Mentioned types -/

/-- The type of a property is a type with a name, or a collection of it. -/
inductive Property.RefersTo : Property → ResultType → Prop
  | object {name : String} {type : ResultType} {nullable : Bool} :
      RefersTo (.reference name type nullable) type
  | elements {name : String} {element : ResultType} {nullable : Bool}
      (whole : element.unwrapped = false) : RefersTo (.collection name element nullable) element

/-- The properties whose types are written for a property: the property itself, or what is reached
from the only property that the elements of an unwrapped collection have. -/
inductive Property.Reaches : Property → Property → Prop
  | self (property : Property) : Reaches property property
  | sole {name : String} {element : ResultType} {nullable : Bool} {inner target : Property}
      (bare : element.unwrapped = true) (only : element.properties = [inner])
      (rest : Reaches inner target) : Reaches (.collection name element nullable) target

/-- A property is reached from one of the properties of a type. -/
def ResultType.Reaches (type : ResultType) (target : Property) : Prop :=
  ∃ property ∈ type.properties, property.Reaches target

/-- The name of a type stands in what is written for the type of a property. -/
def Property.Mentions (property : Property) (type : ResultType) : Prop :=
  ∃ target, property.Reaches target ∧ target.RefersTo type

theorem Property.declaredAll_eq_flatMap (properties : List Property) :
    Property.declaredAll properties = properties.flatMap (·.declared) := by
  induction properties with
  | nil => rfl
  | cons property properties ih => rw [Property.declaredAll, ih, List.flatMap_cons]

theorem ResultType.mem_declared {type target : ResultType} :
    target ∈ type.declared ↔ ∃ property ∈ type.properties, target ∈ property.declared := by
  obtain ⟨query, relation, typeName, unwrapped, properties⟩ := type
  rw [ResultType.declared, Property.declaredAll_eq_flatMap, List.mem_flatMap]

/-- What is declared for a property is the type it refers to, and what is declared for the type
nested in it. -/
theorem Property.mem_declared {property : Property} {target : ResultType} :
    target ∈ property.declared ↔
      property.RefersTo target ∨ ∃ nested ∈ property.type?, target ∈ nested.declared := by
  cases property with
  | field =>
      refine iff_of_false List.not_mem_nil ?_
      rintro (refers | ⟨nested, isNested, -⟩)
      · cases refers
      · cases isNested
  | expression =>
      refine iff_of_false List.not_mem_nil ?_
      rintro (refers | ⟨nested, isNested, -⟩)
      · cases refers
      · cases isNested
  | reference name type nullable =>
      rw [Property.declared, List.mem_cons]
      constructor
      · rintro (rfl | deeper)
        · exact .inl .object
        · exact .inr ⟨type, rfl, deeper⟩
      · rintro (refers | ⟨nested, isNested, deeper⟩)
        · cases refers
          exact .inl rfl
        · cases isNested
          exact .inr deeper
  | collection name element nullable =>
      rw [Property.declared]
      split
      · rename_i bare
        constructor
        · exact fun deeper => .inr ⟨element, rfl, deeper⟩
        · rintro (refers | ⟨nested, isNested, deeper⟩)
          · cases refers with
            | elements whole => rw [whole] at bare; cases bare
          · cases isNested
            exact deeper
      · rename_i whole
        rw [List.mem_cons]
        constructor
        · rintro (rfl | deeper)
          · exact .inl (.elements (by simpa using whole))
          · exact .inr ⟨element, rfl, deeper⟩
        · rintro (refers | ⟨nested, isNested, deeper⟩)
          · cases refers
            exact .inl rfl
          · cases isNested
            exact .inr deeper

theorem Property.RefersTo.mem_type? {property : Property} {type : ResultType}
    (refers : property.RefersTo type) : type ∈ property.type? := by
  cases refers with
  | object => rfl
  | elements whole => rfl

/-- Declared types bring along what is declared for them. -/
theorem ResultType.declared_subset {type target : ResultType} (member : target ∈ type.declared) :
    target.declared ⊆ type.declared := by
  induction type using ResultType.tree_induction with
  | step type inner =>
      obtain ⟨property, has, inProperty⟩ := ResultType.mem_declared.mp member
      intro other declared
      refine ResultType.mem_declared.mpr ⟨property, has, Property.mem_declared.mpr (.inr ?_)⟩
      rcases Property.mem_declared.mp inProperty with refers | ⟨nested, isNested, deeper⟩
      · exact ⟨target, refers.mem_type?, declared⟩
      · exact ⟨nested, isNested, inner property has nested isNested deeper declared⟩

theorem Property.Reaches.declared_subset {property target : Property}
    (reaches : property.Reaches target) : target.declared ⊆ property.declared := by
  induction reaches with
  | self => exact List.Subset.refl _
  | @sole name element nullable inner target bare only rest ih =>
      intro type member
      refine Property.mem_declared.mpr (.inr ⟨element, rfl, ResultType.mem_declared.mpr ?_⟩)
      exact ⟨inner, by simp [only], ih member⟩

/-- **What a declared type mentions is declared.** -/
theorem ResultType.mem_declared_of_mentions {top type target : ResultType} {property : Property}
    (member : type ∈ top :: top.declared) (has : property ∈ type.properties)
    (mentions : property.Mentions target) : target ∈ top :: top.declared := by
  obtain ⟨inner, reaches, refers⟩ := mentions
  have declared : target ∈ inner.declared := Property.mem_declared.mpr (.inl refers)
  have here : target ∈ type.declared :=
    ResultType.mem_declared.mpr ⟨property, has, reaches.declared_subset declared⟩
  rcases List.mem_cons.mp member with rfl | deeper
  · exact List.mem_cons_of_mem _ here
  · exact List.mem_cons_of_mem _ (ResultType.declared_subset deeper here)

/-! ### Regular types -/

mutual

/-- A type whose properties are regular. -/
inductive ResultType.Regular : ResultType → Prop
  | intro {type : ResultType}
      (properties : ∀ property ∈ type.properties, Property.Regular property) :
      ResultType.Regular type

/-- A property as a specification can have it: expressions have declared types, objects are never
unwrapped, and unwrapped elements have just one property. -/
inductive Property.Regular : Property → Prop
  | field {name : String} {column : ColumnFacts} {nullable : Option Bool}
      {sourceType : Option SourceType} :
      Property.Regular (.field name column nullable sourceType)
  | expression {name sql : String} {sourceType : SourceType} :
      Property.Regular (.expression name sql (some sourceType))
  | reference {name : String} {type : ResultType} {nullable : Bool}
      (whole : type.unwrapped = false) (inner : ResultType.Regular type) :
      Property.Regular (.reference name type nullable)
  | collection {name : String} {element : ResultType} {nullable : Bool}
      (single : element.unwrapped = true → element.properties.length = 1)
      (inner : ResultType.Regular element) :
      Property.Regular (.collection name element nullable)

end

theorem ResultType.Regular.of_mem {type : ResultType} (regular : type.Regular)
    {property : Property} (member : property ∈ type.properties) : property.Regular := by
  obtain ⟨each⟩ := regular
  exact each property member

theorem Property.Regular.of_mem_type? {property : Property} (regular : property.Regular)
    {nested : ResultType} (isNested : nested ∈ property.type?) : nested.Regular := by
  cases regular with
  | field => cases isNested
  | expression => cases isNested
  | reference whole inner =>
      cases isNested
      exact inner
  | collection single inner =>
      cases isNested
      exact inner

/-- Nothing that is declared for a regular type is unwrapped, and all of it is regular. -/
theorem ResultType.Regular.of_mem_declared {type target : ResultType} (regular : type.Regular)
    (member : target ∈ type.declared) : target.Regular ∧ target.unwrapped = false := by
  induction type using ResultType.tree_induction with
  | step type inner =>
      obtain ⟨property, has, inProperty⟩ := ResultType.mem_declared.mp member
      have here := regular.of_mem has
      rcases Property.mem_declared.mp inProperty with refers | ⟨nested, isNested, deeper⟩
      · refine ⟨here.of_mem_type? refers.mem_type?, ?_⟩
        cases refers with
        | object =>
            cases here with
            | reference whole _ => exact whole
        | elements whole => exact whole
      · exact inner property has nested isNested (here.of_mem_type? isNested) deeper

theorem Property.Regular.toNullable {property : Property} (regular : property.Regular) :
    property.toNullable.Regular := by
  cases regular with
  | field => exact .field
  | expression => exact .expression
  | reference whole inner => exact .reference whole inner
  | collection single inner => exact .collection single inner

theorem Property.Regular.lift {property : Property} (regular : property.Regular)
    (matching : RowMatch) : (matching.lift property).Regular := by
  unfold RowMatch.lift
  split
  · exact regular
  · exact regular.toNullable

/-! ### Properties of a plan -/

theorem InlinedParent.map_snd_properties (query : String) (parents : List InlinedParent) :
    (InlinedParent.properties query parents).map Prod.snd = parents.flatMap fun parent =>
      (parent.plan.resultType query).properties.map parent.link.matching.lift := by
  induction parents with
  | nil => rfl
  | cons parent parents ih =>
      obtain ⟨link, plan⟩ := parent
      rw [InlinedParent.properties, List.map_append, ih, List.flatMap_cons, List.map_map]
      change _ = ((plan.properties query).map Prod.snd).map link.matching.lift ++ _
      rw [List.map_map]
      rfl

theorem Reference.properties_eq_map (query : String) (references : List Reference) :
    Reference.properties query references = references.map fun reference =>
      (reference.link.displayOrder, reference.link.property (reference.plan.resultType query)) := by
  induction references with
  | nil => rfl
  | cons reference references ih =>
      obtain ⟨link, plan⟩ := reference
      rw [Reference.properties, ih]
      rfl

theorem Collection.properties_eq_map (query : String) (collections : List Collection) :
    Collection.properties query collections = collections.map fun collection =>
      (collection.link.displayOrder,
        collection.link.property (collection.plan.resultType query)) := by
  induction collections with
  | nil => rfl
  | cons collection collections ih =>
      obtain ⟨link, plan⟩ := collection
      rw [Collection.properties, ih]
      rfl

/-- A property of a plan is that of a field, is lifted from an inline parent, or is that of a
referenced parent or a child. -/
theorem TablePlan.mem_properties {query : String} {plan : TablePlan} {property : Property} :
    property ∈ (plan.resultType query).properties ↔
      (∃ field ∈ plan.head.fields, field.property = property) ∨
      (∃ parent ∈ plan.inlined, ∃ inner ∈ (parent.plan.resultType query).properties,
        parent.link.matching.lift inner = property) ∨
      (∃ reference ∈ plan.references,
        reference.link.property (reference.plan.resultType query) = property) ∨
      ∃ collection ∈ plan.collections,
        collection.link.property (collection.plan.resultType query) = property := by
  obtain ⟨head, inlined, references, collections⟩ := plan
  change property ∈ (TablePlan.properties query _).map Prod.snd ↔ _
  rw [TablePlan.properties, ((inDisplayOrder_perm _ _).map Prod.snd).mem_iff,
    Reference.properties_eq_map, Collection.properties_eq_map]
  simp only [List.map_append, List.map_map, InlinedParent.map_snd_properties, List.mem_append,
    List.mem_flatMap, List.mem_map, Function.comp_apply, or_assoc]

namespace Resolver

variable {r : Resolver} {location : Location} {relation : Relation}

/-- Expressions are accepted only with a declared type. -/
theorem regular_of_fieldEntry {entry : FieldEntry} {field : PlannedField}
    (resolved : r.fieldEntry location relation entry = .ok field) : field.property.Regular := by
  cases entry with
  | named written =>
      simp only [fieldEntry, fieldProperty, bind_eq_ok] at resolved
      obtain ⟨stored, -, equal⟩ := resolved
      cases equal
      exact .field
  | detailed detail =>
      rw [fieldEntry] at resolved
      split at resolved
      · simp only [fieldProperty, bind_eq_ok] at resolved
        obtain ⟨stored, -, equal⟩ := resolved
        cases equal
        exact .field
      · rw [expressionProperty] at resolved
        split at resolved
        · cases resolved
        · cases resolved
        · cases resolved
          exact .expression
      · cases resolved

/-- **The types of a specification are regular.** -/
theorem regular_of_planTable (r : Resolver) (query : String) (spec : TableSpec) :
    ∀ location relation plan, r.planTable location relation spec = .ok plan →
      (plan.resultType query).Regular := by
  induction spec using TableSpec.tree_induction with
  | step spec parentsRegular childrenRegular =>
      intro location relation plan planned
      have parts := planTable_parts planned
      refine .intro fun property member => ?_
      rcases TablePlan.mem_properties.mp member with ⟨field, own, rfl⟩ |
        ⟨parent, inlined, inner, lifted, rfl⟩ | ⟨reference, referenced, rfl⟩ |
        ⟨collection, collected, rfl⟩
      · obtain ⟨entry, -, here, resolved⟩ :=
          forall₂_mem_right (fieldEntries_forall₂ parts.fields) own
        exact regular_of_fieldEntry resolved
      · obtain ⟨source, written, target, plans⟩ :=
          forall₂_mem_right (planInlined_forall₂ parts.inlined) inlined
        have inSpec := (List.mem_filter.mp written).1
        have regular := parentsRegular source inSpec _ _ _ plans.plan
        exact (regular.of_mem lifted).lift _
      · obtain ⟨source, written, target, plans⟩ :=
          forall₂_mem_right (planReferences_forall₂ parts.references) referenced
        have inSpec := (List.mem_filter.mp written).1
        exact .reference rfl (parentsRegular source inSpec _ _ _ plans.plan)
      · obtain ⟨source, written, target, plans⟩ :=
          forall₂_mem_right (planCollections_forall₂ parts.collections) collected
        obtain ⟨regular⟩ := childrenRegular source written _ _ _ plans.plan
        refine .collection (fun bare => ?_) (.intro regular)
        have unwraps : source.link.unwraps = true := by
          rw [plans.link] at bare
          exact bare
        exact (collection.plan.length_resultType query).trans (plans.unwrapped unwraps)

end Resolver

/-! ### Written types -/

/-- A property that there is no declared type for, and the error that tells so: the user declares
types, but none for the language, or nothing is known of the type of its field. -/
inductive Property.Unmapped (options : SourceOptions) : Property → SourceError → Prop
  | field {name : String} {column : ColumnFacts} {nullable : Option Bool} {type : SourceType}
      (missing : type.forLanguage options.language = none) :
      Unmapped options (.field name column nullable (some type))
        (.missingTypeForLanguage name options.language)
  | expression {name sql : String} {type : SourceType}
      (missing : type.forLanguage options.language = none) :
      Unmapped options (.expression name sql (some type))
        (.missingTypeForLanguage name options.language)
  | databaseType {name : String} {column : ColumnFacts} {nullable : Option Bool}
      (unchanged : options.override? column.databaseType = none)
      (unknown : TypeCategory.ofDatabaseType? column.databaseType = none) :
      Unmapped options (.field name column nullable none)
        (.unsupportedDatabaseType column.field column.databaseType)

/-- A type written around the name of a result type: nullable, or as a collection, any number of
times. -/
inductive WritesName (language : Language) (name : String) : String → Prop
  | bare : WritesName language name name
  | nullable {text : String} (isNullable : Bool) (inner : WritesName language name text) :
      WritesName language name (language.withNullability isNullable text)
  | collection {text : String} (inner : WritesName language name text) :
      WritesName language name (language.collection text)

section Texts

variable {options : SourceOptions} {named : NamedTypes}

theorem SourceType.textFor_eq_error {language : Language} {property : String} {type : SourceType}
    {error : SourceError} :
    type.textFor language property = .error error ↔
      type.forLanguage language = none ∧ error = .missingTypeForLanguage property language := by
  unfold SourceType.textFor
  cases type.forLanguage language with
  | none => simp [eq_comm]
  | some text => simp

theorem ColumnFacts.typeText_eq_error {column : ColumnFacts} {nullable : Option Bool}
    {error : SourceError} :
    column.typeText options nullable = .error error ↔
      options.override? column.databaseType = none ∧
        TypeCategory.ofDatabaseType? column.databaseType = none ∧
        error = .unsupportedDatabaseType column.field column.databaseType := by
  unfold ColumnFacts.typeText
  cases options.override? column.databaseType with
  | some type => simp
  | none =>
      cases TypeCategory.ofDatabaseType? column.databaseType with
      | some category => simp
      | none => simp [eq_comm]

/-- The type of an unwrapped collection is written by means of that of the only property. -/
theorem Property.typeText_sole {name : String} {element : ResultType} {nullable : Bool}
    {inner : Property} (bare : element.unwrapped = true) (only : element.properties = [inner]) :
    Property.typeText options named (.collection name element nullable) =
      (inner.typeText options named).map fun text =>
        options.language.withNullability nullable (options.language.collection text) := by
  obtain ⟨query, relation, typeName, unwrapped, properties⟩ := element
  cases bare
  cases only
  rw [Property.typeText, if_pos rfl, ResultType.soleTypeText, Property.soleTypeText]
  cases inner.typeText options named with
  | error error => rfl
  | ok text => rfl

/-- All types that a property mentions have names. -/
def Property.MentionsNamed (named : NamedTypes) (property : Property) : Prop :=
  ∀ type, property.Mentions type → ∃ name, named.nameOf? type = some name

theorem Property.MentionsNamed.sole {name : String} {element : ResultType} {nullable : Bool}
    {inner : Property} (known : Property.MentionsNamed named (.collection name element nullable))
    (bare : element.unwrapped = true) (only : element.properties = [inner]) :
    inner.MentionsNamed named := by
  rintro type ⟨target, reaches, refers⟩
  exact known type ⟨target, .sole bare only reaches, refers⟩

theorem NamedTypes.declaredName_of_nameOf? {type : ResultType} {name : String}
    (known : named.nameOf? type = some name) : named.declaredName type = .ok name := by
  unfold NamedTypes.declaredName
  rw [known]

/-- The type of a property that refers to a named type can be written. -/
theorem Property.RefersTo.typeText {property : Property} {type : ResultType} {name : String}
    (refers : property.RefersTo type) (known : named.nameOf? type = some name) :
    ∃ text, property.typeText options named = .ok text ∧
      WritesName options.language name text := by
  have declared := NamedTypes.declaredName_of_nameOf? known
  cases refers with
  | object =>
      rw [Property.typeText, declared]
      exact ⟨_, rfl, .nullable _ .bare⟩
  | elements whole =>
      rw [Property.typeText, whole, if_neg Bool.false_ne_true, declared]
      exact ⟨_, rfl, .nullable _ (.collection .bare)⟩

/-- What is written for a property is written around the name of each type that it mentions. -/
theorem Property.Mentions.writesName {property : Property} {type : ResultType} {name : String}
    (mentions : property.Mentions type) (known : named.nameOf? type = some name) :
    ∃ text, property.typeText options named = .ok text ∧
      WritesName options.language name text := by
  obtain ⟨target, reaches, refers⟩ := mentions
  induction reaches with
  | self => exact refers.typeText known
  | sole bare only rest ih =>
      obtain ⟨text, written, around⟩ := ih refers
      rw [Property.typeText_sole bare only, written]
      exact ⟨_, rfl, .nullable _ (.collection around)⟩

/-- What is written for a property depends on no other names than those of the types that it
mentions. -/
theorem ResultType.typeText_congr {type : ResultType} {property : Property}
    (has : property ∈ type.properties) {other : NamedTypes}
    (agree : ∀ target, property.Mentions target → other.nameOf? target = named.nameOf? target) :
    property.typeText options other = property.typeText options named := by
  induction type using ResultType.tree_induction generalizing property with
  | step type inside =>
      cases property with
      | field => simp only [Property.typeText]
      | expression => simp only [Property.typeText]
      | reference name target nullable =>
          have same := agree target ⟨_, .self _, .object⟩
          simp only [Property.typeText, NamedTypes.declaredName, same]
      | collection name element nullable =>
          cases bare : element.unwrapped with
          | false =>
              have same := agree element ⟨_, .self _, .elements bare⟩
              simp only [Property.typeText, NamedTypes.declaredName, same, bare,
                Bool.false_eq_true, if_false]
          | true =>
              by_cases single : ∃ sole, element.properties = [sole]
              · obtain ⟨sole, only⟩ := single
                have member : sole ∈ element.properties := by simp [only]
                have same := inside _ has element rfl member fun target mentions => by
                  obtain ⟨reached, reaches, refers⟩ := mentions
                  exact agree target ⟨reached, .sole bare only reaches, refers⟩
                rw [Property.typeText_sole bare only, Property.typeText_sole bare only, same]
              · -- Without a single property there is only the number of properties to tell.
                obtain ⟨query, relation, typeName, unwrapped, properties⟩ := element
                cases bare
                match properties, single with
                | [], _ => rfl
                | [sole], single => exact absurd ⟨sole, rfl⟩ single
                | _ :: _ :: _, _ => rfl

/-- The type of a property cannot be written if that of a property it reaches is missing. -/
theorem Property.Reaches.typeText_eq_error {property target : Property} {error : SourceError}
    (reaches : property.Reaches target) (unmapped : target.Unmapped options error) :
    property.typeText options named = .error error := by
  induction reaches with
  | self =>
      cases unmapped with
      | field missing =>
          rw [Property.typeText]
          exact SourceType.textFor_eq_error.mpr ⟨missing, rfl⟩
      | expression missing =>
          rw [Property.typeText]
          exact SourceType.textFor_eq_error.mpr ⟨missing, rfl⟩
      | databaseType unchanged unknown =>
          rw [Property.typeText]
          exact ColumnFacts.typeText_eq_error.mpr ⟨unchanged, unknown, rfl⟩
  | sole bare only rest ih =>
      rw [Property.typeText_sole bare only, ih unmapped]
      rfl

/-- **Why the type of a property cannot be written.** If the property is regular and the types that
it mentions have names, then it is for want of a type of a property that it reaches. -/
theorem ResultType.unmapped_of_typeText_eq_error {type : ResultType} {property : Property}
    (has : property ∈ type.properties) (regular : property.Regular)
    (known : property.MentionsNamed named) {error : SourceError}
    (failed : property.typeText options named = .error error) :
    ∃ target, property.Reaches target ∧ target.Unmapped options error := by
  induction type using ResultType.tree_induction generalizing property with
  | step type inside =>
      cases regular with
      | @field name column nullable sourceType =>
          refine ⟨_, .self _, ?_⟩
          cases sourceType with
          | some type =>
              rw [Property.typeText] at failed
              obtain ⟨missing, rfl⟩ := SourceType.textFor_eq_error.mp failed
              exact .field missing
          | none =>
              rw [Property.typeText] at failed
              obtain ⟨unchanged, unknown, rfl⟩ := ColumnFacts.typeText_eq_error.mp failed
              exact .databaseType unchanged unknown
      | expression =>
          rw [Property.typeText] at failed
          obtain ⟨missing, rfl⟩ := SourceType.textFor_eq_error.mp failed
          exact ⟨_, .self _, .expression missing⟩
      | @reference name target nullable whole inner =>
          have mentions : Property.Mentions (.reference name target nullable) target :=
            ⟨_, .self _, .object⟩
          obtain ⟨used, found⟩ := known target mentions
          obtain ⟨text, written, -⟩ := mentions.writesName found
          rw [written] at failed
          cases failed
      | @collection name element nullable single inner =>
          cases bare : element.unwrapped with
          | false =>
              have mentions : Property.Mentions (.collection name element nullable) element :=
                ⟨_, .self _, .elements bare⟩
              obtain ⟨used, found⟩ := known element mentions
              obtain ⟨text, written, -⟩ := mentions.writesName found
              rw [written] at failed
              cases failed
          | true =>
              -- The fault is in the only property of the elements.
              obtain ⟨sole, only⟩ := List.length_eq_one_iff.mp (single bare)
              have member : sole ∈ element.properties := by simp [only]
              rw [Property.typeText_sole bare only] at failed
              have within : sole.typeText options named = .error error := by
                cases written : sole.typeText options named with
                | error other => rw [written] at failed; exact failed
                | ok text => rw [written] at failed; cases failed
              obtain ⟨target, reaches, unmapped⟩ := inside _ has element rfl member
                (inner.of_mem member) (known.sole bare only) within
              exact ⟨target, .sole bare only reaches, unmapped⟩

end Texts

/-! ### Files -/

/-- Named types that can be declared together: they are regular and not unwrapped, and whatever
they mention has a name. -/
structure NamedTypes.Closed (named : NamedTypes) : Prop where
  regular : ∀ name type, (name, type) ∈ named.entries → type.Regular
  whole : ∀ name type, (name, type) ∈ named.entries → type.unwrapped = false
  mentioned : ∀ name type, (name, type) ∈ named.entries → ∀ property ∈ type.properties,
    property.MentionsNamed named

/-- The declaration of a named type has its name, and its properties in their order, each with the
type that is written for it. -/
structure DeclaredAs (options : SourceOptions) (named : NamedTypes) (entry : String × ResultType)
    (declaration : TypeDeclaration) : Prop where
  name : declaration.name = entry.1
  properties : List.Forall₂
    (fun property member => member.1 = property.name ∧
      property.typeText options named = .ok member.2) entry.2.properties declaration.properties

/-- A regular type has only whole types declared for it, and so the named types of a list that
begins with it are closed. -/
theorem NamedTypes.Names.closed {named : NamedTypes} {top : ResultType}
    (names : NamedTypes.Names (top :: top.declared) named) (regular : top.Regular)
    (whole : top.unwrapped = false) : named.Closed := by
  refine ⟨?_, ?_, ?_⟩
  · intro name type member
    rcases List.mem_cons.mp (names.mem_of_entry member) with rfl | deeper
    · exact regular
    · exact (regular.of_mem_declared deeper).1
  · intro name type member
    rcases List.mem_cons.mp (names.mem_of_entry member) with rfl | deeper
    · exact whole
    · exact (regular.of_mem_declared deeper).2
  · intro name type member property has target mentions
    obtain ⟨used, entry⟩ := names.exists_entry
      (ResultType.mem_declared_of_mentions (names.mem_of_entry member) has mentions)
    exact ⟨used, (names.nameOf target used).mpr entry⟩

/-- The named types of a specification are closed. -/
theorem NamedTypes.closed_of_assign {r : Resolver} {query : String} {spec : TableSpec}
    {types : List ResultType} {named : NamedTypes}
    (typed : spec.resultTypes r query = .ok types)
    (assigned : NamedTypes.assign query types = .ok named) : named.Closed := by
  rw [TableSpec.resultTypes_eq_plan, map_eq_ok] at typed
  obtain ⟨plan, planned, rfl⟩ := typed
  obtain ⟨relation, -, made⟩ := bind_eq_ok.mp planned
  have regular := r.regular_of_planTable query spec _ _ _ made
  exact (NamedTypes.names_of_assign assigned).closed regular rfl

section Files

variable {options : SourceOptions} {facts : QueryFacts} {named : NamedTypes}

theorem ResultType.declaration_eq_ok {name : String} {type : ResultType}
    {declaration : TypeDeclaration}
    (made : type.declaration options named name = .ok declaration) :
    DeclaredAs options named (name, type) declaration := by
  simp only [ResultType.declaration, bind_eq_ok, mapM_eq_ok] at made
  obtain ⟨members, each, equal⟩ := made
  cases equal
  refine ⟨rfl, each.imp ?_⟩
  rintro property member ⟨text, written, equal⟩
  cases equal
  exact ⟨rfl, written⟩

/-- The declaration of a type fails if the type of one of its properties cannot be written. -/
theorem ResultType.declaration_fails {name : String} {type : ResultType} {property : Property}
    (has : property ∈ type.properties) {error : SourceError}
    (unwritten : property.typeText options named = .error error) :
    ∃ first, type.declaration options named name = .error first := by
  cases made : type.declaration options named name with
  | error first => exact ⟨first, rfl⟩
  | ok declaration =>
      have members := (ResultType.declaration_eq_ok made).properties
      obtain ⟨member, -, -, written⟩ := forall₂_mem_right members.flip has
      rw [unwritten] at written
      cases written

/-- Its error is that of one of its properties. -/
theorem ResultType.declaration_eq_error {name : String} {type : ResultType} {error : SourceError}
    (failed : type.declaration options named name = .error error) :
    ∃ property ∈ type.properties, property.typeText options named = .error error := by
  simp only [ResultType.declaration, bind_eq_error, mapM_eq_error] at failed
  rcases failed with ⟨before, property, after, split, -, inner⟩ | ⟨members, -, impossible⟩
  · rcases inner with here | ⟨text, -, impossible⟩
    · exact ⟨property, by simp [split], here⟩
    · cases impossible
  · cases impossible

namespace NamedTypes

/-- All named types are declared if none of them is unwrapped. -/
theorem Closed.declarations_eq (closed : named.Closed) :
    named.declarations options =
      named.entries.mapM fun entry => entry.2.declaration options named entry.1 := by
  have all : named.entries.filter (fun entry => !entry.2.unwrapped) = named.entries := by
    rw [List.filter_eq_self]
    rintro ⟨name, type⟩ member
    simp [closed.whole name type member]
  unfold declarations
  rw [all]

/-- A file is written just if its types can be declared. -/
theorem source_eq_error {error : SourceError} :
    named.source options facts = .error error ↔ named.declarations options = .error error := by
  unfold source unit
  cases named.declarations options with
  | error other => simp [bind, Except.bind]
  | ok declarations => simp [bind, Except.bind, pure, Except.pure]

theorem unit_of_source {written : GeneratedSource}
    (made : named.source options facts = .ok written) :
    ∃ unit, named.unit options facts = .ok unit ∧
      named.declarations options = .ok unit.declarations ∧
      written = ⟨unit.name, options.language.render options.java unit⟩ := by
  unfold source at made
  obtain ⟨unit, built, equal⟩ := bind_eq_ok.mp made
  refine ⟨unit, built, ?_, (Except.ok.inj equal).symm⟩
  unfold NamedTypes.unit at built
  obtain ⟨declarations, declared, same⟩ := bind_eq_ok.mp built
  cases same
  exact declared

/-- The error of a file of closed types is that of a property without a declared type. -/
theorem Closed.unmapped_of_source (closed : named.Closed) {error : SourceError}
    (failed : named.source options facts = .error error) :
    ∃ name type property, (name, type) ∈ named.entries ∧ type.Reaches property ∧
      property.Unmapped options error := by
  rw [source_eq_error, closed.declarations_eq, mapM_eq_error] at failed
  obtain ⟨before, ⟨name, type⟩, after, split, -, failedHere⟩ := failed
  have member : (name, type) ∈ named.entries := by simp [split]
  obtain ⟨property, has, unwritten⟩ := ResultType.declaration_eq_error failedHere
  obtain ⟨target, reaches, unmapped⟩ := ResultType.unmapped_of_typeText_eq_error has
    ((closed.regular name type member).of_mem has) (closed.mentioned name type member property has)
    unwritten
  exact ⟨name, type, target, member, ⟨property, has, reaches⟩, unmapped⟩

/-- A property without a declared type keeps the file from being written. -/
theorem Closed.source_fails (closed : named.Closed) {name : String} {type : ResultType}
    {property : Property} {error : SourceError} (member : (name, type) ∈ named.entries)
    (reached : type.Reaches property) (unmapped : property.Unmapped options error) :
    ∃ first, named.source options facts = .error first := by
  obtain ⟨own, has, reaches⟩ := reached
  simp only [source_eq_error, closed.declarations_eq]
  refine mapM_fails_iff.mpr ⟨(name, type), member, ?_⟩
  exact ResultType.declaration_fails has (reaches.typeText_eq_error unmapped)

/-- The declarations of a file of closed types are those of the named types, in their order. -/
theorem Closed.declared (closed : named.Closed) {declarations : List TypeDeclaration}
    (made : named.declarations options = .ok declarations) :
    List.Forall₂ (DeclaredAs options named) named.entries declarations := by
  rw [closed.declarations_eq, mapM_eq_ok] at made
  exact made.imp fun _ _ step => ResultType.declaration_eq_ok step

end NamedTypes

theorem names_of_declaredAs {entries : List (String × ResultType)}
    {declarations : List TypeDeclaration}
    (each : List.Forall₂ (DeclaredAs options named) entries declarations) :
    declarations.map (·.name) = entries.map Prod.fst := by
  induction each with
  | nil => rfl
  | cons head _ ih => rw [List.map_cons, List.map_cons, head.name, ih]

/-- What a file tells of named types. -/
structure DeclaresAll (options : SourceOptions) (named : NamedTypes) (unit : CompilationUnit) :
    Prop where
  declared : List.Forall₂ (DeclaredAs options named) named.entries unit.declarations
  /-- The names in the types of properties are those of the types that the properties mention. -/
  text : ∀ name type, (name, type) ∈ named.entries → ∀ property ∈ type.properties,
    ∀ other : NamedTypes,
      (∀ target, property.Mentions target → other.nameOf? target = named.nameOf? target) →
        property.typeText options other = property.typeText options named
  /-- Each of them is the name of just one declaration. -/
  used : ∀ name type, (name, type) ∈ named.entries → ∀ property ∈ type.properties,
    ∀ target, property.Mentions target →
      ∃ usedName text, named.nameOf? target = some usedName ∧
        property.typeText options named = .ok text ∧
        WritesName options.language usedName text ∧
        (unit.declarations.map (·.name)).count usedName = 1

theorem NamedTypes.Names.declaresAll {types : List ResultType}
    (names : NamedTypes.Names types named) (closed : named.Closed) {unit : CompilationUnit}
    (made : named.declarations options = .ok unit.declarations) :
    DeclaresAll options named unit := by
  have declared := closed.declared made
  refine ⟨declared, fun _ type _ property has _ => ResultType.typeText_congr has, ?_⟩
  intro name type member property has target mentions
  obtain ⟨usedName, known⟩ := closed.mentioned name type member property has target mentions
  obtain ⟨text, written, around⟩ := mentions.writesName known
  refine ⟨usedName, text, known, written, around, ?_⟩
  rw [names_of_declaredAs declared]
  refine List.count_eq_one_of_mem names.distinct ?_
  exact List.mem_map_of_mem ((names.nameOf target usedName).mp known)

/-- The first of some types is declared first. -/
theorem NamedTypes.Names.head {top : ResultType} {others : List ResultType}
    (names : NamedTypes.Names (top :: others) named) :
    ∃ name rest, named.entries = (name, top) :: rest := by
  have declared := names.declared
  rw [List.eraseDups_cons] at declared
  obtain ⟨⟨name, type⟩, rest, entries, same, -⟩ := List.map_eq_cons_iff.mp declared
  cases same
  exact ⟨name, rest, entries⟩

end Files

/-- **Only missing types keep a file from being written.** No type to declare is unwrapped, and the
type of the rows comes first. The file can be written unless there is no type for a property that is
reached from a declared type; the error is then that of such a property. In a file every name of a
result type is that of just one declaration. -/
theorem source_fails_only_for_missing_types (r : Resolver) (query : String) (spec : TableSpec)
    {types : List ResultType} {named : NamedTypes}
    (typed : spec.resultTypes r query = .ok types)
    (assigned : NamedTypes.assign query types = .ok named) (options : SourceOptions)
    (facts : QueryFacts) :
    (∀ type ∈ types, type.unwrapped = false) ∧
    (∃ walked others name rest,
      r.walk (resultTypeFold query) (Location.root query) () spec = .ok walked ∧
        types = walked.output :: others ∧ named.entries = (name, walked.output) :: rest) ∧
    ((∃ error, named.source options facts = .error error) ↔
      ∃ name type property error, (name, type) ∈ named.entries ∧ type.Reaches property ∧
        property.Unmapped options error) ∧
    (∀ error, named.source options facts = .error error →
      (∀ relation, error ≠ .unnamedResultType relation) ∧
      (∀ relation count, error ≠ .invalidUnwrappedType relation count) ∧
      (∀ property, error ≠ .missingSourceType property) ∧
      ∃ name type property, (name, type) ∈ named.entries ∧ type.Reaches property ∧
        property.Unmapped options error) ∧
    ∀ file, named.source options facts = .ok file →
      ∃ unit, named.unit options facts = .ok unit ∧ DeclaresAll options named unit ∧
        file = ⟨unit.name, options.language.render options.java unit⟩ := by
  rw [TableSpec.resultTypes_eq_plan, map_eq_ok] at typed
  obtain ⟨plan, planned, rfl⟩ := typed
  have regular : (plan.resultType query).Regular := by
    obtain ⟨relation, -, made⟩ := bind_eq_ok.mp planned
    exact r.regular_of_planTable query spec _ _ _ made
  -- The named types are closed, and the rest is about closed types.
  have names := NamedTypes.names_of_assign assigned
  have closed := names.closed regular rfl
  refine ⟨?_, ?_, ⟨?_, ?_⟩, ?_, ?_⟩
  · intro type member
    rcases List.mem_cons.mp member with rfl | deeper
    · rfl
    · exact (regular.of_mem_declared deeper).2
  · obtain ⟨name, rest, entries⟩ := names.head
    refine ⟨⟨plan.resultType query, (plan.properties query).map Prod.fst⟩, _, name, rest, ?_, rfl,
      entries⟩
    rw [r.walk_resultTypeFold, planned]
    rfl
  · rintro ⟨error, failed⟩
    obtain ⟨name, type, property, found⟩ := closed.unmapped_of_source failed
    exact ⟨name, type, property, error, found⟩
  · rintro ⟨name, type, property, error, member, reached, unmapped⟩
    exact closed.source_fails member reached unmapped
  · intro error failed
    obtain ⟨name, type, property, member, reached, unmapped⟩ := closed.unmapped_of_source failed
    refine ⟨?_, ?_, ?_, name, type, property, member, reached, unmapped⟩
    · rintro relation rfl
      cases unmapped
    · rintro relation count rfl
      cases unmapped
    · rintro expression rfl
      cases unmapped
  · intro file written
    obtain ⟨unit, built, declared, rendered⟩ := NamedTypes.unit_of_source written
    exact ⟨unit, built, names.declaresAll closed declared, rendered⟩

/-- The file for the drugs in TypeScript. Brands are unwrapped and have no declaration; in the
declaration of drugs their type is that of their only property. -/
theorem drugQuery_file_declares_names :
    ∃ types named unit,
      Pharmacy.drugQuery.table.resultTypes Pharmacy.resolver Pharmacy.drugQuery.name = .ok types ∧
      NamedTypes.assign Pharmacy.drugQuery.name types = .ok named ∧
      named.names = ["Drug", "Analyst", "Advisory"] ∧
      named.source (.forLanguage .typeScript) ⟨Pharmacy.drugQuery.name, [], [], none⟩ =
        .ok ⟨unit.name, Language.typeScript.render .none unit⟩ ∧
      DeclaresAll (.forLanguage .typeScript) named unit := by
  have written : ((Pharmacy.drugQuery.table.resultTypes Pharmacy.resolver
      Pharmacy.drugQuery.name).bind (NamedTypes.assign Pharmacy.drugQuery.name)).map
        (fun named => (named.names, ((named.source (.forLanguage .typeScript)
          ⟨Pharmacy.drugQuery.name, [], [], none⟩).toOption.map (·.unit)).isSome)) =
      .ok (["Drug", "Analyst", "Advisory"], true) := by decide +kernel
  obtain ⟨named, made, facts⟩ := map_eq_ok.mp written
  obtain ⟨types, typed, assigned⟩ := bind_eq_ok.mp made
  obtain ⟨names, succeeds⟩ := Prod.mk.inj facts
  cases source : named.source (.forLanguage .typeScript)
      ⟨Pharmacy.drugQuery.name, [], [], none⟩ with
  | error error =>
      rw [source] at succeeds
      cases succeeds
  | ok file =>
      obtain ⟨unit, -, declares, rfl⟩ := (source_fails_only_for_missing_types Pharmacy.resolver
        Pharmacy.drugQuery.name Pharmacy.drugQuery.table typed assigned _ _).2.2.2.2 file source
      exact ⟨types, named, unit, typed, assigned, names, source, declares⟩

end NestedQuery
