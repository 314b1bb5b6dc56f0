import NestedQuery.Spec.Codec

/-!
# Options of source generation

## Main Definitions

* `SourceOptions`: the options, with those for Java in `JavaOptions`
* `TypeOverrides`: declared types by database type
* `SourceOptions.ofJson?`, `SourceOptions.toJson`: read and write them
-/

namespace NestedQuery

open Json

/-! ### Overrides -/

/-- Set the value of a key; a new key comes last. -/
def setEntry (key value : String) : List (String × String) → List (String × String)
  | [] => [(key, value)]
  | entry :: entries =>
    if entry.1 = key then (key, value) :: entries else entry :: setEntry key value entries

theorem mem_keys_setEntry {key value k : String} {entries : List (String × String)}
    (h : k ∈ (setEntry key value entries).map Prod.fst) : k = key ∨ k ∈ entries.map Prod.fst := by
  induction entries with
  | nil => simpa [setEntry] using h
  | cons entry entries ih =>
    unfold setEntry at h
    split at h
    · rename_i same
      subst same
      simp only [List.map_cons, List.mem_cons] at h ⊢
      exact Or.inr h
    · simp only [List.map_cons, List.mem_cons] at h ⊢
      rcases h with h | h
      · exact Or.inr (Or.inl h)
      · rcases ih h with h | h
        · exact Or.inl h
        · exact Or.inr (Or.inr h)

theorem nodup_keys_setEntry (key value : String) {entries : List (String × String)}
    (h : (entries.map Prod.fst).Nodup) : ((setEntry key value entries).map Prod.fst).Nodup := by
  induction entries with
  | nil => simp [setEntry]
  | cons entry entries ih =>
    simp only [List.map_cons, List.nodup_cons] at h
    unfold setEntry
    split
    · rename_i same
      subst same
      simpa using h
    · rename_i differs
      simp only [List.map_cons, List.nodup_cons]
      refine ⟨fun mem => ?_, ih h.2⟩
      rcases mem_keys_setEntry mem with same | mem
      · exact differs same
      · exact h.1 mem

/-- Declared types by database type, one for each. -/
structure TypeOverrides where
  entries : List (String × String)
  nodup : (entries.map Prod.fst).Nodup
deriving DecidableEq

namespace TypeOverrides

/-- No overrides. -/
def empty : TypeOverrides := ⟨[], by simp⟩

instance : Inhabited TypeOverrides := ⟨empty⟩

/-- Set the declared type for a database type. -/
def insert (overrides : TypeOverrides) (databaseType type : String) : TypeOverrides :=
  ⟨setEntry databaseType type overrides.entries,
    nodup_keys_setEntry databaseType type overrides.nodup⟩

/-- The declared type for a database type. -/
def get? (overrides : TypeOverrides) (databaseType : String) : Option String :=
  overrides.entries.lookup databaseType

/-- Read overrides one after the other; of a repeated database type the last one counts. -/
def ofMembers? (overrides : TypeOverrides) : List (String × Json) → Option TypeOverrides
  | [] => some overrides
  | (databaseType, type) :: members => do
    let type ← asString type
    (overrides.insert databaseType type).ofMembers? members

/-- Read overrides. -/
def ofJson? : Json → Option TypeOverrides
  | .obj members => empty.ofMembers? members
  | _ => none

/-- Write overrides. -/
def toJson (overrides : TypeOverrides) : Json :=
  .obj (overrides.entries.map fun (databaseType, type) => (databaseType, .str type))

end TypeOverrides

/-! ### Options -/

/-- The options for Java. -/
structure JavaOptions where
  package : Option String
  emitRecords : Option Bool
deriving DecidableEq, Repr, Inhabited

namespace JavaOptions

/-- The options when nothing is said. -/
def none : JavaOptions := ⟨.none, .none⟩

/-- Whether types are declared as records; they are if nothing is said. -/
def usesRecords (options : JavaOptions) : Bool := options.emitRecords.getD true

/-- Read the options for Java. -/
def ofJson? (j : Json) : Option JavaOptions := do
  let ms ← recordMembers ["javaPackage", "emitRecords"] j
  let package ← optional ms "javaPackage" asString
  let emitRecords ← optional ms "emitRecords" asBool
  return ⟨package, emitRecords⟩

/-- Write the options for Java. -/
def toJson (options : JavaOptions) : Json :=
  .obj [
    ("javaPackage", ofOption .str options.package),
    ("emitRecords", ofOption .bool options.emitRecords)]

end JavaOptions

/-- The options of source generation. -/
structure SourceOptions where
  language : Language
  /-- Text in front of the names of SQL resources. -/
  sqlResourcePrefix : Option String
  /-- Text at the top of every file. -/
  typesFileHeader : Option String
  /-- Declared types by database type in lower case, which come before the built-in ones. -/
  overrides : TypeOverrides
  java : JavaOptions
  /-- Whether the source of the schema shows names that are stored in upper case in lower case. -/
  preferLowercaseNames : Option Bool
deriving DecidableEq, Inhabited

namespace SourceOptions

/-- The options for a language when nothing else is said. -/
def forLanguage (language : Language) : SourceOptions :=
  ⟨language, none, none, .empty, .none, none⟩

/-- The declared type that overrides the built-in one for a database type. -/
def override? (options : SourceOptions) (databaseType : String) : Option String :=
  options.overrides.get? (Text.toLower databaseType)

/-- Whether names in upper case are shown in lower case; they are if nothing is said. -/
def prefersLowercase (options : SourceOptions) : Bool := options.preferLowercaseNames.getD true

/-- Read the options. -/
def ofJson? (j : Json) : Option SourceOptions := do
  let ms ← recordMembers
    ["sourceLanguage", "sqlResourcePathPrefix", "typesFileHeader", "databaseTypeOverrides",
      "javaOptions", "preferLowercaseNames"] j
  let language ← required ms "sourceLanguage" (asEnum Language.names)
  let sqlResourcePrefix ← optional ms "sqlResourcePathPrefix" asString
  let typesFileHeader ← optional ms "typesFileHeader" asString
  let overrides ← defaulted ms "databaseTypeOverrides" .empty TypeOverrides.ofJson?
  let java ← defaulted ms "javaOptions" .none JavaOptions.ofJson?
  let preferLowercaseNames ← optional ms "preferLowercaseNames" asBool
  return ⟨language, sqlResourcePrefix, typesFileHeader, overrides, java, preferLowercaseNames⟩

/-- Write the options. -/
def toJson (options : SourceOptions) : Json :=
  .obj [
    ("sourceLanguage", .str options.language.label),
    ("sqlResourcePathPrefix", ofOption .str options.sqlResourcePrefix),
    ("typesFileHeader", ofOption .str options.typesFileHeader),
    ("databaseTypeOverrides", options.overrides.toJson),
    ("javaOptions", options.java.toJson),
    ("preferLowercaseNames", ofOption .bool options.preferLowercaseNames)]

end SourceOptions

end NestedQuery
