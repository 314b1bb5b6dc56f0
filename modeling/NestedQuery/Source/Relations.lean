import NestedQuery.Schema.Basic
import NestedQuery.Source.ResultTypes

/-!
# Source of a schema

The relations of a database and their fields as constants in TypeScript or Java.

## Main Definitions

* `Database.relationsSource`: the files for a schema snapshot
* `NameStyle.shown`: how stored names are shown
-/

namespace NestedQuery

open Text (joinWith indentLines)

/-- How stored names are shown. -/
structure NameStyle where
  casePolicy : CasePolicy
  preferLowercase : Bool
deriving DecidableEq, Repr

/-- A stored name as it is shown: a name that a database stores in upper case without need is shown
in lower case. -/
def NameStyle.shown (style : NameStyle) (name : String) : String :=
  if style.preferLowercase && style.casePolicy == .storedUpper && !Name.isQuoted name
      && name == Text.toUpper name then
    Text.toLower name
  else name

/-- The name under which relations without schema are put. -/
def defaultSchemaName : String := "DEFAULT"

/-- Add a relation to its schema's group; a new schema comes last. -/
def addToSchema (schema : String) (relation : Relation) :
    List (String × List Relation) → List (String × List Relation)
  | [] => [(schema, [relation])]
  | (other, relations) :: groups =>
    if other = schema then (other, relations ++ [relation]) :: groups
    else (other, relations) :: addToSchema schema relation groups

/-- The relations by schema, both in the order of the snapshot. -/
def Database.relationsBySchema (db : Database) : List (String × List Relation) :=
  db.relations.foldl
    (fun groups relation =>
      addToSchema (relation.id.schema.getD defaultSchemaName) relation groups)
    []

/-- A string literal; a quote in the text is written after a backslash. -/
def sourceLiteral (text : String) : String :=
  "\"" ++ Text.replaceAll "\"" "\\\"" text ++ "\""

/-- The text of a value that may be absent. -/
def orNull (text : α → String) : Option α → String
  | some value => text value
  | none => "null"

/-- The text of a truth value. -/
def boolText (b : Bool) : String := if b then "true" else "false"

/-- The text of a word. -/
def wordText (n : UInt32) : String := toString n.toNat

/-- The text of a signed number. -/
def signedText (n : Int32) : String := toString n.toInt

/-! ### TypeScript -/

namespace TypeScript

/-- The line of a field. -/
def fieldLine (style : NameStyle) (field : Field) : String :=
  "  " ++ sourceLiteral (style.shown field.name) ++ ": \x7b type: "
    ++ sourceLiteral field.databaseType
    ++ ", nullable: " ++ orNull boolText field.nullable
    ++ ", pkPart: " ++ orNull wordText field.keyPart
    ++ ", len: " ++ orNull wordText field.length
    ++ ", prec: " ++ orNull wordText field.precision
    ++ ", precRadix: " ++ orNull wordText field.precisionRadix
    ++ ", scale: " ++ orNull signedText field.fractionalDigits
    ++ " \x7d,"

/-- The constant of a relation. -/
def relation (style : NameStyle) (relation : Relation) : String :=
  let name := style.shown relation.id.name
  joinWith "\n"
    (["\"" ++ name ++ "\": \x7b // relation " ++ name]
      ++ relation.fields.map (fieldLine style)
      ++ ["\x7d,"])

/-- The constant of a schema. -/
def schema (style : NameStyle) (group : String × List Relation) : String :=
  "export const Schema_" ++ style.shown group.1 ++ " = \x7b\n"
    ++ joinWith "\n" (group.2.map fun rel => indentLines 2 (relation style rel))
    ++ "\n\x7d;\n"

/-- The file of a schema snapshot. -/
def relationsModule (style : NameStyle) (groups : List (String × List Relation)) : String :=
  joinWith "\n" (groups.map (schema style))

end TypeScript

/-! ### Java -/

namespace Java

/-- The constant of a field. -/
def fieldConstant (style : NameStyle) (field : Field) : String :=
  let name := style.shown field.name
  "  public static final Field " ++ name ++ " = new Field("
    ++ joinWith ", " [
        sourceLiteral name,
        sourceLiteral field.databaseType,
        orNull boolText field.nullable,
        orNull wordText field.keyPart,
        orNull wordText field.length,
        orNull wordText field.precision,
        orNull wordText field.precisionRadix,
        orNull signedText field.fractionalDigits]
    ++ ");"

/-- The class of a relation. -/
def relation (style : NameStyle) (relation : Relation) : String :=
  let name := style.shown relation.id.name
  let id :=
    match relation.id.schema with
    | some schema => style.shown schema ++ "." ++ name
    | none => name
  joinWith "\n"
    (["public static class " ++ name ++ " // relation",
      "\x7b",
      "  public static String tableId() \x7b return " ++ sourceLiteral id ++ "; \x7d",
      "  public static String tableName() \x7b return " ++ sourceLiteral name ++ "; \x7d"]
      ++ relation.fields.map (fieldConstant style)
      ++ ["\x7d"])

/-- The class of a schema. -/
def schema (style : NameStyle) (group : String × List Relation) : String :=
  "public static class Schema_" ++ style.shown group.1 ++ "\n\x7b\n"
    ++ joinWith "\n\n" (group.2.map fun rel => indentLines 2 (relation style rel))
    ++ "\n\x7d"

/-- The class of a schema snapshot. -/
def relationsClass (style : NameStyle) (groups : List (String × List Relation)) : String :=
  "public class RelationsMetadata\n\x7b\n"
    ++ joinWith "\n\n" (groups.map fun group => indentLines 2 (schema style group))
    ++ "\n\x7d\n"

/-- The class of the constants of fields. -/
def fieldClass : String :=
  joinWith "\n" [
    "import org.checkerframework.checker.nullness.qual.Nullable;",
    "",
    "public class Field",
    "\x7b",
    "  public final String name;",
    "  public final String databaseType;",
    "  public final @Nullable Boolean nullable;",
    "  public final @Nullable Integer primaryKeyPartNumber;",
    "  public final @Nullable Integer length;",
    "  public final @Nullable Integer precision;",
    "  public final @Nullable Integer precisionRadix;",
    "  public final @Nullable Integer fractionalDigits;",
    "",
    "  public Field(",
    "    String name,",
    "    String databaseType,",
    "    @Nullable Boolean nullable,",
    "    @Nullable Integer primaryKeyPartNumber,",
    "    @Nullable Integer length,",
    "    @Nullable Integer precision,",
    "    @Nullable Integer precisionRadix,",
    "    @Nullable Integer fractionalDigits",
    "  )",
    "  \x7b",
    "    this.name = name;",
    "    this.databaseType = databaseType;",
    "    this.nullable = nullable;",
    "    this.primaryKeyPartNumber = primaryKeyPartNumber;",
    "    this.length = length;",
    "    this.precision = precision;",
    "    this.precisionRadix = precisionRadix;",
    "    this.fractionalDigits = fractionalDigits;",
    "  \x7d",
    "",
    "  public String toString() \x7b return this.name; \x7d",
    "\x7d",
    ""]

end Java

/-! ### Files -/

/-- The warning at the top of the files. -/
def generatedWarning : String :=
  "// ---------------------------------------------------------------------------\n"
    ++ "//   THIS SOURCE CODE WAS AUTO-GENERATED, ANY CHANGES MADE HERE MAY BE LOST.\n"
    ++ "// ---------------------------------------------------------------------------\n"

/-- A file below its warning and header. -/
def withWarning (options : SourceOptions) (code : String) : String :=
  generatedWarning
    ++ (match options.typesFileHeader with
        | some header => header ++ "\n"
        | none => "")
    ++ "\n" ++ code

/-- The files for a schema snapshot: one module in TypeScript; in Java a class for the schema and
the class of its constants. -/
def Database.relationsSource (options : SourceOptions) (db : Database) : List GeneratedSource :=
  let style : NameStyle := ⟨db.casePolicy, options.prefersLowercase⟩
  let groups := db.relationsBySchema
  match options.language with
  | .typeScript =>
    [⟨"relations-metadata", withWarning options (TypeScript.relationsModule style groups)⟩]
  | .java =>
    [⟨"Field", Java.packageLine options.java ++ Java.fieldClass⟩,
      ⟨"RelationsMetadata",
        withWarning options
          (Java.packageLine options.java ++ Java.relationsClass style groups)⟩]

end NestedQuery
