import NestedQuery.ResultType.Basic
import NestedQuery.Source.Options
import NestedQuery.Text.Layout
import NestedQuery.Text.Words

/-!
# Source files in TypeScript and Java

How the languages write types, and how a file of type declarations looks.

## Main Definitions

* `TypeCategory`: what kind of value a database type stands for
* `CompilationUnit`, `TypeDeclaration`: what a file declares
* `Language.fieldType`, `Language.nullable`, `Language.collection`: types
* `Language.unitName`, `Language.render`: files
-/

namespace NestedQuery

open Text (joinWith indentLines)

/-! ### Categories of database types -/

/-- What kind of value a database type stands for. -/
inductive TypeCategory where
  /-- An integer of at most 32 bits. -/
  | integer
  /-- An integer of 64 bits. -/
  | bigInteger
  /-- A number with declared precision and scale. -/
  | arbitraryPrecision
  | floatingPoint
  /-- Text, or a point in time written as text. -/
  | text
  | boolean
  | json
deriving DecidableEq, Repr, Inhabited

namespace TypeCategory

/-- The categories of the known database types. -/
def known : List (String × TypeCategory) := [
  ("int", integer), ("int2", integer), ("int4", integer), ("integer", integer),
  ("smallint", integer),
  ("int8", bigInteger), ("bigint", bigInteger),
  ("numeric", arbitraryPrecision), ("decimal", arbitraryPrecision), ("number", arbitraryPrecision),
  ("float", floatingPoint), ("float4", floatingPoint), ("float8", floatingPoint),
  ("real", floatingPoint), ("double", floatingPoint), ("double precision", floatingPoint),
  ("varchar", text), ("varchar2", text), ("text", text), ("char", text), ("bpchar", text),
  ("clob", text), ("longvarchar", text), ("date", text), ("time", text),
  ("bit", boolean), ("bool", boolean), ("boolean", boolean),
  ("json", json), ("jsonb", json)]

/-- The category of a database type in any letter case. Everything that begins with `timestamp` is
text. -/
def ofDatabaseType? (databaseType : String) : Option TypeCategory :=
  let name := Text.toLower databaseType
  match known.lookup name with
  | some category => some category
  | none => if "timestamp".toList.isPrefixOf name.toList then some text else none

end TypeCategory

/-! ### Declarations -/

/-- A declared type: the names of its properties and their types. -/
structure TypeDeclaration where
  name : String
  properties : List (String × String)
deriving DecidableEq, Repr, Inhabited

/-- All that a source file declares. -/
structure CompilationUnit where
  name : String
  header : Option String
  /-- The names of constants and the SQL resource names that they hold. -/
  sqlResources : List (String × String)
  paramNames : List String
  /-- The type of the result rows, then the others. -/
  declarations : List TypeDeclaration
deriving DecidableEq, Repr, Inhabited

/-! ### Types -/

/-- The largest number of decimal digits that always fit an `int`. -/
def maxIntDigits : UInt32 := 9

/-- The Java type of a number with declared precision and scale: an integer type if it has no
fractional digits. -/
def javaDecimalType (column : ColumnFacts) : String :=
  if column.fractionalDigits = some 0 then
    match column.precision with
    | some precision => if precision ≤ maxIntDigits then "int" else "long"
    | none => "long"
  else "BigDecimal"

/-- The Java type of the objects that hold values of a primitive type. -/
def javaReferenceType (type : String) : String :=
  (([("int", "Integer"), ("long", "Long"), ("double", "Double"), ("float", "Float"),
    ("boolean", "Boolean"), ("char", "Character"), ("short", "Short"), ("byte", "Byte")] :
    List (String × String)).lookup type).getD type

namespace Language

/-- The type of the values of a field that are not null. -/
def fieldType (language : Language) (category : TypeCategory) (column : ColumnFacts) : String :=
  match language, category with
  | typeScript, .integer => "number"
  | typeScript, .bigInteger => "number"
  | typeScript, .arbitraryPrecision => "number"
  | typeScript, .floatingPoint => "number"
  | typeScript, .text => "string"
  | typeScript, .boolean => "boolean"
  | typeScript, .json => "any"
  | java, .integer => "int"
  | java, .bigInteger => "long"
  | java, .arbitraryPrecision => javaDecimalType column
  | java, .floatingPoint => "double"
  | java, .text => "String"
  | java, .boolean => "boolean"
  | java, .json => "JsonNode"

/-- The type of values that may also be null. -/
def nullable : Language → String → String
  | typeScript, type => type ++ " | null"
  | java, type => "@Nullable " ++ javaReferenceType type

/-- A type, made nullable if asked to. -/
def withNullability (language : Language) (isNullable : Bool) (type : String) : String :=
  if isNullable then language.nullable type else type

/-- The type of collections. -/
def collection : Language → String → String
  | typeScript, element =>
    if element.toList.contains ' ' then "(" ++ element ++ ")[]" else element ++ "[]"
  | java, element => "List<" ++ javaReferenceType element ++ ">"

/-- The name of the file for a query. -/
def unitName : Language → String → String
  | typeScript, query => Text.toLower (Text.replaceAll " " "-" query)
  | java, query => Text.upperCamel query

end Language

/-! ### Remarks in the files -/

/-- The remark above the names of SQL resources. -/
def resourcesRemark : String :=
  "The types defined in this file correspond to results of the following generated SQL queries."

/-- The beginning of the remark above the types. -/
def typesRemark : String :=
  "Below are types representing the result data for the generated query"

/-! ### TypeScript -/

namespace TypeScript

/-- The declaration of a type. -/
def declaration (type : TypeDeclaration) : String :=
  "export interface " ++ type.name ++ "\n\x7b\n"
    ++ (type.properties.map fun (name, type) => "  " ++ name ++ ": " ++ type ++ ";\n").foldr
        (· ++ ·) ""
    ++ "\x7d"

/-- The text of a file. -/
def render (unit : CompilationUnit) : String :=
  (match unit.header with
    | some header => header ++ "\n\n"
    | none => "")
    ++ "// " ++ resourcesRemark ++ "\n"
    ++ (unit.sqlResources.map fun (member, resource) =>
        "export const " ++ member ++ " = \"" ++ resource ++ "\";\n").foldr (· ++ ·) ""
    ++ "\n"
    ++ (if unit.paramNames.isEmpty then ""
        else "// query parameters\n"
          ++ (unit.paramNames.map fun param =>
              "export const " ++ param ++ "Param = '" ++ param ++ "';\n").foldr (· ++ ·) ""
          ++ "\n")
    ++ "// " ++ typesRemark ++ ", with top-level type first.\n"
    ++ joinWith "\n" (unit.declarations.map fun type => declaration type ++ "\n")

end TypeScript

/-! ### Java -/

namespace Java

/-- The imports of every file. -/
def standardImports : String :=
  "import java.util.*;\n"
    ++ "import java.math.*;\n"
    ++ "import java.time.*;\n"
    ++ "import org.checkerframework.checker.nullness.qual.Nullable;\n"
    ++ "import com.fasterxml.jackson.databind.JsonNode;\n"

/-- The line that names the package, if there is one. -/
def packageLine (options : JavaOptions) : String :=
  match options.package with
  | some package => "package " ++ package ++ ";\n\n"
  | none => ""

/-- The declaration of a type: a record, or a class with public fields. -/
def declaration (options : JavaOptions) (type : TypeDeclaration) : String :=
  if options.usesRecords then
    "public record " ++ type.name ++ "(\n"
      ++ indentLines 2
          (joinWith ",\n" (type.properties.map fun (name, type) => type ++ " " ++ name))
      ++ "\n)\x7b\x7d"
  else
    "@SuppressWarnings(\"nullness\") // fields are assigned by the deserializer\n"
      ++ "public static class " ++ type.name ++ "\n\x7b\n"
      ++ (type.properties.map fun (name, type) => "  public " ++ type ++ " " ++ name ++ ";\n").foldr
          (· ++ ·) ""
      ++ "\x7d"

/-- The text of a file. -/
def render (options : JavaOptions) (unit : CompilationUnit) : String :=
  packageLine options
    ++ (match unit.header with
        | some header => header ++ "\n\n"
        | none => "")
    ++ standardImports ++ "\n"
    ++ "public class " ++ unit.name ++ "\n\x7b\n"
    ++ (if unit.sqlResources.isEmpty then ""
        else "  // " ++ resourcesRemark ++ "\n"
          ++ (unit.sqlResources.map fun (member, resource) =>
              "  public static final String " ++ member ++ " = \"" ++ resource ++ "\";\n").foldr
              (· ++ ·) ""
          ++ "\n")
    ++ (if unit.paramNames.isEmpty then ""
        else "  // query parameters\n"
          ++ (unit.paramNames.map fun param =>
              "  public static final String " ++ param ++ "Param = \"" ++ param ++ "\";\n").foldr
              (· ++ ·) ""
          ++ "\n")
    ++ "  // " ++ typesRemark ++ ", with top-level result type first.\n\n"
    ++ indentLines 2
        (joinWith "\n" (unit.declarations.map fun type => declaration options type ++ "\n"))
    ++ "\x7d\n"

end Java

/-- The text of a file. -/
def Language.render (options : JavaOptions) : Language → CompilationUnit → String
  | typeScript, unit => TypeScript.render unit
  | java, unit => Java.render options unit

end NestedQuery
