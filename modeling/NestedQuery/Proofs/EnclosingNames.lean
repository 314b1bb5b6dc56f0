import NestedQuery.Proofs.CompiledQueries
import NestedQuery.Proofs.DeclaredTypes
import NestedQuery.Proofs.EmittedNames

/-!
# Types inside the class of their file

In Java the result types of a query are declared inside a class that is named after the query. A
type must not have the name of the class around it, but the types are named before anything is
known of the class. A name with a number behind it has an underscore, and a name in camel case has
none. So the class is met just by a type that keeps its wished name: the one that the specification
gives it, or else that of its table in camel case.

## Main Definitions

* `ResultType.wishedName`: the name of a type unless it is taken

## Main Results

* `Text.underscore_not_mem_upperCamel`: camel case has no underscores
* `NamedTypes.Names.mem_names_iff_wished`: which names without underscores are declared
* `class_encloses_its_name_iff`: when a class encloses a type of its name
* `analyst_within_analyst`: a query that is named like its table
-/

namespace NestedQuery

/-! ### Camel case -/

namespace Text

/-- The pieces between separators have no separators. -/
theorem not_sep_of_mem_splitAt {sep : Char → Bool} {cs piece : List Char} {c : Char}
    (isPiece : piece ∈ splitAt sep cs) (member : c ∈ piece) : sep c = false := by
  induction cs generalizing piece with
  | nil =>
      rw [splitAt, List.mem_singleton] at isPiece
      subst isPiece
      cases member
  | cons first cs ih =>
      rw [splitAt] at isPiece
      split at isPiece
      · rcases List.mem_cons.mp isPiece with rfl | later
        · cases member
        · exact ih later member
      · rename_i kept
        split at isPiece
        · rename_i none
          rw [List.mem_singleton] at isPiece
          subst isPiece
          rw [List.mem_singleton.mp member]
          simpa using kept
        · rename_i head pieces split
          rcases List.mem_cons.mp isPiece with rfl | later
          · rcases List.mem_cons.mp member with rfl | inHead
            · simpa using kept
            · exact ih (split ▸ List.mem_cons_self) inHead
          · exact ih (split ▸ List.mem_cons_of_mem _ later) member

/-- To cut a text into words brings no characters into it. -/
theorem mem_of_mem_cutWords {mode : WordCase} {word cs piece : List Char} {c : Char}
    (isPiece : piece ∈ cutWords mode word cs) (member : c ∈ piece) : c ∈ word ∨ c ∈ cs := by
  fun_induction cutWords mode word cs with
  | case1 => cases isPiece
  | case2 mode word last => grind
  | case3 mode word first next cs ends ih => grind
  | case4 mode word first next cs _ ends ih => grind
  | case5 mode word first next cs _ _ ih => grind

theorem isAlphanumeric_of_mem_words {s : String} {word : List Char} {c : Char}
    (isWord : word ∈ words s) (member : c ∈ word) : isAlphanumeric c = true := by
  obtain ⟨piece, isPiece, cut⟩ := List.mem_flatMap.mp isWord
  rcases mem_of_mem_cutWords cut member with nothing | inPiece
  · cases nothing
  · simpa using not_sep_of_mem_splitAt isPiece inPiece

theorem spares_lower_underscore : Spares Char.toLower lowerExpansions lowerShifts '_' :=
  ⟨by decide, by decide, by decide, by decide +kernel⟩

theorem spares_upper_underscore : Spares Char.toUpper upperExpansions upperShifts '_' :=
  ⟨by decide, by decide, by decide +kernel, by decide +kernel⟩

theorem underscore_mem_of_lowerWord {word : List Char} (member : '_' ∈ lowerWord word) :
    '_' ∈ word := by
  fun_induction lowerWord word with
  | case1 => exact member
  | case2 => exact absurd member (by decide)
  | case3 c =>
      rw [spares_lower_underscore.eq_of_mem member]
      exact List.mem_cons_self
  | case4 c next cs ih =>
      rcases List.mem_append.mp member with first | later
      · rw [spares_lower_underscore.eq_of_mem first]
        exact List.mem_cons_self
      · exact List.mem_cons_of_mem _ (ih later)

theorem underscore_mem_of_capitalize {word : List Char} (member : '_' ∈ capitalize word) :
    '_' ∈ word := by
  cases word with
  | nil => exact member
  | cons c cs =>
      rcases List.mem_append.mp member with first | later
      · rw [spares_upper_underscore.eq_of_mem first]
        exact List.mem_cons_self
      · exact List.mem_cons_of_mem _ (underscore_mem_of_lowerWord later)

/-- **Camel case has no underscores.** -/
theorem underscore_not_mem_upperCamel (s : String) : '_' ∉ (upperCamel s).toList := by
  rw [upperCamel, String.toList_ofList, List.mem_flatMap]
  rintro ⟨word, isWord, member⟩
  have separates := isAlphanumeric_of_mem_words isWord (underscore_mem_of_capitalize member)
  exact absurd separates (by decide)

theorem underscore_mem_numbered (base : String) (i : Nat) :
    '_' ∈ (numbered base "_" i).toList := by
  rw [numbered, String.toList_append, String.toList_append]
  exact List.mem_append_left _ (List.mem_append_right _ List.mem_cons_self)

end Text

/-! ### Wished names -/

/-- The name of a type unless it is taken: the one that the specification gives it, or else that of
its table in camel case. -/
def ResultType.wishedName (type : ResultType) : String :=
  type.typeName.getD (Text.upperCamel type.relation.name)

namespace NamedTypes

variable {types : List ResultType} {named : NamedTypes}

/-- A name that the specification gives to some type is declared. -/
theorem Names.mem_names_of_given (names : Names types named) {name : String}
    (given : name ∈ givenNames types) : name ∈ named.names := by
  obtain ⟨type, listed, asked⟩ := mem_givenNames.mp given
  obtain ⟨used, member⟩ := names.exists_entry listed
  rw [← names.own used type member name asked]
  exact List.mem_map_of_mem member

/-- **Which names are declared.** A name without underscores is declared just if some type wishes
it: a name made to differ from another one would have an underscore. -/
theorem Names.mem_names_iff_wished (names : Names types named) {name : String}
    (plain : '_' ∉ name.toList) :
    name ∈ named.names ↔ ∃ type ∈ types, type.wishedName = name := by
  constructor
  · intro used
    obtain ⟨⟨found, type⟩, member, rfl⟩ := List.mem_map.mp used
    refine ⟨type, names.mem_of_entry member, ?_⟩
    unfold ResultType.wishedName
    cases asked : type.typeName with
    | some own => exact (names.own found type member own asked).symm
    | none =>
        obtain ⟨before, after, split⟩ := List.append_of_mem member
        cases names.automatic before found type after split asked with
        | wished free => rfl
        | counted => exact absurd (Text.underscore_mem_numbered _ _) plain
  · rintro ⟨type, listed, rfl⟩
    obtain ⟨found, member⟩ := names.exists_entry listed
    unfold ResultType.wishedName
    cases asked : type.typeName with
    | some own => exact names.mem_names_of_given (mem_givenNames.mpr ⟨type, listed, asked⟩)
    | none =>
        obtain ⟨before, after, split⟩ := List.append_of_mem member
        cases names.automatic before found type after split asked with
        | wished free => exact List.mem_map_of_mem member
        | counted taken =>
            -- The wished name is taken, so another type has it.
            rcases List.mem_append.mp taken with given | earlier
            · exact names.mem_names_of_given given
            · unfold NamedTypes.names
              rw [split, List.map_append]
              exact List.mem_append_left _ earlier

end NamedTypes

/-! ### Files -/

/-- The file for an accepted query and the names that it declares: those of the result types, in a
unit that is named after the query. -/
theorem CompiledFrom.unit_of_source {compiler : GroupCompiler} {query : Query}
    {compiled : CompiledQuery} {options : SourceOptions}
    (made : CompiledFrom compiler query compiled) (wanted : query.wantsResultTypes = true)
    (given : compiler.options = some options) :
    ∃ types named unit,
      query.table.resultTypes (compiler.resolver query) query.name = .ok types ∧
      NamedTypes.assign query.name types = .ok named ∧ compiled.resultTypes = some named ∧
      compiled.source = some ⟨unit.name, options.language.render options.java unit⟩ ∧
      unit.name = options.language.unitName query.name ∧
      unit.declarations.map (·.name) = named.names := by
  obtain ⟨named, typed, has⟩ := made.resultTypes wanted
  obtain ⟨types, walked, assigned⟩ := bind_eq_ok.mp typed
  have written := made.source
  simp only [GroupCompiler.sourceOf, has, given, bind_eq_ok] at written
  obtain ⟨file, sourced, equal⟩ := written
  obtain ⟨unit, built, declared, rfl⟩ := NamedTypes.unit_of_source sourced
  refine ⟨types, named, unit, walked, assigned, has, (Except.ok.inj equal).symm, ?_, ?_⟩
  · unfold NamedTypes.unit at built
    obtain ⟨declarations, -, same⟩ := bind_eq_ok.mp built
    cases same
    rfl
  · have closed := NamedTypes.closed_of_assign walked assigned
    exact names_of_declaredAs (closed.declared declared)

/-- **When a class encloses a type of its name.** An accepted query gives, in Java, a class that is
named after the query and declares the result types inside. One of them has the name of the class
just if a type wishes this name. -/
theorem class_encloses_its_name_iff (compiler : GroupCompiler) (query : Query)
    {compiled : CompiledQuery} {options : SourceOptions}
    (accepted : compiler.compileQuery query = .ok compiled)
    (wanted : query.wantsResultTypes = true) (given : compiler.options = some options)
    (java : options.language = .java) :
    ∃ types named unit,
      query.table.resultTypes (compiler.resolver query) query.name = .ok types ∧
      NamedTypes.assign query.name types = .ok named ∧ compiled.resultTypes = some named ∧
      compiled.source = some ⟨unit.name, Java.render options.java unit⟩ ∧
      unit.name = Text.upperCamel query.name ∧
      unit.declarations.map (·.name) = named.names ∧
      (unit.name ∈ unit.declarations.map (·.name) ↔
        ∃ type ∈ types, type.wishedName = Text.upperCamel query.name) := by
  obtain ⟨types, named, unit, typed, assigned, has, source, name, declared⟩ :=
    (compiledFrom_of_compileQuery accepted).unit_of_source wanted given
  rw [java] at source name
  refine ⟨types, named, unit, typed, assigned, has, source, name, declared, ?_⟩
  rw [declared, name]
  exact (NamedTypes.names_of_assign assigned).mem_names_iff_wished
    (Text.underscore_not_mem_upperCamel query.name)

namespace Pharmacy

/-- A compiler that declares result types in Java. -/
def javaCompiler : GroupCompiler := { plainCompiler with options := some (.forLanguage .java) }

/-- The analysts under the name of their table. -/
def analystQuery : Query :=
  { drugQuery with name := "analyst", table := analysts, representations := none }

end Pharmacy

/-- The types of the drug query are apart from its class, and none of them wishes its name. -/
theorem drugQuery_class_is_apart :
    ∃ compiled types unit, Pharmacy.javaCompiler.compileQuery Pharmacy.drugQuery = .ok compiled ∧
      compiled.resultTypes.map (·.names) = some ["Drug", "Analyst", "Advisory"] ∧
      compiled.source = some ⟨unit.name, Java.render .none unit⟩ ∧
      unit.name ∉ unit.declarations.map (·.name) ∧
      Pharmacy.drugQuery.table.resultTypes (Pharmacy.javaCompiler.resolver Pharmacy.drugQuery)
        Pharmacy.drugQuery.name = .ok types ∧
      ¬ ∃ type ∈ types, type.wishedName = "DrugsQuery" := by
  have run : (Pharmacy.javaCompiler.compileQuery Pharmacy.drugQuery).map
      (fun compiled => compiled.resultTypes.map (·.names)) =
        .ok (some ["Drug", "Analyst", "Advisory"]) := by
    decide +kernel
  obtain ⟨compiled, accepted, names⟩ := map_eq_ok.mp run
  obtain ⟨types, named, unit, typed, -, has, source, name, declared, apart⟩ :=
    class_encloses_its_name_iff Pharmacy.javaCompiler Pharmacy.drugQuery accepted rfl rfl rfl
  have camel : Text.upperCamel Pharmacy.drugQuery.name = "DrugsQuery" := by decide +kernel
  have other : unit.name ∉ unit.declarations.map (·.name) := by
    have listed : named.names = ["Drug", "Analyst", "Advisory"] := by simpa [has] using names
    rw [declared, listed, name, camel]
    decide
  exact ⟨compiled, types, unit, accepted, names, source, other, typed, camel ▸ mt apart.mpr other⟩

/-- A query that is named like its table: the class `Analyst` declares a record `Analyst`. -/
theorem analyst_within_analyst :
    (Pharmacy.javaCompiler.compileQuery Pharmacy.analystQuery).map
      (fun compiled => (compiled.resultTypes.map (·.names), compiled.source)) =
    .ok (some ["Analyst"], some ⟨"Analyst",
      Java.standardImports ++ "\n"
        ++ "public class Analyst\n"
        ++ "\x7b\n"
        ++ "  // " ++ resourcesRemark ++ "\n"
        ++ "  public static final String sqlResource = \"analyst.sql\";\n"
        ++ "\n"
        ++ "  // " ++ typesRemark ++ ", with top-level result type first.\n"
        ++ "\n"
        ++ "  public record Analyst(\n"
        ++ "    String short_name\n"
        ++ "  )\x7b\x7d\n"
        ++ "\x7d\n"⟩) := by
  decide +kernel

end NestedQuery
