import NestedQuery.Proofs.EmittedNames
import NestedQuery.Proofs.Indentation
import NestedQuery.Proofs.Rendering

/-!
# Property names in the text of JSON objects

In the text of a statement, each property of a JSON object of a row is a line with the name of the
property twice: as a literal, and as the column with its value. The line is indented along with the
queries around it. Here it is found out for which names a database reads the name in both places.

## Main Definitions

* `Dialect.pairLink`: what stands between the two
* `Dialect.PairAt`: the place of a property in a text
* `Dialect.ReadsPair`: the database reads the name in both places
* `Dialect.Delimitable`: the names for which it does

## Main Results

* `SqlWriter.holdsLine_statement`: a query has a line for each property of its JSON objects
* `Statement.Node.holdsLine`: so has a statement for each query in it
* `row_object_names_are_read_back_iff`: for which names the line is read as it is meant
* `names_break_out`: names for which it is not
-/

namespace NestedQuery

open Text (HoldsLine LineIn startsLine indentChars)

/-! ### Lines of JSON objects -/

namespace Dialect

variable {dialect : Dialect} {name : String}

/-- What stands between the name of a property and the name of its column. -/
def pairLink (dialect : Dialect) : String :=
  dialect.pairSeparator ++ wrappedAlias ++ "."

theorem toList_objectEntry (dialect : Dialect) (name : String) :
    (dialect.objectEntry wrappedAlias name).toList =
      (sqlLiteral name).toList ++
        (dialect.pairLink.toList ++ (dialect.quoteIfNeeded name).toList) := by
  simp [objectEntry, column, pairLink]

theorem pairLink_oneLine : '\n' ∉ dialect.pairLink.toList := by
  cases dialect <;> decide

theorem startsLine_sqlLiteral (atStart : Bool) (text : String) :
    startsLine atStart (sqlLiteral text).toList = false := by
  rw [toList_sqlLiteral, ← List.cons_append, Text.startsLine_append]
  rfl

theorem startsLine_quoteIfNeeded (bare : dialect.Bare name) :
    startsLine false (dialect.quoteIfNeeded name).toList = false := by
  rcases quoteIfNeeded_cases bare with ⟨asItIs, plain⟩ | quoted
  · rw [asItIs]
    apply Text.startsLine_of_oneLine
    exact plain.not_mem (by cases dialect <;> decide)
  · rw [quoted, ← List.cons_append, Text.startsLine_append]
    cases dialect <;> rfl

/-- The line of a property ends within a line. -/
theorem startsLine_objectEntry (bare : dialect.Bare name) :
    startsLine true (dialect.objectEntry wrappedAlias name).toList = false := by
  rw [toList_objectEntry, Text.startsLine_append, Text.startsLine_append, startsLine_sqlLiteral,
    Text.startsLine_of_oneLine pairLink_oneLine, startsLine_quoteIfNeeded bare]

theorem toList_between {opening closing : String} {head : List Char}
    (opens : opening.toList = head ++ ['\n']) (closes : closing.toList = ['\n', ')'])
    (body : String) :
    (opening ++ body ++ closing).toList =
      head ++ ('\n' :: (body.toList ++ ['\n'])) ++ [')'] := by
  rw [String.toList_append, String.toList_append, opens, closes]
  simp only [List.append_assoc, List.cons_append, List.nil_append]

/-- The properties of a JSON object are an indented block of its text. -/
theorem toList_rowObject (dialect : Dialect) (names : List String) :
    ∃ opening rest, (rest.toList = [] ∨ ∃ others, rest.toList = '\n' :: others) ∧
      (dialect.rowObject sqlIndent wrappedAlias names).toList =
        opening ++ ('\n' :: ((Text.indentLines sqlIndent
          (dialect.objectEntries wrappedAlias names ++ rest)).toList ++ ['\n'])) ++ [')'] := by
  cases dialect with
  | postgres =>
      refine ⟨"jsonb_build_object(".toList, "", .inl rfl, ?_⟩
      rw [String.append_empty]
      exact toList_between (by decide) (by decide) _
  | oracle =>
      refine ⟨"json_object(".toList, "\nreturning clob", .inr ⟨_, rfl⟩, ?_⟩
      exact toList_between (by decide) (by decide) _
  | mysql =>
      refine ⟨"json_object(".toList, "", .inl rfl, ?_⟩
      rw [String.append_empty]
      exact toList_between (by decide) (by decide) _

/-- A JSON object has a line for each of its properties. -/
theorem holdsLine_rowObject (bare : dialect.Bare name) {names : List String}
    (member : name ∈ names) :
    HoldsLine (dialect.objectEntry wrappedAlias name)
      (dialect.rowObject sqlIndent wrappedAlias names) := by
  obtain ⟨opening, rest, apart, text⟩ := dialect.toList_rowObject names
  have within := startsLine_objectEntry bare
  refine ⟨within, sqlIndent, by decide, ?_⟩
  rw [text, Text.toList_indentLines, String.toList_append]
  exact ((Text.lineIn_block (List.mem_map_of_mem member) within sqlIndent apart).append_left
    opening).append_right _

end Dialect

/-! ### Lines of statements -/

namespace SqlWriter

variable {w : SqlWriter} {statement : Statement} {line : String}

theorem holdsLine_aggregateValues {dialect : Dialect} {value text : String}
    {orderBy : Option String} (made : dialect.aggregateValues value orderBy = .ok text)
    (holds : HoldsLine line value) : HoldsLine line text := by
  cases dialect with
  | postgres =>
      cases made
      exact ((holds.append_left _).append_right _).append_right _
  | oracle =>
      cases made
      exact ((holds.append_left _).append_right _).append_right _
  | mysql =>
      cases orderBy with
      | none =>
          cases made
          exact (holds.append_left _).append_right _
      | some orderBy => cases made

/-- The JSON array of all rows has a line for each property of their objects. -/
theorem holdsLine_aggregateValue {name value : String} (bare : w.dialect.Bare name)
    (wraps : statement.objectWrap = true) (member : name ∈ statement.names)
    (made : w.aggregateValue statement = .ok value) :
    HoldsLine (w.dialect.objectEntry wrappedAlias name) value := by
  rw [aggregateValue, if_pos wraps, bind_eq_ok] at made
  obtain ⟨aggregated, rows, rest⟩ := made
  cases rest
  apply HoldsLine.append_left
  exact holdsLine_aggregateValues rows (w.dialect.holdsLine_rowObject bare member)

theorem holdsLine_objectRows {name : String} (bare : w.dialect.Bare name)
    (member : name ∈ statement.names) (base : String) :
    HoldsLine (w.dialect.objectEntry wrappedAlias name) (w.objectRows statement base) := by
  unfold objectRows
  -- After the select list there are the order, the wrapped query and the end of the line.
  apply HoldsLine.append_right
  apply HoldsLine.append_right
  apply HoldsLine.append_right
  apply HoldsLine.append_left
  apply HoldsLine.indentLines
  apply HoldsLine.append_right
  apply HoldsLine.append_right
  apply HoldsLine.append_left
  exact Dialect.holdsLine_rowObject bare member

/-- **A query has a line for each property of its JSON objects.** -/
theorem holdsLine_statement {name text : String} {entries sources : Except SqlError (List String)}
    (bare : w.dialect.Bare name) (wraps : statement.objectWrap = true)
    (member : name ∈ statement.names) (made : w.statement statement entries sources = .ok text) :
    HoldsLine (w.dialect.objectEntry wrappedAlias name) text := by
  unfold SqlWriter.statement at made
  split at made
  · simp only [bind_eq_ok] at made
    obtain ⟨value, aggregated, selected, -, joined, -, rest⟩ := made
    cases rest
    apply HoldsLine.append_right
    apply HoldsLine.append_right
    apply HoldsLine.append_left
    apply HoldsLine.indentLines
    apply HoldsLine.append_right
    exact holdsLine_aggregateValue bare wraps member aggregated
  · simp only [bind_eq_ok] at made
    obtain ⟨selected, -, joined, -, rest⟩ := made
    cases rest
    exact holdsLine_objectRows bare member _

/-- The text of a wrapped query has the lines of the query. -/
theorem holdsLine_wrappedQuery {base : String} (holds : HoldsLine line base) :
    HoldsLine line (w.wrappedQuery statement base) := by
  unfold wrappedQuery
  apply HoldsLine.append_right
  apply HoldsLine.append_right
  apply HoldsLine.endLine
  apply HoldsLine.append_left
  apply HoldsLine.indentLines
  exact holds.append_left _

theorem holdsLine_subquery {text : String} (holds : HoldsLine line text) :
    HoldsLine line (subquery text) := by
  unfold subquery
  apply HoldsLine.append_right
  apply HoldsLine.endLine
  apply HoldsLine.append_left
  exact holds.indentLines _

/-- The text of a query has the lines of its select list and of its sources. -/
theorem holdsLine_baseQuery {text : String} {selected joined : List String}
    (holds : HoldsLine line text) (member : text ∈ selected ∨ text ∈ joined) :
    HoldsLine line (w.baseQuery statement selected joined) := by
  unfold baseQuery
  -- Lock, order, conditions and the end of the line come after the sources.
  apply HoldsLine.append_right
  apply HoldsLine.append_right
  apply HoldsLine.append_right
  apply HoldsLine.append_right
  rcases member with inSelect | inSources
  · apply HoldsLine.append_right
    apply HoldsLine.append_right
    apply HoldsLine.append_left
    apply HoldsLine.indentLines
    exact holds.joinWith (List.mem_append_left _ inSelect) _
  · apply HoldsLine.append_left
    apply HoldsLine.indentLines
    apply HoldsLine.append_left
    exact holds.joinWith inSources _

theorem holdsLine_of_base {text : String} {selected joined : List String}
    (holds : HoldsLine line (w.baseQuery statement selected joined))
    (made : w.statement statement (.ok selected) (.ok joined) = .ok text) :
    HoldsLine line text := by
  unfold SqlWriter.statement at made
  split at made
  · rw [bind_eq_ok] at made
    obtain ⟨value, -, rest⟩ := made
    cases rest
    exact (holdsLine_wrappedQuery holds).append_left _
  · cases made
    split
    · unfold objectRows
      apply HoldsLine.append_right
      apply HoldsLine.append_left
      exact holdsLine_wrappedQuery holds
    · exact holds

end SqlWriter

/-! ### Queries in statements -/

section Statements

variable {w : SqlWriter} {line : String}

theorem SelectEntry.holdsLine_render {entry : SelectEntry} {sub : Statement} {text inner : String}
    (holds : HoldsLine line inner) (inside : entry.query? = some sub)
    (written : sub.render w = .ok inner) (made : entry.render w = .ok text) :
    HoldsLine line text := by
  cases entry with
  | field => cases inside
  | expression => cases inside
  | inlined => cases inside
  | reference label query =>
      cases inside
      rw [SelectEntry.render, written] at made
      cases made
      exact (((SqlWriter.holdsLine_subquery holds).append_left _).append_right _).append_right _
  | collection label query =>
      cases inside
      rw [SelectEntry.render, written] at made
      cases made
      exact (((SqlWriter.holdsLine_subquery holds).append_left _).append_right _).append_right _

theorem FromEntry.holdsLine_render {source : FromEntry} {sub : Statement} {text inner : String}
    (holds : HoldsLine line inner) (inside : source.query? = some sub)
    (written : sub.render w = .ok inner) (made : source.render w = .ok text) :
    HoldsLine line text := by
  cases source with
  | table => cases inside
  | query query aliasName join comment =>
      cases inside
      rw [FromEntry.render, written] at made
      cases made
      apply HoldsLine.append_right
      apply HoldsLine.append_right
      apply HoldsLine.append_right
      apply HoldsLine.append_right
      apply HoldsLine.append_left
      exact SqlWriter.holdsLine_subquery holds

namespace Statement

/-- The text of a statement has the lines of the queries directly within it. -/
theorem holdsLine_of_subquery {statement sub : Statement} {text inner : String}
    (member : sub ∈ statement.subqueries) (inside : sub.render w = .ok inner)
    (holds : HoldsLine line inner) (written : statement.render w = .ok text) :
    HoldsLine line text := by
  rw [render_eq] at written
  obtain ⟨-, ⟨selected, entries⟩, joined, sources⟩ := SqlWriter.parts_of_statement written
  rw [entries, sources] at written
  apply SqlWriter.holdsLine_of_base _ written
  rcases mem_subqueries.mp member with ⟨entry, inSelect, query⟩ | ⟨source, inSources, query⟩
  · obtain ⟨piece, among, made⟩ := forall₂_mem_right (mapM_eq_ok.mp entries).flip inSelect
    exact SqlWriter.holdsLine_baseQuery (entry.holdsLine_render holds query inside made)
      (.inl among)
  · obtain ⟨piece, among, made⟩ := forall₂_mem_right (mapM_eq_ok.mp sources).flip inSources
    exact SqlWriter.holdsLine_baseQuery (source.holdsLine_render holds query inside made)
      (.inr among)

/-- **A statement has a line for each property of the JSON objects of each query in it.** -/
theorem Node.holdsLine {statement node : Statement} (reached : statement.Node node) {name : String}
    (bare : w.dialect.Bare name) (wraps : node.objectWrap = true) (member : name ∈ node.names)
    {text : String} (written : statement.render w = .ok text) :
    HoldsLine (w.dialect.objectEntry wrappedAlias name) text := by
  induction reached generalizing text with
  | root statement =>
      rw [render_eq] at written
      exact SqlWriter.holdsLine_statement bare wraps member written
  | within among _ ih =>
      -- The text of the subquery, with the line in it, is indented as a whole.
      obtain ⟨inner, inside⟩ := subqueries_of_render written among
      exact holdsLine_of_subquery among inside (ih wraps member inside) written

end Statement

end Statements

/-! ### Reading a property -/

/-- A text within a line, whose further lines are indented. -/
def Text.continued (spaces : Nat) (text : String) : List Char :=
  indentChars (List.replicate spaces ' ') false text.toList

namespace Dialect

/-- The place of a property in a text: a line of its own, indented, with the name as a literal and
as an identifier. -/
structure PairAt (dialect : Dialect) (spaces : Nat) (name text : String)
    (before after : List Char) : Prop where
  indented : 0 < spaces
  text : text.toList = before ++ '\n' :: (List.replicate spaces ' ' ++
    (Text.continued spaces (sqlLiteral name) ++ (dialect.pairLink.toList ++
      (Text.continued spaces (dialect.quoteIfNeeded name) ++ after))))
  follows : after.head? = some ',' ∨ after.head? = some '\n'

/-- The database reads the name in both places, and nothing else there. -/
structure ReadsPair (dialect : Dialect) (spaces : Nat) (name : String) (after : List Char) :
    Prop where
  literal : dialect.readLiteral (Text.continued spaces (sqlLiteral name) ++
      (dialect.pairLink.toList ++
        (Text.continued spaces (dialect.quoteIfNeeded name) ++ after))) =
    some (name.toList, dialect.pairLink.toList ++
      (Text.continued spaces (dialect.quoteIfNeeded name) ++ after))
  identifier : dialect.readIdentifier dialect.delimiter
    (Text.continued spaces (dialect.quoteIfNeeded name) ++ after) = some (name.toList, after)

/-- The names that can stand between delimiters as they are: without the delimiter of identifiers,
without line breaks, and without escape sequences that change them. -/
structure Delimitable (dialect : Dialect) (name : String) : Prop where
  undelimited : dialect.delimiter ∉ name.toList
  oneLine : '\n' ∉ name.toList
  unescaped : dialect = mysql → KeepsBackslashes name.toList

variable {dialect : Dialect} {spaces : Nat} {name text : String} {after : List Char}

/-- The parts of the line of a property. -/
theorem exists_pairAt
    (holds : HoldsLine (dialect.objectEntry wrappedAlias name) text) :
    ∃ spaces before after, dialect.PairAt spaces name text before after := by
  obtain ⟨-, spaces, positive, before, after, split, follows⟩ := holds
  refine ⟨spaces, before, after, positive, ?_, follows⟩
  have literal : indentChars (List.replicate spaces ' ') true (sqlLiteral name).toList =
      List.replicate spaces ' ' ++ Text.continued spaces (sqlLiteral name) := by
    rw [Text.continued, toList_sqlLiteral, Text.indentChars_first (by decide),
      Text.indentChars_later (by decide)]
  rw [split, toList_objectEntry, Text.indentChars_append, startsLine_sqlLiteral,
    Text.indentChars_append, Text.indentChars_of_oneLine pairLink_oneLine,
    Text.startsLine_of_oneLine pairLink_oneLine, literal]
  simp only [List.append_assoc, Text.continued]

theorem newline_mem_sqlLiteral :
    '\n' ∈ (sqlLiteral name).toList ↔ '\n' ∈ name.toList := by
  rw [toList_sqlLiteral]
  simp [mem_doubled]

theorem newline_mem_quoteIfNeeded (bare : dialect.Bare name) :
    '\n' ∈ (dialect.quoteIfNeeded name).toList ↔ '\n' ∈ name.toList := by
  rcases quoteIfNeeded_cases bare with ⟨asItIs, -⟩ | quoted
  · rw [asItIs]
  · have visible : '\n' ≠ dialect.delimiter := by cases dialect <;> decide
    rw [quoted]
    simp [visible]

/-- A literal that goes on in a further line gets spaces that are not in the name. -/
theorem oneLine_of_readLiteral (positive : 0 < spaces)
    (read : dialect.readLiteral (Text.continued spaces (sqlLiteral name) ++ after) =
      some (name.toList, after)) : '\n' ∉ name.toList := by
  intro newline
  have more : (sqlLiteral name).toList.count ' ' <
      (Text.continued spaces (sqlLiteral name)).count ' ' :=
    Text.count_indentChars_lt positive (startsLine_sqlLiteral false name)
      (.inr (newline_mem_sqlLiteral.mpr newline))
  rw [count_of_readLiteral read, toList_sqlLiteral, List.count_cons_of_ne (by decide),
    List.count_append, count_doubled_of_ne (by decide)] at more
  omega

theorem ends_of_follows (follows : after.head? = some ',' ∨ after.head? = some '\n') :
    dialect.Ends after := by
  intro c member
  rw [Option.mem_def] at member
  rcases follows with comma | newline
  · rw [comma, Option.some.injEq] at member
    subst member
    cases dialect <;> decide
  · rw [newline, Option.some.injEq] at member
    subst member
    cases dialect <;> decide

/-- **For which names the line of a property is read as it is meant.** -/
theorem readsPair_iff (bare : dialect.Bare name) (nonempty : name ≠ "") (positive : 0 < spaces)
    (follows : after.head? = some ',' ∨ after.head? = some '\n') :
    dialect.ReadsPair spaces name after ↔ dialect.Delimitable name := by
  have link : (dialect.pairLink.toList ++
      (Text.continued spaces (dialect.quoteIfNeeded name) ++ after)).head? ≠ some '\'' := by
    cases dialect <;> simp [pairLink, pairSeparator]
  have literal : '\n' ∉ name.toList →
      Text.continued spaces (sqlLiteral name) = (sqlLiteral name).toList := fun oneLine =>
    Text.indentChars_of_oneLine (mt newline_mem_sqlLiteral.mp oneLine)
  have identifier : '\n' ∉ name.toList →
      Text.continued spaces (dialect.quoteIfNeeded name) = (dialect.quoteIfNeeded name).toList :=
    fun oneLine => Text.indentChars_of_oneLine (mt (newline_mem_quoteIfNeeded bare).mp oneLine)
  constructor
  · rintro ⟨readLiteral, readIdentifier⟩
    -- Once the name is known to be one line, indentation has not changed the two texts.
    have oneLine := oneLine_of_readLiteral positive readLiteral
    rw [literal oneLine, readLiteral_sqlLiteral_iff link] at readLiteral
    rw [identifier oneLine, readIdentifier_quoteIfNeeded_iff bare nonempty
      (ends_of_follows follows)] at readIdentifier
    exact ⟨readIdentifier, oneLine, readLiteral⟩
  · rintro ⟨undelimited, oneLine, unescaped⟩
    refine ⟨?_, ?_⟩
    · rw [literal oneLine, readLiteral_sqlLiteral_iff link]
      exact unescaped
    · rw [identifier oneLine, readIdentifier_quoteIfNeeded_iff bare nonempty
        (ends_of_follows follows)]
      exact undelimited

end Dialect

/-- **Which property names are read back from the text of a statement.** The JSON objects of a
query, wherever it stands in the statement, have a line for each property. A database reads the name
in the literal and in the identifier there just if the name has no delimiter of identifiers, no line
break and, in MySQL, no backslash except before a percent sign or an underscore. -/
theorem row_object_names_are_read_back_iff (w : SqlWriter) {statement node : Statement}
    {name text : String} (written : statement.render w = .ok text) (within : statement.Node node)
    (wraps : node.objectWrap = true) (member : name ∈ node.names) (bare : w.dialect.Bare name)
    (nonempty : name ≠ "") :
    (∃ spaces before after, w.dialect.PairAt spaces name text before after) ∧
      ∀ spaces before after, w.dialect.PairAt spaces name text before after →
        (w.dialect.ReadsPair spaces name after ↔ w.dialect.Delimitable name) := by
  refine ⟨Dialect.exists_pairAt (within.holdsLine bare wraps member written), ?_⟩
  intro spaces before after place
  exact Dialect.readsPair_iff bare nonempty place.indented place.follows

theorem exists_ok_of_isSome {result : Except ε α} (succeeds : result.toOption.isSome = true) :
    ∃ value, result = .ok value := by
  cases result with
  | ok value => exact ⟨value, rfl⟩
  | error error => cases succeeds

/-- The texts of the advisories in the drug query, in MySQL. -/
theorem drugQuery_reads_advisory_texts :
    ∃ statements statement node text,
      Pharmacy.drugQuery.statements Pharmacy.resolver = .ok statements ∧
      (.jsonObjectRows, statement) ∈ statements ∧ statement.Node node ∧
      node.objectWrap = true ∧ "text" ∈ node.names ∧
      statement.render ⟨.mysql, [], true⟩ = .ok text ∧
      ∃ spaces before after, Dialect.mysql.PairAt spaces "text" text before after ∧
        Dialect.mysql.ReadsPair spaces "text" after := by
  have facts : (Pharmacy.drugQuery.statements Pharmacy.resolver).map (·.map fun made =>
      (made.1, (made.2.render ⟨.mysql, [], true⟩).toOption.isSome &&
        made.2.subqueries.any fun query => query.objectWrap && query.names.contains "text")) =
      .ok [(.jsonObjectRows, true), (.jsonArrayRow, true)] := by
    decide +kernel
  obtain ⟨statements, made, image⟩ := map_eq_ok.mp facts
  obtain ⟨⟨representation, statement⟩, others, rfl, parts, -⟩ := List.map_eq_cons_iff.mp image
  obtain ⟨rfl, checked⟩ := Prod.mk.inj parts
  rw [Bool.and_eq_true, List.any_eq_true] at checked
  obtain ⟨succeeds, node, inside, chosen⟩ := checked
  rw [Bool.and_eq_true, List.contains_iff_mem] at chosen
  obtain ⟨text, written⟩ := exists_ok_of_isSome succeeds
  have within : statement.Node node := .within inside (.root node)
  have bare : Dialect.mysql.Bare "text" := ⟨by decide, fun _ => by decide⟩
  have delimitable : Dialect.mysql.Delimitable "text" := by
    refine ⟨by decide, by decide, fun _ before after split => ?_⟩
    have member : '\\' ∈ "text".toList := by
      rw [split]
      exact List.mem_append_right before List.mem_cons_self
    exact absurd member (by decide)
  obtain ⟨⟨spaces, before, after, place⟩, reads⟩ := row_object_names_are_read_back_iff
    ⟨.mysql, [], true⟩ written within chosen.1 chosen.2 bare (by decide)
  exact ⟨_, statement, node, text, made, List.mem_cons_self, within, chosen.1, chosen.2, written,
    spaces, before, after, place, (reads spaces before after place).mpr delimitable⟩

/-- Drugs with their ids under a given name. -/
def Pharmacy.namedDrugQuery (name : String) : Query :=
  { drugQuery with
    table := ⟨"drug", none, [.detailed ⟨some "id", none, some name, none, none, none⟩], [], [],
      none, none⟩
    representations := some [.jsonObjectRows] }

/-- A database does not read the name back from the text of the drugs with their ids under it. -/
def Pharmacy.BreaksOut (dialect : Dialect) (name : String) : Prop :=
  dialect.Bare name ∧ name ≠ "" ∧
    ∃ statement text,
      (namedDrugQuery name).statements resolver = .ok [(.jsonObjectRows, statement)] ∧
      statement.objectWrap = true ∧ name ∈ statement.names ∧
      statement.render ⟨dialect, [], false⟩ = .ok text ∧
      ∃ spaces before after, dialect.PairAt spaces name text before after ∧
        ¬ dialect.ReadsPair spaces name after

theorem Pharmacy.breaksOut_of_not_delimitable {dialect : Dialect} {name : String}
    (bare : dialect.Bare name) (nonempty : name ≠ "") (refused : ¬ dialect.Delimitable name)
    (made : ((namedDrugQuery name).statements resolver).map
      (·.map fun made => (made.1, made.2.names)) = .ok [(.jsonObjectRows, [name])])
    (written : ((namedDrugQuery name).statements resolver).map (·.map fun made =>
      (made.2.objectWrap, (made.2.render ⟨dialect, [], false⟩).toOption.isSome)) =
        .ok [(true, true)]) :
    BreaksOut dialect name := by
  obtain ⟨statements, equal, image⟩ := map_eq_ok.mp made
  obtain ⟨⟨representation, statement⟩, rfl, parts⟩ := List.map_eq_singleton_iff.mp image
  obtain ⟨rfl, names⟩ := Prod.mk.inj parts
  have among : name ∈ statement.names := by
    rw [names]
    exact List.mem_cons_self
  rw [equal] at written
  obtain ⟨wraps, succeeds⟩ := Prod.mk.inj (List.cons.inj (Except.ok.inj written)).1
  obtain ⟨text, rendersTo⟩ := exists_ok_of_isSome succeeds
  obtain ⟨spaces, before, after, place⟩ := Dialect.exists_pairAt
    ((Statement.Node.root statement).holdsLine bare wraps among rendersTo)
  refine ⟨bare, nonempty, statement, text, equal, wraps, among, rendersTo, spaces, before, after,
    place, ?_⟩
  rw [Dialect.readsPair_iff bare nonempty place.indented place.follows]
  exact refused

/-- **Names break out of their delimiters.** PostgreSQL takes the second quote in `"a"b"` for the
end of the name, Oracle reads a line break with the indentation after it, and in MySQL a backslash
hides the end of a literal. -/
theorem names_break_out :
    Pharmacy.BreaksOut .postgres "a\"b" ∧ Pharmacy.BreaksOut .oracle "a\nb" ∧
      Pharmacy.BreaksOut .mysql "a\\" := by
  refine ⟨?_, ?_, ?_⟩
  · apply Pharmacy.breaksOut_of_not_delimitable
    · exact ⟨by decide, nofun⟩
    · decide
    · exact fun delimitable => delimitable.undelimited (by decide)
    · decide +kernel
    · decide +kernel
  · apply Pharmacy.breaksOut_of_not_delimitable
    · exact ⟨by decide, nofun⟩
    · decide
    · exact fun delimitable => delimitable.oneLine (by decide)
    · decide +kernel
    · decide +kernel
  · apply Pharmacy.breaksOut_of_not_delimitable
    · exact ⟨by decide, fun _ => by decide⟩
    · decide
    · exact fun delimitable => absurd (delimitable.unescaped rfl ['a'] [] rfl) (by decide)
    · decide +kernel
    · decide +kernel

end NestedQuery
