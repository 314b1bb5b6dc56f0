import NestedQuery.Proofs.Indentation
import NestedQuery.Proofs.PropertyOrigins
import NestedQuery.Proofs.Rendering

/-!
# Comments in the text of a statement

Comments are written at several places of a statement, at all depths, and what they are written into
is indented again with each query around it. Each of them still takes up a line of its own, whatever
is written before and after it, also if that is text of a user with line breaks or comments in it.
So a statement with comments is the statement without them, with comment lines between its lines.

## Main Definitions

* `Text.withoutCommentLines`: a text without its comment lines
* `Text.Adds`, `Text.AddsComments`: a text with comment lines added
* `Alike`: computations that fail alike and have related results
* `Statement.OneLineComments`: no comment of the queries in a statement has a line break
* `Resolver.OneLineNames`: the same for the names of a table

## Main Results

* `Text.Adds.indent`, `Text.AddsComments.joinWith`: added lines stay comment lines in the whole text
* `Text.AddsComments.withoutCommentLines_eq`: what is added is what is deleted
* `Statement.render_alike`: comments add comment lines to the text of a statement
* `comments_never_change_the_query`: the statements of a query
-/

namespace NestedQuery

namespace Text

/-! ### Comment lines -/

/-- Whether a line is a comment: its first characters are two dashes, up to spaces. -/
def isComment (line : List Char) : Bool :=
  ['-', '-'].isPrefixOf (line.dropWhile (· == ' '))

/-- A text without the lines that are comments. -/
def withoutCommentLines (text : String) : String :=
  String.ofList (['\n'].intercalate ((text.toList.splitOn '\n').filter (!isComment ·)))

/-- A text with comment lines added; `atStart` tells whether the text begins a line. Lines are added
where one begins. -/
inductive Adds : Bool → List Char → List Char → Prop
  | nil (atStart : Bool) : Adds atStart [] []
  | char {atStart : Bool} {plain commented : List Char} (c : Char)
      (rest : Adds (c == '\n') plain commented) : Adds atStart (c :: plain) (c :: commented)
  | comment {plain commented line : List Char} (isComment : isComment line = true)
      (oneLine : '\n' ∉ line) (rest : Adds true plain commented) :
      Adds true plain (line ++ '\n' :: commented)

theorem isComment_spaces (n : Nat) (line : List Char) :
    isComment (List.replicate n ' ' ++ line) = isComment line := by
  unfold isComment
  induction n with
  | zero => rfl
  | succ n ih =>
      rw [List.replicate_succ, List.cons_append, List.dropWhile_cons_of_pos rfl]
      exact ih

/-- A comment line is moved to the right as a whole. -/
theorem indentChars_comment {line : List Char} (comment : isComment line = true)
    (oneLine : '\n' ∉ line) (n : Nat) :
    indentChars (List.replicate n ' ') true line = List.replicate n ' ' ++ line := by
  cases line with
  | nil => cases comment
  | cons c line =>
      rw [List.mem_cons, not_or] at oneLine
      rw [indentChars_first (Ne.symm oneLine.1), indentChars_of_oneLine oneLine.2]

theorem startsLine_line (atStart : Bool) (line : List Char) :
    startsLine atStart (line ++ ['\n']) = true := by
  rw [startsLine_append]
  rfl

/-- Two texts have the same lines up to comment lines. Within a line, both go on with the same rest
of the line, and then it holds for what follows. -/
def SameLines (atStart : Bool) (plain commented : List Char) : Prop :=
  (∃ first rest others, plain.splitOn '\n' = first :: rest ∧
    commented.splitOn '\n' = first :: others ∧
    rest.filter (!isComment ·) = others.filter (!isComment ·)) ∨
  (atStart = true ∧ (plain.splitOn '\n').filter (!isComment ·) =
    (commented.splitOn '\n').filter (!isComment ·))

theorem SameLines.filter_eq {atStart : Bool} {plain commented : List Char}
    (same : SameLines atStart plain commented) :
    (plain.splitOn '\n').filter (!isComment ·) =
      (commented.splitOn '\n').filter (!isComment ·) := by
  rcases same with ⟨first, rest, others, split, splitCommented, same⟩ | ⟨-, same⟩
  · rw [split, splitCommented, List.filter_cons, List.filter_cons, same]
  · exact same

namespace Adds

variable {atStart : Bool} {plain commented : List Char}

theorem refl (atStart : Bool) (text : List Char) : Adds atStart text text := by
  induction text generalizing atStart with
  | nil => exact .nil atStart
  | cons c text ih => exact .char c (ih _)

/-- A text ends a line just if it does so without the comments. -/
theorem startsLine_eq (adds : Adds atStart plain commented) :
    startsLine atStart commented = startsLine atStart plain := by
  induction adds with
  | nil atStart => rfl
  | char c rest ih => exact ih
  | @comment plain commented line isComment oneLine rest ih =>
      rw [← List.singleton_append, ← List.append_assoc, startsLine_append, startsLine_line, ih]

theorem append (adds : Adds atStart plain commented) {next nextCommented : List Char}
    (addsNext : Adds (startsLine atStart plain) next nextCommented) :
    Adds atStart (plain ++ next) (commented ++ nextCommented) := by
  induction adds with
  | nil atStart => exact addsNext
  | char c rest ih => exact .char c (ih addsNext)
  | comment isComment oneLine rest ih =>
      rw [List.append_assoc, List.cons_append]
      exact .comment isComment oneLine (ih addsNext)

/-- **Comment lines stay comment lines when a text is indented.** -/
theorem indent (adds : Adds atStart plain commented) (n : Nat) :
    Adds atStart (indentChars (List.replicate n ' ') atStart plain)
      (indentChars (List.replicate n ' ') atStart commented) := by
  induction adds with
  | nil atStart => exact .nil atStart
  | @char atStart plain commented c rest ih =>
      by_cases newline : c = '\n'
      · subst newline
        exact .char '\n' ih
      have visible : (c == '\n') = false := beq_eq_false_iff_ne.mpr newline
      rw [visible] at ih
      -- The indentation, if any, stands before the same character in both texts.
      have later : ∀ state, Adds state (c :: indentChars (List.replicate n ' ') false plain)
          (c :: indentChars (List.replicate n ' ') false commented) := fun state =>
        .char c (by rwa [visible])
      cases atStart with
      | true =>
          rw [indentChars_first newline, indentChars_first newline]
          exact (refl true _).append (later _)
      | false =>
          rw [indentChars_later newline, indentChars_later newline]
          exact later false
  | @comment plain commented line isComment oneLine rest ih =>
      rw [indentChars_append, indentChars_comment isComment oneLine, indentChars_newline]
      refine .comment ?_ ?_ ih
      · rwa [isComment_spaces]
      · rw [List.mem_append, not_or]
        exact ⟨not_mem_spaces n, oneLine⟩

theorem sameLines (adds : Adds atStart plain commented) : SameLines atStart plain commented := by
  induction adds with
  | nil atStart => exact .inl ⟨[], [], [], by simp, by simp, rfl⟩
  | @char atStart plain commented c rest ih =>
      -- Both texts go on with the same character, so they share the line that it is in.
      left
      rw [List.splitOn_cons_eq_if_modifyHead, List.splitOn_cons_eq_if_modifyHead]
      by_cases newline : c = '\n'
      · subst newline
        exact ⟨[], plain.splitOn '\n', commented.splitOn '\n', if_pos rfl, if_pos rfl,
          ih.filter_eq⟩
      · have visible : ¬ (c == '\n') = true := by simpa using newline
        rw [if_neg visible, if_neg visible]
        rcases ih with ⟨first, rest, others, split, splitCommented, same⟩ | ⟨starts, -⟩
        · rw [split, splitCommented]
          exact ⟨c :: first, rest, others, rfl, rfl, same⟩
        · exact absurd starts visible
  | comment isComment oneLine rest ih =>
      right
      rw [List.splitOn_append_cons_self_of_not_mem oneLine, List.filter_cons_of_neg (by simpa)]
      exact ⟨rfl, ih.filter_eq⟩

end Adds

/-! ### Texts with comments -/

/-- A text without line breaks. -/
def OneLine (text : String) : Prop := '\n' ∉ text.toList

instance (text : String) : Decidable (OneLine text) := inferInstanceAs (Decidable (¬ _))

theorem OneLine.append {first second : String} (oneLine : OneLine first)
    (oneLineNext : OneLine second) : OneLine (first ++ second) := by
  unfold OneLine at *
  rw [String.toList_append, List.mem_append, not_or]
  exact ⟨oneLine, oneLineNext⟩

/-- A name in quotes within a text. -/
theorem OneLine.name {before name : String} (oneLine : OneLine before)
    (oneLineName : OneLine name) : OneLine (before ++ inQuotes name) :=
  oneLine.append ((OneLine.append (by decide) oneLineName).append (by decide))

/-- A text with comment lines added, both at the start of a line. -/
def AddsComments (plain commented : String) : Prop := Adds true plain.toList commented.toList

/-- What follows the text begins a line, wherever the text is. -/
def EndsLine (text : String) : Prop := ∀ atStart, startsLine atStart text.toList = true

theorem endLine_eq (text : String) :
    endLine text = if startsLine true text.toList then text else text ++ "\n" := by
  unfold endLine
  rcases List.eq_nil_or_concat text.toList with empty | ⟨start, last, split⟩
  · rw [empty]
    rfl
  · rw [split, List.concat_eq_append, List.getLast?_append, startsLine_append]
    simp [startsLine]

namespace AddsComments

variable {plain commented next nextCommented : String}

theorem refl (text : String) : AddsComments text text := Adds.refl true text.toList

theorem append (adds : AddsComments plain commented) (ends : startsLine true plain.toList = true)
    (addsNext : AddsComments next nextCommented) :
    AddsComments (plain ++ next) (commented ++ nextCommented) := by
  unfold AddsComments at *
  rw [String.toList_append, String.toList_append]
  exact Adds.append adds (by rwa [ends])

theorem append_same (adds : AddsComments plain commented) (rest : String) :
    AddsComments (plain ++ rest) (commented ++ rest) := by
  unfold AddsComments at *
  rw [String.toList_append, String.toList_append]
  exact Adds.append adds (Adds.refl _ _)

/-- A comment before a text. -/
theorem append_left (adds : AddsComments "" commented)
    (addsNext : AddsComments next nextCommented) :
    AddsComments next (commented ++ nextCommented) := by
  have both := adds.append rfl addsNext
  rwa [String.empty_append] at both

/-- The text goes on with new lines. -/
theorem append_lines (adds : AddsComments plain commented) (between : String)
    (ends : EndsLine between) (addsNext : AddsComments next nextCommented) :
    AddsComments (plain ++ between ++ next) (commented ++ between ++ nextCommented) := by
  refine (adds.append_same between).append ?_ addsNext
  rw [String.toList_append, startsLine_append]
  exact ends _

theorem indentLines (adds : AddsComments plain commented) (n : Nat) :
    AddsComments (Text.indentLines n plain) (Text.indentLines n commented) := by
  unfold AddsComments
  rw [toList_indentLines, toList_indentLines]
  exact Adds.indent adds n

theorem endLine (adds : AddsComments plain commented) :
    AddsComments (Text.endLine plain) (Text.endLine commented) := by
  rw [endLine_eq, endLine_eq, Adds.startsLine_eq adds]
  split
  · exact adds
  · exact adds.append_same "\n"

theorem joinWith (separator : String) (ends : EndsLine separator) {pieces others : List String}
    (each : List.Forall₂ AddsComments pieces others) :
    AddsComments (Text.joinWith separator pieces) (Text.joinWith separator others) := by
  induction each with
  | nil => exact refl ""
  | @cons piece other pieces others first rest ih =>
      cases rest with
      | nil => exact first
      | cons _ _ => exact first.append_lines separator ends ih

/-- **What is added is what is deleted.** -/
theorem withoutCommentLines_eq (adds : AddsComments plain commented) :
    withoutCommentLines plain = withoutCommentLines commented := by
  rw [withoutCommentLines, (Adds.sameLines adds).filter_eq, withoutCommentLines]

example : withoutCommentLines "select\n  -- the key\n  d.id -- a number\nfrom drug d" =
    "select\n  d.id -- a number\nfrom drug d" := by
  decide +kernel

end AddsComments

end Text

/-! ### Computations -/

/-- Two computations fail with the same error, or they succeed with related results. -/
inductive Alike (R : α → β → Prop) : Except ε α → Except ε β → Prop
  | ok {a : α} {b : β} (related : R a b) : Alike R (.ok a) (.ok b)
  | error (error : ε) : Alike R (.error error) (.error error)

namespace Alike

theorem refl (x : Except ε α) : Alike Eq x x := by
  cases x with
  | error error => exact .error error
  | ok a => exact .ok rfl

theorem bind {R : α → β → Prop} {S : γ → δ → Prop} {x : Except ε α} {y : Except ε β}
    {f : α → Except ε γ} {g : β → Except ε δ} (alike : Alike R x y)
    (next : ∀ a b, R a b → Alike S (f a) (g b)) : Alike S (x >>= f) (y >>= g) := by
  cases alike with
  | ok related => exact next _ _ related
  | error error => exact .error error

theorem mapM {R : β → γ → Prop} {f : α → Except ε β} {g : α → Except ε γ} {xs : List α}
    (each : ∀ x ∈ xs, Alike R (f x) (g x)) : Alike (List.Forall₂ R) (xs.mapM f) (xs.mapM g) := by
  induction xs with
  | nil => exact .ok .nil
  | cons x xs ih =>
      rw [List.mapM_cons, List.mapM_cons]
      refine (each x List.mem_cons_self).bind fun y z related => ?_
      refine (ih fun other member => each other (List.mem_cons_of_mem _ member)).bind
        fun ys zs rest => ?_
      exact .ok (.cons related rest)

theorem map_eq {R : α → β → Prop} {f : α → γ} {g : β → γ} {x : Except ε α} {y : Except ε β}
    (alike : Alike R x y) (same : ∀ a b, R a b → f a = g b) : x.map f = y.map g := by
  cases alike with
  | ok related => exact congrArg Except.ok (same _ _ related)
  | error error => rfl

end Alike

/-! ### Queries with comments -/

open Text (AddsComments OneLine)

/-- The comment on a source. -/
def FromEntry.comment? : FromEntry → Option String
  | .table _ _ => none
  | .query _ _ _ comment => comment

/-- The comments of a query itself have no line breaks, and neither has the name of its table, from
which others are made. -/
structure Statement.OwnOneLineComments (statement : Statement) : Prop where
  entries : ∀ entry ∈ statement.select, ∀ text ∈ entry.label.comment, OneLine text
  sources : ∀ source ∈ statement.sources, ∀ text ∈ source.comment?, OneLine text
  leading : ∀ text ∈ statement.leadingComment, OneLine text
  table : OneLine (SqlWriter.tableName statement)

/-- No comment of the queries in a statement has a line break. -/
def Statement.OneLineComments (statement : Statement) : Prop :=
  ∀ node, statement.Node node → node.OwnOneLineComments

namespace SqlWriter

/-- The writer that writes no comments. -/
def quiet (w : SqlWriter) : SqlWriter := { w with comments := false }

variable {w : SqlWriter} {statement : Statement}

theorem addsComments_comment {text : String} (oneLine : OneLine text) :
    AddsComments "" (w.comment text) := by
  unfold comment
  split
  · have line : '\n' ∉ '-' :: '-' :: ' ' :: text.toList := by simpa [OneLine] using oneLine
    unfold AddsComments
    rw [String.toList_append, String.toList_append]
    exact .comment rfl line (.nil true)
  · exact .refl ""

theorem addsComments_comment? {text : Option String} (oneLine : ∀ line ∈ text, OneLine line) :
    AddsComments "" (w.comment? text) := by
  cases text with
  | none => exact .refl ""
  | some line => exact addsComments_comment (oneLine line rfl)

theorem quiet_comment? (text : Option String) : w.quiet.comment? text = "" := by
  cases text with
  | none => rfl
  | some line => rfl

theorem addsComments_baseQuery {entries commentedEntries sources commentedSources : List String}
    (leading : ∀ text ∈ statement.leadingComment, OneLine text)
    (addsEntries : List.Forall₂ AddsComments entries commentedEntries)
    (addsSources : List.Forall₂ AddsComments sources commentedSources) :
    AddsComments (w.quiet.baseQuery statement entries sources)
      (w.baseQuery statement commentedEntries commentedSources) := by
  have columns : List.Forall₂ AddsComments (statement.hidden.map w.hiddenColumn)
      (statement.hidden.map w.hiddenColumn) := List.forall₂_same.mpr fun text _ => .refl text
  have list := AddsComments.joinWith ",\n" (fun _ => rfl) (List.rel_append addsEntries columns)
  have tables := AddsComments.joinWith "\n" (fun _ => rfl) addsSources
  have lead := addsComments_comment? (w := w) leading
  have body := ((AddsComments.refl "select\n").append rfl (list.indentLines sqlIndent)).append_lines
    "\nfrom\n" (fun _ => rfl) ((lead.append_left tables).indentLines sqlIndent)
  unfold baseQuery
  rw [quiet_comment?, String.empty_append]
  exact (((body.append_same "\n").append_same _).append_same _).append_same _

theorem addsComments_wrappedQuery {base commented : String} (table : OneLine (tableName statement))
    (adds : AddsComments base commented) :
    AddsComments (w.quiet.wrappedQuery statement base) (w.wrappedQuery statement commented) := by
  have lead : AddsComments "" (if statement.leadingComment.isNone then
      w.comment ("base query for table " ++ Text.inQuotes (tableName statement)) else "") := by
    split
    · exact addsComments_comment (.name (by decide) table)
    · exact .refl ""
  have inner := (AddsComments.refl "from (\n").append rfl
    ((lead.append_left adds).indentLines sqlIndent)
  have silent : w.quiet.wrappedQuery statement base =
      Text.endLine ("from (\n" ++ Text.indentLines sqlIndent base) ++ ") " ++ wrappedAlias := by
    simp [wrappedQuery, comment, quiet]
  rw [silent]
  exact (inner.endLine.append_same ") ").append_same wrappedAlias

theorem addsComments_objectRows {base commented : String} (table : OneLine (tableName statement))
    (adds : AddsComments base commented) :
    AddsComments (w.quiet.objectRows statement base) (w.objectRows statement commented) := by
  have note : AddsComments ""
      (w.comment ("row object for table " ++ Text.inQuotes (tableName statement))) :=
    addsComments_comment (.name (by decide) table)
  have columns := ((note.append rfl (.refl (w.dialect.rowObject sqlIndent wrappedAlias
    statement.names))).append_same " json").append_same
      ((statement.additionalColumns.map fun column =>
        ",\n" ++ w.additionalColumn column).foldr (· ++ ·) "")
  have list := (AddsComments.refl "select\n").append rfl (columns.indentLines sqlIndent)
  have rows := list.append_lines "\n" (fun _ => rfl) (addsComments_wrappedQuery (w := w) table adds)
  exact rows.append_same _

theorem alike_aggregateValue (table : OneLine (tableName statement)) :
    Alike AddsComments (w.quiet.aggregateValue statement) (w.aggregateValue statement) := by
  have note : ∀ {before}, OneLine before → ∀ value,
      AddsComments (w.quiet.comment (before ++ Text.inQuotes (tableName statement)) ++ value)
        (w.comment (before ++ Text.inQuotes (tableName statement)) ++ value) := fun oneLine value =>
    (addsComments_comment (oneLine.name table)).append rfl (.refl value)
  unfold aggregateValue
  dsimp only
  split
  · refine (Alike.refl _).bind ?_
    rintro value _ rfl
    exact .ok (note (by decide) value)
  · split
    · refine (Alike.refl _).bind ?_
      rintro value _ rfl
      exact .ok (note (by decide) value)
    · exact .error _

/-- **A query with comments, from its parts with comments.** -/
theorem alike_statement {entries commentedEntries sources commentedSources :
    Except SqlError (List String)} (own : statement.OwnOneLineComments)
    (alikeEntries : Alike (List.Forall₂ AddsComments) entries commentedEntries)
    (alikeSources : Alike (List.Forall₂ AddsComments) sources commentedSources) :
    Alike AddsComments (w.quiet.statement statement entries sources)
      (w.statement statement commentedEntries commentedSources) := by
  unfold SqlWriter.statement
  split
  · refine (alike_aggregateValue own.table).bind fun value commentedValue addsValue => ?_
    refine alikeEntries.bind fun texts commentedTexts addsTexts => ?_
    refine alikeSources.bind fun tables commentedTables addsTables => ?_
    have base := addsComments_baseQuery (w := w) own.leading addsTexts addsTables
    have list := (AddsComments.refl "select\n").append rfl
      ((addsValue.append_same " json").indentLines sqlIndent)
    exact .ok (list.append_lines "\n" (fun _ => rfl) (addsComments_wrappedQuery own.table base))
  · refine alikeEntries.bind fun texts commentedTexts addsTexts => ?_
    refine alikeSources.bind fun tables commentedTables addsTables => ?_
    have base := addsComments_baseQuery (w := w) own.leading addsTexts addsTables
    refine .ok ?_
    split
    · exact addsComments_objectRows own.table base
    · exact base

theorem subquery_eq (text : String) :
    subquery text = "(\n" ++ Text.endLine (Text.indentLines sqlIndent text) ++ ")" := by
  have starts : Text.startsLine true ("(\n" ++ Text.indentLines sqlIndent text).toList =
      Text.startsLine true (Text.indentLines sqlIndent text).toList := by
    rw [String.toList_append, Text.startsLine_append]
    rfl
  rw [subquery, Text.endLine_eq, starts, Text.endLine_eq]
  split
  · rfl
  · simp only [String.append_assoc]

/-- The lines of a sub-query are its own, wherever it begins. -/
theorem addsComments_append_subquery {before commentedBefore text commented : String}
    (addsBefore : AddsComments before commentedBefore) (adds : AddsComments text commented) :
    AddsComments (before ++ subquery text) (commentedBefore ++ subquery commented) := by
  have inner := (addsBefore.append_lines "(\n" (fun _ => rfl)
    (adds.indentLines sqlIndent).endLine).append_same ")"
  rw [subquery_eq, subquery_eq]
  simpa only [String.append_assoc] using inner

end SqlWriter

variable {w : SqlWriter}

theorem SelectEntry.render_alike {entry : SelectEntry}
    (oneLine : ∀ text ∈ entry.label.comment, OneLine text)
    (queries : ∀ query ∈ entry.query?,
      Alike AddsComments (query.render w.quiet) (query.render w)) :
    Alike AddsComments (entry.render w.quiet) (entry.render w) := by
  have note := SqlWriter.addsComments_comment? (w := w) oneLine
  have after : ∀ text, AddsComments (w.quiet.comment? entry.label.comment ++ text)
      (w.comment? entry.label.comment ++ text) := by
    intro text
    rw [SqlWriter.quiet_comment?]
    exact note.append rfl (.refl text)
  have around : ∀ query ∈ entry.query?, Alike AddsComments
      (do return w.quiet.comment? entry.label.comment ++ SqlWriter.subquery (← query.render w.quiet)
        ++ " " ++ w.dialect.quoteIfNeeded entry.label.name)
      (do return w.comment? entry.label.comment ++ SqlWriter.subquery (← query.render w)
        ++ " " ++ w.dialect.quoteIfNeeded entry.label.name) := by
    intro query holds
    refine (queries query holds).bind fun text commented adds => .ok ?_
    rw [SqlWriter.quiet_comment?]
    exact ((SqlWriter.addsComments_append_subquery note adds).append_same " ").append_same _
  cases entry with
  | field label field tableAlias sourceType => exact .ok ((after _).append_same _)
  | expression label sql placeholder tableAlias sourceType => exact .ok ((after _).append_same _)
  | inlined label parentAlias parent => exact .ok (after _)
  | reference label query => exact around query rfl
  | collection label query => exact around query rfl

theorem FromEntry.render_alike {source : FromEntry}
    (oneLine : ∀ text ∈ source.comment?, OneLine text)
    (queries : ∀ query ∈ source.query?,
      Alike AddsComments (query.render w.quiet) (query.render w)) :
    Alike AddsComments (source.render w.quiet) (source.render w) := by
  cases source with
  | table relation aliasName => exact .ok (.refl _)
  | query query aliasName join comment =>
      refine (queries query rfl).bind fun text commented adds => .ok ?_
      rw [SqlWriter.quiet_comment?]
      have join := (SqlWriter.addsComments_comment? (w := w) oneLine).append_same "left join "
      have joined := SqlWriter.addsComments_append_subquery join adds
      exact (((joined.append_same " ").append_same _).append_same " on ").append_same _

/-- **Comments add comment lines to the text of a statement.** -/
theorem Statement.render_alike {statement : Statement} (oneLine : statement.OneLineComments) :
    Alike AddsComments (statement.render w.quiet) (statement.render w) := by
  induction statement using Statement.tree_induction with
  | step statement inner =>
      have own := oneLine statement (.root statement)
      have below : ∀ sub ∈ statement.subqueries,
          Alike AddsComments (sub.render w.quiet) (sub.render w) := fun sub member =>
        inner sub member fun node reached => oneLine node (.within member reached)
      rw [render_eq, render_eq]
      refine SqlWriter.alike_statement own (.mapM fun entry member => ?_)
        (.mapM fun source member => ?_)
      · exact SelectEntry.render_alike (own.entries entry member) fun sub holds =>
          below sub (mem_subqueries.mpr (.inl ⟨entry, member, holds⟩))
      · exact FromEntry.render_alike (own.sources source member) fun sub holds =>
          below sub (mem_subqueries.mpr (.inr ⟨source, member, holds⟩))

/-! ### The comments of a plan -/

namespace Statement

/-- What is made of the rows of a query does not matter to its comments, except for the leading
one. -/
theorem OneLineComments.of_same {statement other : Statement} (oneLine : statement.OneLineComments)
    (same : other.SameRows statement) (leading : ∀ text ∈ other.leadingComment, OneLine text) :
    other.OneLineComments := by
  obtain ⟨select, -, sources, -, -, -⟩ := same
  intro node reached
  rcases node_iff.mp reached with rfl | ⟨sub, member, below⟩
  · have own := oneLine statement (.root statement)
    have table : SqlWriter.tableName node = SqlWriter.tableName statement := by
      rw [SqlWriter.tableName, baseTable?, sources]
      rfl
    refine ⟨?_, ?_, leading, ?_⟩
    · rw [select]
      exact own.entries
    · rw [sources]
      exact own.sources
    · rw [table]
      exact own.table
  · refine oneLine node (.within ?_ below)
    rwa [subqueries, select, sources] at member

end Statement

/-- No name of a table that goes into comments has a line break: its own as it is written and as it
is stored, those of its referenced parents, and those of its collections. -/
structure Resolver.OneLineNames (r : Resolver) (table : TableSpec) : Prop where
  written : OneLine table.table
  stored : ∀ relation ∈ r.relation? table.table, OneLine relation.id.name
  references : ∀ parent ∈ table.parents, ∀ name ∈ parent.link.referenceName, OneLine name
  collections : ∀ child ∈ table.children, OneLine child.link.collectionName

instance (r : Resolver) (table : TableSpec) : Decidable (r.OneLineNames table) :=
  decidable_of_iff
    (OneLine table.table ∧ (∀ relation ∈ r.relation? table.table, OneLine relation.id.name) ∧
      (∀ parent ∈ table.parents, ∀ name ∈ parent.link.referenceName, OneLine name) ∧
      ∀ child ∈ table.children, OneLine child.link.collectionName)
    ⟨fun ⟨written, stored, references, collections⟩ =>
        ⟨written, stored, references, collections⟩,
      fun names => ⟨names.written, names.stored, names.references, names.collections⟩⟩

/-- A lifted entry has a comment only on the table that it is lifted from. -/
theorem comment_of_mem_liftedEntries {subqueryAlias written : String} {relation : RelationId}
    {parent : Statement} {entry : SelectEntry} {text : String}
    (member : entry ∈ liftedEntries subqueryAlias written relation parent)
    (comment : entry.label.comment = some text) :
    text = "field(s) inlined from parent table " ++ Text.inQuotes written := by
  obtain ⟨⟨lifted, position⟩, -, rfl⟩ := List.mem_map.mp member
  dsimp only [SelectEntry.label] at comment
  split at comment
  · exact (Option.some.inj comment).symm
  · cases comment

namespace Resolver

variable {r : Resolver} {location : Location} {relation : Relation}

theorem written_of_planTable {spec : TableSpec} {plan : TablePlan}
    (planned : r.planTable location relation spec = .ok plan) : plan.head.written = spec.table :=
  congrArg TableHead.written (planTable_parts planned).head

/-- The comments of the query of a table itself are made of the names in its specification. -/
theorem ownOneLineComments_statement {spec : TableSpec} {plan : TablePlan}
    (found : r.relation? spec.table = some relation)
    (planned : r.planTable location relation spec = .ok plan) (names : r.OneLineNames spec)
    (namesParents : ∀ parent ∈ spec.parents, OneLine parent.spec.table)
    (namesChildren : ∀ child ∈ spec.children, OneLine child.spec.table) (site : Site) :
    (plan.statement site).OwnOneLineComments := by
  have parts := planTable_parts planned
  have inlinedWritten : ∀ parent ∈ plan.inlined, OneLine parent.plan.head.written := by
    intro inlined member
    obtain ⟨parent, among, target, plans⟩ :=
      forall₂_mem_right (planInlined_forall₂ parts.inlined) member
    rw [written_of_planTable plans.plan]
    exact namesParents parent (List.mem_filter.mp among).1
  refine ⟨?_, ?_, ?_, ?_⟩
  · intro entry member text comment
    rcases TablePlan.mem_select_statement.mp member with ⟨field, -, rfl⟩ | lifted |
      ⟨reference, inReferences, rfl⟩ | ⟨collection, inCollections, rfl⟩
    · unfold PlannedField.entry at comment
      split at comment
      · cases comment
      · cases comment
    · obtain ⟨parent, inInlined, within, lifts, -⟩ := InlinedParent.mem_joins_entries lifted
      rw [comment_of_mem_liftedEntries lifts comment]
      exact .name (by decide) (inlinedWritten parent inInlined)
    · obtain ⟨parent, among, target, plans⟩ :=
        forall₂_mem_right (planReferences_forall₂ parts.references) inReferences
      have inParents := (List.mem_filter.mp among).1
      cases comment
      refine .name (.append (.name (by decide) ?_) (by decide)) ?_
      · exact names.references parent inParents _ plans.name
      · rw [TableHead.linked_written, written_of_planTable plans.plan]
        exact namesParents parent inParents
    · obtain ⟨child, inChildren, target, plans⟩ :=
        forall₂_mem_right (planCollections_forall₂ parts.collections) inCollections
      cases comment
      refine .name (.append (.name (by decide) ?_) (by decide)) ?_
      · rw [plans.link]
        exact names.collections child inChildren
      · rw [TableHead.linked_written, written_of_planTable plans.plan]
        exact namesChildren child inChildren
  · intro source member text comment
    rw [TablePlan.sources_statement] at member
    rcases List.mem_cons.mp member with rfl | joined
    · cases comment
    · obtain ⟨parent, inInlined, within, rfl⟩ := InlinedParent.mem_joins_sources joined
      cases comment
      exact .append (.name (by decide) (inlinedWritten parent inInlined)) (by decide)
  · rw [TablePlan.statement_eq]
    rintro text ⟨⟩
  · rw [SqlWriter.tableName, Statement.baseTable?, TablePlan.sources_statement]
    change OneLine plan.head.relation.name
    rw [relation_of_planTable planned]
    exact names.stored relation found

/-- **The comments of a plan are of one line** if the names in the specification are. -/
theorem oneLineComments_statement {spec : TableSpec} {plan : TablePlan}
    (names : ∀ table, spec.Node table → r.OneLineNames table)
    (found : r.relation? spec.table = some relation)
    (planned : r.planTable location relation spec = .ok plan) (site : Site) :
    (plan.statement site).OneLineComments := by
  induction spec using TableSpec.tree_induction generalizing location relation plan site with
  | step spec ofParent ofChild =>
      have parts := planTable_parts planned
      have namesParent : ∀ parent ∈ spec.parents, ∀ table, parent.spec.Node table →
          r.OneLineNames table := fun parent member table node =>
        names table ((TableSpec.Node.root.parent member).trans node)
      have namesChild : ∀ child ∈ spec.children, ∀ table, child.spec.Node table →
          r.OneLineNames table := fun child member table node =>
        names table ((TableSpec.Node.root.child member).trans node)
      have own := ownOneLineComments_statement found planned (names spec .root)
        (fun parent member => (namesParent parent member _ .root).written)
        (fun child member => (namesChild child member _ .root).written) site
      intro node reached
      rcases Statement.node_iff.mp reached with rfl | ⟨sub, member, below⟩
      · exact own
      -- A sub-query is the statement of a plan around, with another use of its rows.
      rcases TablePlan.mem_subqueries_statement.mp member with ⟨reference, among, rfl⟩ |
        ⟨collection, among, rfl⟩ | ⟨source, joined, holds⟩
      · obtain ⟨parent, written, target, plans⟩ :=
          forall₂_mem_right (planReferences_forall₂ parts.references) among
        have inParents := (List.mem_filter.mp written).1
        have inner := ofParent parent inParents (namesParent parent inParents) plans.found
          plans.plan (reference.link.site (plan.baseAlias site) (plan.joins site).scope)
        refine inner.of_same ?_ ?_ node below
        · exact ⟨rfl, rfl, rfl, rfl, rfl, rfl⟩
        · exact (inner _ (.root _)).leading
      · obtain ⟨child, inChildren, target, plans⟩ :=
          forall₂_mem_right (planCollections_forall₂ parts.collections) among
        have inner := ofChild child inChildren (namesChild child inChildren) plans.found plans.plan
          (collection.link.site (plan.baseAlias site) (plan.joins site).scope)
        refine inner.of_same ?_ ?_ node below
        · exact ⟨rfl, rfl, rfl, rfl, rfl, rfl⟩
        · rintro text ⟨⟩
          refine .name (by decide) ?_
          rw [written_of_planTable plans.plan]
          exact (namesChild child inChildren _ .root).written
      · obtain ⟨inlined, among, within, rfl⟩ := InlinedParent.mem_joins_sources joined
        cases holds
        obtain ⟨parent, written, target, plans⟩ :=
          forall₂_mem_right (planInlined_forall₂ parts.inlined) among
        have inParents := (List.mem_filter.mp written).1
        exact ofParent parent inParents (namesParent parent inParents) plans.found plans.plan _ node
          below

end Resolver

/-- **Comments never change the query.** Let no name that goes into the comments of a query have a
line break: no table name, as it is written or as it is stored, and no name of a reference or a
collection. Then each statement of the query can be written with comments just if it can be written
without, else the error is the same, and the two texts are the same without their comment lines, in
every dialect and whatever schemas are left out. -/
theorem comments_never_change_the_query (r : Resolver) (query : Query)
    (oneLine : ∀ table ∈ query.table.tables, r.OneLineNames table)
    {statements : List (Representation × Statement)} (made : query.statements r = .ok statements)
    {representation : Representation} {statement : Statement}
    (member : (representation, statement) ∈ statements) (dialect : Dialect)
    (unqualifiedSchemas : List String) :
    (statement.render ⟨dialect, unqualifiedSchemas, true⟩).map Text.withoutCommentLines =
      (statement.render ⟨dialect, unqualifiedSchemas, false⟩).map Text.withoutCommentLines := by
  obtain ⟨plan, planned, rfl⟩ :=
    Query.statement_eq_ok (Query.statement_of_mem_statements made member)
  obtain ⟨relation, found, plannedTable⟩ := bind_eq_ok.mp planned
  have names : ∀ table, query.table.Node table → r.OneLineNames table := fun table node =>
    oneLine table (TableSpec.mem_tables.mpr node)
  have comments := Resolver.oneLineComments_statement names (Resolver.table_eq_ok.mp found)
    plannedTable { orderBy := query.orderBy }
  have represented : (query.represent (plan.statement { orderBy := query.orderBy })
      representation).OneLineComments := by
    refine comments.of_same (query.represent_sameRows _ _) ?_
    -- Only the array of all rows has a comment of its own.
    cases representation with
    | multiColumnRows => exact (comments _ (.root _)).leading
    | jsonObjectRows => exact (comments _ (.root _)).leading
    | jsonArrayRow =>
        rintro text ⟨⟩
        exact .name (by decide) (names query.table .root).written
  have alike := Statement.render_alike (w := ⟨dialect, unqualifiedSchemas, true⟩) represented
  exact (alike.map_eq fun plain commented adds => adds.withoutCommentLines_eq).symm

/-- Drugs with the tables around them, whose comments name tables, a reference and collections. Both
statements are written with and without comments. -/
theorem drugQuery_comments_never_change_it :
    (∀ table ∈ Pharmacy.drugQuery.table.tables, Pharmacy.resolver.OneLineNames table) ∧
    ∃ statements, Pharmacy.drugQuery.statements Pharmacy.resolver = .ok statements ∧
      statements.map Prod.fst = [.jsonObjectRows, .jsonArrayRow] ∧
      ∀ representation statement, (representation, statement) ∈ statements →
        ∃ commented plain, statement.render ⟨.oracle, ["drugs"], true⟩ = .ok commented ∧
          statement.render ⟨.oracle, ["drugs"], false⟩ = .ok plain ∧
          Text.withoutCommentLines commented = Text.withoutCommentLines plain := by
  have names : ∀ table ∈ Pharmacy.drugQuery.table.tables,
      Pharmacy.resolver.OneLineNames table := by
    decide +kernel
  have facts : (Pharmacy.drugQuery.statements Pharmacy.resolver).map (fun statements =>
      (statements.map Prod.fst, statements.all fun made =>
        (made.2.render ⟨.oracle, ["drugs"], true⟩).toOption.isSome)) =
      .ok ([.jsonObjectRows, .jsonArrayRow], true) := by
    decide +kernel
  obtain ⟨statements, made, equal⟩ := map_eq_ok.mp facts
  obtain ⟨wanted, written⟩ := Prod.mk.inj equal
  refine ⟨names, statements, made, wanted, fun representation statement member => ?_⟩
  have same := comments_never_change_the_query Pharmacy.resolver Pharmacy.drugQuery names made
    member .oracle ["drugs"]
  have succeeds := List.all_eq_true.mp written _ member
  cases commented : statement.render ⟨.oracle, ["drugs"], true⟩ with
  | error error =>
      rw [commented] at succeeds
      cases succeeds
  | ok text =>
      rw [commented] at same
      obtain ⟨plain, writtenPlain, deleted⟩ := map_eq_ok.mp same.symm
      exact ⟨text, plain, rfl, writtenPlain, deleted.symm⟩

end NestedQuery
