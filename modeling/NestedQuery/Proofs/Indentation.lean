import NestedQuery.Text.Layout

/-!
# Lines of indented texts

Generated text is indented again and again while it is put together, and each time all its lines
move to the right, also those that begin within a name. A line of a piece is still found in the
whole text, moved by the sum of all indentations.

## Main Definitions

* `Text.startsLine`: whether what follows a text begins a line
* `Text.LineIn`: a text that begins a line of another one, moved to the right
* `Text.HoldsLine`: the same for texts that are indented at least once

## Main Results

* `Text.indentChars_append`, `Text.indentChars_indentChars`: indentation of parts, and twice
* `Text.count_indentChars_lt`: a text of several lines gets more spaces
* `Text.LineIn.indent`: lines move to the right
* `Text.HoldsLine.append_left`, `Text.HoldsLine.append_right`, `Text.HoldsLine.indentLines`,
  `Text.HoldsLine.endLine`, `Text.HoldsLine.joinWith`: lines stay in the text
-/

namespace NestedQuery.Text

/-! ### Indentation of parts -/

/-- Whether what follows a text begins a line; `atStart` tells whether the text itself does. -/
def startsLine (atStart : Bool) : List Char → Bool
  | [] => atStart
  | c :: cs => startsLine (c == '\n') cs

variable {indentation : List Char} {atStart : Bool}

theorem startsLine_append (xs ys : List Char) :
    startsLine atStart (xs ++ ys) = startsLine (startsLine atStart xs) ys := by
  induction xs generalizing atStart with
  | nil => rfl
  | cons x xs ih => exact ih

theorem startsLine_of_oneLine {cs : List Char} (oneLine : '\n' ∉ cs) :
    startsLine false cs = false := by
  induction cs with
  | nil => rfl
  | cons c cs ih =>
      rw [List.mem_cons, not_or] at oneLine
      rw [startsLine, beq_eq_false_iff_ne.mpr (Ne.symm oneLine.1)]
      exact ih oneLine.2

@[simp] theorem indentChars_newline (cs : List Char) :
    indentChars indentation atStart ('\n' :: cs) = '\n' :: indentChars indentation true cs := rfl

theorem indentChars_first {c : Char} (visible : c ≠ '\n') (cs : List Char) :
    indentChars indentation true (c :: cs) =
      indentation ++ c :: indentChars indentation false cs := by
  rw [indentChars, if_neg visible, if_pos rfl]

theorem indentChars_later {c : Char} (visible : c ≠ '\n') (cs : List Char) :
    indentChars indentation false (c :: cs) = c :: indentChars indentation false cs := by
  rw [indentChars, if_neg visible, if_neg Bool.false_ne_true]

theorem indentChars_append (xs ys : List Char) :
    indentChars indentation atStart (xs ++ ys) =
      indentChars indentation atStart xs ++
        indentChars indentation (startsLine atStart xs) ys := by
  induction xs generalizing atStart with
  | nil => rfl
  | cons x xs ih =>
      by_cases newline : x = '\n'
      · subst newline
        rw [List.cons_append, indentChars_newline, indentChars_newline, ih]
        rfl
      · have visible : (x == '\n') = false := beq_eq_false_iff_ne.mpr newline
        cases atStart with
        | true =>
            rw [List.cons_append, indentChars_first newline, indentChars_first newline, ih,
              startsLine, visible, List.append_assoc, List.cons_append]
        | false =>
            rw [List.cons_append, indentChars_later newline, indentChars_later newline, ih,
              startsLine, visible, List.cons_append]

/-- A text of one line is not changed after the start of a line. -/
theorem indentChars_of_oneLine {cs : List Char} (oneLine : '\n' ∉ cs) :
    indentChars indentation false cs = cs := by
  induction cs with
  | nil => rfl
  | cons c cs ih =>
      rw [List.mem_cons, not_or] at oneLine
      rw [indentChars_later (Ne.symm oneLine.1), ih oneLine.2]

theorem not_mem_spaces (n : Nat) : '\n' ∉ List.replicate n ' ' := by
  intro member
  exact absurd (List.eq_of_mem_replicate member) (by decide)

/-- Indented lines end where the lines end. -/
theorem startsLine_indentChars (n : Nat) (cs : List Char) :
    startsLine atStart (indentChars (List.replicate n ' ') atStart cs) =
      startsLine atStart cs := by
  induction cs generalizing atStart with
  | nil => rfl
  | cons c cs ih =>
      by_cases newline : c = '\n'
      · subst newline
        exact ih
      · have visible : (c == '\n') = false := beq_eq_false_iff_ne.mpr newline
        cases atStart with
        | true =>
            rw [indentChars_first newline, startsLine_append, startsLine, startsLine, visible, ih]
        | false => rw [indentChars_later newline, startsLine, startsLine, visible, ih]

/-- Spaces before the first visible character of a line stay there. -/
theorem indentChars_spaces (n : Nat) {c : Char} (visible : c ≠ '\n') (cs : List Char) :
    indentChars indentation true (List.replicate n ' ' ++ c :: cs) =
      indentation ++ (List.replicate n ' ' ++ c :: indentChars indentation false cs) := by
  cases n with
  | zero => exact indentChars_first visible cs
  | succ n =>
      rw [List.replicate_succ, List.cons_append, indentChars_first (by decide), indentChars_append,
        indentChars_of_oneLine (not_mem_spaces n), startsLine_of_oneLine (not_mem_spaces n),
        indentChars_later visible, List.cons_append]

/-- To indent twice is to indent by the sum. -/
theorem indentChars_indentChars (m n : Nat) (cs : List Char) :
    indentChars (List.replicate m ' ') atStart (indentChars (List.replicate n ' ') atStart cs) =
      indentChars (List.replicate (m + n) ' ') atStart cs := by
  induction cs generalizing atStart with
  | nil => rfl
  | cons c cs ih =>
      by_cases newline : c = '\n'
      · subst newline
        rw [indentChars_newline, indentChars_newline, indentChars_newline, ih]
      cases atStart with
      | true =>
          rw [indentChars_first newline, indentChars_spaces n newline, ih,
            indentChars_first newline, ← List.replicate_append_replicate, List.append_assoc]
      | false =>
          rw [indentChars_later newline, indentChars_later newline, indentChars_later newline, ih]

/-! ### Spaces -/

theorem count_indentChars_le (n : Nat) (cs : List Char) :
    cs.count ' ' ≤ (indentChars (List.replicate n ' ') atStart cs).count ' ' := by
  induction cs generalizing atStart with
  | nil => exact Nat.le_refl _
  | cons c cs ih =>
      by_cases newline : c = '\n'
      · subst newline
        rw [indentChars_newline, List.count_cons, List.count_cons]
        exact Nat.add_le_add_right ih _
      cases atStart with
      | true =>
          rw [indentChars_first newline, List.count_append, List.count_cons, List.count_cons]
          have later := @ih false
          omega
      | false =>
          rw [indentChars_later newline, List.count_cons, List.count_cons]
          exact Nat.add_le_add_right ih _

/-- A text that ends within a line has more spaces after indentation, if a line starts in it. -/
theorem count_indentChars_lt {n : Nat} (positive : 0 < n) {cs : List Char}
    (within : startsLine atStart cs = false) (starts : atStart = true ∨ '\n' ∈ cs) :
    cs.count ' ' < (indentChars (List.replicate n ' ') atStart cs).count ' ' := by
  induction cs generalizing atStart with
  | nil =>
      rcases starts with rfl | member
      · cases within
      · cases member
  | cons c cs ih =>
      by_cases newline : c = '\n'
      · subst newline
        rw [indentChars_newline, List.count_cons, List.count_cons]
        exact Nat.add_lt_add_right (ih within (.inl rfl)) _
      have visible : (c == '\n') = false := beq_eq_false_iff_ne.mpr newline
      rw [startsLine, visible] at within
      cases atStart with
      | true =>
          rw [indentChars_first newline, List.count_append, List.count_replicate_self,
            List.count_cons, List.count_cons]
          have later := @count_indentChars_le false n cs
          omega
      | false =>
          have member : '\n' ∈ cs := by
            rcases starts with impossible | member
            · cases impossible
            · exact (List.mem_cons.mp member).resolve_left (Ne.symm newline)
          rw [indentChars_later newline, List.count_cons, List.count_cons]
          exact Nat.add_lt_add_right (ih within (.inr member)) _

/-! ### Lines -/

/-- A text stands in another one from the start of a line on, indented, and a comma or the end of a
line follows. -/
def LineIn (spaces : Nat) (line text : List Char) : Prop :=
  ∃ before after,
    text = before ++ '\n' :: (indentChars (List.replicate spaces ' ') true line ++ after) ∧
      (after.head? = some ',' ∨ after.head? = some '\n')

namespace LineIn

variable {spaces : Nat} {line text : List Char}

theorem append_left (lineIn : LineIn spaces line text) (start : List Char) :
    LineIn spaces line (start ++ text) := by
  obtain ⟨before, after, rfl, follows⟩ := lineIn
  exact ⟨start ++ before, after, by rw [List.append_assoc], follows⟩

theorem append_right (lineIn : LineIn spaces line text) (rest : List Char) :
    LineIn spaces line (text ++ rest) := by
  obtain ⟨before, after, rfl, follows⟩ := lineIn
  refine ⟨before, after ++ rest, by simp, ?_⟩
  cases after with
  | nil => rcases follows with impossible | impossible <;> cases impossible
  | cons next after => exact follows

/-- **Lines move to the right.** -/
theorem indent (lineIn : LineIn spaces line text) (within : startsLine true line = false)
    (more : Nat) :
    LineIn (more + spaces) line (indentChars (List.replicate more ' ') atStart text) := by
  obtain ⟨before, after, rfl, follows⟩ := lineIn
  refine ⟨indentChars (List.replicate more ' ') atStart before,
    indentChars (List.replicate more ' ') false after, ?_, ?_⟩
  · rw [indentChars_append, indentChars_newline, indentChars_append, startsLine_indentChars,
      within, indentChars_indentChars]
  · cases after with
    | nil => exact follows
    | cons next after =>
        rcases follows with comma | newline
        · cases comma
          exact .inl rfl
        · cases newline
          exact .inr rfl

end LineIn

/-! ### Pieces -/

/-- A piece of a joined text, with separators around it. -/
theorem joinWith_split (separator : String) {piece : String} {pieces : List String}
    (member : piece ∈ pieces) :
    ∃ before after, joinWith separator pieces = before ++ piece ++ after ∧
      (before = "" ∨ ∃ start, before = start ++ separator) ∧
      (after = "" ∨ ∃ rest, after = separator ++ rest) := by
  fun_induction joinWith separator pieces with
  | case1 => cases member
  | case2 single =>
      rw [List.mem_singleton] at member
      subst member
      exact ⟨"", "", by simp, .inl rfl, .inl rfl⟩
  | case3 first next rest ih =>
      rcases List.mem_cons.mp member with rfl | later
      · exact ⟨"", separator ++ joinWith separator (next :: rest), by simp [String.append_assoc],
          .inl rfl, .inr ⟨_, rfl⟩⟩
      · obtain ⟨before, after, split, starts, ends⟩ := ih later
        refine ⟨first ++ separator ++ before, after, by rw [split]; simp [String.append_assoc],
          .inr ?_, ends⟩
        rcases starts with rfl | ⟨start, rfl⟩
        · exact ⟨first, by simp⟩
        · exact ⟨first ++ separator ++ start, by simp [String.append_assoc]⟩

theorem indentChars_empty (cs : List Char) : indentChars [] atStart cs = cs := by
  induction cs generalizing atStart with
  | nil => rfl
  | cons c cs ih =>
      by_cases newline : c = '\n'
      · subst newline
        rw [indentChars_newline, ih]
      cases atStart with
      | true => rw [indentChars_first newline, ih]; rfl
      | false => rw [indentChars_later newline, ih]

/-- Each piece begins a line of its own. -/
theorem lineIn_joinWith {piece : String} {pieces : List String} (member : piece ∈ pieces)
    (rest : List Char) :
    LineIn 0 piece.toList ('\n' :: ((joinWith ",\n" pieces).toList ++ '\n' :: rest)) := by
  obtain ⟨before, after, split, starts, ends⟩ := joinWith_split ",\n" member
  have follows : (after.toList ++ '\n' :: rest).head? = some ',' ∨
      (after.toList ++ '\n' :: rest).head? = some '\n' := by
    rcases ends with rfl | ⟨others, rfl⟩
    · exact .inr rfl
    · exact .inl (by simp)
  rw [split]
  rcases starts with rfl | ⟨start, rfl⟩
  · exact ⟨[], _, by simp [indentChars_empty], follows⟩
  · exact ⟨'\n' :: start.toList ++ [','], _, by simp [indentChars_empty], follows⟩

/-- The pieces are lines of an indented block, also if something else follows them there. -/
theorem lineIn_block {piece : String} {pieces : List String} (member : piece ∈ pieces)
    (within : startsLine true piece.toList = false) (spaces : Nat) {rest : List Char}
    (apart : rest = [] ∨ ∃ others, rest = '\n' :: others) :
    LineIn spaces piece.toList
      ('\n' :: (indentChars (List.replicate spaces ' ') true
        ((joinWith ",\n" pieces).toList ++ rest) ++ ['\n'])) := by
  obtain ⟨others, ends⟩ : ∃ others, rest ++ ['\n'] = '\n' :: others := by
    rcases apart with rfl | ⟨others, rfl⟩
    · exact ⟨[], rfl⟩
    · exact ⟨others ++ ['\n'], rfl⟩
  have lines : LineIn spaces piece.toList (indentChars (List.replicate spaces ' ') true
      ('\n' :: ((joinWith ",\n" pieces).toList ++ '\n' :: others))) :=
    (lineIn_joinWith member others).indent within spaces
  rwa [← ends, ← List.append_assoc, indentChars_newline, indentChars_append] at lines

/-! ### Texts -/

/-- An indented line of a text. It ends where the text goes on with a comma or a new line. -/
def HoldsLine (line text : String) : Prop :=
  startsLine true line.toList = false ∧ ∃ spaces, 0 < spaces ∧ LineIn spaces line.toList text.toList

theorem toList_indentLines (spaces : Nat) (text : String) :
    (indentLines spaces text).toList =
      indentChars (List.replicate spaces ' ') true text.toList := by
  rw [indentLines, String.toList_ofList]

namespace HoldsLine

variable {line text : String}

theorem append_left (holds : HoldsLine line text) (start : String) :
    HoldsLine line (start ++ text) := by
  obtain ⟨within, spaces, positive, lineIn⟩ := holds
  refine ⟨within, spaces, positive, ?_⟩
  rw [String.toList_append]
  exact lineIn.append_left _

theorem append_right (holds : HoldsLine line text) (rest : String) :
    HoldsLine line (text ++ rest) := by
  obtain ⟨within, spaces, positive, lineIn⟩ := holds
  refine ⟨within, spaces, positive, ?_⟩
  rw [String.toList_append]
  exact lineIn.append_right _

theorem indentLines (holds : HoldsLine line text) (more : Nat) :
    HoldsLine line (Text.indentLines more text) := by
  obtain ⟨within, spaces, positive, lineIn⟩ := holds
  refine ⟨within, more + spaces, by omega, ?_⟩
  rw [toList_indentLines]
  exact lineIn.indent within more

theorem endLine (holds : HoldsLine line text) : HoldsLine line (Text.endLine text) := by
  unfold Text.endLine
  split
  · exact holds
  · split
    · exact holds
    · exact holds.append_right _

theorem joinWith (holds : HoldsLine line text) {texts : List String} (member : text ∈ texts)
    (separator : String) : HoldsLine line (Text.joinWith separator texts) := by
  obtain ⟨before, after, split, -⟩ := joinWith_split _ member
  rw [split]
  exact (holds.append_left before).append_right after

end HoldsLine

end NestedQuery.Text
