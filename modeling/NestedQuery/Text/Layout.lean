/-!
# Laying out text

Generated SQL and source code is put together from pieces of text that may span several lines.

## Main Definitions

* `joinWith`: pieces with a separator between them
* `indentLines`: every non-empty line moved to the right
* `endLine`: ends the last line, unless it is ended already
* `replaceAll`: a literal pattern replaced everywhere
-/

namespace NestedQuery.Text

/-- The pieces in order, with `sep` between neighbours. -/
def joinWith (sep : String) : List String → String
  | [] => ""
  | [s] => s
  | s :: next :: rest => s ++ sep ++ joinWith sep (next :: rest)

/-- Every line of a text that is not empty gets `indentation` in front; `atStart` tells whether the
text begins a line. -/
def indentChars (indentation : List Char) (atStart : Bool) : List Char → List Char
  | [] => []
  | c :: cs =>
    if c = '\n' then c :: indentChars indentation true cs
    else if atStart then indentation ++ c :: indentChars indentation false cs
    else c :: indentChars indentation false cs

/-- Move every line of a text that is not empty to the right. -/
def indentLines (spaces : Nat) (s : String) : String :=
  String.ofList (indentChars (List.replicate spaces ' ') true s.toList)

/-- End the last line of a text. The empty text and a text that ends with a line break stay as
they are. -/
def endLine (s : String) : String :=
  match s.toList.getLast? with
  | none => s
  | some c => if c = '\n' then s else s ++ "\n"

/-- Replace the occurrences of a non-empty pattern from left to right; the first `skip` characters
belong to an occurrence already replaced. -/
def replaceFrom (pattern replacement : List Char) (skip : Nat) : List Char → List Char
  | [] => []
  | c :: cs =>
    match skip with
    | skip + 1 => replaceFrom pattern replacement skip cs
    | 0 =>
      if pattern.isPrefixOf (c :: cs) then
        replacement ++ replaceFrom pattern replacement (pattern.length - 1) cs
      else c :: replaceFrom pattern replacement 0 cs

/-- Replace every occurrence of a pattern. The empty pattern occurs before every character and at
the end. -/
def replaceAll (pattern replacement s : String) : String :=
  if pattern.toList.isEmpty then
    String.ofList (s.toList.flatMap (fun c => replacement.toList ++ [c]) ++ replacement.toList)
  else
    String.ofList (replaceFrom pattern.toList replacement.toList 0 s.toList)

/-- A text between single quotes, as the messages show names. -/
def inQuotes (s : String) : String := "'" ++ s ++ "'"

end NestedQuery.Text
