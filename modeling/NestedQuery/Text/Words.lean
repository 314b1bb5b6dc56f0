import NestedQuery.Text.Case

/-!
# Words, camel case and fresh names

A name is read as a sequence of words: maximal stretches of letters and numbers, cut further where
the letter case shows a new word (`meshId` is `mesh` and `Id`, `HTTPServer` is `HTTP` and
`Server`). The words, capitalised and joined, make a camel case name. A name that must differ from
the names already in use keeps its wished form if that is free, and otherwise gets the first number
that makes it free.

## Main Definitions

* `words`: the words of a name
* `upperCamel`, `lowerCamel`: the words joined, all capitalised or all but the first
* `initials`: the first letters of the words between separators
* `counterAt`, `numbered`: the numbers that are tried, and a name with one of them behind it
* `freshName`: the wished name or its first free numbered form

## Design Notes

Of the first numbers, as many as there are names in use, one is always free, because the numbered
forms differ from each other and the wished name itself takes one place. The search therefore needs
no bound of its own.
-/

namespace NestedQuery.Text

/-- What the letters read so far say about the word being read. -/
inductive WordCase where
  | start
  | lower
  | upper
deriving DecidableEq, Repr

/-- The word case after one more character; characters without a case leave it as it is. -/
def WordCase.next (mode : WordCase) (c : Char) : WordCase :=
  if isLower c then .lower else if isUpper c then .upper else mode

/-- The words of a stretch of letters and numbers. `word` holds the characters of the current
word in reverse order. A word ends between a lower case letter and a capital, and before the last
of several capitals when a lower case letter follows it. -/
def cutWords (mode : WordCase) (word : List Char) : List Char → List (List Char)
  | [] => []
  | [c] => [(c :: word).reverse]
  | c :: next :: cs =>
    if mode.next c = .lower && isUpper next then
      (c :: word).reverse :: cutWords .start [] (next :: cs)
    else if mode = .upper && isUpper c && isLower next then
      word.reverse :: cutWords .start [c] (next :: cs)
    else
      cutWords (mode.next c) (c :: word) (next :: cs)

/-- The pieces of a text between the characters that satisfy `sep`, empty ones included. -/
def splitAt (sep : Char → Bool) : List Char → List (List Char)
  | [] => [[]]
  | c :: cs =>
    if sep c then [] :: splitAt sep cs
    else
      match splitAt sep cs with
      | [] => [[c]]
      | piece :: pieces => (c :: piece) :: pieces

/-- The words of a name. -/
def words (s : String) : List (List Char) :=
  (splitAt (fun c => !isAlphanumeric c) s.toList).flatMap (cutWords .start [])

/-- Lower case of a word: a sigma is final exactly as the last character. -/
def lowerWord : List Char → List Char
  | [] => []
  | [c] => if c = capitalSigma then [finalSigma] else lowerChar c
  | c :: next :: cs => lowerChar c ++ lowerWord (next :: cs)

/-- A word with its first character in upper case and the others in lower case. -/
def capitalize : List Char → List Char
  | [] => []
  | c :: cs => upperChar c ++ lowerWord cs

/-- The words of a name, all capitalised. -/
def upperCamel (s : String) : String :=
  String.ofList ((words s).flatMap capitalize)

/-- The words of a name, all but the first capitalised. -/
def lowerCamel (s : String) : String :=
  match words s with
  | [] => ""
  | word :: rest => String.ofList (lowerWord word ++ rest.flatMap capitalize)

/-- The first ASCII letter or digit of each piece between underscores, dots and spaces, in lower
case. -/
def initials (s : String) : String :=
  String.ofList <|
    (splitAt (fun c => c == '_' || c == '.' || c == ' ') s.toList).filterMap fun piece =>
      (piece.find? Char.isAlphanum).map Char.toLower

/-! ### Fresh names -/

/-- What the counter of a search shows at a step, the steps counted from one. The counter has 32
bits with a sign: behind its largest number come the negative ones, from the least on, and then
zero. A search that has seen all of them would see them again and never end. Here it goes on below
the least of them, so that it finds a name whatever is taken. -/
def counterAt (step : Nat) : Int :=
  if step ≤ UInt32.size then (Int32.ofNat step).toInt else -step

/-- A name followed by a separator and the number that the counter shows at a step. -/
def numbered (base sep : String) (step : Nat) : String :=
  base ++ sep ++ toString (counterAt step)

/-- The wished name if it is free, else the first of its numbered forms that is free. -/
def freshName (base sep : String) (taken : List String) : String :=
  if base ∈ taken then
    match (List.range' 1 taken.length).find? (fun i => !taken.contains (numbered base sep i)) with
    | some i => numbered base sep i
    | none => base
  else base

end NestedQuery.Text
