import DispatchLayer.Unicode.Alphanumeric
import DispatchLayer.Unicode.Casing

/-!
# Snake case

A name is cut into words and the words are written in lowercase with underscores between them.

Every character that is neither a letter nor a numeral separates pieces. Inside a piece a word ends
between a lowercase and an uppercase character (`aB`), and before the last character of an uppercase
run that a lowercase character follows (`HTTPServer` has the words `HTTP` and `Server`). A character
without case, such as a digit, leaves the case of the run as it was.
-/

namespace DispatchLayer.Text

open Unicode

/-- The case of the run that the current word is in. -/
inductive CaseRunMode where
  /-- At the beginning of a word, before any character with case. -/
  | fresh
  | lower
  | upper
  deriving DecidableEq, Repr

/-- The case of the run after a character. -/
def CaseRunMode.after (m : CaseRunMode) (c : Char) : CaseRunMode :=
  if isLowercase c then .lower
  else if isUppercase c then .upper
  else m

/-- Cut a piece into words; `word` holds the characters of the word so far, last one first. -/
def cutWords : CaseRunMode → List Char → List Char → List (List Char)
  | _, _, [] => []
  | _, word, [c] => [(c :: word).reverse]
  | mode, word, c :: next :: rest =>
    if mode.after c = .lower ∧ isUppercase next = true then
      (c :: word).reverse :: cutWords .fresh [] (next :: rest)
    else if mode = .upper ∧ isUppercase c = true ∧ isLowercase next = true then
      word.reverse :: cutWords .fresh [c] (next :: rest)
    else cutWords (mode.after c) (c :: word) (next :: rest)

/-- The pieces between separating characters, some of them empty. -/
def pieces : List Char → List (List Char)
  | [] => [[]]
  | c :: cs =>
    if isAlphanumeric c then
      match pieces cs with
      | [] => [[c]]
      | p :: ps => (c :: p) :: ps
    else [] :: pieces cs

/-- The words of a name, in order. -/
def wordsOf (cs : List Char) : List (List Char) :=
  (pieces cs).flatMap (cutWords .fresh [])

/-- A word in lowercase; a capital sigma at its end becomes the final form. -/
def lowerWord : List Char → List Char
  | [] => []
  | [c] => if c = 'Σ' then ['ς'] else toLowercase c
  | c :: rest => toLowercase c ++ lowerWord rest

/-- The words of a name in lowercase, with underscores between them. -/
def snakeChars (cs : List Char) : List Char :=
  List.intercalate ['_'] ((wordsOf cs).map lowerWord)

/-- A name in snake case. -/
def snakeCase (s : String) : String := String.ofList (snakeChars s.toList)

/-- **Words cover the piece:** nothing is lost or reordered by cutting. -/
theorem flatten_cutWords (mode : CaseRunMode) (word cs : List Char) (h : cs ≠ []) :
    (cutWords mode word cs).flatten = word.reverse ++ cs := by
  fun_induction cutWords mode word cs with
  | case1 => exact absurd rfl h
  | case2 => simp
  | case3 mode word c next rest _ ih => simp [ih]
  | case4 mode word c next rest _ _ ih => simp [ih]
  | case5 mode word c next rest _ _ ih => simp [ih]

end DispatchLayer.Text
