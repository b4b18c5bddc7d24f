/-!
# Reading characters

A reader takes characters from the front of a text and gives a value, or fails. Of two alternatives
the second starts where the first did. Repetition ends where its reader fails; it is bounded by the
length of the text, which a reader that takes something at each turn cannot reach.
-/

namespace DispatchLayer.Toml

/-- A reader of characters. -/
abbrev Reader := StateT (List Char) Option

namespace Reader

/-- One character of a class. -/
def satisfy (p : Char → Bool) : Reader Char := fun cs =>
  match cs with
  | c :: rest => if p c then some (c, rest) else none
  | [] => none

/-- This character. -/
def char (c : Char) : Reader Unit := do let _ ← satisfy (· == c)

/-- These characters. -/
def word (w : List Char) : Reader Unit := fun cs =>
  if w.isPrefixOf cs then some ((), cs.drop w.length) else none

/-- The characters of a class ahead, if any. -/
def span (p : Char → Bool) : Reader (List Char) := fun cs => some (cs.takeWhile p, cs.dropWhile p)

/-- The characters of a class ahead, at least one. -/
def span1 (p : Char → Bool) : Reader (List Char) := do
  let cs ← span p
  if cs.isEmpty then failure else return cs

/-- Exactly so many characters of a class. -/
def exactly (n : Nat) (p : Char → Bool) : Reader (List Char) := fun cs =>
  let taken := cs.take n
  if taken.length = n && taken.all p then some (taken, cs.drop n) else none

/-- What a reader gives, if it succeeds. -/
def attempt {α : Type} (r : Reader α) : Reader (Option α) := fun cs =>
  match r cs with
  | some (a, rest) => some (some a, rest)
  | none => some (none, cs)

/-- A reader at most so many times. -/
def atMost {α : Type} (r : Reader α) : Nat → Reader (List α)
  | 0 => return []
  | n + 1 => do
    match ← attempt r with
    | some a => return a :: (← atMost r n)
    | none => return []

/-- A reader as often as it succeeds. -/
def many {α : Type} (r : Reader α) : Reader (List α) := fun cs => atMost r cs.length cs

/-- A reader as often as it succeeds, at least once. -/
def many1 {α : Type} (r : Reader α) : Reader (List α) := do return (← r) :: (← many r)

/-- A reader at least once, with a separator between each two. -/
def separated1 {α : Type} (r : Reader α) (separator : Char) : Reader (List α) := do
  return (← r) :: (← many do char separator; r)

/-- A reader any number of times, with a separator between each two. -/
def separated {α : Type} (r : Reader α) (separator : Char) : Reader (List α) := do
  return (← attempt (separated1 r separator)).getD []

/-- The next character, left where it is. -/
def peek : Reader Char := fun cs => cs.head?.map (·, cs)

/-- Succeed only at the end of the text. -/
def atEnd : Reader Unit := fun cs => if cs.isEmpty then some ((), cs) else none

end Reader

end DispatchLayer.Toml
