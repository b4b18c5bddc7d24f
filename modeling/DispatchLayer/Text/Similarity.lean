/-!
# Similarity of words

The Jaro measure of two words. Two equal characters count as common when their positions are less
than half the longer word apart, each character being used once; common characters in a different
order are transposed. The measure is one for equal words and zero for words with nothing in common.
-/

namespace DispatchLayer.Text

/-- Use up the first unused place in the window that holds the character. The places are given from
number `j` on, each with whether it is used up. -/
def useUp (c : Char) (low high : Nat) : Nat → List (Char × Bool) → Option (List (Char × Bool))
  | _, [] => none
  | j, (d, used) :: rest =>
    if j < high && low ≤ j && c == d && !used then some ((d, true) :: rest)
    else (useUp c low high (j + 1) rest).map ((d, used) :: ·)

/-- The characters of the first word, numbered from `i` on, that find a partner in the second, in
order, and the second word with its partners used up. -/
def commonFrom (range : Nat) : Nat → List Char → List (Char × Bool) → List Char × List (Char × Bool)
  | _, [], places => ([], places)
  | i, c :: cs, places =>
    match useUp c (i - range) (i + range + 1) 0 places with
    | some places =>
      let (common, places) := commonFrom range (i + 1) cs places
      (c :: common, places)
    | none => commonFrom range (i + 1) cs places

/-- The Jaro measure of two words. -/
def jaro (a b : List Char) : Float :=
  if a.isEmpty && b.isEmpty then 1.0
  else
    let range := max a.length b.length / 2 - 1
    let (common, places) := commonFrom range 0 a (b.map (·, false))
    let partners := (places.filter (·.2)).map (·.1)
    let transposed := ((common.zip partners).filter fun p => p.1 != p.2).length / 2
    let m := common.length
    if m = 0 then 0.0
    else
      (m.toFloat / a.length.toFloat + m.toFloat / b.length.toFloat
        + (m - transposed).toFloat / m.toFloat) / 3.0

/-- The most similar of some words, if one is more than 0.7 similar; of equally similar ones the
last. -/
def mostSimilar? (word : String) (candidates : List String) : Option String :=
  let step := fun (best : Option (Float × String)) (candidate : String) =>
    let s := jaro word.toList candidate.toList
    if s > 0.7 then
      match best with
      | some (t, _) => if s ≥ t then some (s, candidate) else best
      | none => some (s, candidate)
    else best
  (candidates.foldl step none).map (·.2)

end DispatchLayer.Text
