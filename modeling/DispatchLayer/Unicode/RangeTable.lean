/-!
# Tables of code point ranges

A character class is given by a list of closed ranges of code points in ascending order. Membership
stops at the first range that begins above the character.
-/

namespace DispatchLayer.Unicode

/-- Closed ranges of code points, in ascending order and without overlap. -/
abbrev RangeTable := List (Nat × Nat)

/-- Whether one of the ranges holds the code point. -/
def RangeTable.holds : RangeTable → Nat → Bool
  | [], _ => false
  | (lo, hi) :: rest, n =>
    if n < lo then false
    else if n ≤ hi then true
    else RangeTable.holds rest n

/-- Whether one of the ranges holds the character. -/
def RangeTable.contains (t : RangeTable) (c : Char) : Bool := t.holds c.toNat

theorem RangeTable.exists_of_holds {n : Nat} : ∀ {t : RangeTable}, t.holds n = true →
    ∃ r ∈ t, r.1 ≤ n ∧ n ≤ r.2
  | [], h => by simp [RangeTable.holds] at h
  | (lo, hi) :: rest, h => by
    unfold RangeTable.holds at h
    split at h
    · simp at h
    · split at h
      · exact ⟨(lo, hi), by simp, by omega, by omega⟩
      · obtain ⟨r, hr, hb⟩ := exists_of_holds h
        exact ⟨r, by simp [hr], hb⟩

end DispatchLayer.Unicode
