import DispatchLayer.Unicode.Casing
import DispatchLayer.Unicode.Identifier

/-!
# Lowercase forms of identifier characters

Writing a character in lowercase leaves the two identifier classes alone: a character that may
continue an identifier either is its own lowercase form, or may begin one, and then so may the first
character of its lowercase form (`toLowercase_of_isXidContinue`). The tables are compared run by run
(`lowerRuns_settled`); the circled letters are the only run outside the classes.

A lowercase form holds no underscore and no hash sign that was not there before
(`mem_toLowercase`).
-/

set_option maxRecDepth 20000

namespace DispatchLayer.Unicode

/-! ## Whole ranges of a table -/

namespace RangeTable

/-- The code points from `a` to `b` are in one range of the table. -/
def covers : RangeTable → Nat → Nat → Bool
  | [], _, _ => false
  | r :: rest, a, b => Nat.ble r.1 a && (Nat.ble b r.2 || (Nat.blt r.2 a && covers rest a b))

/-- None of the code points from `a` to `b` is in the table. -/
def misses : RangeTable → Nat → Nat → Bool
  | [], _, _ => true
  | r :: rest, a, b => Nat.blt b r.1 || (Nat.blt r.2 a && misses rest a b)

theorem holds_of_covers {a b n : Nat} (ha : a ≤ n) (hb : n ≤ b) :
    ∀ {t : RangeTable}, t.covers a b = true → t.holds n = true
  | [], h => by simp [covers] at h
  | (lo, hi) :: rest, h => by
    simp only [covers, Nat.blt_eq, Bool.and_eq_true, Bool.or_eq_true, Nat.ble_eq] at h
    obtain ⟨hlo, h⟩ := h
    unfold holds
    rw [if_neg (by omega)]
    -- Either this range holds all of the code points, or a later one does.
    rcases h with hhi | ⟨-, h⟩
    · rw [if_pos (by omega)]
    · by_cases hn : n ≤ hi
      · rw [if_pos hn]
      · rw [if_neg hn]
        exact holds_of_covers ha hb h

theorem not_holds_of_misses {a b n : Nat} (ha : a ≤ n) (hb : n ≤ b) :
    ∀ {t : RangeTable}, t.misses a b = true → t.holds n = false
  | [], _ => rfl
  | (lo, hi) :: rest, h => by
    simp only [misses, Nat.blt_eq, Bool.and_eq_true, Bool.or_eq_true] at h
    unfold holds
    rcases h with hlo | ⟨hhi, h⟩
    · rw [if_pos (by omega)]
    · by_cases hn : n < lo
      · rw [if_pos hn]
      · rw [if_neg hn, if_neg (by omega)]
        exact not_holds_of_misses ha hb h

end RangeTable

/-! ## Runs of the lowercase mapping -/

namespace CaseRun

/-- Every code point of the run begins identifiers, and so does its lowercase form. A run whose gaps
lie between ranges of the table is looked at one code point at a time. -/
def isLetters (r : CaseRun) : Bool :=
  (xidStart.covers r.first r.last && xidStart.covers r.target (r.target + (r.last - r.first))) ||
    (List.range ((r.last - r.first) / r.stride + 1)).all fun i =>
      xidStart.covers (r.first + i * r.stride) (r.first + i * r.stride) &&
        xidStart.covers (r.target + i * r.stride) (r.target + i * r.stride)

/-- No code point of the run occurs in identifiers. -/
def isSymbols (r : CaseRun) : Bool :=
  xidStart.misses r.first r.last && xidContinueOnly.misses r.first r.last

/-- The lowercase forms are characters, and none comes before the small letters. -/
def hasCharacters (r : CaseRun) : Bool :=
  Nat.ble 0x61 r.target && (Nat.blt (r.target + (r.last - r.first)) 0xD800 ||
    (Nat.blt 0xDFFF r.target && Nat.blt (r.target + (r.last - r.first)) 0x110000))

theorem lower?_eq_some {r : CaseRun} {n m : Nat} (h : r.lower? n = some m) :
    r.first ≤ n ∧ n ≤ r.last ∧ (n - r.first) % r.stride = 0 ∧ m = r.target + (n - r.first) := by
  unfold lower? at h
  split at h
  · rename_i hc
    simp only [Bool.and_eq_true, decide_eq_true_eq, beq_iff_eq] at hc
    obtain ⟨⟨h1, h2⟩, h3⟩ := hc
    exact ⟨h1, h2, h3, (Option.some.inj h).symm⟩
  · simp at h

theorem holds_of_isLetters {r : CaseRun} {n m : Nat} (hr : r.isLetters = true)
    (h : r.lower? n = some m) : xidStart.holds n = true ∧ xidStart.holds m = true := by
  obtain ⟨h1, h2, h3, rfl⟩ := lower?_eq_some h
  rcases Bool.or_eq_true _ _ ▸ hr with hr | hr
  · rw [Bool.and_eq_true] at hr
    exact ⟨RangeTable.holds_of_covers h1 h2 hr.1,
      RangeTable.holds_of_covers (by omega) (by omega) hr.2⟩
  · -- The code point is the one at the place `(n - first) / stride` of the run.
    have hi : (n - r.first) / r.stride * r.stride = n - r.first :=
      Nat.div_mul_cancel (Nat.dvd_of_mod_eq_zero h3)
    have hle : (n - r.first) / r.stride ≤ (r.last - r.first) / r.stride :=
      Nat.div_le_div_right (by omega)
    have hk := List.all_eq_true.1 hr ((n - r.first) / r.stride)
      (List.mem_range.2 (Nat.lt_succ_of_le hle))
    rw [hi, Bool.and_eq_true] at hk
    exact ⟨RangeTable.holds_of_covers (by omega) (by omega) hk.1,
      RangeTable.holds_of_covers (Nat.le_refl _) (Nat.le_refl _) hk.2⟩

theorem not_holds_of_isSymbols {r : CaseRun} {n m : Nat} (hr : r.isSymbols = true)
    (h : r.lower? n = some m) : xidStart.holds n = false ∧ xidContinueOnly.holds n = false := by
  obtain ⟨h1, h2, -, -⟩ := lower?_eq_some h
  unfold isSymbols at hr
  rw [Bool.and_eq_true] at hr
  exact ⟨RangeTable.not_holds_of_misses h1 h2 hr.1, RangeTable.not_holds_of_misses h1 h2 hr.2⟩

theorem toNat_of_hasCharacters {r : CaseRun} {n m : Nat} (hr : r.hasCharacters = true)
    (h : r.lower? n = some m) : (Char.ofNat m).toNat = m ∧ 0x61 ≤ m := by
  obtain ⟨h1, h2, -, rfl⟩ := lower?_eq_some h
  unfold hasCharacters at hr
  simp only [Nat.blt_eq, Bool.and_eq_true, Bool.or_eq_true, Nat.ble_eq] at hr
  obtain ⟨hlo, hv⟩ := hr
  have hvalid : (r.target + (n - r.first)).isValidChar := by
    unfold Nat.isValidChar
    omega
  refine ⟨?_, by omega⟩
  unfold Char.ofNat
  rw [dif_pos hvalid]
  rfl

end CaseRun

/-- **The runs and the identifier classes do not cross.** -/
theorem lowerRuns_settled : ∀ r ∈ lowerRuns, r.isLetters = true ∨ r.isSymbols = true := by
  have h : (lowerRuns.all fun r => r.isLetters || r.isSymbols) = true := by decide +kernel
  intro r hr
  exact Bool.or_eq_true _ _ ▸ List.all_eq_true.1 h r hr

theorem lowerRuns_hasCharacters : ∀ r ∈ lowerRuns, r.hasCharacters = true := by
  have h : lowerRuns.all CaseRun.hasCharacters = true := by decide +kernel
  exact List.all_eq_true.1 h

/-! ## Single characters -/

/-- The lowercase form of a character is the character itself, or the dotted capital's, or comes
from one of the runs. -/
theorem toLowercase_cases (c : Char) :
    toLowercase c = [c] ∨ (c = '\u0130' ∧ toLowercase c = ['i', '\u0307']) ∨
      ∃ r ∈ lowerRuns, ∃ m, r.lower? c.toNat = some m ∧ toLowercase c = [Char.ofNat m] := by
  unfold toLowercase
  by_cases hc : c = '\u0130'
  · rw [if_pos hc]
    exact Or.inr (Or.inl ⟨hc, rfl⟩)
  · rw [if_neg hc]
    cases hf : lowerRuns.findSome? (·.lower? c.toNat) with
    | none => exact Or.inl rfl
    | some m =>
      obtain ⟨r, hr, hm⟩ := List.exists_of_findSome?_eq_some hf
      exact Or.inr (Or.inr ⟨r, hr, m, hm, rfl⟩)

theorem toLowercase_ne_nil (c : Char) : toLowercase c ≠ [] := by
  rcases toLowercase_cases c with h | ⟨-, h⟩ | ⟨r, -, m, -, h⟩
  · simp [h]
  · simp [h]
  · simp [h]

/-- A lowercase form adds no character before the small letters. -/
theorem mem_toLowercase {c d : Char} (h : d ∈ toLowercase c) : d = c ∨ 0x61 ≤ d.toNat := by
  rcases toLowercase_cases c with hc | ⟨-, hc⟩ | ⟨r, hr, m, hm, hc⟩
  · rw [hc, List.mem_singleton] at h
    exact Or.inl h
  · rw [hc, List.mem_cons, List.mem_singleton] at h
    rcases h with rfl | rfl
    · exact Or.inr (by decide)
    · exact Or.inr (by decide)
  · rw [hc, List.mem_singleton] at h
    subst h
    obtain ⟨hn, hlo⟩ := CaseRun.toNat_of_hasCharacters (lowerRuns_hasCharacters r hr) hm
    exact Or.inr (by rw [hn]; exact hlo)

/-- **Lowercase keeps the identifier classes.** A character of identifiers that is not its own
lowercase form begins identifiers, and its lowercase form is an identifier. -/
theorem toLowercase_of_isXidContinue {c : Char} (hc : isXidContinue c = true) :
    toLowercase c = [c] ∨ (isXidStart c = true ∧ ∃ d rest, toLowercase c = d :: rest ∧
      isXidStart d = true ∧ ∀ x ∈ rest, isXidContinue x = true) := by
  rcases toLowercase_cases c with h | ⟨rfl, h⟩ | ⟨r, hr, m, hm, h⟩
  · exact Or.inl h
  · -- The dotted capital is the only character with two characters for its lowercase form.
    refine Or.inr ⟨by decide +kernel, 'i', ['\u0307'], h, by decide +kernel, ?_⟩
    intro x hx
    rw [List.mem_singleton] at hx
    subst hx
    decide +kernel
  · rcases lowerRuns_settled r hr with hl | hs
    · obtain ⟨hn, hm'⟩ := CaseRun.holds_of_isLetters hl hm
      refine Or.inr ⟨hn, Char.ofNat m, [], h, ?_, by simp⟩
      show xidStart.holds (Char.ofNat m).toNat = true
      rw [(CaseRun.toNat_of_hasCharacters (lowerRuns_hasCharacters r hr) hm).1]
      exact hm'
    · -- The character is in none of the classes, against the assumption.
      obtain ⟨h1, h2⟩ := CaseRun.not_holds_of_isSymbols hs hm
      have hn : isXidContinue c = false := by
        show (xidStart.holds c.toNat || xidContinueOnly.holds c.toNat) = false
        rw [h1, h2]
        rfl
      rw [hn] at hc
      exact absurd hc (by decide)

end DispatchLayer.Unicode
