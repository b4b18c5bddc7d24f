import DispatchLayer.Text.Fields
import Mathlib.Data.List.DropRight

/-!
# Trimming

A text is trimmed if it neither begins nor ends with white space. Trimming takes away white space
on both sides until the rest is trimmed, and nothing else gives a trimmed rest (`trimChars_eq_iff`).
What is left is nothing exactly if the text is blank (`trimChars_eq_nil_iff`).
-/

namespace DispatchLayer.Text

open Unicode

/-- Every character is white space. -/
def IsBlank (cs : List Char) : Prop := ∀ c ∈ cs, isWhiteSpace c = true

instance (cs : List Char) : Decidable (IsBlank cs) :=
  decidable_of_iff (cs.all isWhiteSpace = true) List.all_eq_true

/-- Neither the first character nor the last is white space. -/
structure IsTrimmed (cs : List Char) : Prop where
  first : ∀ c, cs.head? = some c → isWhiteSpace c = false
  last : ∀ c, cs.getLast? = some c → isWhiteSpace c = false

/-- A text with white space around it, on both sides and possibly none. -/
def Pads (padded core : List Char) : Prop :=
  ∃ before after, IsBlank before ∧ IsBlank after ∧ padded = before ++ core ++ after

theorem pads_self (cs : List Char) : Pads cs cs := by
  refine ⟨[], [], ?_, ?_, by simp⟩
  · intro c hc
    exact absurd hc List.not_mem_nil
  · intro c hc
    exact absurd hc List.not_mem_nil

theorem Pads.mem {padded core : List Char} (h : Pads padded core) {c : Char} (hc : c ∈ core) :
    c ∈ padded := by
  obtain ⟨before, after, -, -, rfl⟩ := h
  simp [hc]

/-- What white space adds is white space. -/
theorem Pads.mem_core {padded core : List Char} (h : Pads padded core) {c : Char}
    (hc : c ∈ padded) (hw : isWhiteSpace c = false) : c ∈ core := by
  obtain ⟨before, after, hbefore, hafter, rfl⟩ := h
  rcases List.mem_append.1 hc with hc | hc
  · rcases List.mem_append.1 hc with hc | hc
    · simp [hbefore c hc] at hw
    · exact hc
  · simp [hafter c hc] at hw

/-! ## What trimming leaves -/

theorem trimChars_eq (cs : List Char) :
    trimChars cs = (cs.dropWhile isWhiteSpace).rdropWhile isWhiteSpace := rfl

/-- What trimming takes away is white space. -/
theorem pads_trimChars (cs : List Char) : Pads cs (trimChars cs) := by
  refine ⟨cs.takeWhile isWhiteSpace, (cs.dropWhile isWhiteSpace).rtakeWhile isWhiteSpace,
    ?_, ?_, ?_⟩
  · intro c hc
    exact List.mem_takeWhile_imp hc
  · intro c hc
    exact List.mem_rtakeWhile_imp hc
  · rw [trimChars_eq, List.append_assoc, List.rdropWhile_append_rtakeWhile,
      List.takeWhile_append_dropWhile]

theorem isTrimmed_trimChars (cs : List Char) : IsTrimmed (trimChars cs) where
  first := by
    intro c hc
    -- The first character left is the first one that is no white space.
    obtain ⟨taken, htaken⟩ : trimChars cs <+: cs.dropWhile isWhiteSpace :=
      List.rdropWhile_prefix _ _
    have hnot := List.head?_dropWhile_not isWhiteSpace cs
    rw [← htaken, List.head?_append, hc] at hnot
    exact hnot
  last := by
    intro c hc
    have hne : trimChars cs ≠ [] := by
      rintro he
      simp [he] at hc
    have hlast := List.rdropWhile_last_not isWhiteSpace (cs.dropWhile isWhiteSpace) hne
    rw [List.getLast?_eq_some_getLast hne] at hc
    cases hc
    exact Bool.eq_false_iff.2 hlast

theorem trimChars_eq_nil_iff {cs : List Char} : trimChars cs = [] ↔ IsBlank cs := by
  rw [trimChars_eq, List.rdropWhile_eq_nil_iff]
  constructor
  · intro h c hc
    rw [← List.takeWhile_append_dropWhile (p := isWhiteSpace) (l := cs), List.mem_append] at hc
    rcases hc with hc | hc
    · exact List.mem_takeWhile_imp hc
    · exact h c hc
  · intro h c hc
    exact h c ((List.dropWhile_suffix _).mem hc)

theorem dropWhile_eq_self_of_isTrimmed {core : List Char} (hc : IsTrimmed core) (hne : core ≠ [])
    (after : List Char) : (core ++ after).dropWhile isWhiteSpace = core ++ after := by
  obtain ⟨c, rest, rfl⟩ := List.exists_cons_of_ne_nil hne
  rw [List.cons_append, List.dropWhile_cons_of_neg]
  simp [hc.first c rfl]

theorem rdropWhile_append_of_isBlank {after : List Char} (h : IsBlank after) (cs : List Char) :
    (cs ++ after).rdropWhile isWhiteSpace = cs.rdropWhile isWhiteSpace := by
  unfold List.rdropWhile
  rw [List.reverse_append, List.dropWhile_append_of_pos]
  intro c hc
  exact h c (List.mem_reverse.1 hc)

theorem trimChars_of_pads {padded core : List Char} (h : Pads padded core) (hc : IsTrimmed core) :
    trimChars padded = core := by
  obtain ⟨before, after, hbefore, hafter, rfl⟩ := h
  by_cases hne : core = []
  · -- With nothing inside, the white space of both sides is taken from the front.
    subst hne
    apply trimChars_eq_nil_iff.2
    intro c hm
    rw [List.append_nil, List.mem_append] at hm
    rcases hm with hm | hm
    · exact hbefore c hm
    · exact hafter c hm
  · rw [trimChars_eq, List.append_assoc, List.dropWhile_append_of_pos hbefore,
      dropWhile_eq_self_of_isTrimmed hc hne, rdropWhile_append_of_isBlank hafter,
      List.rdropWhile_eq_self_iff]
    intro hl
    simp [hc.last _ (List.getLast?_eq_some_getLast hl)]

/-- **Trimming gives the one trimmed text** around which the white space was. -/
theorem trimChars_eq_iff {cs core : List Char} :
    trimChars cs = core ↔ Pads cs core ∧ IsTrimmed core := by
  constructor
  · rintro rfl
    exact ⟨pads_trimChars cs, isTrimmed_trimChars cs⟩
  · rintro ⟨hp, ht⟩
    exact trimChars_of_pads hp ht

end DispatchLayer.Text
