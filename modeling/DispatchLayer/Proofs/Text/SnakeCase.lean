import DispatchLayer.Text.SnakeCase
import DispatchLayer.Proofs.Unicode.Lowercase

/-!
# What snake case can look like

The words of a name are its letters and numerals, in order and without loss (`flatten_wordsOf`), and
no word is empty. So a name in snake case never ends in an underscore (`getLast?_snakeChars`), holds
no hash sign (`hash_not_mem_snakeChars`), and begins with the lowercase form of the first letter or
numeral of the name (`snakeChars_cases`). Identifier characters stay identifier characters
(`isXidContinue_snakeChars`).
-/

set_option maxRecDepth 20000

namespace DispatchLayer.Text

open Unicode

/-! ## Words -/

theorem flatten_pieces (cs : List Char) : (pieces cs).flatten = cs.filter isAlphanumeric := by
  induction cs with
  | nil => rfl
  | cons c cs ih =>
    unfold pieces
    cases hc : isAlphanumeric c with
    | false =>
      rw [if_neg (by simp), List.flatten_cons, List.nil_append, ih,
        List.filter_cons_of_neg (by simp [hc])]
    | true =>
      rw [if_pos rfl, List.filter_cons_of_pos hc, ← ih]
      cases pieces cs with
      | nil => rfl
      | cons p ps => rfl

/-- **The words of a name are its letters and numerals.** -/
theorem flatten_wordsOf (cs : List Char) : (wordsOf cs).flatten = cs.filter isAlphanumeric := by
  rw [← flatten_pieces]
  unfold wordsOf
  induction pieces cs with
  | nil => rfl
  | cons p ps ih =>
    rw [List.flatMap_cons, List.flatten_append, ih, List.flatten_cons]
    congr 1
    cases p with
    | nil => rfl
    | cons c p => exact flatten_cutWords .fresh [] (c :: p) (List.cons_ne_nil c p)

/-- Cutting makes no empty word. A run of uppercase characters has begun only if the word has. -/
theorem ne_nil_of_mem_cutWords (mode : CaseRunMode) (word cs : List Char)
    (h : mode = .upper → word ≠ []) : ∀ w ∈ cutWords mode word cs, w ≠ [] := by
  fun_induction cutWords mode word cs with
  | case1 => simp
  | case2 => simp
  | case3 mode word c next rest _ ih =>
    intro w hw
    rcases List.mem_cons.1 hw with rfl | hw
    · simp
    · exact ih (by simp) w hw
  | case4 mode word c next rest _ hu ih =>
    -- The cut comes before the character: the word so far has to have some.
    intro w hw
    rcases List.mem_cons.1 hw with rfl | hw
    · simpa using h hu.1
    · exact ih (by simp) w hw
  | case5 mode word c next rest _ _ ih => exact ih (by simp)

theorem ne_nil_of_mem_wordsOf {cs w : List Char} (hw : w ∈ wordsOf cs) : w ≠ [] := by
  obtain ⟨p, -, hp⟩ := List.mem_flatMap.1 hw
  exact ne_nil_of_mem_cutWords .fresh [] p (by simp) w hp

theorem mem_of_mem_wordsOf {cs w : List Char} {c : Char} (hw : w ∈ wordsOf cs) (hc : c ∈ w) :
    c ∈ cs ∧ isAlphanumeric c = true := by
  have h : c ∈ (wordsOf cs).flatten := List.mem_flatten.2 ⟨w, hw, hc⟩
  rw [flatten_wordsOf] at h
  exact List.mem_filter.1 h

/-! ## Words in lowercase -/

theorem mem_lowerWord {w : List Char} {d : Char} (h : d ∈ lowerWord w) :
    d = 'ς' ∨ ∃ c ∈ w, d ∈ toLowercase c := by
  fun_induction lowerWord w with
  | case1 => simp at h
  | case2 =>
    rw [List.mem_singleton] at h
    exact Or.inl h
  | case3 c => exact Or.inr ⟨c, by simp, h⟩
  | case4 c rest _ ih =>
    rcases List.mem_append.1 h with h | h
    · exact Or.inr ⟨c, by simp, h⟩
    · rcases ih h with h | ⟨x, hx, h⟩
      · exact Or.inl h
      · exact Or.inr ⟨x, List.mem_cons_of_mem _ hx, h⟩

/-- The first character of a word in lowercase begins identifiers exactly if the word's does. -/
theorem lowerWord_cons {c : Char} (rest : List Char) (hc : isXidContinue c = true) :
    ∃ d tail, lowerWord (c :: rest) = d :: tail ∧ isXidStart d = isXidStart c := by
  -- The class of a character is kept whatever follows it in the word.
  have key : ∀ more : List Char, ∃ d tail,
      toLowercase c ++ more = d :: tail ∧ isXidStart d = isXidStart c := by
    intro more
    rcases toLowercase_of_isXidContinue hc with h | ⟨hs, d, tail, h, hd, -⟩
    · exact ⟨c, more, by rw [h]; rfl, rfl⟩
    · exact ⟨d, tail ++ more, by rw [h]; rfl, by rw [hd, hs]⟩
  cases rest with
  | cons next rest => exact key (lowerWord (next :: rest))
  | nil =>
    unfold lowerWord
    by_cases h : c = 'Σ'
    · subst h
      exact ⟨'ς', [], rfl, by decide⟩
    · rw [if_neg h]
      simpa using key []

theorem lowerWord_ne_nil {w : List Char} (hw : w ≠ []) : lowerWord w ≠ [] := by
  fun_induction lowerWord w with
  | case1 => exact hw
  | case2 => simp
  | case3 c => exact toLowercase_ne_nil c
  | case4 c rest _ _ =>
    intro h
    exact toLowercase_ne_nil c (List.append_eq_nil_iff.1 h).1

/-- Words in lowercase hold neither the separator nor the sign of a raw name. -/
theorem ne_of_mem_lowerWord {cs w : List Char} {d : Char} (hw : w ∈ wordsOf cs)
    (hd : d ∈ lowerWord w) : d ≠ '_' ∧ d ≠ '#' := by
  rcases mem_lowerWord hd with rfl | ⟨c, hc, hd⟩
  · decide
  · rcases mem_toLowercase hd with rfl | hlo
    · -- The character is its own lowercase form, and the two signs are no letters.
      have ha := (mem_of_mem_wordsOf hw hc).2
      constructor
      · rintro rfl
        exact absurd ha (by decide)
      · rintro rfl
        exact absurd ha (by decide)
    · constructor
      · rintro rfl
        exact absurd hlo (by decide)
      · rintro rfl
        exact absurd hlo (by decide)

/-! ## Words with separators between them -/

theorem mem_intercalate {sep : List Char} {ws : List (List Char)} {d : Char}
    (h : d ∈ List.intercalate sep ws) : d ∈ sep ∨ ∃ w ∈ ws, d ∈ w := by
  induction ws with
  | nil => simp at h
  | cons w ws ih =>
    cases ws with
    | nil =>
      rw [List.intercalate_singleton] at h
      exact Or.inr ⟨w, by simp, h⟩
    | cons w' ws =>
      rw [List.intercalate_cons_cons, List.append_assoc, List.mem_append, List.mem_append] at h
      rcases h with h | h | h
      · exact Or.inr ⟨w, by simp, h⟩
      · exact Or.inl h
      · rcases ih h with h | ⟨v, hv, h⟩
        · exact Or.inl h
        · exact Or.inr ⟨v, List.mem_cons_of_mem _ hv, h⟩

theorem intercalate_ne_nil {sep w : List Char} {ws : List (List Char)} (hw : w ≠ []) :
    List.intercalate sep (w :: ws) ≠ [] := by
  cases ws with
  | nil => simpa using hw
  | cons w' ws =>
    rw [List.intercalate_cons_cons, List.append_assoc]
    exact List.append_ne_nil_of_left_ne_nil hw _

/-- Where no word is empty, the last character is the last one of a word. -/
theorem getLast?_intercalate {sep : List Char} {ws : List (List Char)} (hne : ∀ w ∈ ws, w ≠ [])
    {d : Char} (h : (List.intercalate sep ws).getLast? = some d) : ∃ w ∈ ws, d ∈ w := by
  induction ws with
  | nil => simp at h
  | cons w ws ih =>
    cases ws with
    | nil =>
      rw [List.intercalate_singleton] at h
      exact ⟨w, by simp, List.mem_of_getLast? h⟩
    | cons w' ws =>
      -- What follows the separator is not empty, so the last character is there.
      have hw' : List.intercalate sep (w' :: ws) ≠ [] := intercalate_ne_nil (hne w' (by simp))
      rw [List.intercalate_cons_cons, List.getLast?_append, List.getLast?_eq_some_getLast hw',
        Option.some_or, ← List.getLast?_eq_some_getLast hw'] at h
      obtain ⟨v, hv, hd⟩ := ih (fun v hv => hne v (List.mem_cons_of_mem _ hv)) h
      exact ⟨v, List.mem_cons_of_mem _ hv, hd⟩

/-! ## Names in snake case -/

/-- A name in snake case holds no hash sign. -/
theorem hash_not_mem_snakeChars (cs : List Char) : '#' ∉ snakeChars cs := by
  intro h
  rcases mem_intercalate h with h | ⟨v, hv, hd⟩
  · exact absurd h (by decide)
  · obtain ⟨w, hw, rfl⟩ := List.mem_map.1 hv
    exact (ne_of_mem_lowerWord hw hd).2 rfl

/-- **A name in snake case does not end in an underscore.** -/
theorem getLast?_snakeChars (cs : List Char) : (snakeChars cs).getLast? ≠ some '_' := by
  intro h
  have hne : ∀ v ∈ (wordsOf cs).map lowerWord, v ≠ [] := by
    intro v hv
    obtain ⟨w, hw, rfl⟩ := List.mem_map.1 hv
    exact lowerWord_ne_nil (ne_nil_of_mem_wordsOf hw)
  obtain ⟨v, hv, hd⟩ := getLast?_intercalate hne h
  obtain ⟨w, hw, rfl⟩ := List.mem_map.1 hv
  exact (ne_of_mem_lowerWord hw hd).1 rfl

/-- **Snake case keeps the characters of identifiers.** -/
theorem isXidContinue_snakeChars {cs : List Char} (h : ∀ c ∈ cs, isXidContinue c = true) :
    ∀ d ∈ snakeChars cs, isXidContinue d = true := by
  intro d hd
  rcases mem_intercalate hd with hd | ⟨v, hv, hd⟩
  · rw [List.mem_singleton] at hd
    subst hd
    decide
  · obtain ⟨w, hw, rfl⟩ := List.mem_map.1 hv
    rcases mem_lowerWord hd with rfl | ⟨c, hc, hd⟩
    · decide
    · have hcont := h c (mem_of_mem_wordsOf hw hc).1
      rcases toLowercase_of_isXidContinue hcont with hl | ⟨-, e, rest, hl, he, hrest⟩
      · rw [hl, List.mem_singleton] at hd
        subst hd
        exact hcont
      · rw [hl] at hd
        rcases List.mem_cons.1 hd with rfl | hd
        · exact isXidContinue_of_isXidStart he
        · exact hrest d hd

/-- **Where snake case begins.** A name without letters and numerals has the empty form; any other
form begins an identifier exactly if the first letter or numeral of the name does, and never with an
underscore. -/
theorem snakeChars_cases {cs : List Char} (h : ∀ c ∈ cs, isXidContinue c = true) :
    (cs.find? isAlphanumeric = none ∧ snakeChars cs = []) ∨
      ∃ c d tail, cs.find? isAlphanumeric = some c ∧ snakeChars cs = d :: tail ∧ d ≠ '_' ∧
        isXidStart d = isXidStart c := by
  have hflat := flatten_wordsOf cs
  have hnil := fun w (hw : w ∈ wordsOf cs) => ne_nil_of_mem_wordsOf hw
  unfold snakeChars
  rw [← List.head?_filter, ← hflat]
  cases hws : wordsOf cs with
  | nil => exact Or.inl ⟨rfl, rfl⟩
  | cons w ws =>
    rw [hws] at hnil hflat
    cases w with
    | nil => exact absurd rfl (hnil [] (by simp))
    | cons c w =>
      -- The first letter or numeral of the name is the first character of the first word.
      have hc : c ∈ cs := (mem_of_mem_wordsOf (w := c :: w) (by rw [hws]; simp) (by simp)).1
      obtain ⟨d, tail, hd, hs⟩ := lowerWord_cons w (h c hc)
      have hline : d ≠ '_' :=
        (ne_of_mem_lowerWord (w := c :: w) (by rw [hws]; simp) (by rw [hd]; simp)).1
      rw [List.map_cons, hd]
      cases ws with
      | nil => exact Or.inr ⟨c, d, tail, rfl, List.intercalate_singleton, hline, hs⟩
      | cons v ws =>
        rw [List.map_cons, List.intercalate_cons_cons, List.append_assoc, List.cons_append]
        exact Or.inr ⟨c, d, _, rfl, rfl, hline, hs⟩

end DispatchLayer.Text
