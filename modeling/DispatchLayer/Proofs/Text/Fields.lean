import DispatchLayer.Text.Fields

/-!
# Cutting at a separator

How the fields of a line are cut. Cutting is the library's splitting of a list at an element
(`fields_eq_splitOn`), so a line without a separator is one field (`fields_of_not_mem`), and a
separator ends one field and begins the next (`fields_append_sep`).

The fields of a line are its only pieces: whatever pieces hold no separator and give the line when
they are joined are the fields (`fields_eq_iff`).
-/

namespace DispatchLayer.Text

variable {sep : Char}

theorem fields_eq_splitOn (sep : Char) (cs : List Char) : fields sep cs = cs.splitOn sep := by
  induction cs with
  | nil => rfl
  | cons c cs ih =>
    rw [fields, List.splitOn_cons_eq_if_modifyHead, ih]
    by_cases hc : c = sep
    · rw [if_pos hc, if_pos (beq_iff_eq.2 hc)]
    · rw [if_neg hc, if_neg (by simpa using hc)]
      cases hs : cs.splitOn sep with
      | nil => exact absurd hs (List.splitOn_ne_nil sep cs)
      | cons f fs => rfl

theorem fields_of_not_mem {cs : List Char} (h : sep ∉ cs) : fields sep cs = [cs] := by
  rw [fields_eq_splitOn]
  exact List.splitOn_eq_singleton h

/-- **A separator cuts**: the fields of what stands before it, and those of what comes after it. -/
theorem fields_append_sep (cs rest : List Char) :
    fields sep (cs ++ sep :: rest) = fields sep cs ++ fields sep rest := by
  rw [fields_eq_splitOn, fields_eq_splitOn, fields_eq_splitOn]
  exact List.splitOn_append_cons_self cs rest

theorem not_mem_of_mem_fields {cs f : List Char} (h : f ∈ fields sep cs) : sep ∉ f := by
  induction cs generalizing f with
  | nil =>
    obtain rfl := List.mem_singleton.1 h
    exact List.not_mem_nil
  | cons c cs ih =>
    rw [fields] at h
    split at h
    · -- A separator adds a field with nothing in it.
      rcases List.mem_cons.1 h with rfl | h
      · exact List.not_mem_nil
      · exact ih h
    · next hc =>
      -- Any other character goes in front of the first field, and changes no other.
      cases hf : fields sep cs with
      | nil => exact absurd hf (fields_ne_nil sep cs)
      | cons g gs =>
        rw [hf] at h ih
        rcases List.mem_cons.1 h with rfl | h
        · intro hm
          rcases List.mem_cons.1 hm with rfl | hm
          · exact hc rfl
          · exact ih List.mem_cons_self hm
        · exact ih (List.mem_cons_of_mem g h)

/-- **The fields of a line are its only pieces** without a separator. -/
theorem fields_eq_iff {cs : List Char} {fs : List (List Char)} :
    fields sep cs = fs ↔ fs ≠ [] ∧ (∀ f ∈ fs, sep ∉ f) ∧ joinFields sep fs = cs := by
  constructor
  · rintro rfl
    exact ⟨fields_ne_nil sep cs, fun f hf => not_mem_of_mem_fields hf, joinFields_fields sep cs⟩
  · rintro ⟨hne, hsep, rfl⟩
    rw [fields_eq_splitOn]
    exact List.splitOn_intercalate sep hsep hne

end DispatchLayer.Text
