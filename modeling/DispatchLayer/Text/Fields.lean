import DispatchLayer.Unicode.Blank

/-!
# Fields of a line

Trimming, cutting at a separator, and putting fields together again. White space is the Unicode
property, so a no-break space is trimmed and a zero-width space is not.

Cutting never loses the separator: there is one field more than there are separators, and joining
the fields gives the line back (`joinFields_fields`).
-/

namespace DispatchLayer.Text

open Unicode

/-- The characters without the white space at both ends. -/
def trimChars (cs : List Char) : List Char :=
  ((cs.dropWhile isWhiteSpace).reverse.dropWhile isWhiteSpace).reverse

/-- The text without the white space at both ends. -/
def trim (s : String) : String := String.ofList (trimChars s.toList)

/-- The pieces between the separators, in order; a line without separators is one piece. -/
def fields (sep : Char) : List Char → List (List Char)
  | [] => [[]]
  | c :: cs =>
    if c = sep then [] :: fields sep cs
    else match fields sep cs with
      | [] => [[c]]
      | f :: fs => (c :: f) :: fs

/-- The pieces with a separator between neighbours. -/
def joinFields (sep : Char) (fs : List (List Char)) : List Char :=
  List.intercalate [sep] fs

theorem fields_ne_nil (sep : Char) : ∀ cs : List Char, fields sep cs ≠ []
  | [] => by simp [fields]
  | c :: cs => by
    unfold fields
    split
    · simp
    · split <;> simp

/-- **Cutting keeps everything:** joining the fields of a line gives the line. -/
theorem joinFields_fields (sep : Char) : ∀ cs : List Char, joinFields sep (fields sep cs) = cs
  | [] => by simp [fields, joinFields, List.intercalate]
  | c :: cs => by
    have ih := joinFields_fields sep cs
    have hne := fields_ne_nil sep cs
    unfold fields
    split
    · rename_i h
      subst h
      cases hf : fields c cs with
      | nil => exact absurd hf hne
      | cons f fs => simpa [joinFields, List.intercalate, hf] using ih
    · cases hf : fields sep cs with
      | nil => exact absurd hf hne
      | cons f fs =>
        rw [hf] at ih
        cases fs <;> simpa [joinFields, List.intercalate] using ih

end DispatchLayer.Text
