import DispatchLayer.Code.StringLiteral
import DispatchLayer.Text.Quoted
import Mathlib.Tactic.SplitIfs

/-!
# A string literal stands for its text

Writing a text as a string literal loses nothing: the literal stands for that text again
(`stringLiteralText?_stringLiteral`). Character by character, the decoder comes back to the body
with exactly the character that was written, whichever of the escapes was used.
-/

namespace DispatchLayer.Code

open Scan Text

/-- A character that stands for none on its own. -/
theorem decodeChars_skip {s t : DecodeState} {c : Char} (h : decodeStep s c = some ([], t))
    (cs : List Char) : decodeChars s (c :: cs) = decodeChars t cs := by
  rw [decodeChars, h]
  rfl

/-- A character that completes another one, or is itself. -/
theorem decodeChars_give {s t : DecodeState} {c d : Char} (h : decodeStep s c = some ([d], t))
    (cs : List Char) : decodeChars s (c :: cs) = d :: decodeChars t cs := by
  rw [decodeChars, h]
  rfl

theorem hexValue?_digitChar {n : Nat} (h : n < 16) : hexValue? n.digitChar = some n := by
  have hall : ∀ m : Fin 16, hexValue? m.val.digitChar = some m.val := by decide
  exact hall ⟨n, h⟩

/-- The digits of a number are read back as the number. -/
theorem decodeChars_toDigits (n : Nat) (rest : List Char) :
    decodeChars (.codePoint 0) (Nat.toDigits 16 n ++ rest) = decodeChars (.codePoint n) rest := by
  induction n using Nat.strongRecOn generalizing rest with
  | ind n ih =>
    -- The last digit is read after those of the quotient.
    have last : ∀ v d : Nat, d < 16 →
        decodeChars (.codePoint v) (d.digitChar :: rest) =
          decodeChars (.codePoint (v * 16 + d)) rest := by
      intro v d hd
      have hs : decodeStep (.codePoint v) d.digitChar = some ([], .codePoint (v * 16 + d)) := by
        simp [decodeStep, hexValue?_digitChar hd]
      exact decodeChars_skip hs rest
    rw [Nat.toDigits_eq_if (by decide)]
    by_cases hn : n < 16
    · rw [if_pos hn, List.singleton_append, last 0 n hn, Nat.zero_mul, Nat.zero_add]
    · rw [if_neg hn, List.append_assoc, ih (n / 16) (by omega), List.singleton_append,
        last _ _ (Nat.mod_lt n (by decide)), Nat.mul_comm, Nat.div_add_mod]

/-- A character spelled by its code point. -/
theorem decodeChars_codePointEscape (c : Char) (rest : List Char) :
    decodeChars .body (codePointEscape c ++ rest) = c :: decodeChars .body rest := by
  have close : decodeStep (.codePoint c.toNat) '\x7d' = some ([c], .body) := by
    have hv : hexValue? '\x7d' = none := by decide
    simp [decodeStep, hv]
  unfold codePointEscape
  rw [List.append_assoc, List.append_assoc, List.cons_append, List.cons_append, List.cons_append,
    List.nil_append, List.singleton_append, decodeChars_skip (t := .escape) rfl,
    decodeChars_skip (t := .codePointOpen) rfl, decodeChars_skip (t := .codePoint 0) rfl,
    decodeChars_toDigits, decodeChars_give close]

/-- A character with a one-character escape. -/
theorem decodeChars_escaped {c d : Char} (h : escapedBy? c = some d) (rest : List Char) :
    decodeChars .body ('\\' :: c :: rest) = d :: decodeChars .body rest := by
  have hs : decodeStep .escape c = some ([d], .body) := by simp [decodeStep, h]
  rw [decodeChars_skip (t := .escape) rfl, decodeChars_give hs]

/-- A character of a quotation, whichever way it is written. -/
theorem decodeChars_escapedChar (c : Char) (rest : List Char) :
    decodeChars .body (escapedChar c ++ rest) = c :: decodeChars .body rest := by
  have plain : c ≠ '"' → c ≠ '\\' → c ≠ '\r' →
      decodeChars .body (c :: rest) = c :: decodeChars .body rest := by
    intro hq hb hr
    have hs : decodeStep .body c = some ([c], .body) := by simp [decodeStep, decodeBody, hq, hb, hr]
    exact decodeChars_give hs rest
  unfold escapedChar
  -- Six characters have an escape of one character; the others show, or are spelled out.
  split_ifs with h0 ht hr hn hq hb hg hp
  · rw [h0]
    exact decodeChars_escaped rfl rest
  · rw [ht]
    exact decodeChars_escaped rfl rest
  · rw [hr]
    exact decodeChars_escaped rfl rest
  · rw [hn]
    exact decodeChars_escaped rfl rest
  · rw [hq]
    exact decodeChars_escaped rfl rest
  · rw [hb]
    exact decodeChars_escaped rfl rest
  · exact decodeChars_codePointEscape c rest
  · exact plain hq hb hr
  · exact decodeChars_codePointEscape c rest

/-- The inside of a literal is read back, up to what follows it. -/
theorem decodeChars_literalChars (cs rest : List Char) :
    decodeChars .body (literalChars cs ++ rest) = cs ++ decodeChars .body rest := by
  induction cs with
  | nil => rfl
  | cons c cs ih =>
    rw [literalChars, List.append_assoc]
    by_cases h0 : c = '\x00'
    · rw [if_pos h0, h0]
      split_ifs
      · -- The long form keeps an octal digit that follows apart.
        exact congrArg ('\x00' :: ·) ih
      · rw [List.cons_append, List.singleton_append, decodeChars_escaped rfl, ih]
        rfl
    · rw [if_neg h0, decodeChars_escapedChar, ih]
      rfl

/-- **A string literal stands for its text.** -/
theorem stringLiteralText?_stringLiteral (s : String) :
    stringLiteralText? (stringLiteral s) = some s := by
  have hd : decodeChars .body (literalChars s.toList ++ ['"']) = s.toList := by
    rw [decodeChars_literalChars]
    exact List.append_nil _
  unfold stringLiteralText? stringLiteral
  rw [String.toList_ofList]
  show some (String.ofList (decodeChars .body (literalChars s.toList ++ ['"']))) = some s
  rw [hd, String.ofList_toList]

end DispatchLayer.Code
