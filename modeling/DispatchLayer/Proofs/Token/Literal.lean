import DispatchLayer.Proofs.Code.StringLiteral
import DispatchLayer.Proofs.Token.Scan
import Mathlib.Data.Nat.Digits.Lemmas

/-!
# Literals in front of a stop

The literals of generated code are read back to their last character, whatever stop follows them:
string literals of any text (`readsAsLiteral_stringLiteral`), raw strings of texts without quotes
and carriage returns (`readsAsLiteral_raw`), and the position of a tuple's first field
(`readsAsLiteral_zero`).
-/

namespace DispatchLayer.Scan

open Text Code

/-- The characters are a literal, and in front of a stop they are read as that literal. -/
structure ReadsAsLiteral (text : List Char) : Prop where
  opens : ∀ c, text.head? = some c → c ∈ ['"', 'r', '0']
  reads : ∀ rest, Stops rest → scanLiteral (text ++ rest) = some (text, rest)

theorem ReadsAsLiteral.ne_nil {text : List Char} (h : ReadsAsLiteral text) : text ≠ [] := by
  rintro rfl
  exact absurd (h.reads [] .nil) (by decide)

theorem pushAll_pushAll (as bs : List Char) (s : Split) :
    pushAll as (pushAll bs s) = pushAll (as ++ bs) s := by
  unfold pushAll
  cases s with
  | none => rfl
  | some p => simp

theorem withSuffix_of_stops {text rest : List Char} (hs : Stops rest) :
    withSuffix (some (text, rest)) = some (text, rest) := by
  unfold withSuffix
  dsimp only
  rw [scanName_eq_none_of_stops hs]

/-! ## Quoted text -/

theorem scanQuoted_move {k : StringKind} {s t : QuoteState} {c : Char}
    (h : quoteStep k s c = .move t) (cs : List Char) :
    scanQuoted k s (c :: cs) = pushAll [c] (scanQuoted k t cs) := by
  rw [scanQuoted, h]
  rfl

/-- The digits of a number that has few enough of them are read as the number. -/
theorem scanQuoted_toDigits (n : Nat) (h : (Nat.toDigits 16 n).length ≤ 6) (rest : List Char) :
    scanQuoted .text (.codePoint 0 0) (Nat.toDigits 16 n ++ rest) =
      pushAll (Nat.toDigits 16 n)
        (scanQuoted .text (.codePoint (Nat.toDigits 16 n).length n) rest) := by
  induction n using Nat.strongRecOn generalizing rest with
  | ind n ih =>
    have last : ∀ digits v d : Nat, digits ≠ 6 → d < 16 →
        scanQuoted .text (.codePoint digits v) (d.digitChar :: rest) =
          pushAll [d.digitChar] (scanQuoted .text (.codePoint (digits + 1) (v * 16 + d)) rest) := by
      intro digits v d hdigits hd
      have hs : quoteStep .text (.codePoint digits v) d.digitChar =
          .move (.codePoint (digits + 1) (v * 16 + d)) := by
        simp [quoteStep, codePointStep, hexValue?_digitChar hd, hdigits]
      exact scanQuoted_move hs rest
    rw [Nat.toDigits_eq_if (by decide)] at h ⊢
    -- The last digit is read behind those of the quotient.
    by_cases hn : n < 16
    · rw [if_pos hn, List.singleton_append, last 0 0 n (by decide) hn, Nat.zero_mul, Nat.zero_add n]
      rfl
    · rw [if_neg hn, List.length_append, List.length_singleton] at h
      rw [if_neg hn, List.append_assoc, ih (n / 16) (by omega) (by omega), List.singleton_append,
        last _ _ _ (by omega) (Nat.mod_lt n (by decide)), pushAll_pushAll, Nat.mul_comm,
        Nat.div_add_mod, List.length_append, List.length_singleton]

theorem isScalar_toNat (c : Char) : isScalar c.toNat = true := by
  unfold isScalar
  rcases c.valid with h | ⟨hlo, hhi⟩
  · have hn : c.toNat < 0xD800 := h
    simp [hn]
  · have hl : 0xDFFF < c.toNat := hlo
    have hh : c.toNat < 0x110000 := hhi
    simp [hl, hh]

/-- A character spelled by its code point, of which no character has more than six digits. -/
theorem scanQuoted_codePointEscape (c : Char) (rest : List Char) :
    scanQuoted .text .body (codePointEscape c ++ rest) =
      pushAll (codePointEscape c) (scanQuoted .text .body rest) := by
  have hlt : c.toNat < 16 ^ 6 := by
    rcases c.valid with h | ⟨-, h⟩
    · have hn : c.toNat < 0xD800 := h
      omega
    · have hn : c.toNat < 0x110000 := h
      omega
  have hlen : (Nat.toDigits 16 c.toNat).length ≤ 6 :=
    (Nat.length_toDigits_le_iff (by decide) (by decide)).2 hlt
  have hne : (Nat.toDigits 16 c.toNat).length ≠ 0 := by
    rw [Nat.toDigits_eq_if (by decide)]
    split
    · simp
    · simp
  have close : quoteStep .text (.codePoint (Nat.toDigits 16 c.toNat).length c.toNat) '\x7d' =
      .move .body := by
    have hv : hexValue? '\x7d' = none := by decide
    unfold quoteStep codePointStep
    dsimp only
    rw [hv]
    dsimp only
    rw [if_neg hne, if_neg (by decide), if_pos rfl, isScalar_toNat]
    rfl
  unfold codePointEscape
  rw [List.append_assoc, List.append_assoc, List.cons_append, List.cons_append, List.cons_append,
    List.nil_append, List.singleton_append, scanQuoted_move (t := .escape) rfl,
    scanQuoted_move (t := .codePointOpen) rfl, scanQuoted_move (t := .codePoint 0 0) rfl,
    scanQuoted_toDigits _ hlen, scanQuoted_move close]
  simp only [pushAll_pushAll, List.cons_append, List.nil_append]

/-- A character with a one-character escape. -/
theorem scanQuoted_escaped {c : Char} (h : quoteStep .text .escape c = .move .body)
    (rest : List Char) :
    scanQuoted .text .body ('\\' :: c :: rest) =
      pushAll ['\\', c] (scanQuoted .text .body rest) := by
  rw [scanQuoted_move (t := .escape) rfl, scanQuoted_move h, pushAll_pushAll]
  rfl

/-- A character of a quotation, whichever way it is written. -/
theorem scanQuoted_escapedChar (c : Char) (rest : List Char) :
    scanQuoted .text .body (escapedChar c ++ rest) =
      pushAll (escapedChar c) (scanQuoted .text .body rest) := by
  unfold escapedChar
  split_ifs with h0 ht hr hn hq hb hg hp
  · exact scanQuoted_escaped rfl rest
  · exact scanQuoted_escaped rfl rest
  · exact scanQuoted_escaped rfl rest
  · exact scanQuoted_escaped rfl rest
  · exact scanQuoted_escaped rfl rest
  · exact scanQuoted_escaped rfl rest
  · exact scanQuoted_codePointEscape c rest
  · have hs : quoteStep .text .body c = .move .body := by
      simp [quoteStep, bodyStep, hq, hr, hb, StringKind.allows]
    exact scanQuoted_move hs rest
  · exact scanQuoted_codePointEscape c rest

/-- The inside of a string literal, whatever its text. -/
theorem scanQuoted_literalChars (cs rest : List Char) :
    scanQuoted .text .body (literalChars cs ++ rest) =
      pushAll (literalChars cs) (scanQuoted .text .body rest) := by
  induction cs with
  | nil =>
    unfold pushAll literalChars
    rw [List.nil_append]
    cases scanQuoted .text .body rest with
    | none => rfl
    | some p => rfl
  | cons c cs ih =>
    rw [literalChars, List.append_assoc]
    split_ifs with h0 ho
    · -- The long form of the null character.
      show scanQuoted .text .body ('\\' :: 'x' :: '0' :: '0' :: (literalChars cs ++ rest)) = _
      rw [scanQuoted_move (t := .escape) rfl, scanQuoted_move (t := .hexFirst) rfl,
        scanQuoted_move (t := .hexSecond '0') rfl, scanQuoted_move (t := .body) rfl, ih]
      simp only [pushAll_pushAll]
      rfl
    · rw [List.cons_append, List.singleton_append, scanQuoted_escaped rfl, ih, pushAll_pushAll]
    · rw [scanQuoted_escapedChar, ih, pushAll_pushAll]

/-- **A string literal is read back whole**, whatever its text. -/
theorem readsAsLiteral_stringLiteral (s : String) :
    ReadsAsLiteral (stringLiteral s).toList := by
  unfold stringLiteral
  rw [String.toList_ofList, List.append_assoc]
  refine ⟨fun c h => by cases h; decide, fun rest hs => ?_⟩
  have hq : scanQuoted .text .body (literalChars s.toList ++ ('"' :: rest)) =
      some (literalChars s.toList ++ ['"'], rest) := by
    rw [scanQuoted_literalChars]
    rfl
  rw [List.append_assoc, List.append_assoc]
  show orElse (withSuffix (push '"' (scanQuoted .text .body (literalChars s.toList ++ ('"' :: rest)))))
    _ = _
  rw [hq]
  show orElse (withSuffix (some ('"' :: (literalChars s.toList ++ ['"']), rest))) _ = _
  rw [withSuffix_of_stops hs]
  rfl

/-! ## Raw strings and positions -/

/-- A text that can stand in a raw string without hash signs. -/
def isRawText (text : String) : Bool := text.toList.all fun c => c != '"' && c != '\r'

theorem scanRawBody_append {cs : List Char} (h : (cs.all fun c => c != '"' && c != '\r') = true)
    (rest : List Char) :
    scanRawBody .text [] (cs ++ '"' :: rest) = some (cs ++ ['"'], rest) := by
  induction cs with
  | nil => rfl
  | cons c cs ih =>
    rw [List.all_cons, Bool.and_eq_true, Bool.and_eq_true, bne_iff_ne, bne_iff_ne] at h
    obtain ⟨⟨hq, hr⟩, hcs⟩ := h
    rw [List.cons_append, scanRawBody, if_neg (fun hc => hq hc.1), if_neg (fun hc => hr hc.1),
      ih hcs]
    rfl

/-- A raw string without quotes and carriage returns. -/
theorem readsAsLiteral_raw {text : String} (h : isRawText text = true) :
    ReadsAsLiteral ("r\"" ++ text ++ "\"").toList := by
  rw [String.toList_append, String.toList_append]
  refine ⟨fun c h => by cases h; decide, fun rest hs => ?_⟩
  have hr : scanRaw .text ('"' :: (text.toList ++ '"' :: rest)) =
      some ('"' :: (text.toList ++ ['"']), rest) := by
    show pushAll ['"'] (scanRawBody .text [] (text.toList ++ '"' :: rest)) = _
    rw [scanRawBody_append h]
    rfl
  rw [List.append_assoc, List.append_assoc]
  show orElse (withSuffix (push 'r' (scanRaw .text ('"' :: (text.toList ++ '"' :: rest))))) _ = _
  rw [hr]
  show orElse (withSuffix (some ('r' :: '"' :: (text.toList ++ ['"']), rest))) _ = _
  rw [withSuffix_of_stops hs]
  rfl

/-- The position of a tuple's first field. -/
theorem readsAsLiteral_zero : ReadsAsLiteral ['0'] := by
  refine ⟨fun c h => by cases h; decide, fun rest hs => ?_⟩
  have hnum : scanFloatDigits ('0' :: rest) = none ∧
      scanIntDigits ('0' :: rest) = some (['0'], rest) := by
    -- One case for the end, and one for each stop.
    cases rest with
    | nil => exact ⟨rfl, rfl⟩
    | cons c rest =>
      have hc := hs c rfl
      simp only [stopChars, List.mem_cons, List.not_mem_nil, or_false] at hc
      rcases hc with rfl | rfl | rfl | rfl
      · exact ⟨rfl, rfl⟩
      · exact ⟨rfl, rfl⟩
      · exact ⟨rfl, rfl⟩
      · exact ⟨rfl, rfl⟩
  have hsuffix : withNumberSuffix (some (['0'], rest)) = some (['0'], rest) := by
    unfold withNumberSuffix
    rw [withSuffix_of_stops hs]
    cases rest with
    | nil => rfl
    | cons c rest =>
      dsimp only
      rw [show isNameContinue c = false from hs.isXidContinue rfl]
      rfl
  show orElse none (fun _ => orElse (withNumberSuffix (scanFloatDigits ('0' :: rest))) fun _ =>
    withNumberSuffix (scanIntDigits ('0' :: rest))) = _
  rw [hnum.1, hnum.2, hsuffix]
  rfl

end DispatchLayer.Scan
