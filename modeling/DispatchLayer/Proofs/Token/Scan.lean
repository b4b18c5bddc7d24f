import DispatchLayer.Proofs.Emission.Names
import DispatchLayer.Text.Quoted
import DispatchLayer.Token.Lexer

/-!
# Names and literals in front of a stop

On a line of tokens every name and every literal is followed by a space, a closing bracket or the
end of the line (`Stops`). In front of a stop a name is recognised as itself, and as no literal
(`scanIdent_append`, `scanLiteral_eq_none_of_isSourceName`), and a literal is recognised up to its
end: string literals of any text, raw strings without quotes, and single digits
(`ReadsAsLiteral`).
-/

set_option maxRecDepth 20000

namespace DispatchLayer.Scan

open Unicode Name

/-! ## Checks of characters -/

/-- What has been checked for all members of a list. -/
theorem forall_mem_of_all {α : Type} {P : α → Prop} [DecidablePred P] {as : List α}
    (h : (as.all fun a => decide (P a)) = true) : ∀ a ∈ as, P a :=
  fun a ha => of_decide_eq_true (List.all_eq_true.1 h a ha)

/-- What has been found among the members of a list. -/
theorem exists_mem_of_any {α : Type} {P : α → Prop} [DecidablePred P] {as : List α}
    (h : (as.any fun a => decide (P a)) = true) : ∃ a ∈ as, P a := by
  obtain ⟨a, ha, hP⟩ := List.any_eq_true.1 h
  exact ⟨a, ha, of_decide_eq_true hP⟩

/-! ## Stops -/

/-- The characters that end whatever stands before them. -/
def stopChars : List Char := [' ', '\n', ')', ']']

/-- The text is over, or goes on with a character that ends whatever stands before it. -/
def Stops (cs : List Char) : Prop := ∀ c, cs.head? = some c → c ∈ stopChars

theorem Stops.nil : Stops [] := by
  intro c h
  cases h

theorem Stops.cons {c : Char} {cs : List Char} (h : c ∈ stopChars) : Stops (c :: cs) := by
  intro d hd
  cases hd
  exact h

theorem isXidContinue_of_mem_stopChars : ∀ c ∈ stopChars, isXidContinue c = false :=
  forall_mem_of_all (by decide)

theorem Stops.isXidContinue {cs : List Char} (h : Stops cs) {c : Char} (hc : cs.head? = some c) :
    isXidContinue c = false := isXidContinue_of_mem_stopChars c (h c hc)

/-- A character class without stops ends where a text stops. -/
theorem Stops.takeWhile_append {p : Char → Bool} (hp : ∀ c ∈ stopChars, p c = false)
    {cs rest : List Char} (hcs : ∀ c ∈ cs, p c = true) (h : Stops rest) :
    (cs ++ rest).takeWhile p = cs ∧ (cs ++ rest).dropWhile p = rest := by
  induction cs with
  | nil =>
    cases rest with
    | nil => exact ⟨rfl, rfl⟩
    | cons c rest =>
      have hc := hp c (h c rfl)
      simp [hc]
  | cons c cs ih =>
    obtain ⟨ht, hd⟩ := ih fun d hd => hcs d (List.mem_cons_of_mem c hd)
    have hc := hcs c (List.mem_cons_self)
    simp [hc, ht, hd]

/-- What is at the front of a text and holds no stop is at the front of what stands before it. -/
theorem Stops.prefix_of_prefix_append {p cs rest : List Char} (hp : ∀ c ∈ p, c ∉ stopChars)
    (h : Stops rest) (hpre : p <+: cs ++ rest) : p <+: cs := by
  rcases List.prefix_or_prefix_of_prefix hpre (List.prefix_append cs rest) with hl | hl
  · exact hl
  -- The front would go on beyond the text and hold the stop behind it.
  · obtain ⟨more, rfl⟩ := hl
    rw [List.prefix_append_right_inj] at hpre
    cases more with
    | nil => exact ⟨[], by rw [List.append_nil, List.append_nil]⟩
    | cons c more =>
      obtain ⟨rest', rfl⟩ := hpre
      exact absurd (h c rfl) (hp c (by simp))

/-! ## Characters of names -/

/-- Characters that no name holds. -/
def foreignChars : List Char := "/\"'#()[]\x7b\x7d \n~!@$%^&*-=+|;:,<.>?\u200e\u200f\\".toList

theorem isXidContinue_of_mem_foreignChars : ∀ c ∈ foreignChars, isXidContinue c = false :=
  forall_mem_of_all (by decide)

theorem not_mem_foreignChars {c : Char} (h : isXidContinue c = true) : c ∉ foreignChars := by
  intro hm
  rw [isXidContinue_of_mem_foreignChars c hm] at h
  cases h

theorem isXidContinue_of_isNameStart {c : Char} (h : isNameStart c = true) :
    isXidContinue c = true :=
  isXidContinue_of_isIdentifier (isIdentifier_cons.2 ⟨h, List.forall_mem_nil _⟩) c List.mem_cons_self

theorem not_isWhiteSpace_of_isNameStart {c : Char} (h : isNameStart c = true) :
    isWhiteSpace c = false := by
  have hranges : ∀ r ∈ whiteSpace, xidStart.misses r.1 r.2 = true := by decide
  rw [Bool.eq_false_iff]
  intro hw
  obtain ⟨r, hr, hlo, hhi⟩ := RangeTable.exists_of_holds hw
  rcases Bool.or_eq_true_iff.1 h with hl | hs
  · rw [eq_of_beq hl] at hw
    revert hw
    decide
  · have hm := RangeTable.not_holds_of_misses hlo hhi (hranges r hr)
    unfold isXidStart RangeTable.contains at hs
    rw [hm] at hs
    cases hs

/-! ## Names -/

/-- A name as source has it: an identifier, or the mark of a raw name and an identifier that has a
raw form. -/
def isSourceName (cs : List Char) : Bool :=
  isIdentifier cs ||
    match cs with
    | 'r' :: '#' :: name => isIdentifier name && !notRaw.contains (String.ofList name)
    | _ => false

/-- What emission lets pass as a name is one. -/
theorem isSourceName_of_validate {name : String} (h : validate name = .ok ()) :
    isSourceName name.toList = true := by
  unfold validate at h
  unfold isSourceName
  cases hs : splitRaw name with
  | mk raw plain =>
    rw [hs] at h
    unfold splitRaw at hs
    split at hs
    · next rest hl =>
      cases hs
      rw [hl]
      dsimp only at h ⊢
      cases hc : check (String.ofList rest) with
      | error e =>
        rw [hc] at h
        cases h
      | ok u =>
        rw [hc] at h
        dsimp only at h
        have hi := check_eq_ok_iff.1 hc
        rw [String.toList_ofList] at hi
        have hraw : notRaw.contains (String.ofList rest) = false := by
          rw [Bool.eq_false_iff]
          intro hn
          rw [hn] at h
          cases h
        refine Bool.or_eq_true_iff.2 (Or.inr ?_)
        show (isIdentifier rest && !notRaw.contains (String.ofList rest)) = true
        rw [hi, hraw]
        rfl
    · cases hs
      dsimp only at h
      rw [check_eq_ok_iff.1 h]
      rfl

/-- Names of source pass emission. -/
theorem validate_of_isSourceName {name : String} (h : isSourceName name.toList = true) :
    validate name = .ok () := by
  unfold isSourceName at h
  rcases Bool.or_eq_true_iff.1 h with hi | hr
  · have hash : '#' ∉ name.toList := fun hm =>
      not_mem_foreignChars (isXidContinue_of_isIdentifier hi _ hm) (by decide)
    exact (validate_eq_ok_iff hash).2 hi
  · split at hr
    · next raw hl =>
      rw [Bool.and_eq_true, Bool.not_eq_true'] at hr
      have hs : splitRaw name = (true, String.ofList raw) := by
        unfold splitRaw
        split
        · next rest hl' =>
          rw [hl] at hl'
          cases hl'
          rfl
        · next hne => exact absurd hl (hne raw)
      have hc : check (String.ofList raw) = .ok () :=
        check_eq_ok_iff.2 (by rw [String.toList_ofList]; exact hr.1)
      unfold validate
      rw [hs]
      dsimp only
      rw [hc, hr.2]
      rfl
    · cases hr

/-- A name of Latin letters, digits and low lines. -/
def isLatinName (name : String) : Bool :=
  match name.toList with
  | [] => false
  | c :: cs => (c.isAlpha || c == '_') && cs.all fun d => d.isAlphanum || d == '_'

theorem isXidStart_of_isAlpha {c : Char} (h : c.isAlpha = true) : isXidStart c = true := by
  have hlower : xidStart.covers 97 122 = true := by decide
  have hupper : xidStart.covers 65 90 = true := by decide
  unfold Char.isAlpha Char.isUpper Char.isLower at h
  simp only [Bool.or_eq_true, decide_eq_true_eq, Bool.and_eq_true, ge_iff_le,
    UInt32.le_iff_toNat_le] at h
  rcases h with h | h
  · exact RangeTable.holds_of_covers h.1 h.2 hupper
  · exact RangeTable.holds_of_covers h.1 h.2 hlower

theorem isXidContinue_of_isDigit {c : Char} (h : c.isDigit = true) : isXidContinue c = true := by
  have hdigits : xidContinueOnly.covers 48 57 = true := by decide
  simp only [Char.isDigit, Bool.and_eq_true, decide_eq_true_eq, UInt32.le_iff_toNat_le] at h
  exact Bool.or_eq_true_iff.2 (Or.inr (RangeTable.holds_of_covers h.1 h.2 hdigits))

theorem isIdentifier_of_isLatinName {name : String} (h : isLatinName name = true) :
    isIdentifier name.toList = true := by
  have hline : isXidContinue '_' = true := by decide
  unfold isLatinName at h
  split at h
  · cases h
  · next c cs hl =>
    rw [Bool.and_eq_true, List.all_eq_true] at h
    rw [hl]
    refine isIdentifier_cons.2 ⟨?_, fun d hd => ?_⟩
    · rcases Bool.or_eq_true_iff.1 h.1 with hc | hc
      · exact Bool.or_eq_true_iff.2 (Or.inr (isXidStart_of_isAlpha hc))
      · exact Bool.or_eq_true_iff.2 (Or.inl hc)
    · rcases Bool.or_eq_true_iff.1 (h.2 d hd) with hd | hd
      · rcases Bool.or_eq_true_iff.1 hd with hd | hd
        · exact isXidContinue_of_isXidStart (isXidStart_of_isAlpha hd)
        · exact isXidContinue_of_isDigit hd
      · rw [eq_of_beq hd]
        exact hline

theorem isSourceName_of_isLatinName {name : String} (h : isLatinName name = true) :
    isSourceName name.toList = true :=
  Bool.or_eq_true_iff.2 (Or.inl (isIdentifier_of_isLatinName h))

theorem scanName_cons (c : Char) (cs : List Char) :
    scanName (c :: cs) =
      if isNameStart c then some (c :: cs.takeWhile isNameContinue, cs.dropWhile isNameContinue)
      else none := rfl

theorem scanAnyName_raw (cs : List Char) :
    scanAnyName ('r' :: '#' :: cs) =
      match scanName cs with
      | some (name, rest) =>
        if notRaw.contains (String.ofList name) then none else some ('r' :: '#' :: name, rest)
      | none => none := rfl

theorem scanName_append_of_isIdentifier {cs rest : List Char} (h : isIdentifier cs = true)
    (hs : Stops rest) : scanName (cs ++ rest) = some (cs, rest) := by
  cases cs with
  | nil => cases h
  | cons c cs =>
    obtain ⟨hc, hcs⟩ := isIdentifier_cons.1 h
    obtain ⟨ht, hd⟩ := hs.takeWhile_append (p := isNameContinue) isXidContinue_of_mem_stopChars hcs
    rw [List.cons_append, scanName_cons, if_pos hc, ht, hd]

theorem scanName_eq_none_of_stops {rest : List Char} (hs : Stops rest) : scanName rest = none := by
  cases rest with
  | nil => rfl
  | cons c rest =>
    have hc : isNameStart c = false := by
      rw [Bool.eq_false_iff]
      intro hc
      have hx := hs.isXidContinue (c := c) rfl
      rw [isXidContinue_of_isNameStart hc] at hx
      cases hx
    rw [scanName_cons, hc]
    rfl

/-- A name holds no quote and no hash sign, so no literal begins like one. -/
theorem not_prefix_of_isIdentifier {cs rest p : List Char} (h : isIdentifier cs = true)
    (hs : Stops rest) (hp : ∀ c ∈ p, c ∉ stopChars) (hf : ∃ c ∈ p, c ∈ foreignChars) :
    ¬ p <+: cs ++ rest := by
  intro hpre
  obtain ⟨c, hc, hcf⟩ := hf
  have hm := (hs.prefix_of_prefix_append hp hpre).subset hc
  exact not_mem_foreignChars (isXidContinue_of_isIdentifier h c hm) hcf

theorem scanAnyName_append_of_isIdentifier {cs rest : List Char} (h : isIdentifier cs = true)
    (hs : Stops rest) : scanAnyName (cs ++ rest) = some (cs, rest) := by
  have hn := scanName_append_of_isIdentifier h hs
  unfold scanAnyName
  split
  · next after hl =>
    -- The mark of a raw name holds a hash sign.
    have hpre : ['r', '#'] <+: cs ++ rest := ⟨after, hl.symm⟩
    exact absurd hpre (not_prefix_of_isIdentifier h hs (forall_mem_of_all (by decide))
      (exists_mem_of_any (by decide)))
  · exact hn

theorem scanAnyName_append_of_isSourceName {cs rest : List Char} (h : isSourceName cs = true)
    (hs : Stops rest) : scanAnyName (cs ++ rest) = some (cs, rest) := by
  unfold isSourceName at h
  rcases Bool.or_eq_true_iff.1 h with hi | hr
  · exact scanAnyName_append_of_isIdentifier hi hs
  · split at hr
    · next name =>
      rw [Bool.and_eq_true, Bool.not_eq_true'] at hr
      have hn := scanName_append_of_isIdentifier hr.1 hs
      rw [List.cons_append, List.cons_append, scanAnyName_raw, hn]
      dsimp only
      rw [hr.2]
      rfl
    · cases hr

/-- No literal begins like a name. -/
theorem not_literalOpeners_of_isSourceName {cs rest : List Char} (h : isSourceName cs = true)
    (hs : Stops rest) : literalOpeners.any (·.isPrefixOf (cs ++ rest)) = false := by
  rw [List.any_eq_false]
  intro p hp
  rw [List.isPrefixOf_iff_prefix]
  unfold isSourceName at h
  rcases Bool.or_eq_true_iff.1 h with hi | hr
  · have hall : ∀ p ∈ literalOpeners, (p.all fun c => decide (c ∉ stopChars)) = true ∧
        (p.any fun c => decide (c ∈ foreignChars)) = true := by decide
    exact not_prefix_of_isIdentifier hi hs (forall_mem_of_all (hall p hp).1)
      (exists_mem_of_any (hall p hp).2)
  · split at hr
    · next name =>
      rw [Bool.and_eq_true] at hr
      -- Behind the mark of a raw name comes neither a quote nor a further hash sign.
      have hall : ∀ p ∈ literalOpeners, p.take 2 = ['r', '#'] →
          ((p.drop 2).all fun c => decide (c ∉ stopChars)) = true ∧
            ((p.drop 2).any fun c => decide (c ∈ foreignChars)) = true := by decide
      have hall' : ∀ p ∈ literalOpeners, 2 ≤ p.length := by decide
      intro hpre
      obtain ⟨more, hm⟩ := hpre
      have hsplit := List.take_append_drop 2 p
      have htake : p.take 2 = ['r', '#'] := by
        have ht := congrArg (List.take 2) hm
        rwa [List.take_append_of_le_length (hall' p hp)] at ht
      have hdrop : p.drop 2 ++ more = name ++ rest := by
        have ht := congrArg (List.drop 2) hm
        rwa [List.drop_append_of_le_length (hall' p hp)] at ht
      exact not_prefix_of_isIdentifier hr.1 hs (forall_mem_of_all (hall p hp htake).1)
        (exists_mem_of_any (hall p hp htake).2) ⟨more, hdrop⟩
    · cases hr

theorem scanIdent_append {cs rest : List Char} (h : isSourceName cs = true) (hs : Stops rest) :
    scanIdent (cs ++ rest) = some (cs, rest) := by
  unfold scanIdent
  rw [not_literalOpeners_of_isSourceName h hs]
  exact scanAnyName_append_of_isSourceName h hs

/-! ## What is no literal -/

theorem scanRaw_eq_none {k : StringKind} {cs : List Char}
    (h : ∀ body, cs.dropWhile (· == '#') ≠ '"' :: body) : scanRaw k cs = none := by
  unfold scanRaw span
  dsimp only
  split
  · next body hb => exact absurd hb (h body)
  · rfl

/-- Raw strings have at most hash signs before their quote. -/
theorem dropWhile_hash_ne_quote {cs : List Char} (hq : ¬ ['"'] <+: cs) (hh : ¬ ['#', '"'] <+: cs)
    (hm : ¬ ['#', '#'] <+: cs) (body : List Char) : cs.dropWhile (· == '#') ≠ '"' :: body := by
  intro h
  cases cs with
  | nil => cases h
  | cons c cs =>
    rw [List.dropWhile_cons] at h
    split at h
    · next hc =>
      rw [eq_of_beq hc] at hh hm
      cases cs with
      | nil => cases h
      | cons d cs =>
        rw [List.dropWhile_cons] at h
        split at h
        · next hd =>
          rw [eq_of_beq hd] at hm
          exact hm (List.prefix_append ['#', '#'] cs)
        · cases h
          exact hh (List.prefix_append ['#', '"'] body)
    · cases h
      exact hq (List.prefix_append ['"'] body)

/-- A text that does not begin like a quoted literal is none. -/
theorem scanQuotedLiteral_eq_none {cs : List Char} (hd : ¬ ['"'] <+: cs) (hs : ¬ ['\''] <+: cs)
    (h : literalOpeners.any (·.isPrefixOf cs) = false) : scanQuotedLiteral cs = none := by
  rw [List.any_eq_false] at h
  have hno : ∀ p ∈ literalOpeners, ¬ p <+: cs :=
    fun p hp hpre => h p hp (List.isPrefixOf_iff_prefix.2 hpre)
  have hraw : ∀ first {k more}, cs = first ++ more → first ++ ['"'] ∈ literalOpeners →
      (first ++ ['#'] ∈ literalOpeners ∨
        (first ++ ['#', '"'] ∈ literalOpeners ∧ first ++ ['#', '#'] ∈ literalOpeners)) →
      scanRaw k more = none := by
    rintro first k more rfl hq hh
    have hno' : ∀ p, first ++ p ∈ literalOpeners → ¬ p <+: more :=
      fun p hp hpre => hno _ hp ((List.prefix_append_right_inj first).2 hpre)
    refine scanRaw_eq_none (dropWhile_hash_ne_quote (hno' _ hq) ?_ ?_)
    · rcases hh with hh | hh
      · exact fun hpre => hno' _ hh (List.IsPrefix.trans ⟨['"'], rfl⟩ hpre)
      · exact hno' _ hh.1
    · rcases hh with hh | hh
      · exact fun hpre => hno' _ hh (List.IsPrefix.trans ⟨['#'], rfl⟩ hpre)
      · exact hno' _ hh.2
  -- One case for each way in which a quoted literal can begin.
  unfold scanQuotedLiteral
  split
  · next more => exact absurd ⟨more, rfl⟩ hd
  · next more => exact absurd ⟨more, rfl⟩ hs
  · rw [hraw ['r'] rfl (by decide) (by decide)]
    rfl
  · next more => exact absurd ⟨more, rfl⟩ (hno ['b', '"'] (by decide))
  · rw [hraw ['b', 'r'] rfl (by decide) (by decide)]
    rfl
  · next more => exact absurd ⟨more, rfl⟩ (hno ['b', '\''] (by decide))
  · next more => exact absurd ⟨more, rfl⟩ (hno ['c', '"'] (by decide))
  · rw [hraw ['c', 'r'] rfl (by decide) (by decide)]
    rfl
  · rfl

theorem scanNumber_eq_none {c : Char} (cs : List Char) (h : c.isDigit = false) :
    scanFloatDigits (c :: cs) = none ∧ scanIntDigits (c :: cs) = none := by
  constructor
  · unfold scanFloatDigits
    dsimp only
    rw [h]
    rfl
  · have hz : c ≠ '0' := by
      rintro rfl
      exact absurd h (by decide)
    unfold scanIntDigits
    split
    · next heq => exact absurd (List.cons.inj heq).1 hz
    · next heq => exact absurd (List.cons.inj heq).1 hz
    · next heq => exact absurd (List.cons.inj heq).1 hz
    · unfold scanDigits
      rw [h]
      simp

/-- A text that begins like no literal is none. -/
theorem scanLiteral_eq_none {c : Char} {cs : List Char} (hn : c.isDigit = false)
    (hd : c ≠ '"') (hs : c ≠ '\'') (h : literalOpeners.any (·.isPrefixOf (c :: cs)) = false) :
    scanLiteral (c :: cs) = none := by
  have hq : scanQuotedLiteral (c :: cs) = none :=
    scanQuotedLiteral_eq_none (by simpa using Ne.symm hd) (by simpa using Ne.symm hs) h
  obtain ⟨hf, hi⟩ := scanNumber_eq_none cs hn
  unfold scanLiteral
  rw [hq, hf, hi]
  rfl

end DispatchLayer.Scan
