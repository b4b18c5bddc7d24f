import DispatchLayer.Proofs.Token.Literal
import DispatchLayer.Token.Layout

/-!
# A line of tokens is read back

Tokens written on one line are read back as the same tokens, if they can be told apart there
(`Legible`): names are names, literals are literals, and a joint punctuation character has another
one behind it, or the name of a lifetime. What stands before the line does not matter as long as it
is a comment that ends before it (`ofText?_of_legible`).
-/

namespace DispatchLayer.Token

open Scan Unicode Name

/-! ## Tokens that can be told apart -/

/-- Punctuation characters that begin neither a comment nor a lifetime. -/
def isPlainPunct (c : Char) : Bool := isPunctChar c && c != '/' && c != '\''

/-- On a line the tokens can be told apart. -/
inductive Legible : List Token → Prop
  | nil : Legible []
  | ident {n : String} {ts : List Token} (h : isSourceName n.toList = true) (hts : Legible ts) :
    Legible (.ident n :: ts)
  | literal {text : String} {ts : List Token} (h : ReadsAsLiteral text.toList)
    (hts : Legible ts) : Legible (.literal text :: ts)
  | opening (d : Delimiter) {ts : List Token} (hts : Legible ts) : Legible (.opening d :: ts)
  | closing (d : Delimiter) {ts : List Token} (hts : Legible ts) : Legible (.closing d :: ts)
  | alone {c : Char} {ts : List Token} (h : isPlainPunct c = true) (hts : Legible ts) :
    Legible (.punct c .alone :: ts)
  | joint {c d : Char} {s : Spacing} {ts : List Token} (h : isPlainPunct c = true)
    (hd : isPlainPunct d = true) (hts : Legible (.punct d s :: ts)) :
    Legible (.punct c .joint :: .punct d s :: ts)
  | lifetime {n : String} {ts : List Token} (h : isIdentifier n.toList = true)
    (hts : Legible ts) : Legible (.punct '\'' .joint :: .ident n :: ts)

/-! ## The line, token by token -/

/-- The rest of a line, from some token on. -/
def lineFrom : Option Token → List Token → List Char
  | _, [] => []
  | previous, t :: ts => charsAfter previous t ++ lineFrom (some t) ts

theorem lineChars_eq_lineFrom (ts : List Token) : lineChars ts = lineFrom none ts := by
  suffices h : ∀ previous, (List.zip (previous :: ts.map some) ts).flatMap
      (fun p => charsAfter p.1 p.2) = lineFrom previous ts from h none
  induction ts with
  | nil => exact fun _ => rfl
  | cons t ts ih =>
    intro previous
    rw [List.map_cons, List.zip_cons_cons, List.flatMap_cons, ih]
    rfl

/-- A token that hugs nothing has a stop behind it. -/
theorem stops_lineFrom {t : Token} {ts : List Token} {tail : List Char} (ht : t.hugsNext = false)
    (hs : Stops tail) : Stops (lineFrom (some t) ts ++ tail) := by
  cases ts with
  | nil => exact hs
  | cons u ts =>
    unfold lineFrom charsAfter
    dsimp only
    split
    · exact .cons (by decide)
    · next hspaced =>
      unfold spaced at hspaced
      split at hspaced
      · exact absurd rfl hspaced
      · rw [ht, Bool.false_or, Bool.not_eq_true', Bool.not_eq_false] at hspaced
        -- What hugs the token before it is one of two closing brackets.
        unfold hugsPrevious at hspaced
        split at hspaced
        · exact .cons (by decide)
        · exact .cons (by decide)
        · exact absurd hspaced (by decide)

theorem charsAfter_of_hugsNext {t u : Token} (ht : t.hugsNext = true)
    (hu : u ≠ .closing .brace) : charsAfter (some t) u = u.chars := by
  unfold charsAfter spaced
  simp [ht, hu]

/-! ## Pieces -/

/-- Reading the pieces of a text gives these tokens, however much fuel there is beyond the length of
the text. -/
def PiecesOf (cs : List Char) (ts : List Token) : Prop :=
  ∀ fuel done, cs.length ≤ fuel → scanPieces fuel done cs = some (done.reverse ++ ts)

theorem PiecesOf.nil : PiecesOf [] [] := by
  intro fuel done _
  unfold scanPieces
  rw [List.append_nil]

theorem PiecesOf.step {c : Char} {cs rest : List Char} {ts more : List Token}
    (h : scanPiece (c :: cs) = some (ts, rest)) (hl : rest.length ≤ cs.length)
    (hm : PiecesOf rest more) : PiecesOf (c :: cs) (ts ++ more) := by
  intro fuel done hf
  cases fuel with
  | zero => exact absurd hf (by simp)
  | succ fuel =>
    rw [scanPieces, h]
    dsimp only
    rw [hm fuel _ (by rw [List.length_cons] at hf; omega), List.reverse_append,
      List.reverse_reverse, List.append_assoc]

theorem scanPiece_of_ne_slash {c : Char} (h : c ≠ '/') (cs : List Char) :
    scanPiece (c :: cs) =
      if isBlank c then some ([], cs)
      else if brokenMarker.isPrefixOf (c :: cs) then
        some ([.literal (String.ofList brokenMarker)], (c :: cs).drop brokenMarker.length)
      else
        match bracketOf? c with
        | some t => some ([t], cs)
        | none => (scanLeaf (c :: cs)).map fun p => ([p.1], p.2) := by
  rw [scanPiece]
  all_goals first | rfl | exact fun _ hc _ => h hc

theorem not_brokenMarker_prefix {c : Char} {cs : List Char} (h : c ≠ '(' ∨ cs.head? ≠ some '/') :
    brokenMarker.isPrefixOf (c :: cs) = false := by
  rw [Bool.eq_false_iff]
  intro hp
  obtain ⟨more, hm⟩ := List.isPrefixOf_iff_prefix.1 hp
  obtain ⟨hc, hcs⟩ := List.cons.inj hm
  rcases h with h | h
  · exact h hc.symm
  · exact h (by rw [← hcs]; rfl)

theorem piecesOf_blank {c : Char} {cs : List Char} {ts : List Token} (hc : c ≠ '/')
    (hb : isBlank c = true) (h : PiecesOf cs ts) : PiecesOf (c :: cs) ts := by
  have hp : scanPiece (c :: cs) = some ([], cs) := by
    rw [scanPiece_of_ne_slash hc, if_pos hb]
  exact PiecesOf.step hp (Nat.le_refl _) h

/-- A piece that is no bracket, blank or comment. -/
theorem piecesOf_leaf {c : Char} {cs rest : List Char} {t : Token} {more : List Token}
    (hc : c ∉ ['/', '(', '[', '\x7b', ')', ']', '\x7d']) (hb : isBlank c = false)
    (h : scanLeaf (c :: cs) = some (t, rest)) (hl : rest.length ≤ cs.length)
    (hm : PiecesOf rest more) : PiecesOf (c :: cs) (t :: more) := by
  have hslash : c ≠ '/' := by
    rintro rfl
    exact hc (by decide)
  have hparen : c ≠ '(' := by
    rintro rfl
    exact hc (by decide)
  have hbracket : bracketOf? c = none := by
    unfold bracketOf?
    split
    all_goals first | rfl | exact absurd (by decide) hc
  have hp : scanPiece (c :: cs) = some ([t], rest) := by
    rw [scanPiece_of_ne_slash hslash, hb, not_brokenMarker_prefix (Or.inl hparen), hbracket, h]
    rfl
  exact PiecesOf.step hp hl hm

/-! ## Pieces of a line -/

/-- A bracket; a parenthesis must not look like the beginning of the broken literal's marker. -/
theorem piecesOf_bracket {t : Token} {c : Char} {cs : List Char} {more : List Token}
    (h : bracketOf? c = some t) (hcs : cs.head? ≠ some '/') (hm : PiecesOf cs more) :
    PiecesOf (c :: cs) (t :: more) := by
  have hc : c ∈ ['(', '[', '\x7b', ')', ']', '\x7d'] := by
    unfold bracketOf? at h
    split at h
    all_goals first | decide | cases h
  have hall : ∀ d ∈ ['(', '[', '\x7b', ')', ']', '\x7d'], d ≠ '/' ∧ isBlank d = false :=
    forall_mem_of_all (by decide)
  have hp : scanPiece (c :: cs) = some ([t], cs) := by
    rw [scanPiece_of_ne_slash (hall c hc).1, (hall c hc).2, not_brokenMarker_prefix (Or.inr hcs), h]
    rfl
  exact PiecesOf.step hp (Nat.le_refl _) hm

theorem not_isBlank_of_isNameStart {c : Char} (h : isNameStart c = true) : isBlank c = false := by
  have hf := not_mem_foreignChars (isXidContinue_of_isNameStart h)
  unfold isBlank
  rw [not_isWhiteSpace_of_isNameStart h, Bool.false_or, Bool.or_eq_false_iff]
  constructor
  · rw [beq_eq_false_iff_ne]
    rintro rfl
    exact hf (by decide)
  · rw [beq_eq_false_iff_ne]
    rintro rfl
    exact hf (by decide)

/-- A name begins with a character that begins names. -/
theorem exists_isNameStart {name : List Char} (h : isSourceName name = true) :
    ∃ c cs, name = c :: cs ∧ isNameStart c = true := by
  unfold isSourceName at h
  rcases Bool.or_eq_true_iff.1 h with h | h
  · cases name with
    | nil => cases h
    | cons c cs => exact ⟨c, cs, rfl, (isIdentifier_cons.1 h).1⟩
  · split at h
    · next name _ => exact ⟨'r', '#' :: name, rfl, by decide⟩
    · cases h

theorem startsPunct_cons {c : Char} (h : c ≠ '/') (cs : List Char) :
    startsPunct (c :: cs) = isPunctChar c := by
  rw [startsPunct]
  · exact fun _ hc _ => h hc
  · exact fun _ hc _ => h hc

theorem mem_foreignChars_of_isPunctChar {c : Char} (h : isPunctChar c = true) :
    c ∈ foreignChars := by
  have hall : ∀ d ∈ "~!@#$%^&*-=+|;:,<.>/?'".toList, d ∈ foreignChars :=
    forall_mem_of_all (by decide)
  exact hall c (List.contains_iff_mem.1 h)

theorem not_startsPunct_of_stops {cs : List Char} (h : Stops cs) : startsPunct cs = false := by
  have hall : ∀ c ∈ stopChars, c ≠ '/' ∧ isPunctChar c = false :=
    forall_mem_of_all (by decide)
  cases cs with
  | nil => rfl
  | cons c cs =>
    obtain ⟨hc, hp⟩ := hall c (h c rfl)
    rw [startsPunct_cons hc, hp]

theorem piecesOf_ident {n : String} {rest : List Char} {more : List Token}
    (h : isSourceName n.toList = true) (hs : Stops rest) (hm : PiecesOf rest more) :
    PiecesOf (n.toList ++ rest) (.ident n :: more) := by
  obtain ⟨c, cs, hn, hc⟩ := exists_isNameStart h
  have hf := not_mem_foreignChars (isXidContinue_of_isNameStart hc)
  have hident := scanIdent_append h hs
  have hopen := not_literalOpeners_of_isSourceName h hs
  have hof : String.ofList n.toList = n := String.ofList_toList
  rw [hn] at hident hopen hof ⊢
  rw [List.cons_append] at hident hopen ⊢
  -- Literals and punctuation are looked for first, and a name begins like neither.
  have hlit : scanLiteral (c :: (cs ++ rest)) = none := by
    refine scanLiteral_eq_none ?_ ?_ ?_ hopen
    · rw [Bool.eq_false_iff]
      intro hd
      rw [isNameStart_of_isDigit hd] at hc
      cases hc
    · rintro rfl
      exact hf (by decide)
    · rintro rfl
      exact hf (by decide)
  have hslash : c ≠ '/' := by
    rintro rfl
    exact hf (by decide)
  have hpunct : startsPunct (c :: (cs ++ rest)) = false := by
    rw [startsPunct_cons hslash, Bool.eq_false_iff]
    exact fun hp => hf (mem_foreignChars_of_isPunctChar hp)
  have hsub : ∀ d ∈ ['/', '(', '[', '\x7b', ')', ']', '\x7d'], d ∈ foreignChars :=
    forall_mem_of_all (by decide)
  refine piecesOf_leaf (fun hm => hf (hsub c hm)) (not_isBlank_of_isNameStart hc) ?_
    (by simp) hm
  unfold scanLeaf
  rw [hlit]
  unfold scanPunct
  dsimp only
  rw [hpunct, hident]
  dsimp only
  rw [hof]
  rfl

theorem piecesOf_literal {text : String} {rest : List Char} {more : List Token}
    (h : ReadsAsLiteral text.toList) (hs : Stops rest)
    (hm : PiecesOf rest more) : PiecesOf (text.toList ++ rest) (.literal text :: more) := by
  have hread := h.reads rest hs
  have hof : String.ofList text.toList = text := String.ofList_toList
  have hopens := h.opens
  cases hl : text.toList with
  | nil => exact absurd hl h.ne_nil
  | cons c cs =>
    rw [hl] at hread hof hopens
    have hall : ∀ d ∈ ['"', 'r', '0'],
        d ∉ ['/', '(', '[', '\x7b', ')', ']', '\x7d'] ∧ isBlank d = false :=
      forall_mem_of_all (by decide)
    obtain ⟨hc, hb⟩ := hall c (hopens c rfl)
    refine piecesOf_leaf hc hb ?_ (by simp) hm
    unfold scanLeaf
    rw [show c :: cs.append rest = c :: cs ++ rest from rfl, hread]
    dsimp only
    rw [hof]

/-- No literal begins with a punctuation character, except for those in single quotes. -/
theorem scanLiteral_of_isPunctChar {c : Char} (h : isPunctChar c = true) (hq : c ≠ '\'')
    (cs : List Char) : scanLiteral (c :: cs) = none := by
  have hall : ∀ d ∈ "~!@#$%^&*-=+|;:,<.>/?'".toList,
      d.isDigit = false ∧ d ≠ '"' ∧ d ∉ ['r', 'b', 'c'] := forall_mem_of_all (by decide)
  have hheads : ∀ p ∈ literalOpeners, ∃ d ∈ ['r', 'b', 'c'], p.head? = some d :=
    fun p hp => exists_mem_of_any
      ((by decide : ∀ p ∈ literalOpeners,
        (['r', 'b', 'c'].any fun d => decide (p.head? = some d)) = true) p hp)
  obtain ⟨hd, hs, hl⟩ := hall c (List.contains_iff_mem.1 h)
  refine scanLiteral_eq_none hd hs hq ?_
  rw [List.any_eq_false]
  intro p hp hpre
  obtain ⟨d, hd, hp⟩ := hheads p hp
  obtain ⟨more, hm⟩ := List.isPrefixOf_iff_prefix.1 hpre
  cases p with
  | nil => cases hp
  | cons e p =>
    cases hp
    exact hl ((List.cons.inj hm).1 ▸ hd)

/-- A punctuation character that begins neither a comment nor a lifetime. -/
theorem piecesOf_punct {c : Char} {rest : List Char} {more : List Token}
    (h : isPlainPunct c = true) (hm : PiecesOf rest more) :
    PiecesOf (c :: rest)
      (.punct c (if startsPunct rest then .joint else .alone) :: more) := by
  unfold isPlainPunct at h
  rw [Bool.and_eq_true, Bool.and_eq_true, bne_iff_ne, bne_iff_ne] at h
  obtain ⟨⟨hp, hslash⟩, hq⟩ := h
  have hall : ∀ d ∈ "~!@#$%^&*-=+|;:,<.>/?'".toList,
      d ≠ '/' → d ∉ ['/', '(', '[', '\x7b', ')', ']', '\x7d'] ∧ isBlank d = false :=
    forall_mem_of_all (by decide)
  obtain ⟨hc, hb⟩ := hall c (List.contains_iff_mem.1 hp) hslash
  refine piecesOf_leaf hc hb ?_ (Nat.le_refl _) hm
  unfold scanLeaf
  rw [scanLiteral_of_isPunctChar hp hq]
  unfold scanPunct
  dsimp only
  rw [startsPunct_cons hslash, hp, if_neg hq]
  rfl

theorem scanSingle_eq_none {c : Char} {cs : List Char} (hc : c ≠ '\\') (hcs : cs.head? ≠ some '\'') :
    scanSingle .text (c :: cs) = none := by
  rw [scanSingle]
  · exact if_neg (by simp)
  · exact hc
  · rintro rest rfl
    exact hcs rfl

/-- The quote of a lifetime. -/
theorem piecesOf_quote {n : String} {rest : List Char} {more : List Token}
    (h : isIdentifier n.toList = true) (hs : Stops rest) (hm : PiecesOf (n.toList ++ rest) more) :
    PiecesOf ('\'' :: (n.toList ++ rest)) (.punct '\'' .joint :: more) := by
  have hname := scanAnyName_append_of_isIdentifier h hs
  refine piecesOf_leaf (by decide) (by decide) ?_
    (Nat.le_refl _) hm
  -- A character literal would have its closing quote behind one character of the name.
  have hlit : scanLiteral ('\'' :: (n.toList ++ rest)) = none := by
    obtain ⟨hf, hi⟩ := scanNumber_eq_none (n.toList ++ rest) (show '\''.isDigit = false by decide)
    have hsingle : scanSingle .text (n.toList ++ rest) = none := by
      cases hl : n.toList with
      | nil =>
        rw [hl] at h
        cases h
      | cons c cs =>
        rw [hl] at h
        have hx := isXidContinue_of_isIdentifier h
        refine scanSingle_eq_none ?_ fun hq => ?_
        · rintro rfl
          exact not_mem_foreignChars (hx _ List.mem_cons_self) (by decide)
        · cases cs with
          | nil => exact absurd (hs _ hq) (by decide)
          | cons d cs =>
            cases hq
            exact not_mem_foreignChars (hx '\'' (by simp)) (by decide)
    show orElse (withSuffix (push '\'' (scanSingle .text (n.toList ++ rest)))) _ = _
    rw [hsingle]
    show orElse (withNumberSuffix (scanFloatDigits ('\'' :: (n.toList ++ rest))))
      (fun _ => withNumberSuffix (scanIntDigits ('\'' :: (n.toList ++ rest)))) = _
    rw [hf, hi]
    rfl
  unfold scanLeaf
  rw [hlit]
  unfold scanPunct
  dsimp only
  rw [startsPunct_cons (by decide), if_neg (by decide), if_pos rfl, hname]
  dsimp only
  rw [if_neg]
  rintro (ha | ⟨ha, -⟩)
  · exact absurd (hs _ ha) (by decide)
  · exact absurd (hs _ ha) (by decide)

/-! ## Whole lines -/

/-- A token has at most one space in front of it. -/
theorem charsAfter_cases (previous : Option Token) (t : Token) :
    charsAfter previous t = t.chars ∨ charsAfter previous t = ' ' :: t.chars := by
  unfold charsAfter
  split
  · exact Or.inl rfl
  · split
    · exact Or.inr rfl
    · exact Or.inl rfl

/-- A space in front of a token is passed over. -/
theorem piecesOf_charsAfter {t : Token} {cs : List Char} {ts : List Token}
    (h : PiecesOf (t.chars ++ cs) ts) (previous : Option Token) :
    PiecesOf (charsAfter previous t ++ cs) ts := by
  rcases charsAfter_cases previous t with hc | hc
  · rwa [hc]
  · rw [hc]
    exact piecesOf_blank (by decide) (by decide) h

theorem ne_slash_of_isPlainPunct {c : Char} (h : isPlainPunct c = true) : c ≠ '/' := by
  rintro rfl
  exact absurd h (by decide)

/-- No token begins like a comment. -/
theorem Legible.exists_chars {t : Token} {ts : List Token} (h : Legible (t :: ts)) :
    ∃ c cs, t.chars = c :: cs ∧ c ≠ '/' := by
  cases h with
  | ident h =>
    obtain ⟨c, cs, hn, hc⟩ := exists_isNameStart h
    refine ⟨c, cs, hn, ?_⟩
    rintro rfl
    exact not_mem_foreignChars (isXidContinue_of_isNameStart hc) (by decide)
  | literal h =>
    obtain ⟨c, cs, hc⟩ := List.exists_cons_of_ne_nil h.ne_nil
    refine ⟨c, cs, hc, ?_⟩
    rintro rfl
    exact absurd (h.opens '/' (by rw [hc]; rfl)) (by decide)
  | opening d => exact ⟨_, [], rfl, by cases d <;> decide⟩
  | closing d => exact ⟨_, [], rfl, by cases d <;> decide⟩
  | alone h => exact ⟨_, [], rfl, ne_slash_of_isPlainPunct h⟩
  | joint h => exact ⟨_, [], rfl, ne_slash_of_isPlainPunct h⟩
  | lifetime => exact ⟨_, [], rfl, by decide⟩

/-- Nor does a line of tokens, with or without a space in front of the first one. -/
theorem head_lineFrom_ne_slash {ts : List Token} {tail : List Char} (h : Legible ts)
    (hs : Stops tail) (previous : Option Token) :
    (lineFrom previous ts ++ tail).head? ≠ some '/' := by
  cases ts with
  | nil => exact fun hh => absurd (hs _ hh) (by decide)
  | cons t ts =>
    obtain ⟨c, cs, hchars, hc⟩ := h.exists_chars
    rw [lineFrom]
    rcases charsAfter_cases previous t with he | he
    · rw [he, hchars]
      exact fun hh => hc (Option.some.inj hh)
    · rw [he]
      exact fun hh => absurd (Option.some.inj hh) (by decide)

theorem bracketOf?_opener (d : Delimiter) : bracketOf? d.opener = some (.opening d) := by
  cases d with
  | paren => rfl
  | bracket => rfl
  | brace => rfl

theorem bracketOf?_closer (d : Delimiter) : bracketOf? d.closer = some (.closing d) := by
  cases d with
  | paren => rfl
  | bracket => rfl
  | brace => rfl

/-- **A line of legible tokens is read back**, token by token. -/
theorem piecesOf_lineFrom {ts : List Token} (h : Legible ts) :
    ∀ (previous : Option Token) {tail : List Char} {more : List Token}, Stops tail →
      PiecesOf tail more → PiecesOf (lineFrom previous ts ++ tail) (ts ++ more) := by
  induction h with
  | nil => exact fun _ _ _ _ hm => hm
  | ident h hts ih =>
    intro previous tail more hs hm
    rw [lineFrom, List.append_assoc]
    exact piecesOf_charsAfter
      (piecesOf_ident h (stops_lineFrom rfl hs) (ih _ hs hm)) previous
  | literal h hts ih =>
    intro previous tail more hs hm
    rw [lineFrom, List.append_assoc]
    exact piecesOf_charsAfter
      (piecesOf_literal h (stops_lineFrom rfl hs) (ih _ hs hm)) previous
  | opening d hts ih =>
    intro previous tail more hs hm
    rw [lineFrom, List.append_assoc]
    -- A parenthesis and a slash would begin the marker of a broken literal.
    have hnext := head_lineFrom_ne_slash hts hs (some (.opening d))
    exact piecesOf_charsAfter (piecesOf_bracket (bracketOf?_opener d) hnext (ih _ hs hm)) previous
  | closing d hts ih =>
    intro previous tail more hs hm
    rw [lineFrom, List.append_assoc]
    have hnext := head_lineFrom_ne_slash hts hs (some (.closing d))
    exact piecesOf_charsAfter (piecesOf_bracket (bracketOf?_closer d) hnext (ih _ hs hm)) previous
  | @alone c ts h hts ih =>
    intro previous tail more hs hm
    rw [lineFrom, List.append_assoc]
    have hp := piecesOf_punct h (ih (some (.punct c .alone)) hs hm)
    rw [not_startsPunct_of_stops (stops_lineFrom rfl hs)] at hp
    exact piecesOf_charsAfter hp previous
  | @joint c d s ts h hd hts ih =>
    intro previous tail more hs hm
    rw [lineFrom, List.append_assoc]
    have hp := piecesOf_punct h (ih (some (.punct c .joint)) hs hm)
    -- The character behind it follows at once.
    have hnext : startsPunct (lineFrom (some (.punct c .joint)) (.punct d s :: ts) ++ tail) =
        true := by
      rw [lineFrom, charsAfter_of_hugsNext rfl (by simp)]
      unfold isPlainPunct at hd
      rw [Bool.and_eq_true, Bool.and_eq_true, bne_iff_ne] at hd
      exact (startsPunct_cons hd.1.2 _).trans hd.1.1
    rw [hnext] at hp
    exact piecesOf_charsAfter hp previous
  | @lifetime n ts h hts ih =>
    intro previous tail more hs hm
    have hsource : isSourceName n.toList = true := by
      unfold isSourceName
      rw [h]
      rfl
    have hstop : Stops (lineFrom (some (.ident n)) ts ++ tail) := stops_lineFrom rfl hs
    have hname := piecesOf_ident hsource hstop (ih _ hs hm)
    rw [lineFrom, lineFrom, charsAfter_of_hugsNext rfl (by simp), List.append_assoc,
      List.append_assoc]
    exact piecesOf_charsAfter (t := .punct '\'' .joint) (piecesOf_quote h hstop hname) previous

/-! ## Texts -/

theorem ofChars?_of_piecesOf {cs : List Char} {ts : List Token} (h : PiecesOf cs ts)
    (hb : balanced ts = true) (hm : cs.head? ≠ some '\ufeff') : ofChars? cs = some ts := by
  have hd : dropByteOrderMark cs = cs := by
    unfold dropByteOrderMark
    split
    · exact absurd rfl hm
    · rfl
  unfold ofChars?
  dsimp only
  rw [hd, h cs.length [] (Nat.le_refl _)]
  simp [hb]

/-- A comment up to the end of its line is passed over. -/
theorem piecesOf_comment {cs rest : List Char} {ts : List Token} (hd : isLineDoc (cs ++ '\n' :: rest) = false)
    (hn : '\n' ∉ cs) (h : PiecesOf rest ts) :
    PiecesOf ('/' :: '/' :: (cs ++ '\n' :: rest)) ts := by
  have hdrop : dropLine (cs ++ '\n' :: rest) = '\n' :: rest := by
    unfold dropLine
    rw [List.dropWhile_append_of_pos]
    · rfl
    · intro c hc
      rw [bne_iff_ne]
      rintro rfl
      exact hn hc
  have hp : scanPiece ('/' :: '/' :: (cs ++ '\n' :: rest)) = some ([], '\n' :: rest) := by
    show (if isLineDoc (cs ++ '\n' :: rest) then _ else some ([], dropLine (cs ++ '\n' :: rest))) = _
    rw [hd, hdrop]
    rfl
  refine PiecesOf.step hp ?_ (piecesOf_blank (by decide) (by decide) h)
  simp only [List.length_cons, List.length_append]
  omega

/-- **A header of one line adds no token.** A text that is a plain comment of one line, an empty
line and a line of legible tokens is read as those tokens. -/
theorem ofText?_of_legible {comment : String} {ts : List Token} (hn : '\n' ∉ comment.toList)
    (hl : Legible ts) (hb : balanced ts = true) :
    ofText? ("// " ++ comment ++ "\n\n" ++ line ts ++ "\n") = some ts := by
  have hline : PiecesOf (lineFrom none ts ++ ['\n']) (ts ++ []) := by
    refine piecesOf_lineFrom hl none (.cons (by decide)) ?_
    exact piecesOf_blank (by decide) (by decide) .nil
  rw [List.append_nil] at hline
  have hchars : ("// " ++ comment ++ "\n\n" ++ line ts ++ "\n").toList =
      '/' :: '/' :: ((' ' :: comment.toList) ++ '\n' :: '\n' :: (lineFrom none ts ++ ['\n'])) := by
    unfold line
    simp [lineChars_eq_lineFrom]
  unfold ofText?
  rw [hchars]
  refine ofChars?_of_piecesOf (piecesOf_comment ?_ ?_ ?_) hb (by simp)
  · rfl
  · simpa using hn
  · exact piecesOf_blank (by decide) (by decide) hline

/-! ## The names among the tokens -/

theorem isIdentifier_of_scanName {cs name rest : List Char} (h : scanName cs = some (name, rest)) :
    isIdentifier name = true := by
  cases cs with
  | nil => cases h
  | cons c cs =>
    rw [scanName_cons] at h
    split at h
    · next hc =>
      cases h
      exact isIdentifier_cons.2 ⟨hc, fun d hd =>
        List.all_eq_true.1 List.all_takeWhile d hd⟩
    · cases h

theorem isSourceName_of_scanAnyName {cs name rest : List Char}
    (h : scanAnyName cs = some (name, rest)) : isSourceName name = true := by
  unfold scanAnyName at h
  split at h
  · next cs =>
    cases hs : scanName cs with
    | none =>
      rw [hs] at h
      cases h
    | some p =>
      obtain ⟨plain, after⟩ := p
      rw [hs] at h
      dsimp only at h
      split at h
      · cases h
      · next hraw =>
        cases h
        refine Bool.or_eq_true_iff.2 (Or.inr ?_)
        show (isIdentifier plain && !notRaw.contains (String.ofList plain)) = true
        rw [isIdentifier_of_scanName hs, Bool.eq_false_iff.2 hraw]
        rfl
  · exact Bool.or_eq_true_iff.2 (Or.inl (isIdentifier_of_scanName h))

/-- Punctuation is no name. -/
theorem scanPunct_ne_ident {cs rest : List Char} {n : String} :
    scanPunct cs ≠ some (.ident n, rest) := by
  intro h
  unfold scanPunct at h
  split at h
  · cases h
  · split at h
    · cases h
    · split at h
      · split at h
        · cases h
        · dsimp only at h
          split at h
          · cases h
          · cases h
      · cases h

theorem bracketOf?_ne_ident {c : Char} {n : String} : bracketOf? c ≠ some (.ident n) := by
  intro h
  unfold bracketOf? at h
  split at h
  all_goals cases h

theorem isSourceName_of_scanLeaf {cs rest : List Char} {n : String}
    (h : scanLeaf cs = some (.ident n, rest)) : isSourceName n.toList = true := by
  unfold scanLeaf at h
  split at h
  · cases h
  · split at h
    · next p hp =>
      cases h
      exact absurd hp scanPunct_ne_ident
    · split at h
      · next name rest hi =>
        cases h
        rw [String.toList_ofList]
        unfold scanIdent at hi
        split at hi
        · cases hi
        · exact isSourceName_of_scanAnyName hi
      · cases h

theorem isSourceName_of_docTokens? {m : Char} {text : List Char} {ts : List Token} {n : String}
    (h : docTokens? m text = some ts) (hn : Token.ident n ∈ ts) : isSourceName n.toList = true := by
  unfold docTokens? at h
  split at h
  · cases h
  · cases h
    -- The attribute has a single name.
    have : n = "doc" := by
      unfold docAttribute at hn
      split at hn
      · simpa [mark, grouped] using hn
      · simpa [mark, grouped] using hn
    subst this
    exact isSourceName_of_isLatinName (by decide)

theorem isSourceName_of_scanPiece {cs rest : List Char} {ts : List Token} {n : String}
    (h : scanPiece cs = some (ts, rest)) (hn : Token.ident n ∈ ts) :
    isSourceName n.toList = true := by
  unfold scanPiece at h
  split at h
  · cases h
  · -- A line comment is documentation, or gives no tokens.
    split at h
    · split at h
      · obtain ⟨us, hd, hu⟩ := Option.map_eq_some_iff.1 h
        cases hu
        exact isSourceName_of_docTokens? hd hn
      · cases h
    · cases h
      cases hn
  · -- So is a comment between marks.
    split at h
    · cases h
    · split at h
      · split at h
        · obtain ⟨us, hd, hu⟩ := Option.map_eq_some_iff.1 h
          cases hu
          exact isSourceName_of_docTokens? hd hn
        · cases h
      · cases h
        cases hn
  · -- Anything else is white space, the marker of a broken literal, a bracket or a leaf.
    split at h
    · cases h
      cases hn
    · split at h
      · cases h
        simp at hn
      · split at h
        · next t hb =>
          cases h
          rw [List.mem_singleton] at hn
          subst hn
          exact absurd hb bracketOf?_ne_ident
        · obtain ⟨p, hp, hq⟩ := Option.map_eq_some_iff.1 h
          cases hq
          rw [List.mem_singleton] at hn
          obtain ⟨t, after⟩ := p
          dsimp only at hn
          subst hn
          exact isSourceName_of_scanLeaf hp

/-- Piece by piece, with the tokens read so far. -/
theorem isSourceName_of_scanPieces {ts : List Token} :
    ∀ {fuel : Nat} {done : List Token} {cs : List Char}, scanPieces fuel done cs = some ts →
      (∀ n, Token.ident n ∈ done → isSourceName n.toList = true) →
        ∀ n, Token.ident n ∈ ts → isSourceName n.toList = true := by
  intro fuel
  induction fuel with
  | zero =>
    intro done cs h hdone n hn
    cases cs with
    | nil =>
      cases h
      exact hdone n (List.mem_reverse.1 hn)
    | cons c cs => cases h
  | succ fuel ih =>
    intro done cs h hdone n hn
    cases cs with
    | nil =>
      cases h
      exact hdone n (List.mem_reverse.1 hn)
    | cons c cs =>
      unfold scanPieces at h
      split at h
      · cases h
      · next us rest hp =>
        refine ih h (fun m hm => ?_) n hn
        rcases List.mem_append.1 hm with hm | hm
        · exact isSourceName_of_scanPiece hp (List.mem_reverse.1 hm)
        · exact hdone m hm

/-- **The names among the tokens of a text** are names as source has them. -/
theorem isSourceName_of_ofText? {s : String} {ts : List Token} {n : String}
    (h : ofText? s = some ts) (hn : Token.ident n ∈ ts) : isSourceName n.toList = true := by
  unfold ofText? ofChars? at h
  dsimp only at h
  split at h
  · next us hs =>
    split at h
    · cases h
      exact isSourceName_of_scanPieces hs (fun m hm => by cases hm) n hn
    · cases h
  · cases h

end DispatchLayer.Token
