import DispatchLayer.Proofs.Token.Line

/-!
# What follows a joint colon

A punctuation character is joint if another one follows at once, so in the tokens of a text no name
follows a joint colon (`isChain_apart_of_ofText?`). The text is read piece by piece: a joint colon
leaves a punctuation character to be read next (`startsPunct_of_scanPiece`), and the piece that
begins with one is a single token and no name (`exists_of_startsPunct`).
-/

namespace DispatchLayer.Token

open Scan

variable {cs rest : List Char} {t : Token} {ts : List Token}

/-- What may follow what: no name follows a joint colon. -/
def Apart (t u : Token) : Prop := t = .punct ':' .joint → ∀ n, u ≠ .ident n

/-! ## One piece -/

theorem bracketOf?_ne_punct {c d : Char} {s : Spacing} : bracketOf? c ≠ some (.punct d s) := by
  intro h
  unfold bracketOf? at h
  split at h
  all_goals cases h

theorem isPunctChar_of_startsPunct {c : Char} (h : startsPunct (c :: cs) = true) :
    isPunctChar c = true := by
  unfold startsPunct at h
  split at h
  · cases h
  · cases h
  · next he =>
    cases he
    exact h
  · cases h

theorem scanIdent_of_isPunctChar {c : Char} (h : isPunctChar c = true) :
    scanIdent (c :: cs) = none := by
  have hall : ∀ d ∈ "~!@#$%^&*-=+|;:,<.>/?'".toList, isNameStart d = false ∧ d ≠ 'r' :=
    forall_mem_of_all (by decide)
  obtain ⟨hstart, hr⟩ := hall c (List.contains_iff_mem.1 h)
  have hname : scanAnyName (c :: cs) = none := by
    rw [scanAnyName]
    · rw [scanName_cons, hstart]
      rfl
    · rintro rest he
      exact hr (List.cons.inj he).1
  unfold scanIdent
  rw [hname]
  exact ite_self none

/-- A leaf that begins with a punctuation character is no name. -/
theorem ne_ident_of_scanLeaf {c : Char} (hc : isPunctChar c = true)
    (h : scanLeaf (c :: cs) = some (t, rest)) (n : String) : t ≠ .ident n := by
  rintro rfl
  unfold scanLeaf at h
  split at h
  · cases h
  · split at h
    · next hp =>
      cases h
      exact scanPunct_ne_ident hp
    · rw [scanIdent_of_isPunctChar hc] at h
      cases h

/-- The piece that begins with a punctuation character is a single token, and no name. -/
theorem exists_of_startsPunct (hs : startsPunct cs = true) (h : scanPiece cs = some (ts, rest)) :
    ∃ t, ts = [t] ∧ ∀ n, t ≠ .ident n := by
  have hall : ∀ d ∈ "~!@#$%^&*-=+|;:,<.>/?'".toList,
      isBlank d = false ∧ d ≠ '(' ∧ bracketOf? d = none := forall_mem_of_all (by decide)
  unfold scanPiece at h
  split at h
  · cases h
  · cases hs
  · cases hs
  · have hc := isPunctChar_of_startsPunct hs
    obtain ⟨hblank, hparen, hbracket⟩ := hall _ (List.contains_iff_mem.1 hc)
    rw [hblank, not_brokenMarker_prefix (Or.inl hparen), hbracket] at h
    obtain ⟨⟨t, after⟩, hleaf, he⟩ := Option.map_eq_some_iff.1 h
    cases he
    exact ⟨t, rfl, ne_ident_of_scanLeaf hc hleaf⟩

/-- A joint colon is one because of the character that comes next. -/
theorem startsPunct_of_scanLeaf (h : scanLeaf cs = some (.punct ':' .joint, rest)) :
    startsPunct rest = true := by
  unfold scanLeaf at h
  split at h
  · cases h
  · split at h
    · next hp =>
      cases h
      unfold scanPunct at hp
      split at hp
      · cases hp
      · split at hp
        · cases hp
        · split at hp
          · split at hp
            · cases hp
            · dsimp only at hp
              split at hp
              · cases hp
              · cases hp
          · split at hp
            · next hnext =>
              cases hp
              exact hnext
            · cases hp
    · split at h
      · cases h
      · cases h

theorem docTokens?_apart {m : Char} {text : List Char} (h : docTokens? m text = some ts) :
    ts.IsChain Apart ∧ ts.getLast? ≠ some (.punct ':' .joint) := by
  unfold docTokens? at h
  split at h
  · cases h
  · cases h
    unfold docAttribute
    split
    · simp [mark, grouped, Apart]
    · simp [mark, grouped, Apart]

/-- The tokens of a piece may follow each other, and a joint colon at its end leaves a punctuation
character. -/
theorem apart_of_scanPiece (h : scanPiece cs = some (ts, rest)) :
    ts.IsChain Apart ∧ (ts.getLast? = some (.punct ':' .joint) → startsPunct rest = true) := by
  unfold scanPiece at h
  split at h
  · cases h
  · split at h
    · split at h
      · obtain ⟨us, hd, hu⟩ := Option.map_eq_some_iff.1 h
        cases hu
        obtain ⟨hchain, hlast⟩ := docTokens?_apart hd
        exact ⟨hchain, fun hl => absurd hl hlast⟩
      · cases h
    · cases h
      exact ⟨.nil, fun hl => by cases hl⟩
  · split at h
    · cases h
    · split at h
      · split at h
        · obtain ⟨us, hd, hu⟩ := Option.map_eq_some_iff.1 h
          cases hu
          obtain ⟨hchain, hlast⟩ := docTokens?_apart hd
          exact ⟨hchain, fun hl => absurd hl hlast⟩
        · cases h
      · cases h
        exact ⟨.nil, fun hl => by cases hl⟩
  · split at h
    · cases h
      exact ⟨.nil, fun hl => by cases hl⟩
    · split at h
      · cases h
        exact ⟨.singleton _, fun hl => by cases hl⟩
      · split at h
        · next hb =>
          cases h
          refine ⟨.singleton _, fun hl => ?_⟩
          cases hl
          exact absurd hb bracketOf?_ne_punct
        · obtain ⟨⟨t, after⟩, hleaf, he⟩ := Option.map_eq_some_iff.1 h
          cases he
          refine ⟨.singleton _, fun hl => ?_⟩
          cases hl
          exact startsPunct_of_scanLeaf hleaf

/-! ## The text -/

/-- Piece by piece, with the tokens read so far. -/
theorem isChain_of_scanPieces {fuel : Nat} {done : List Token}
    (h : scanPieces fuel done cs = some ts) (hdone : done.reverse.IsChain Apart)
    (hnext : done.head? = some (.punct ':' .joint) → startsPunct cs = true) : ts.IsChain Apart := by
  induction fuel generalizing done cs with
  | zero =>
    cases cs with
    | nil =>
      cases h
      exact hdone
    | cons c cs => cases h
  | succ fuel ih =>
    cases cs with
    | nil =>
      cases h
      exact hdone
    | cons c cs =>
      unfold scanPieces at h
      split at h
      · cases h
      · next us rest hp =>
        -- Within the piece by what a piece is, across its front by what the last joint colon left.
        obtain ⟨hus, hlast⟩ := apart_of_scanPiece hp
        refine ih h ?_ fun hhead => ?_
        · rw [List.reverse_append, List.reverse_reverse]
          refine List.isChain_append.2 ⟨hdone, hus, fun t ht u hu hjoint => ?_⟩
          rw [List.getLast?_reverse, hjoint] at ht
          obtain ⟨v, rfl, hv⟩ := exists_of_startsPunct (hnext ht) hp
          cases hu
          exact hv
        · cases us with
          | nil =>
            obtain ⟨v, hv, -⟩ := exists_of_startsPunct (hnext hhead) hp
            cases hv
          | cons u us =>
            refine hlast ?_
            rw [List.head?_append_of_ne_nil _ (by simp), List.head?_reverse] at hhead
            exact hhead

/-- **No name follows a joint colon** in the tokens of a text. -/
theorem isChain_apart_of_ofText? {s : String} (h : ofText? s = some ts) : ts.IsChain Apart := by
  unfold ofText? ofChars? at h
  dsimp only at h
  split at h
  · next us hs =>
    split at h
    · cases h
      exact isChain_of_scanPieces hs .nil fun hl => by cases hl
    · cases h
  · cases h

end DispatchLayer.Token
