import DispatchLayer.Code.Build
import DispatchLayer.Code.Spelling
import DispatchLayer.Proofs.Token.Line

/-!
# Well-spelled sequences of tokens

A sequence of tokens is well spelled if its tokens can be told apart on a line and its brackets pair
up (`WellSpelled`). Such sequences can be put one after the other, between brackets, and into lists;
the brackets that close two lists of generic arguments in a row stay apart from what follows
(`WellSpelled.angled`).
-/

namespace DispatchLayer.Token

/-- The brackets among the tokens pair up, whatever stands around them. -/
def Balances (ts : List Token) : Prop :=
  ∀ stack rest, balancedFrom stack (ts ++ rest) = balancedFrom stack rest

namespace Balances

variable {as bs ts : List Token}

theorem nil : Balances [] := fun _ _ => rfl

theorem append (ha : Balances as) (hb : Balances bs) : Balances (as ++ bs) := by
  intro stack rest
  rw [List.append_assoc, ha, hb]

theorem grouped (d : Delimiter) (h : Balances ts) : Balances (Token.grouped d ts) := by
  intro stack rest
  unfold Token.grouped
  rw [List.cons_append, List.append_assoc, balancedFrom, h]
  simp [balancedFrom]

theorem balanced (h : Balances ts) : balanced ts = true := by
  have hb := h [] []
  rwa [List.append_nil] at hb

end Balances

/-- The tokens can be told apart on a line, and their brackets pair up. -/
structure WellSpelled (ts : List Token) : Prop where
  legible : Legible ts
  balances : Balances ts

theorem WellSpelled.balanced {ts : List Token} (h : WellSpelled ts) : balanced ts = true :=
  h.balances.balanced

theorem Legible.append {as bs : List Token} (ha : Legible as) (hb : Legible bs) :
    Legible (as ++ bs) := by
  induction ha with
  | nil => exact hb
  | ident h _ ih => exact .ident h ih
  | literal h _ ih => exact .literal h ih
  | opening d _ ih => exact .opening d ih
  | closing d _ ih => exact .closing d ih
  | alone h _ ih => exact .alone h ih
  | joint h hd _ ih => exact .joint h hd ih
  | lifetime h _ ih => exact .lifetime h ih

namespace WellSpelled

variable {as bs ts : List Token}

theorem nil : WellSpelled [] := ⟨.nil, .nil⟩

theorem append (ha : WellSpelled as) (hb : WellSpelled bs) : WellSpelled (as ++ bs) :=
  ⟨ha.legible.append hb.legible, ha.balances.append hb.balances⟩

theorem ident {n : String} (h : Scan.isSourceName n.toList = true) (hts : WellSpelled ts) :
    WellSpelled (.ident n :: ts) := by
  refine ⟨.ident h hts.legible, fun stack rest => ?_⟩
  rw [List.cons_append, balancedFrom, hts.balances]
  all_goals simp

theorem literal {text : String} (h : Scan.ReadsAsLiteral text.toList) (hts : WellSpelled ts) :
    WellSpelled (.literal text :: ts) := by
  refine ⟨.literal h hts.legible, fun stack rest => ?_⟩
  rw [List.cons_append, balancedFrom, hts.balances]
  all_goals simp

theorem mark {c : Char} (h : isPlainPunct c = true) (hts : WellSpelled ts) :
    WellSpelled (Token.mark c :: ts) := by
  refine ⟨.alone h hts.legible, fun stack rest => ?_⟩
  rw [Token.mark, List.cons_append, balancedFrom, hts.balances]
  all_goals simp

theorem grouped (d : Delimiter) (hts : WellSpelled ts) : WellSpelled (Token.grouped d ts) :=
  ⟨.opening d (hts.legible.append (.closing d .nil)), hts.balances.grouped d⟩

theorem lifetime {n : String} (h : Name.isIdentifier n.toList = true) :
    WellSpelled (Token.lifetime n) := by
  refine ⟨.lifetime h .nil, fun stack rest => ?_⟩
  unfold Token.lifetime
  rw [List.cons_append, List.cons_append, balancedFrom, balancedFrom, List.nil_append]
  all_goals simp

theorem operator {cs : List Char} (h : cs.all isPlainPunct = true) :
    WellSpelled (Token.operator cs) := by
  induction cs with
  | nil => exact nil
  | cons c cs ih =>
    rw [List.all_cons, Bool.and_eq_true] at h
    cases cs with
    | nil => exact mark h.1 nil
    | cons d cs =>
      have hcs := ih h.2
      have hd := h.2
      rw [List.all_cons, Bool.and_eq_true] at hd
      refine ⟨?_, fun stack rest => ?_⟩
      · -- The next character is joint or not; either way it is a punctuation character.
        cases cs with
        | nil => exact .joint h.1 hd.1 hcs.legible
        | cons e cs => exact .joint h.1 hd.1 hcs.legible
      · rw [Token.operator, List.cons_append, balancedFrom, hcs.balances]
        all_goals simp

theorem ident_only {n : String} (h : Scan.isSourceName n.toList = true) : WellSpelled [.ident n] :=
  ident h nil

theorem word {n : String} (h : Scan.isLatinName n = true) (hts : WellSpelled ts) :
    WellSpelled (.ident n :: ts) :=
  ident (Scan.isSourceName_of_isLatinName h) hts

theorem word_only {n : String} (h : Scan.isLatinName n = true) : WellSpelled [.ident n] :=
  word h nil

end WellSpelled

end DispatchLayer.Token

namespace DispatchLayer.Code

open Token

variable {ts : List Token} {tss : List (List Token)}

/-! ## Lists in angle brackets -/

/-- Only a closing angle bracket at the end is changed. -/
theorem joinCloser_cons {t : Token} (h : ts ≠ [] ∨ ∀ s, t ≠ .punct '>' s) :
    joinCloser (t :: ts) = t :: joinCloser ts := by
  rw [joinCloser]
  rintro s rfl rfl
  rcases h with h | h
  · exact h rfl
  · exact h s rfl

theorem joinCloser_append {more : List Token} (h : more ≠ []) :
    joinCloser (ts ++ more) = ts ++ joinCloser more := by
  induction ts with
  | nil => rfl
  | cons t ts ih =>
    rw [List.cons_append, joinCloser_cons (Or.inl (by simp [h])), ih]
    rfl

theorem joinCloser_punct (c : Char) (s : Spacing) (ts : List Token) :
    ∃ s' ts', joinCloser (.punct c s :: ts) = .punct c s' :: ts' := by
  cases ts with
  | nil =>
    by_cases hc : c = '>'
    · exact ⟨.joint, [], by rw [hc]; rfl⟩
    · exact ⟨s, [], by rw [joinCloser_cons (Or.inr fun s' h => hc (by cases h; rfl))]; rfl⟩
  | cons t ts => exact ⟨s, _, joinCloser_cons (Or.inl (by simp))⟩

theorem legible_joinCloser (h : Legible ts) : Legible (joinCloser ts ++ [mark '>']) := by
  induction h with
  | nil => exact .alone (by decide) .nil
  | ident h _ ih =>
    rw [joinCloser_cons (Or.inr fun _ => by simp)]
    exact .ident h ih
  | literal h _ ih =>
    rw [joinCloser_cons (Or.inr fun _ => by simp)]
    exact .literal h ih
  | opening d _ ih =>
    rw [joinCloser_cons (Or.inr fun _ => by simp)]
    exact .opening d ih
  | closing d _ ih =>
    rw [joinCloser_cons (Or.inr fun _ => by simp)]
    exact .closing d ih
  | @alone c ts h hts ih =>
    by_cases hc : ts = [] ∧ c = '>'
    · obtain ⟨rfl, rfl⟩ := hc
      exact .joint h (by decide) (.alone (by decide) .nil)
    · rw [joinCloser_cons]
      · exact .alone h ih
      · by_cases hts : ts = []
        · exact Or.inr fun s hs => hc ⟨hts, by cases hs; rfl⟩
        · exact Or.inl hts
  | @joint c d s ts h hd _ ih =>
    rw [joinCloser_cons (Or.inl (by simp))]
    obtain ⟨s', ts', he⟩ := joinCloser_punct d s ts
    rw [he] at ih ⊢
    exact .joint h hd ih
  | lifetime h _ ih =>
    rw [joinCloser_cons (Or.inl (by simp)), joinCloser_cons (Or.inr fun _ => by simp)]
    exact .lifetime h ih

theorem balancedFrom_joinCloser (stack : List Delimiter) (ts rest : List Token) :
    balancedFrom stack (joinCloser ts ++ rest) = balancedFrom stack (ts ++ rest) := by
  fun_induction joinCloser ts generalizing stack with
  | case1 => rfl
  | case2 s =>
    rw [List.singleton_append, List.singleton_append, balancedFrom, balancedFrom]
    all_goals simp
  | case3 t ts h ih =>
    rw [List.cons_append, List.cons_append]
    -- What a token does to the stack does not depend on what follows.
    cases t with
    | opening d => exact ih _
    | closing d =>
      cases stack with
      | nil => rfl
      | cons e stack => exact congrArg (e = d && ·) (ih stack)
    | ident n =>
      rw [balancedFrom, balancedFrom, ih]
      all_goals simp
    | punct c s =>
      rw [balancedFrom, balancedFrom, ih]
      all_goals simp
    | literal text =>
      rw [balancedFrom, balancedFrom, ih]
      all_goals simp

theorem wellSpelled_angled (h : WellSpelled ts) : WellSpelled (angled ts) := by
  have hj : WellSpelled (joinCloser ts ++ [mark '>']) := by
    refine ⟨legible_joinCloser h.legible, fun stack rest => ?_⟩
    rw [List.append_assoc, balancedFrom_joinCloser, h.balances]
    exact (WellSpelled.mark (by decide) .nil).balances stack rest
  exact .mark (by decide) hj

/-! ## Lists with separators -/

theorem wellSpelled_separatedBy {op : List Token} (hop : WellSpelled op)
    (h : ∀ ts ∈ tss, WellSpelled ts) : WellSpelled (separatedBy op tss) := by
  fun_induction separatedBy op tss with
  | case1 => exact .nil
  | case2 t => exact h t (by simp)
  | case3 t rest hne ih =>
    exact ((h t (by simp)).append hop).append (ih fun u hu => h u (by simp [hu]))

theorem wellSpelled_commaSeparated (h : ∀ ts ∈ tss, WellSpelled ts) :
    WellSpelled (commaSeparated tss) := by
  fun_induction commaSeparated tss with
  | case1 => exact .nil
  | case2 t => exact h t (by simp)
  | case3 t rest hne ih =>
    exact (h t (by simp)).append (.mark (by decide) (ih fun u hu => h u (by simp [hu])))

end DispatchLayer.Code
