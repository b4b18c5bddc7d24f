import DispatchLayer.Code.Reader.Basic
import DispatchLayer.Proofs.Code.Spelling

/-!
# Trees of tokens and their parts

Tokens are gathered at their brackets (`trees`), and the trees are cut into parts, each up to a tree
that ends one (`cutAfter`). A reader of parts reads a whole sequence of tokens if it reads every part
(`readParts`).

Where the brackets of a first sequence pair up, the trees of two sequences are those of the first and
then those of the second (`trees_append`). So parts that stand one after the other are read one after
the other (`readParts_flatMap`), and what is said of one part can be put together from its front and
its end (`Front`, `ReadsAs`).
-/

namespace DispatchLayer.Code

open Token

/-! ## Trees of tokens -/

/-- A token outside of brackets, or a pair of brackets with the tokens between them. -/
inductive TokenTree where
  | leaf (t : Token)
  | group (d : Delimiter) (inside : List Token)
  deriving DecidableEq, Repr

/-- The trees of the tokens that follow once `depth` open pairs of brackets have been closed. -/
def treesFrom : Nat → List Token → List TokenTree
  | _, [] => []
  | 0, .opening d :: ts => .group d (Reader.insideGroup 0 ts) :: treesFrom 1 ts
  | 0, t :: ts => .leaf t :: treesFrom 0 ts
  | depth + 1, .opening _ :: ts => treesFrom (depth + 2) ts
  | depth + 1, .closing _ :: ts => treesFrom depth ts
  | depth + 1, _ :: ts => treesFrom (depth + 1) ts

/-- The trees of a sequence of tokens. -/
def trees (ts : List Token) : List TokenTree := treesFrom 0 ts

/-- The tokens of a tree. -/
def TokenTree.spell : TokenTree → List Token
  | .leaf t => [t]
  | .group d inside => grouped d inside

/-- Whether a token is a bracket. -/
def isBracket : Token → Bool
  | .opening _ => true
  | .closing _ => true
  | _ => false

section Trees

variable {ts as bs : List Token}

theorem balancedFrom_cons_of_inline {t : Token} (h : isBracket t = false) (stack : List Delimiter)
    (ts : List Token) : balancedFrom stack (t :: ts) = balancedFrom stack ts := by
  cases t with
  | opening d => cases h
  | closing d => cases h
  | _ => cases stack <;> rfl

theorem insideGroup_cons_of_inline {t : Token} (h : isBracket t = false) (depth : Nat)
    (ts : List Token) :
    Reader.insideGroup depth (t :: ts) = t :: Reader.insideGroup depth ts := by
  cases t with
  | opening d => cases h
  | closing d => cases h
  | _ => cases depth <;> rfl

/-- Brackets apart, what is inside of a group is passed over. -/
theorem treesFrom_cons_of_inline {t : Token} (h : isBracket t = false) (depth : Nat)
    (ts : List Token) : treesFrom (depth + 1) (t :: ts) = treesFrom (depth + 1) ts := by
  cases t with
  | opening d => cases h
  | closing d => cases h
  | _ => rfl

theorem trees_cons_of_inline {t : Token} (h : isBracket t = false) (ts : List Token) :
    trees (t :: ts) = .leaf t :: trees ts := by
  cases t with
  | opening d => cases h
  | closing d => cases h
  | _ => rfl

theorem balances_of_inline (h : ∀ t ∈ ts, isBracket t = false) : Balances ts := by
  induction ts with
  | nil => exact .nil
  | cons t ts ih =>
    obtain ⟨ht, hts⟩ := List.forall_mem_cons.1 h
    intro stack rest
    rw [List.cons_append, balancedFrom_cons_of_inline ht, ih hts]

/-- A group that is closed is not changed by what follows. -/
theorem insideGroup_append (d : Delimiter) (stack : List Delimiter) (rest : List Token)
    (h : balancedFrom (d :: stack) ts = true) :
    Reader.insideGroup stack.length (ts ++ rest) = Reader.insideGroup stack.length ts := by
  -- The group is over when the last of the open brackets has been closed.
  induction ts generalizing d stack with
  | nil => cases h
  | cons t ts ih =>
    cases t with
    | opening e => exact congrArg (Token.opening e :: ·) (ih e (d :: stack) h)
    | closing e =>
      have hrest := (Bool.and_eq_true_iff.1 h).2
      cases stack with
      | nil => rfl
      | cons f stack => exact congrArg (Token.closing e :: ·) (ih f stack hrest)
    | _ =>
      rw [balancedFrom_cons_of_inline rfl] at h
      rw [List.cons_append, insideGroup_cons_of_inline rfl, insideGroup_cons_of_inline rfl, ih d stack h]

/-- A group holds the tokens up to the bracket that closes it, and goes on behind it. -/
theorem of_closed (stack : List Delimiter) (d : Delimiter) (rest : List Token)
    (h : balancedFrom stack ts = true) :
    Reader.insideGroup stack.length (ts ++ .closing d :: rest) = ts ∧
      treesFrom (stack.length + 1) (ts ++ .closing d :: rest) = trees rest := by
  induction ts generalizing stack with
  | nil =>
    cases stack with
    | nil => exact ⟨rfl, rfl⟩
    | cons e stack => cases h
  | cons t ts ih =>
    cases t with
    | opening e =>
      obtain ⟨hi, ht⟩ := ih (e :: stack) h
      exact ⟨congrArg (Token.opening e :: ·) hi, ht⟩
    | closing e =>
      cases stack with
      | nil => cases h
      | cons f stack =>
        obtain ⟨hi, ht⟩ := ih stack (Bool.and_eq_true_iff.1 h).2
        exact ⟨congrArg (Token.closing e :: ·) hi, ht⟩
    | _ =>
      rw [balancedFrom_cons_of_inline rfl] at h
      obtain ⟨hi, ht⟩ := ih stack h
      rw [List.cons_append, insideGroup_cons_of_inline rfl, treesFrom_cons_of_inline rfl, hi, ht]
      exact ⟨rfl, rfl⟩

theorem treesFrom_append (stack : List Delimiter) (rest : List Token)
    (h : balancedFrom stack ts = true) :
    treesFrom stack.length (ts ++ rest) = treesFrom stack.length ts ++ trees rest := by
  induction ts generalizing stack with
  | nil =>
    cases stack with
    | nil => rfl
    | cons e stack => cases h
  | cons t ts ih =>
    cases t with
    -- Only a bracket outside of all others begins a tree.
    | opening e =>
      have hts := ih (e :: stack) h
      cases stack with
      | nil =>
        have hi := insideGroup_append e [] rest h
        exact congrArg₂ (TokenTree.group e · :: ·) hi hts
      | cons f stack => exact hts
    | closing e =>
      cases stack with
      | nil => cases h
      | cons f stack => exact ih stack (Bool.and_eq_true_iff.1 h).2
    | _ =>
      rw [balancedFrom_cons_of_inline rfl] at h
      cases stack with
      | nil => exact congrArg (_ :: ·) (ih [] h)
      | cons f stack =>
        rw [List.length_cons, List.cons_append, treesFrom_cons_of_inline rfl,
          treesFrom_cons_of_inline rfl]
        exact ih (f :: stack) h

/-- **Trees part by part**, as long as the brackets of the first part pair up. -/
theorem trees_append (h : Balances as) (bs : List Token) :
    trees (as ++ bs) = trees as ++ trees bs :=
  treesFrom_append [] bs h.balanced

theorem trees_grouped (d : Delimiter) (h : Balances ts) :
    trees (grouped d ts) = [.group d ts] := by
  obtain ⟨hi, ht⟩ := of_closed [] d [] h.balanced
  exact congrArg₂ (TokenTree.group d · :: ·) hi ht

theorem trees_of_inline (h : ∀ t ∈ ts, isBracket t = false) : trees ts = ts.map .leaf := by
  induction ts with
  | nil => rfl
  | cons t ts ih =>
    obtain ⟨ht, hts⟩ := List.forall_mem_cons.1 h
    rw [trees_cons_of_inline ht, ih hts, List.map_cons]

end Trees

/-! ## Parts -/

section Parts

variable {α : Type}

/-- A list cut after each member that ends a part. -/
def cutAfter (ends : α → Bool) : List α → List (List α)
  | [] => []
  | a :: as =>
    if ends a then [a] :: cutAfter ends as
    else match cutAfter ends as with
      | [] => [[a]]
      | part :: parts => (a :: part) :: parts

/-- What is read of the parts of a sequence of tokens. -/
def readParts (ends : TokenTree → Bool) (read : List TokenTree → Option α) (ts : List Token) :
    Option (List α) :=
  (cutAfter ends (trees ts)).mapM read

end Parts

/-! ## Reading part by part -/

section Reading

variable {α β : Type} {ends : TokenTree → Bool} {read : List TokenTree → Option α} {a : α}
  {ts us : List Token}

theorem cutAfter_append {γ : Type} {ends : γ → Bool} {front : List γ} {last : γ}
    (hf : ∀ c ∈ front, ends c = false) (hl : ends last = true) (rest : List γ) :
    cutAfter ends (front ++ last :: rest) = (front ++ [last]) :: cutAfter ends rest := by
  induction front with
  | nil =>
    rw [List.nil_append, cutAfter, if_pos hl]
    rfl
  | cons c front ih =>
    obtain ⟨hc, hrest⟩ := List.forall_mem_cons.1 hf
    rw [List.cons_append, cutAfter, hc, if_neg Bool.false_ne_true, ih hrest]
    rfl

/-- The trees of these tokens, none of which ends a part. -/
structure Front (ends : TokenTree → Bool) (ts : List Token) (front : List TokenTree) : Prop where
  balances : Balances ts
  trees_eq : trees ts = front
  spell_eq : front.flatMap TokenTree.spell = ts
  goes_on : ∀ u ∈ front, ends u = false

/-- The tokens are one part, which is read as this. -/
structure ReadsAs (ends : TokenTree → Bool) (read : List TokenTree → Option α) (ts : List Token)
    (a : α) : Prop where
  balances : Balances ts
  one_part : ∃ front last, trees ts = front ++ [last] ∧ (∀ u ∈ front, ends u = false) ∧
    ends last = true
  read_eq : read (trees ts) = some a

/-- Tokens without brackets. -/
theorem Front.inline (h : (ts.all fun t => !isBracket t && !ends (.leaf t)) = true) :
    Front ends ts (ts.map .leaf) := by
  simp only [List.all_eq_true, Bool.and_eq_true, Bool.not_eq_true'] at h
  have hb : ∀ t ∈ ts, isBracket t = false := fun t ht => (h t ht).1
  have hspell : (ts.map TokenTree.leaf).flatMap TokenTree.spell = ts := by
    rw [List.flatMap_map]
    exact List.flatMap_singleton' ts
  exact ⟨balances_of_inline hb, trees_of_inline hb, hspell,
    List.forall_mem_map.2 fun t ht => (h t ht).2⟩

/-- Tokens whose trees are known. -/
theorem Front.of_trees (hb : Balances ts) (hs : (trees ts).flatMap TokenTree.spell = ts)
    (he : ((trees ts).all fun u => !ends u) = true) : Front ends ts (trees ts) := by
  simp only [List.all_eq_true, Bool.not_eq_true'] at he
  exact ⟨hb, rfl, hs, he⟩

theorem Front.grouped {d : Delimiter} (hd : ∀ inside, ends (.group d inside) = false)
    (h : Balances ts) : Front ends (grouped d ts) [.group d ts] :=
  ⟨h.grouped d, trees_grouped d h, List.append_nil _, List.forall_mem_singleton.2 (hd ts)⟩

theorem Front.append {fs gs : List TokenTree} (hf : Front ends ts fs) (hg : Front ends us gs) :
    Front ends (ts ++ us) (fs ++ gs) := by
  refine ⟨hf.balances.append hg.balances, ?_, ?_, List.forall_mem_append.2 ⟨hf.goes_on, hg.goes_on⟩⟩
  · rw [trees_append hf.balances, hf.trees_eq, hg.trees_eq]
  · rw [List.flatMap_append, hf.spell_eq, hg.spell_eq]

/-- A part with one last tree, with which it ends. -/
theorem Front.readsAs {front : List TokenTree} {last : TokenTree} (hf : Front ends ts front)
    (hb : Balances us) (hu : trees us = [last]) (he : ends last = true)
    (hr : read (front ++ [last]) = some a) : ReadsAs ends read (ts ++ us) a := by
  have ht : trees (ts ++ us) = front ++ [last] := by
    rw [trees_append hf.balances, hf.trees_eq, hu]
  exact ⟨hf.balances.append hb, ⟨front, last, ht, hf.goes_on, he⟩, ht ▸ hr⟩

/-- A part that ends with a punctuation character. -/
theorem Front.readsAs_mark {front : List TokenTree} {c : Char} (hf : Front ends ts front)
    (he : ends (.leaf (mark c)) = true) (hr : read (front ++ [.leaf (mark c)]) = some a) :
    ReadsAs ends read (ts ++ [mark c]) a :=
  hf.readsAs (balances_of_inline (List.forall_mem_singleton.2 rfl)) rfl he hr

/-- What may stand in front of a part for a reader that goes on with another one. -/
theorem ReadsAs.behind {read' : List TokenTree → Option α} {front : List TokenTree}
    (h : ReadsAs ends read ts a) (hf : Front ends us front)
    (hr : ∀ more, read' (front ++ more) = read more) : ReadsAs ends read' (us ++ ts) a := by
  have htrees := trees_append hf.balances ts
  rw [hf.trees_eq] at htrees
  obtain ⟨part, last, ht, hpart, hlast⟩ := h.one_part
  refine ⟨hf.balances.append h.balances, ⟨front ++ part, last, ?_,
    List.forall_mem_append.2 ⟨hf.goes_on, hpart⟩, hlast⟩, ?_⟩
  · rw [htrees, ht, List.append_assoc]
  · rw [htrees, hr, h.read_eq]

/-- The members of a list are spelled as parts that are read as the members of another one. -/
def AllRead (ends : TokenTree → Bool) (read : List TokenTree → Option α)
    (spell : β → List Token) : List β → List α → Prop :=
  List.Forall₂ fun b a => ReadsAs ends read (spell b) a

variable {spell : β → List Token} {bs : List β} {as : List α}

theorem AllRead.nil : AllRead ends read spell [] [] := List.Forall₂.nil

theorem AllRead.cons {b : β} (hb : ReadsAs ends read (spell b) a)
    (h : AllRead ends read spell bs as) : AllRead ends read spell (b :: bs) (a :: as) :=
  List.Forall₂.cons hb h

theorem AllRead.single {b : β} (hb : ReadsAs ends read (spell b) a) :
    AllRead ends read spell [b] [a] := .cons hb .nil

theorem AllRead.append {bs' : List β} {as' : List α} (h : AllRead ends read spell bs as)
    (h' : AllRead ends read spell bs' as') : AllRead ends read spell (bs ++ bs') (as ++ as') :=
  List.rel_append h h'

theorem AllRead.balances (h : AllRead ends read spell bs as) : Balances (bs.flatMap spell) := by
  induction h with
  | nil => exact .nil
  | cons hb _ ih => exact hb.balances.append ih

/-- A part in front of others is read first. -/
theorem readParts_append (h : ReadsAs ends read ts a) (us : List Token) :
    readParts ends read (ts ++ us) = (readParts ends read us).map (a :: ·) := by
  obtain ⟨front, last, ht, hfront, hlast⟩ := h.one_part
  unfold readParts
  rw [trees_append h.balances, ht, List.append_assoc, List.singleton_append,
    cutAfter_append hfront hlast, List.mapM_cons, ← ht, h.read_eq]
  cases (cutAfter ends (trees us)).mapM read with
  | none => rfl
  | some as => rfl

/-- **Parts one after the other** are read one after the other. -/
theorem readParts_flatMap (h : AllRead ends read spell bs as) :
    readParts ends read (bs.flatMap spell) = some as := by
  induction h with
  | nil => rfl
  | cons hb _ ih =>
    rw [List.flatMap_cons, readParts_append hb, ih]
    rfl

/-- Parts made of the members of one list. -/
theorem AllRead.of_map {γ : Type} {f : γ → β} {g : γ → α} {cs : List γ}
    (h : ∀ c ∈ cs, ReadsAs ends read (spell (f c)) (g c)) :
    AllRead ends read spell (cs.map f) (cs.map g) := by
  unfold AllRead
  rw [List.forall₂_map_left_iff, List.forall₂_map_right_iff, List.forall₂_same]
  exact h

/-- Parts made from groups of members. -/
theorem AllRead.of_flatMap {γ : Type} {f : γ → List β} {g : γ → List α} {cs : List γ}
    (h : ∀ c ∈ cs, AllRead ends read spell (f c) (g c)) :
    AllRead ends read spell (cs.flatMap f) (cs.flatMap g) := by
  induction cs with
  | nil => exact .nil
  | cons c cs ih =>
    obtain ⟨hc, hrest⟩ := List.forall_mem_cons.1 h
    exact hc.append (ih hrest)

end Reading

end DispatchLayer.Code
