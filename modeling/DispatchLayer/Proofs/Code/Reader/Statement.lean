import DispatchLayer.Proofs.Code.Reader.Call
import DispatchLayer.Proofs.Code.Reader.Pattern

/-!
# Reading statements

A statement is read in front of what may follow it in a block: nothing more, or the name that the
next statement begins with (`StmtReads`). A block is read if its statements are, one after the other
(`stmtsRead_of`).
-/

namespace DispatchLayer.Code.Reader

open Token

variable {α : Type} {ts mid rest more : List Token} {n w x m : String} {g : Grammar}
  {d d' k : Nat} {e : Expr} {s : Stmt} {ss : List Stmt}

/-! ## The first tokens of a statement -/

/-- What a statement that is an expression begins with. -/
structure OpensStmt (ts : List Token) : Prop where
  attrs : startsOp ['#'] ts = false
  binding : startsWord "let" ts = false
  item : startsItem ts = false
  semicolon : startsOp [';'] ts = false
  inside : isEnd ts = false

/-- A path of two names, with nothing behind it that would be more of it. -/
theorem takes_plainPath_pair (hg : 2 ≤ g.fuel) (hw : Keyword.isReserved w = false)
    (hn : Keyword.isReserved n = false) (hrest : startsOp [':', ':'] rest = false) :
    Takes (plainPath g) (.ident w :: (colons ++ .ident n :: rest)) rest ⟨false, [w, n]⟩ := by
  have hstarts : ∀ {v ts}, Keyword.isReserved v = false →
      startsPlainPath (.ident v :: ts) = true := by
    intro v ts hv
    unfold startsPlainPath
    rw [startsName_plain hv]
    rfl
  obtain ⟨fuel, hfuel⟩ := Nat.exists_eq_add_of_le' hg
  have hnames : Takes (repeatStep (fun (done : List String) => do
      if !startsPlainPath (← ahead) then expected ["path segment after `::`"]
      let n ← anyName
      if ← op? [':', ':'] then return .ok (n :: done) else return .error (n :: done).reverse)
      g.fuel []) (.ident w :: (colons ++ .ident n :: rest)) rest [w, n] := by
    rw [hfuel]
    refine @takes_repeat_more _ _ _ (.ident n :: rest) _ _ _ _ [w] _ (Takes.ahead ?_)
      (takes_repeat_done (Takes.ahead ?_) (Nat.succ_pos fuel))
    · rw [hstarts hw]
      exact (takes_anyName w).bind ((takes_op? rfl).bind takes_pure)
    · rw [hstarts hn]
      exact (takes_anyName n).bind ((takes_op?_not hrest).bind takes_pure)
  refine (takes_op?_not rfl).bind (Takes.ahead ?_)
  rw [hstarts hw]
  exact hnames.bind takes_pure

/-- A path that is no macro call, as no exclamation mark follows. -/
theorem takes_macroAhead?_path {p : PlainPath} (h : Takes (plainPath g) ts rest p)
    (hrest : startsOp ['!'] rest = false) : Takes (macroAhead? g) ts ts none := by
  have hglimpse : Takes (do let p ← plainPath g; return (p, ← ahead)) ts rest (p, rest) :=
    h.bind (Takes.ahead takes_pure)
  refine (takes_glimpse hglimpse).bind ?_
  dsimp only
  rw [hrest]
  exact takes_pure

/-! ## Single statements -/

theorem takes_statement {semicolon : Bool} (hg : 0 < g.fuel) (ho : OpensStmt ts)
    (hcall : Takes (macroAhead? g) ts ts none) (he : Takes (g.expr .beginning) ts mid e)
    (hend : Takes (op? [';']) mid rest semicolon) :
    Takes (statement g) ts rest (expressionStmt [] e semicolon) := by
  refine Takes.get fun leftover => (takes_outerAttributes_none hg ho.attrs).bind
    (Takes.ahead (hcall.bind ?_))
  dsimp only
  rw [ho.binding, ho.item]
  exact he.bind (hend.bind takes_pure)

/-- Whether nothing more comes in the braces, or something that begins with a name. -/
def endsItem (ts : List Token) : Bool := isEnd ts || startsAnyName ts

theorem startsOp_of_endsItem (h : endsItem ts = true) (c : Char) (cs : List Char) :
    startsOp (c :: cs) ts = false := by
  cases ts with
  | nil => cases cs <;> rfl
  | cons t ts =>
    cases t with
    | punct c s => cases h
    | ident n => exact startsOp_ident c cs
    | _ => cases cs <;> rfl

theorem exists_of_startsAnyName (h : startsAnyName ts = true) : ∃ n more, ts = .ident n :: more := by
  cases ts with
  | nil => cases h
  | cons t ts =>
    cases t with
    | ident n => exact ⟨n, ts, rfl⟩
    | _ => cases h

/-- Whether tokens may follow a statement: the end of the block, or unless the statement is the last
one the name that the next one begins with. -/
def followsStmt (last : Bool) (ts : List Token) : Bool := isEnd ts || (!last && startsAnyName ts)

theorem endsItem_of_followsStmt {last : Bool} (h : followsStmt last ts = true) :
    endsItem ts = true := by
  cases last with
  | false => exact h
  | true =>
    unfold endsItem
    rw [← Bool.or_false (isEnd ts), show (isEnd ts || false) = true from h]
    rfl

/-- From a depth on the statement is read. -/
structure StmtReads (d : Nat) (last : Bool) (s : Stmt) : Prop where
  semicolon : ∀ more, startsOp [';'] (spellStmts [s] ++ more) = false
  inside : ∀ more, isEnd (spellStmts [s] ++ more) = false
  attrs : ∀ more, startsOp ['#'] (spellStmts [s] ++ more) = false
  goesOn : last = false → mustBeLast s = false
  takes : ∀ g rest, Deep d g → followsStmt last rest = true →
    Takes (statement g) (spellStmts [s] ++ rest) rest s

theorem StmtReads.mono {last : Bool} (h : StmtReads d last s) (hd : d ≤ d') :
    StmtReads d' last s :=
  { h with takes := fun g rest hg hrest => h.takes g rest (hg.mono hd) hrest }

/-- A last statement whose tokens are all known is read by running the reader on it, at the end of
the tokens and in front of a closing bracket. -/
theorem stmtReads_of_run (d : Nat) {s : Stmt}
    (hsemicolon : ∀ more, startsOp [';'] (spellStmts [s] ++ more) = false)
    (hinside : ∀ more, isEnd (spellStmts [s] ++ more) = false)
    (hattrs : ∀ more, startsOp ['#'] (spellStmts [s] ++ more) = false)
    (hover : ∀ g, Takes (statement (Nat.repeat Grammar.above d g)) (spellStmts [s] ++ []) [] s)
    (hclosed : ∀ g b rest, Takes (statement (Nat.repeat Grammar.above d g))
      (spellStmts [s] ++ .closing b :: rest) (.closing b :: rest) s) : StmtReads d true s := by
  refine ⟨hsemicolon, hinside, hattrs, nofun, fun g rest hg hrest => ?_⟩
  obtain ⟨g', rfl⟩ := hg.exists_repeat d (Nat.le_refl d)
  cases rest with
  | nil => exact hover g'
  | cons t rest =>
    cases t with
    | closing b => exact hclosed g' b rest
    | _ => cases hrest

/-- The last statement of a block, or one that needs no semicolon. -/
theorem stmtReads_value {last : Bool} (hd : 0 < d) (ho : ∀ more, OpensStmt (e.spell ++ more))
    (hcall : ∀ g more, Deep d g → Takes (macroAhead? g) (e.spell ++ more) (e.spell ++ more) none)
    (he : ∀ g rest, Deep d g → followsStmt last rest = true →
      Takes (g.expr .beginning) (e.spell ++ rest) rest e)
    (hs : expressionStmt [] e false = .expr e false) (hl : last = false → e.isStatement = true) :
    StmtReads d last (Stmt.value e) := by
  have hspell : spellStmts [Stmt.value e] = e.spell := by
    show e.spell ++ [] ++ [] = _
    rw [List.append_nil, List.append_nil]
  constructor
  case semicolon =>
    intro more
    rw [hspell]
    exact (ho more).semicolon
  case inside =>
    intro more
    rw [hspell]
    exact (ho more).inside
  case attrs =>
    intro more
    rw [hspell]
    exact (ho more).attrs
  case goesOn =>
    intro hlast
    show (!e.isStatement) = false
    rw [hl hlast]
    rfl
  case takes =>
    intro g rest hg hrest
    have h := takes_statement (Nat.lt_of_lt_of_le hd hg.fuel) (ho rest) (hcall g rest hg)
      (he g rest hg hrest)
      (takes_op?_not (startsOp_of_endsItem (endsItem_of_followsStmt hrest) _ _))
    rw [hspell]
    rwa [hs] at h

/-- An expression for its effect. -/
theorem stmtReads_effect {last : Bool} (hd : 0 < d) (ho : ∀ more, OpensStmt (e.spell ++ more))
    (hcall : ∀ g more, Deep d g → Takes (macroAhead? g) (e.spell ++ more) (e.spell ++ more) none)
    (he : ∀ g rest, Deep d g →
      Takes (g.expr .beginning) (e.spell ++ mark ';' :: rest) (mark ';' :: rest) e)
    (hs : expressionStmt [] e true = .expr e true) : StmtReads d last (Stmt.effect e) := by
  have hspell : ∀ more, spellStmts [Stmt.effect e] ++ more = e.spell ++ mark ';' :: more := by
    intro more
    show (e.spell ++ [mark ';'] ++ []) ++ more = _
    simp
  constructor
  case semicolon =>
    intro more
    rw [hspell]
    exact (ho _).semicolon
  case inside =>
    intro more
    rw [hspell]
    exact (ho _).inside
  case attrs =>
    intro more
    rw [hspell]
    exact (ho _).attrs
  case goesOn => exact fun _ => rfl
  case takes =>
    intro g rest hg _
    have hsemicolon : Takes (op? [';']) (mark ';' :: rest) rest true := takes_op? rfl
    have h := takes_statement (Nat.lt_of_lt_of_le hd hg.fuel) (ho _) (hcall g _ hg) (he g rest hg)
      hsemicolon
    rw [hspell]
    rwa [hs] at h

/-- A name for a value. -/
theorem stmtReads_bind {last : Bool} (hd : 0 < d) (hn : Keyword.isReserved n = false)
    (he : ExprReads .free d e) : StmtReads d last (Stmt.bind n e) := by
  have hspell : ∀ more, spellStmts [Stmt.bind n e] ++ more =
      .ident "let" :: .ident n :: mark '=' :: (e.spell ++ mark ';' :: more) := by
    intro more
    show (Token.ident "let" :: [Token.ident n] ++ mark '=' :: e.spell ++ [] ++ [mark ';']) ++ more = _
    simp
  constructor
  case semicolon => exact fun _ => rfl
  case inside => exact fun _ => rfl
  case attrs => exact fun _ => rfl
  case goesOn => exact fun _ => rfl
  case takes =>
    intro g rest hg _
    have hpos : 0 < g.fuel := Nat.lt_of_lt_of_le hd hg.fuel
    have hname : Takes g.pat (.ident n :: mark '=' :: (e.spell ++ mark ';' :: rest))
        (mark '=' :: (e.spell ++ mark ';' :: rest)) (Pat.name n) :=
      takes_pat_name (hg.mono hd) hn ⟨rfl, rfl, fun _ => rfl, rfl, rfl⟩
    have helse : startsWord "else" (mark ';' :: rest) = false := rfl
    have hvalue : Takes (letStmt g []) (.ident n :: mark '=' :: (e.spell ++ mark ';' :: rest)) rest
        (Stmt.bind n e) := by
      refine hname.bind ((takes_op?_not rfl).bind (takes_pure.bind ((takes_op? rfl).bind ?_)))
      refine Takes.withTokens (he g (mark ';' :: rest) hg rfl) fun tokens => Takes.ahead ?_
      rw [helse, Bool.and_false]
      exact (takes_op rfl).bind takes_pure
    have hcall : Takes (macroAhead? g) (.ident "let" :: .ident n :: mark '=' ::
        (e.spell ++ mark ';' :: rest)) _ none := fun _ => rfl
    rw [hspell]
    refine Takes.get fun leftover => (takes_outerAttributes_none hpos rfl).bind (Takes.ahead ?_)
    exact hcall.bind (hvalue.of_steps fun _ => rfl)

/-- An assignment, where its value is read as one operand. -/
theorem takes_assign {u : Reader Expr} {allow : Bool} {left right : Expr} (hg : 2 ≤ g.fuel)
    (hl : isRange left = false) (hu : Takes u ts (mark ';' :: rest) right) :
    Takes (withOperators g allow u 0 left) (mark '=' :: ts) (mark ';' :: rest)
      (.assign left right) := by
  obtain ⟨fuel, hfuel⟩ := Nat.exists_eq_add_of_le' hg
  have hpos : 0 < g.fuel := Nat.lt_of_lt_of_le Nat.two_pos hg
  have hoperand : Takes (operandWith g allow u (fuel + 2) assignStrength) ts (mark ';' :: rest)
      right :=
    hu.bind (takes_repeat_done (Takes.ahead takes_pure) hpos)
  -- One step takes the sign and its operand, and the next finds no further operator.
  unfold withOperators operatorLoop
  rw [hfuel]
  refine @takes_repeat_more _ _ _ (mark ';' :: rest) _ _ _ _ (.assign left right) _ (Takes.ahead ?_)
    (takes_repeat_done (Takes.ahead takes_pure) (Nat.succ_pos fuel))
  rw [hl]
  exact (takes_drop 1).bind (hoperand.bind takes_pure)

/-! ## Blocks -/

/-- Each statement is read, and so is what follows it. -/
inductive StmtsReads (d : Nat) : List Stmt → Prop where
  | last {s : Stmt} (h : StmtReads d true s) : StmtsReads d [s]
  | cons {s : Stmt} {ss : List Stmt} (h : StmtReads d false s) (hss : StmtsReads d ss)
      (hname : ∀ more, startsAnyName (spellStmts ss ++ more) = true) : StmtsReads d (s :: ss)

/-- From a depth on the statements are read up to the end of their braces. -/
structure StmtsRead (d : Nat) (ss : List Stmt) : Prop where
  attrs : ∀ rest, startsOp ['#'] (spellStmts ss ++ .closing .brace :: rest) = false
  takes : ∀ g rest, Deep d g →
    Takes g.stmts (spellStmts ss ++ .closing .brace :: rest) (.closing .brace :: rest) ss

theorem StmtsRead.mono (h : StmtsRead d ss) (hd : d ≤ d') : StmtsRead d' ss :=
  { h with takes := fun g rest hg => h.takes g rest (hg.mono hd) }

/-- Statements whose tokens are all known are read by running the reader on them. -/
theorem stmtsRead_of_run (d : Nat)
    (hattrs : ∀ rest, startsOp ['#'] (spellStmts ss ++ .closing .brace :: rest) = false)
    (h : ∀ g rest, Takes (Nat.repeat Grammar.above d g).stmts
      (spellStmts ss ++ .closing .brace :: rest) (.closing .brace :: rest) ss) : StmtsRead d ss := by
  refine ⟨hattrs, fun g rest hg => ?_⟩
  obtain ⟨g', rfl⟩ := hg.exists_repeat d (Nat.le_refl d)
  exact h g' rest

theorem spellStmts_cons (s : Stmt) (ss : List Stmt) :
    spellStmts (s :: ss) = spellStmts [s] ++ spellStmts ss := by
  cases s with
  | letBinding attrs p init otherwise =>
    cases init with
    | _ =>
      cases otherwise with
      | _ => exact (List.append_assoc _ [mark ';'] (spellStmts ss)).symm
  | _ => simp [spellStmts]

/-- Statements one after the other. -/
theorem stmtsRead_of (h : StmtsReads d ss) (hl : ss.length ≤ d) : StmtsRead (d + 1) ss := by
  constructor
  case attrs =>
    intro rest
    cases h with
    | last h => exact h.attrs _
    | cons h =>
      rw [spellStmts_cons, List.append_assoc]
      exact h.attrs _
  case takes =>
    intro g rest hg
    obtain ⟨g', hg', rfl⟩ := hg.below
    -- The last statement ends the loop by itself, so as many steps as statements are enough.
    suffices hloop : ∀ fuel done, ss.length ≤ fuel → Takes (repeatStep (fun (done : List Stmt) => do
        if ← op? [';'] then return .ok (.empty :: done)
        if isEnd (← ahead) then return .error done.reverse
        let s ← statement g'
        if isEnd (← ahead) then return .error (s :: done).reverse
        else if mustBeLast s then failRule "unexpected token, expected `;`"
        else return .ok (s :: done)) fuel done) (spellStmts ss ++ .closing .brace :: rest)
        (.closing .brace :: rest) (done.reverse ++ ss) from
      hloop g'.fuel [] (Nat.le_trans hl hg'.fuel)
    clear hl
    induction h with
    | last h =>
      intro fuel done hf
      refine takes_repeat_done ((takes_op?_not (h.semicolon _)).bind (Takes.ahead ?_)) hf
      rw [h.inside]
      refine (h.takes g' _ hg' rfl).bind (Takes.ahead ?_)
      rw [← List.reverse_cons]
      exact takes_pure
    | @cons s ss h hss hname ih =>
      intro fuel done hf
      cases fuel with
      | zero => exact absurd hf (Nat.not_succ_le_zero _)
      | succ fuel =>
        have hmore := ih fuel (s :: done) (Nat.le_of_succ_le_succ hf)
        rw [List.reverse_cons, List.append_assoc, List.singleton_append] at hmore
        -- The next statement begins with a name: the braces go on, and this statement does not.
        obtain ⟨n, more, hmore'⟩ := exists_of_startsAnyName (hname (.closing .brace :: rest))
        have hend : isEnd (spellStmts ss ++ .closing .brace :: rest) = false := by
          rw [hmore']
          rfl
        have hfollows : followsStmt false (spellStmts ss ++ .closing .brace :: rest) = true := by
          rw [hmore']
          rfl
        rw [spellStmts_cons, List.append_assoc]
        refine takes_repeat_more ((takes_op?_not (h.semicolon _)).bind (Takes.ahead ?_)) hmore
        rw [h.inside]
        refine (h.takes g' _ hg' hfollows).bind (Takes.ahead ?_)
        rw [hend, h.goesOn rfl]
        exact takes_pure

/-- A block with one value, which is an expression of one chain. -/
theorem Chained.stmtsRead {follows : Bool → List Token → Bool} (h : Chained d k follows e)
    (hk : k < d) (hwhole : isWhole e = true) (hc : Closes true follows)
    (ho : ∀ more, OpensChain (e.spell ++ more) ∧ OpensStmt (e.spell ++ more))
    (hcall : ∀ g more, Deep (d + 1) g →
      Takes (macroAhead? g) (e.spell ++ more) (e.spell ++ more) none)
    (hstanding : ∀ g more, standing? g (e.spell ++ more) = none) (halone : e.standsAlone = false)
    (hs : expressionStmt [] e false = .expr e false) : StmtsRead (d + 2) [Stmt.value e] := by
  have hreads : ExprReads .beginning (d + 1) e :=
    h.beginning hk hwhole (fun rest => (ho rest).1) hc hstanding halone
  refine stmtsRead_of (.last (stmtReads_value (Nat.succ_pos d) (fun more => (ho more).2) hcall
    (fun g rest hg hrest => hreads g rest hg ?_) hs nofun)) (Nat.succ_le_succ (Nat.zero_le d))
  cases rest with
  | nil => rfl
  | cons t rest =>
    cases t with
    | closing b => rfl
    | _ => cases hrest

/-- Statements in braces, with attributes of the braces before them where there are any. -/
theorem StmtsRead.takes_inside (h : StmtsRead d ss) (hd : 0 < d) (hg : Deep d g)
    (f : List Attribute → List Stmt → α) :
    Takes (do
      let attrs ← innerAttributes g
      return f attrs (← g.stmts)) (spellStmts ss ++ .closing .brace :: rest)
      (.closing .brace :: rest) (f [] ss) :=
  (takes_innerAttributes_none (Nat.lt_of_lt_of_le hd hg.fuel)
    (startsInner_of (h.attrs rest))).bind
    ((h.takes g rest hg).bind takes_pure)

end DispatchLayer.Code.Reader
