import DispatchLayer.Proofs.Code.Reader.Statement

/-!
# Reading matches and conditions

A `match`, a conditional and a block stand for themselves at the beginning of a statement or of the
body of an arm. An arm is read up to the comma or the brace that ends it, in front of a further arm
or of the brace that closes the `match` (`ArmReads`).
-/

namespace DispatchLayer.Code.Reader

open Token

variable {ts mid rest more : List Token} {n w : String} {names : List String} {g : Grammar}
  {d d' m : Nat} {e e' : Expr} {p : Pat} {ss : List Stmt} {arms : List Arm}
  {follows : Bool → List Token → Bool}

/-! ## Expressions that stand for themselves -/

/-- Nothing follows that a standing expression could go on with. -/
structure EndsStanding (ts : List Token) : Prop where
  point : startsPoint ts = false
  question : startsOp ['?'] ts = false

theorem endsStanding_of (h : endsItem ts = true) : EndsStanding ts :=
  ⟨by unfold startsPoint; rw [startsOp_of_endsItem h]; rfl, startsOp_of_endsItem h _ _⟩

/-- An expression that stands for itself ends where its block does. -/
theorem takes_beginning_standing {r : Reader Expr} (hg : 0 < g.fuel)
    (hattrs : startsOp ['#'] ts = false) (hs : standing? g ts = some r) (hr : Takes r ts rest e)
    (he : e.standsAlone = true) (hrest : EndsStanding rest) :
    Takes (beginningExpr g) ts rest e := by
  refine (takes_outerAttributes_none hg hattrs).bind (Takes.ahead ?_)
  rw [hs]
  refine hr.bind (Takes.ahead ?_)
  rw [he, hrest.point, hrest.question]
  exact takes_pure

/-- From a depth on the expression is read where it stands for itself. -/
def StandsRead (d : Nat) (e : Expr) : Prop :=
  ∀ g rest, Deep d g → EndsStanding rest → Takes (g.expr .beginning) (e.spell ++ rest) rest e

theorem spell_braces (ss : List Stmt) (more : List Token) :
    (Expr.braces ss).spell ++ more = .opening .brace :: (spellStmts ss ++ .closing .brace :: more) := by
  show Token.opening .brace :: ((spellStmts ss) ++ [.closing .brace]) ++ more = _
  simp

theorem standsRead_braces (h : StmtsRead d ss) (hd : 0 < d) :
    StandsRead (d + 1) (Expr.braces ss) := by
  intro g rest hg hrest
  obtain ⟨g', hg', rfl⟩ := hg.below
  have hblock : Takes (blockExpr g') (.opening .brace :: (spellStmts ss ++ .closing .brace :: rest))
      rest (Expr.braces ss) :=
    takes_grouped .brace (h.takes_inside hd hg' (Expr.block (.plain none)))
  rw [spell_braces]
  exact takes_beginning_standing (Nat.lt_of_lt_of_le hd hg'.fuel) rfl rfl hblock rfl hrest

/-! ## Arms -/

/-- From a depth on the arm is read, in front of a further arm or of the end of the braces. -/
structure ArmReads (d : Nat) (a : Arm) : Prop where
  name : ∀ more, startsAnyName (spellArms [a] ++ more) = true
  takes : ∀ g rest, Deep d g → endsItem rest = true →
    Takes (arm g) (spellArms [a] ++ rest) rest a

theorem ArmReads.mono {a : Arm} (h : ArmReads d a) (hd : d ≤ d') : ArmReads d' a :=
  { h with takes := fun g rest hg hrest => h.takes g rest (hg.mono hd) hrest }

theorem spell_wrap (w : String) (names : List String) (p : Pat) :
    ∃ ts, (Pat.wrap (w :: names) p).spell = .ident w :: ts := by
  cases names with
  | nil => exact ⟨_, rfl⟩
  | cons n names => exact ⟨_, rfl⟩

/-- The tokens of one arm. -/
theorem spell_arm (p : Pat) (e : Expr) (more : List Token) :
    spellArms [Arm.plain p e] ++ more =
      p.spell ++ (operator ['=', '>'] ++ (e.spell ++ (armEnd e ++ more))) := by
  rw [spellArms_cons, spellArms]
  simp only [List.append_assoc, List.nil_append]

/-- An arm whose body is read, given what its end is read as. -/
theorem armReads_wrap (hp : PatReads d p) (h : ∀ n ∈ w :: names, Keyword.isReserved n = false)
    (hd : names.length ≤ d)
    (he : ∀ g rest, Deep (d + 2) g → endsItem rest = true → Takes (do
      let e ← g.expr .beginning
      if !e.standsAlone && !isEnd (← ahead) then op [',']
      else
        let _ ← op? [',']
      return Arm.mk [] (Pat.wrap (w :: names) p) none e) (e.spell ++ (armEnd e ++ rest)) rest
      (Arm.plain (Pat.wrap (w :: names) p) e)) :
    ArmReads (d + 2) (Arm.plain (Pat.wrap (w :: names) p) e) := by
  obtain ⟨ts, hts⟩ := spell_wrap w names p
  constructor
  case name =>
    intro more
    rw [spell_arm, hts]
    rfl
  case takes =>
    intro g rest hg hrest
    -- A name comes first, so there is neither a bar nor an attribute.
    have hbar : ∀ more, startsOp ['|'] ((Pat.wrap (w :: names) p).spell ++ more) = false := by
      intro more
      rw [hts]
      rfl
    have hattrs : ∀ more, startsOp ['#'] ((Pat.wrap (w :: names) p).spell ++ more) = false := by
      intro more
      rw [hts]
      rfl
    rw [spell_arm]
    refine (takes_outerAttributes_none (Nat.lt_of_lt_of_le (Nat.succ_pos _) hg.fuel)
      (hattrs _)).bind ?_
    refine (takes_alternatives (hbar _) (takes_pat_wrap hg hp h hd) rfl).bind ?_
    exact (takes_word?_not rfl).bind (takes_pure.bind ((takes_op rfl).bind (he g rest hg hrest)))

/-- An arm with a comma behind its body. -/
theorem armReads_comma (hp : PatReads d p) (h : ∀ n ∈ w :: names, Keyword.isReserved n = false)
    (hd : names.length ≤ d) (he : ExprReads .beginning (d + 2) e) (ha : e.standsAlone = false)
    (hcomma : armEnd e = [mark ',']) :
    ArmReads (d + 2) (Arm.plain (Pat.wrap (w :: names) p) e) := by
  refine armReads_wrap hp h hd fun g rest hg _ => ?_
  rw [hcomma]
  refine (he g _ hg rfl).bind (Takes.ahead ?_)
  rw [ha]
  exact (takes_op rfl).bind takes_pure

/-- An arm whose body is a block. -/
theorem armReads_block (hp : PatReads d p) (h : ∀ n ∈ w :: names, Keyword.isReserved n = false)
    (hd : names.length ≤ d) (he : StandsRead (d + 2) (Expr.braces ss)) :
    ArmReads (d + 2) (Arm.plain (Pat.wrap (w :: names) p) (Expr.braces ss)) := by
  refine armReads_wrap hp h hd fun g rest hg hrest => ?_
  exact (he g rest hg (endsStanding_of hrest)).bind (Takes.ahead
    ((takes_op?_not (startsOp_of_endsItem hrest _ _)).bind takes_pure))

/-! ## Matches -/

/-- A `match` on something that is read before a block. -/
structure MatchReads (d : Nat) (e : Expr) (arms : List Arm) : Prop where
  scrutinee : ExprReads .beforeBlock d e
  each : ∀ a ∈ arms, ArmReads d a
  length : arms.length < d

theorem MatchReads.takes (h : MatchReads d e arms) (hg : Deep d g) :
    Takes (matchExpr g) ((Expr.matchOn e [] arms).spell ++ rest) rest (.matchOn e [] arms) := by
  have hspell : (Expr.matchOn e [] arms).spell ++ rest =
      .ident "match" :: (e.spell ++ .opening .brace :: (spellArms arms ++ .closing .brace :: rest)) := by
    show Token.ident "match" :: e.spell ++
      (Token.opening .brace :: (spellArms arms ++ [.closing .brace])) ++ rest = _
    simp
  have hitem : ∀ a ∈ arms, ∀ more, endsItem more = true →
      endsItem (spellArms [a] ++ more) = true ∧ isEnd (spellArms [a] ++ more) = false ∧
        Takes (arm g) (spellArms [a] ++ more) more a := by
    intro a ha more hmore
    have htakes := (h.each a ha).takes g more hg hmore
    obtain ⟨n, ts, hts⟩ := exists_of_startsAnyName ((h.each a ha).name more)
    rw [hts] at htakes ⊢
    exact ⟨rfl, rfl, htakes⟩
  -- The braces have no attributes of their own, since an arm begins with a name.
  have hattrs : startsOp ['#'] (spellArms arms ++ .closing .brace :: rest) = false := by
    cases harms : arms with
    | nil => rfl
    | cons a more =>
      rw [spellArms_append, List.append_assoc]
      obtain ⟨n, ts, hts⟩ := exists_of_startsAnyName
        ((h.each a (by rw [harms]; exact List.mem_cons_self)).name _)
      rw [hts]
      rfl
  rw [hspell]
  refine (takes_word "match").bind ((h.scrutinee g _ hg rfl).bind (takes_grouped .brace ?_))
  refine (takes_innerAttributes_none (Nat.lt_of_lt_of_le (Nat.zero_lt_of_lt h.length) hg.fuel)
    (startsInner_of hattrs)).bind (Takes.bind ?_ takes_pure)
  rw [spellArms_eq_flatMap]
  exact takes_itemsToEnd hitem rfl rfl (Nat.lt_of_lt_of_le h.length hg.fuel)

/-- A `match` stands where any other expression may. -/
theorem MatchReads.chained (h : MatchReads d e arms) :
    Chained d 0 anyRest (.matchOn e [] arms) :=
  ⟨fun hg _ hmore => Takes.bind ((h.takes hg).of_steps fun _ => rfl) hmore⟩

theorem MatchReads.stands (h : MatchReads d e arms) : StandsRead (d + 1) (.matchOn e [] arms) := by
  intro g rest hg hrest
  obtain ⟨g', hg', rfl⟩ := hg.below
  exact takes_beginning_standing (Nat.lt_of_lt_of_le (Nat.zero_lt_of_lt h.length) hg'.fuel) rfl rfl
    (h.takes hg') rfl hrest

/-- A `match` as a statement, whether anything follows it or not. -/
theorem MatchReads.stmt (h : MatchReads d e arms) (last : Bool) :
    StmtReads (d + 1) last (Stmt.value (.matchOn e [] arms)) :=
  stmtReads_value (Nat.succ_pos d) (fun _ => ⟨rfl, rfl, rfl, rfl, rfl⟩) (fun _ _ _ _ => rfl)
    (fun g rest hg hrest =>
      h.stands g rest hg (endsStanding_of (endsItem_of_followsStmt hrest))) rfl fun _ => rfl

/-! ## Conditionals -/

/-- A pattern as a condition, for the value of an expression of one chain. -/
theorem exprReads_letCondition (hp : ∀ g rest, Deep d g →
      Takes g.pat (p.spell ++ mark '=' :: rest) (mark '=' :: rest) p)
    (hbar : ∀ more, startsOp ['|'] (p.spell ++ more) = false) (h : Chained d m follows e)
    (hm : m < d) (he : isWhole e = true) (ho : ∀ rest, OpensChain (e.spell ++ rest))
    (hc : Closes false follows) (hd : 1 < d) :
    ExprReads .beforeBlock (d + 1) (.letCondition p e) := by
  intro g rest hg hrest
  obtain ⟨g', hg', rfl⟩ := hg.below
  have hends := endsExpr_spec hrest
  have hpos : 0 < g'.fuel := Nat.lt_of_lt_of_le (Nat.zero_lt_of_lt hd) hg'.fuel
  -- One level for the word `let`, and one for the value behind it.
  obtain ⟨k, hk⟩ := Nat.exists_eq_add_of_le' (Nat.le_trans (Nat.succ_le_of_lt hd) hg'.fuel)
  have hspell : (Expr.letCondition p e).spell ++ rest =
      .ident "let" :: (p.spell ++ mark '=' :: (e.spell ++ rest)) := by
    show (Token.ident "let" :: p.spell ++ mark '=' :: e.spell) ++ rest = _
    simp
  have hlet : Takes (letExpr g' false (unaryWith g' false (k + 1)))
      (p.spell ++ mark '=' :: (e.spell ++ rest)) rest (.letCondition p e) := by
    refine (takes_alternatives (hbar _) (hp g' _ hg') rfl).bind ((takes_op rfl).bind ?_)
    refine (h.takes_unaryWith hm he hg' (ho rest) (hc rest hrest) hends.toEndsChain k).bind ?_
    exact (hends.takes_withOperators hpos _ _ _ (isRange_of_isWhole he)).bind takes_pure
  have hunary : Takes (unaryWith g' false (k + 2))
      (.ident "let" :: (p.spell ++ mark '=' :: (e.spell ++ rest))) rest (.letCondition p e) := by
    refine takes_unaryWith hpos ⟨rfl, rfl, rfl⟩ rfl ((hlet.of_steps fun _ => rfl).bind ?_)
    exact takes_repeat_done (hends.toEndsChain.takes_trailerStep _) hpos
  rw [hspell]
  show Takes (operatorExpr g' false) _ _ _
  unfold operatorExpr
  dsimp only
  rw [hk]
  exact hunary.bind (hends.takes_withOperators hpos _ _ _ rfl)

/-- A condition and the statements for it, where nothing more comes behind. -/
theorem takes_ifThen (he : ExprReads .beforeBlock d e) (hs : StmtsRead d ss) (hd : 0 < d)
    (hg : Deep (d + 1) g) (hrest : isEnd rest = true) :
    Takes (g.expr .beginning) ((Expr.ifThen e ss none).spell ++ rest) rest (.ifThen e ss none) := by
  obtain ⟨g', hg', rfl⟩ := hg.below
  have hpos : 0 < g'.fuel := Nat.lt_of_lt_of_le hd hg'.fuel
  obtain ⟨k, hk⟩ := Nat.exists_eq_add_of_lt hpos
  rw [Nat.zero_add] at hk
  have hspell : (Expr.ifThen e ss none).spell ++ rest =
      .ident "if" :: (e.spell ++ .opening .brace :: (spellStmts ss ++ .closing .brace :: rest)) := by
    show (Token.ident "if" :: e.spell ++
      (Token.opening .brace :: (spellStmts ss ++ [.closing .brace])) ++ []) ++ rest = _
    simp
  have helse : startsWord "else" rest = false := by
    cases rest with
    | nil => rfl
    | cons t rest =>
      cases t with
      | ident n => cases hrest
      | _ => rfl
  have hif : Takes (ifExpr g' g'.fuel)
      (.ident "if" :: (e.spell ++ .opening .brace :: (spellStmts ss ++ .closing .brace :: rest)))
      rest (.ifThen e ss none) := by
    rw [hk]
    refine (takes_word "if").bind ((he g' _ hg' rfl).bind
      ((takes_grouped .brace (hs.takes g' rest hg')).bind ?_))
    exact (takes_word?_not helse).bind takes_pure
  have hends : endsItem rest = true := by
    unfold endsItem
    rw [hrest]
    rfl
  rw [hspell]
  exact takes_beginning_standing hpos rfl rfl hif rfl (endsStanding_of hends)

/-! ## Answers -/

/-- Whether an expression is over, wherever it stands. -/
def endsAnswer (allow : Bool) (ts : List Token) : Bool := allow && endsExpr true ts

theorem closes_endsAnswer : Closes true endsAnswer := fun _ h => h

/-- An answer with a value. -/
theorem chained_return (hstarts : ∀ more, startsExpr (e.spell ++ more) = true)
    (h : ExprReads .free d e) : Chained d 0 endsAnswer (.returnWith (some e)) := by
  constructor
  intro g allow u fuel rest rest' e' hg hrest hmore
  have hvalue : Takes (operand? g) (e.spell ++ rest) rest (some e) := by
    refine Takes.ahead ?_
    rw [if_pos (hstarts rest)]
    exact (h g rest hg (Bool.and_eq_true_iff.1 hrest).2).bind takes_pure
  exact Takes.bind ((hvalue.map Expr.returnWith).of_steps fun _ => rfl) hmore

/-- A literal that is one token. -/
theorem chained_literal {text : String} (h : spellLiteral text = [.literal text]) :
    Chained 0 0 anyRest (.literal text) := by
  constructor
  intro g allow u fuel rest rest' e' _ _ hmore
  have hspell : (Expr.literal text).spell = [.literal text] := h
  have hatom : Takes (atom g allow u) (.literal text :: rest) rest (.literal text) := fun _ => rfl
  rw [hspell]
  exact hatom.bind hmore

end DispatchLayer.Code.Reader
