import DispatchLayer.Proofs.Code.Reader.Type

/-!
# Reading expressions

An expression of the kind that members and calls hang behind is read link by link: what is said of
it covers its own tokens and all links that follow (`Chained`), so each further link is one lemma.
-/

namespace DispatchLayer.Code.Reader

open Token

variable {α : Type} {ts mid rest more : List Token} {n w : String} {g : Grammar}

variable {d : Nat}

/-! ## What follows an expression -/

/-- Whether the tokens cannot be taken for more of an expression; a brace cannot where a block is
expected. -/
def endsExpr (allowStruct : Bool) : List Token → Bool
  | [] => true
  | .closing _ :: _ => true
  | .opening d :: _ => !allowStruct && d = .brace
  | .punct c _ :: _ => c == ',' || c == ';'
  | _ => false

/-- No further link of a chain follows. -/
structure EndsChain (ts : List Token) : Prop where
  call : startsGroup .paren ts = false
  point : startsPoint ts = false
  index : startsGroup .bracket ts = false
  question : startsOp ['?'] ts = false

/-- What an expression could go on with does not follow. -/
structure EndsExpr (ts : List Token) : Prop extends EndsChain ts where
  operator : binaryOp? ts = none
  assign : startsAssign ts = false
  range : startsOp ['.', '.'] ts = false
  cast : startsWord "as" ts = false

theorem endsExpr_spec {allow : Bool} (h : endsExpr allow rest = true) : EndsExpr rest := by
  cases rest with
  | nil => exact ⟨⟨rfl, rfl, rfl, rfl⟩, rfl, rfl, rfl, rfl⟩
  | cons t rest =>
    cases t with
    | ident n => cases h
    | literal text => cases h
    | closing d => exact ⟨⟨rfl, rfl, rfl, rfl⟩, rfl, rfl, rfl, rfl⟩
    | opening d =>
      obtain rfl := of_decide_eq_true (Bool.and_eq_true_iff.1 h).2
      exact ⟨⟨rfl, rfl, rfl, rfl⟩, rfl, rfl, rfl, rfl⟩
    | punct c s =>
      simp only [endsExpr, Bool.or_eq_true, beq_iff_eq] at h
      rcases h with rfl | rfl
      · cases s with
        | _ => exact ⟨⟨rfl, rfl, rfl, rfl⟩, rfl, rfl, rfl, rfl⟩
      · cases s with
        | _ => exact ⟨⟨rfl, rfl, rfl, rfl⟩, rfl, rfl, rfl, rfl⟩

theorem takes_outerAttributes_none (hg : 0 < g.fuel) (h : startsOp ['#'] ts = false) :
    Takes (outerAttributes g) ts ts [] :=
  takes_repeat_done ((takes_op?_not h).bind takes_pure) hg

/-- Whether an attribute of what encloses the tokens comes next. -/
def startsInner (ts : List Token) : Bool := startsOp ['#'] ts && startsOp ['!'] (ts.drop 1)

theorem takes_innerAttributes_none (hg : 0 < g.fuel) (h : startsInner ts = false) :
    Takes (innerAttributes g) ts ts [] := by
  refine takes_repeat_done (Takes.ahead ?_) hg
  rw [show (startsOp ['#'] ts && startsOp ['!'] (ts.drop 1)) = false from h]
  exact takes_pure

theorem startsInner_of (h : startsOp ['#'] ts = false) : startsInner ts = false := by
  unfold startsInner
  rw [h]
  rfl

/-- No operator follows. -/
theorem EndsExpr.takes_withOperators (h : EndsExpr ts) (hg : 0 < g.fuel) (allowStruct : Bool)
    (unary : Reader Expr) (base : Nat) {e : Expr} (he : isRange e = false) :
    Takes (withOperators g allowStruct unary base e) ts ts e := by
  refine takes_repeat_done (Takes.ahead ?_) hg
  rw [he, h.operator, h.assign, h.range, h.cast]
  simp only [Bool.false_eq_true, and_false, if_false]
  exact takes_pure

/-! ## Links -/

/-- One link of a chain, or the end of it. -/
def trailerStep (g : Grammar) (e : Expr) : Reader (Except Expr Expr) := do
  let ts ← ahead
  if startsGroup .paren ts then return .ok (.call e (← arguments g))
  else if startsPoint ts && !isRange e then
    drop 1
    return .ok (← pointed g e)
  else if startsGroup .bracket ts then
    return .ok (.index e (← grouped .bracket (g.expr .free)))
  else if startsOp ['?'] ts && !isRange e then
    drop 1
    return .ok (.question e)
  else return .error e

theorem EndsChain.takes_trailerStep (h : EndsChain ts) (e : Expr) :
    Takes (trailerStep g e) ts ts (.error e) := by
  refine Takes.ahead ?_
  rw [h.call, h.point, h.index, h.question]
  exact takes_pure

/-- What can stand behind a path in an expression. -/
def endsPath (allowStruct : Bool) : List Token → Bool
  | .opening .paren :: _ => true
  | .punct '.' .alone :: _ => true
  | ts => endsExpr allowStruct ts

/-- What a path in an expression could go on with does not follow. -/
structure EndsPath (allowStruct : Bool) (ts : List Token) : Prop where
  segment : startsSegment ts = false
  arguments : startsArguments true ts = false
  bang : startsBang ts = false
  fields : (allowStruct && startsGroup .brace ts) = false

theorem endsPath_spec {allow : Bool} (h : endsPath allow rest = true) : EndsPath allow rest := by
  unfold endsPath at h
  split at h
  · exact ⟨rfl, rfl, rfl, Bool.and_false allow⟩
  · exact ⟨rfl, rfl, rfl, Bool.and_false allow⟩
  · cases rest with
    | nil => exact ⟨rfl, rfl, rfl, Bool.and_false allow⟩
    | cons t rest =>
      cases t with
      | ident n => cases h
      | literal text => cases h
      | closing d => exact ⟨rfl, rfl, rfl, Bool.and_false allow⟩
      | opening d =>
        obtain ⟨ha, hd⟩ := Bool.and_eq_true_iff.1 h
        rw [Bool.not_eq_true'] at ha
        obtain rfl := of_decide_eq_true hd
        exact ⟨rfl, rfl, rfl, by rw [ha]; rfl⟩
      | punct c s =>
        simp only [endsExpr, Bool.or_eq_true, beq_iff_eq] at h
        rcases h with rfl | rfl
        · cases s with
          | _ => exact ⟨rfl, rfl, rfl, Bool.and_false allow⟩
        · cases s with
          | _ => exact ⟨rfl, rfl, rfl, Bool.and_false allow⟩

/-! ## Paths -/

/-- A path of names in an expression or a pattern. -/
theorem takes_qpath_names {leading : Bool} {names : List String} (hne : names ≠ [])
    (h : ∀ n ∈ names, isSegmentName n = true) (hf : names.length ≤ g.fuel)
    (hseg : startsSegment rest = false) (hargs : startsArguments true rest = false) :
    Takes (qpath g true) ((Path.ofNames leading names).spell ++ rest) rest
      (.plain (Path.ofNames leading names)) := by
  refine (takes_op?_not ?_).bind ((takes_pathWith_names leading hne h hseg hargs hf).bind takes_pure)
  obtain ⟨first, names, rfl⟩ := List.exists_cons_of_ne_nil hne
  cases leading with
  | true => rfl
  | false =>
    cases names with
    | nil => rfl
    | cons m names => rfl

theorem takes_pathExpr {allow leading : Bool} {names : List String} (hne : names ≠ [])
    (h : ∀ n ∈ names, isSegmentName n = true) (hf : names.length ≤ g.fuel)
    (hrest : endsPath allow rest = true) :
    Takes (pathExpr g allow) ((Expr.names leading names).spell ++ rest) rest
      (Expr.names leading names) := by
  have hends := endsPath_spec hrest
  refine (takes_qpath_names hne h hf hends.segment hends.arguments).bind (Takes.ahead ?_)
  rw [hends.bang, hends.fields]
  cases macroPath? (.plain (Path.ofNames leading names)) with
  | _ => exact takes_pure

/-! ## Members -/

/-- A glimpse leaves the input as it is, wherever the reader has got to. -/
theorem takes_glimpse_of {r : Reader α} {a? : Option α}
    (h : ∀ leftover, ∃ i, attempt r ⟨ts, leftover⟩ = .ok (a?, i)) : Takes (glimpse r) ts ts a? := by
  intro leftover
  obtain ⟨i, hi⟩ := h leftover
  show (attempt r ⟨ts, leftover⟩ >>= fun p => Except.ok (p.1, (⟨ts, leftover⟩ : Input))) = _
  rw [hi]
  rfl

theorem takes_glimpse_none {r : Reader α} (h : ∀ leftover, ∃ e, r ⟨ts, leftover⟩ = .error e) :
    Takes (glimpse r) ts ts none :=
  takes_glimpse_of fun leftover => ⟨_, takes_attempt_none h leftover⟩

theorem takes_glimpse {r : Reader α} {a : α} (h : Takes r ts rest a) :
    Takes (glimpse r) ts ts (some a) := by
  refine takes_glimpse_of fun leftover => ⟨⟨rest, leftover⟩, ?_⟩
  have hr : (some <$> r) ⟨ts, leftover⟩ = .ok (some a, ⟨rest, leftover⟩) := h.map some leftover
  show (tryCatch ((some <$> r) ⟨ts, leftover⟩) fun _ => _) = _
  rw [hr]
  rfl

/-- A name is no literal. -/
theorem literal_name (hn : Keyword.isReserved n = false) (leftover : Option Delimiter) :
    ∃ e, literal ⟨.ident n :: ts, leftover⟩ = .error e := by
  have hl : ¬(n = "true" ∨ n = "false") := by
    rintro (rfl | rfl)
    · exact absurd hn (by decide)
    · exact absurd hn (by decide)
  show ∃ e, (if n = "true" ∨ n = "false" then _ else expected ["literal"] : Reader String)
    ⟨.ident n :: ts, leftover⟩ = .error e
  rw [if_neg hl]
  exact ⟨_, rfl⟩

/-- Behind a point, a name that is no keyword is a member. -/
theorem takes_pointed {e e' : Expr} (hn : Keyword.isReserved n = false)
    (hcolons : startsOp [':', ':'] ts = false)
    (h : Takes (if startsGroup .paren ts then
        return .method e (.name n) (← arguments g)
      else return .field e n) ts rest e') :
    Takes (pointed g e) (.ident n :: ts) rest e' := by
  refine (takes_glimpse_none (literal_name hn)).bind ?_
  have hmember : Takes member (.ident n :: ts) ts (true, n) := by
    refine Takes.ahead ?_
    rw [startsName_plain hn]
    exact (takes_name hn).bind takes_pure
  refine (takes_word?_not (startsWord_plain hn (by decide))).bind
    (hmember.bind (Takes.ahead ?_))
  dsimp only
  rw [hcolons]
  refine takes_pure.bind ?_
  exact Takes.ahead h

/-! ## Chains -/

/-- From a depth on the expression is read together with all links behind it; `m` is the number of
its own links, and `follows` tells what its tokens are read in front of. -/
structure Chained (d m : Nat) (follows : Bool → List Token → Bool) (e : Expr) : Prop where
  takes : ∀ {g : Grammar} {allow : Bool} {u : Reader Expr} {fuel : Nat}
    {rest rest' : List Token} {e' : Expr}, Deep d g → follows allow rest = true →
    Takes (repeatStep (trailerStep g) fuel e) rest rest' e' →
    Takes (atom g allow u >>= repeatStep (trailerStep g) (fuel + m)) (e.spell ++ rest) rest' e'

/-- What a name behind a point is read as a field in front of. -/
def endsField (_ : Bool) (ts : List Token) : Bool :=
  !startsGroup .paren ts && !startsOp [':', ':'] ts

/-- What a closing bracket may have behind it. -/
def anyRest (_ : Bool) (_ : List Token) : Bool := true

/-- The word is read as the beginning of a path. -/
def BeginsPath (w : String) : Prop :=
  ∀ g allow unary ts leftover, atom g allow unary ⟨.ident w :: ts, leftover⟩ =
    pathExpr g allow ⟨.ident w :: ts, leftover⟩

theorem chained_names {names : List String} (hw : BeginsPath w)
    (h : ∀ n ∈ w :: names, isSegmentName n = true) (hd : names.length < d) :
    Chained d 0 endsPath (Expr.names false (w :: names)) := by
  constructor
  intro g allow unary fuel rest rest' e' hg hrest hmore
  have hp : Takes (pathExpr g allow) ((Expr.names false (w :: names)).spell ++ rest) rest
      (Expr.names false (w :: names)) :=
    takes_pathExpr (by simp) h (Nat.le_trans hd hg.fuel) hrest
  obtain ⟨ts, hts⟩ : ∃ ts, (Expr.names false (w :: names)).spell = .ident w :: ts := by
    cases names with
    | nil => exact ⟨_, rfl⟩
    | cons m names => exact ⟨_, rfl⟩
  rw [hts] at hp ⊢
  exact Takes.bind (fun leftover => (hw g allow unary _ leftover).trans (hp leftover)) hmore

variable {m : Nat} {follows : Bool → List Token → Bool} {e : Expr}

theorem Chained.field (h : Chained d m follows e)
    (hf : ∀ allow ts, follows allow (mark '.' :: ts) = true) (he : isRange e = false)
    (hn : Keyword.isReserved n = false) (hs : spellMember n = .ident n) :
    Chained d (m + 1) endsField (.field e n) := by
  constructor
  intro g allow unary fuel rest rest' e' hg hrest hmore
  obtain ⟨hparen, hcolons⟩ := Bool.and_eq_true_iff.1 hrest
  rw [Bool.not_eq_true'] at hparen hcolons
  have hstep : Takes (trailerStep g e) (mark '.' :: .ident n :: rest) rest (.ok (.field e n)) := by
    refine Takes.ahead ?_
    rw [he]
    refine (takes_drop 1).bind (Takes.bind (takes_pointed hn hcolons ?_) takes_pure)
    rw [hparen]
    exact takes_pure
  have hall := h.takes (u := unary) hg (hf allow _) (takes_repeat_more hstep hmore)
  show Takes _ ((e.spell ++ [mark '.', spellMember n]) ++ rest) rest' e'
  rw [hs, List.append_assoc, Nat.add_comm m 1, ← Nat.add_assoc]
  exact hall

/-- The tokens of arguments in their parentheses. -/
def spellArguments (args : List Expr) : List Token :=
  Token.grouped .paren (commaSeparated (spellExprs args))

/-- From a depth on the arguments in parentheses are read. -/
def ArgumentsRead (d : Nat) (args : List Expr) : Prop :=
  ∀ g rest, Deep d g → Takes (arguments g) (spellArguments args ++ rest) rest args

theorem Chained.invoke {args : List Expr} (h : Chained d m follows e)
    (hf : ∀ allow ts, follows allow (mark '.' :: ts) = true) (he : isRange e = false)
    (hn : Keyword.isReserved n = false) (ha : ArgumentsRead d args) :
    Chained d (m + 1) anyRest (e.invoke n args) := by
  constructor
  intro g allow unary fuel rest rest' e' hg _ hmore
  have hstep : Takes (trailerStep g e)
      (mark '.' :: .ident n :: (spellArguments args ++ rest)) rest
      (.ok (e.invoke n args)) := by
    refine Takes.ahead ?_
    rw [he]
    exact (takes_drop 1).bind (Takes.bind (takes_pointed hn rfl ((ha g rest hg).bind takes_pure))
      takes_pure)
  have hall := h.takes (u := unary) hg (hf allow _) (takes_repeat_more hstep hmore)
  have hspell : (e.invoke n args).spell ++ rest = e.spell ++
      (mark '.' :: .ident n :: (spellArguments args ++ rest)) := by
    show ((e.spell ++ mark '.' :: [.ident n]) ++ _) ++ rest = _
    rw [List.append_assoc, List.append_assoc]
    rfl
  rw [hspell, Nat.add_comm m 1, ← Nat.add_assoc]
  exact hall

theorem Chained.call {args : List Expr} (h : Chained d m follows e)
    (hf : ∀ allow ts, follows allow (.opening .paren :: ts) = true) (ha : ArgumentsRead d args) :
    Chained d (m + 1) anyRest (.call e args) := by
  constructor
  intro g allow unary fuel rest rest' e' hg _ hmore
  have hstep : Takes (trailerStep g e)
      (spellArguments args ++ rest) rest (.ok (.call e args)) :=
    Takes.ahead ((ha g rest hg).bind takes_pure)
  have hall := h.takes (u := unary) hg (hf allow _) (takes_repeat_more hstep hmore)
  show Takes _ ((e.spell ++ spellArguments args) ++ rest) rest' e'
  rw [List.append_assoc, Nat.add_comm m 1, ← Nat.add_assoc]
  exact hall

/-! ## Expressions of one chain -/

/-- Neither attributes nor an operator stand in front. -/
structure OpensChain (ts : List Token) : Prop where
  attrs : startsOp ['#'] ts = false
  reference : startsOp ['&'] ts = false
  operator : unaryOp? ts = none

/-- Whether an expression is neither loose tokens nor a range. -/
def isWhole : Expr → Bool
  | .bare _ => false
  | .range .. => false
  | _ => true

theorem isRange_of_isWhole (h : isWhole e = true) : isRange e = false := by
  cases e with
  | range => cases h
  | _ => rfl

theorem takes_unaryWith {allow : Bool} {k : Nat} (hg : 0 < g.fuel) (ho : OpensChain ts)
    (he : isWhole e = true)
    (h : Takes (atom g allow (unaryWith g allow k) >>= trailers g) ts rest e) :
    Takes (unaryWith g allow (k + 1)) ts rest e := by
  refine Takes.ahead ((takes_outerAttributes_none hg ho.attrs).bind (Takes.ahead ?_))
  rw [ho.reference, ho.operator]
  -- Without attributes the expression is given as it was read.
  let finish (e : Expr) : Reader Expr := match e with
    | .bare _ => return .bare (between ts (← ahead))
    | .range .. => if ([] : List Attribute).isEmpty then return e
      else failRule "attributes are not allowed on range expressions starting with `..`"
    | e => return e.withAttributes []
  have hfinish : Takes (finish e) rest rest e := by
    cases e with
    | bare => cases he
    | range => cases he
    | _ => exact takes_pure
  have hall := h.bind hfinish
  rw [bind_assoc] at hall
  exact hall

theorem Chained.takes_unaryWith {allow : Bool} (h : Chained d m follows e) (hm : m < d)
    (he : isWhole e = true) (hg : Deep d g) (ho : OpensChain (e.spell ++ rest))
    (hf : follows allow rest = true) (hrest : EndsChain rest) (k : Nat) :
    Takes (unaryWith g allow (k + 1)) (e.spell ++ rest) rest e := by
  -- The links of the expression take `m` of the steps, and one more finds the end of the chain.
  have hfuel : g.fuel = (g.fuel - m) + m :=
    (Nat.sub_add_cancel (Nat.le_of_lt (Nat.lt_of_lt_of_le hm hg.fuel))).symm
  have hpos : 0 < g.fuel - m := Nat.sub_pos_of_lt (Nat.lt_of_lt_of_le hm hg.fuel)
  refine Reader.takes_unaryWith (Nat.lt_of_lt_of_le (Nat.zero_lt_of_lt hm) hg.fuel) ho he ?_
  show Takes (atom g allow _ >>= repeatStep (trailerStep g) g.fuel) _ _ _
  rw [hfuel]
  exact h.takes hg hf (takes_repeat_done (hrest.takes_trailerStep e) hpos)

/-- What ends an expression may follow. -/
def Closes (allow : Bool) (follows : Bool → List Token → Bool) : Prop :=
  ∀ ts, endsExpr allow ts = true → follows allow ts = true

theorem closes_endsPath (allow : Bool) : Closes allow endsPath := by
  intro ts h
  unfold endsPath
  split
  · rfl
  · rfl
  · exact h

theorem closes_anyRest (allow : Bool) : Closes allow anyRest := fun _ _ => rfl

/-- The expression is read in its place from a depth on, in front of what ends it there. -/
def ExprReads (place : ExprPlace) (d : Nat) (e : Expr) : Prop :=
  ∀ g rest, Deep d g → endsExpr (place != .beforeBlock) rest = true →
    Takes (g.expr place) (e.spell ++ rest) rest e

theorem Chained.takes_operatorExpr {allow : Bool} (h : Chained d m follows e) (hm : m < d)
    (he : isWhole e = true) (hg : Deep d g) (ho : OpensChain (e.spell ++ rest))
    (hc : Closes allow follows) (hrest : endsExpr allow rest = true) :
    Takes (operatorExpr g allow) (e.spell ++ rest) rest e := by
  have hends := endsExpr_spec hrest
  have hpos : 0 < g.fuel := Nat.lt_of_lt_of_le (Nat.zero_lt_of_lt hm) hg.fuel
  obtain ⟨k, hk⟩ := Nat.exists_eq_add_of_lt hpos
  rw [Nat.zero_add] at hk
  unfold operatorExpr
  dsimp only
  refine Takes.bind ?_ (hends.takes_withOperators hpos _ _ _ (isRange_of_isWhole he))
  rw [hk]
  exact h.takes_unaryWith hm he hg ho (hc _ hrest) hends.toEndsChain k

theorem Chained.free (h : Chained d m follows e) (hm : m < d) (he : isWhole e = true)
    (ho : ∀ rest, OpensChain (e.spell ++ rest)) (hc : Closes true follows) :
    ExprReads .free (d + 1) e := by
  intro g rest hg hrest
  obtain ⟨g', hg', rfl⟩ := hg.below
  exact h.takes_operatorExpr hm he hg' (ho rest) hc hrest

theorem Chained.beforeBlock (h : Chained d m follows e) (hm : m < d) (he : isWhole e = true)
    (ho : ∀ rest, OpensChain (e.spell ++ rest)) (hc : Closes false follows) :
    ExprReads .beforeBlock (d + 1) e := by
  intro g rest hg hrest
  obtain ⟨g', hg', rfl⟩ := hg.below
  exact h.takes_operatorExpr hm he hg' (ho rest) hc hrest

/-- At the beginning of a statement: no block begins there. -/
theorem Chained.beginning (h : Chained d m follows e) (hm : m < d) (he : isWhole e = true)
    (ho : ∀ rest, OpensChain (e.spell ++ rest)) (hc : Closes true follows)
    (hs : ∀ g rest, standing? g (e.spell ++ rest) = none) (ha : e.standsAlone = false) :
    ExprReads .beginning (d + 1) e := by
  intro g rest hg hrest
  obtain ⟨g', hg', rfl⟩ := hg.below
  have hends := endsExpr_spec hrest
  have hpos : 0 < g'.fuel := Nat.lt_of_lt_of_le (Nat.zero_lt_of_lt hm) hg'.fuel
  obtain ⟨k, hk⟩ := Nat.exists_eq_add_of_lt hpos
  rw [Nat.zero_add] at hk
  show Takes (beginningExpr g') _ _ _
  unfold beginningExpr
  refine (takes_outerAttributes_none hpos (ho rest).attrs).bind (Takes.ahead ?_)
  rw [hs]
  have hunary : Takes (unaryWith g' true g'.fuel) (e.spell ++ rest) rest e := by
    rw [hk]
    exact h.takes_unaryWith hm he hg' (ho rest) (hc _ hrest) hends.toEndsChain k
  refine hunary.bind (Takes.ahead ?_)
  rw [ha]
  exact hends.takes_withOperators hpos _ _ _ (isRange_of_isWhole he)

end DispatchLayer.Code.Reader
