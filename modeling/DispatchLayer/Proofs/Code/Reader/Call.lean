import DispatchLayer.Proofs.Code.Reader.Bound
import DispatchLayer.Proofs.Code.Reader.Expr

/-!
# Reading calls

A call is a link behind a path or a member. The path may be qualified by a type and the trait that
a method belongs to. Arguments whose tokens are fixed are read by running the reader on them.
-/

namespace DispatchLayer.Code.Reader

open Token

variable {ts mid rest more : List Token} {n w x m : String} {g : Grammar} {d d' k : Nat} {e : Expr}
  {args : List Expr} {follows : Bool → List Token → Bool}

theorem Chained.mono (h : Chained d k follows e) (hd : d ≤ d') : Chained d' k follows e :=
  ⟨fun hg hrest hmore => h.takes (hg.mono hd) hrest hmore⟩

theorem ExprReads.mono {place : ExprPlace} (h : ExprReads place d e) (hd : d ≤ d') :
    ExprReads place d' e :=
  fun g rest hg hrest => h g rest (hg.mono hd) hrest

/-! ## Arguments -/

theorem argumentsRead_nil : ArgumentsRead 1 [] := by
  intro g rest hg
  obtain ⟨g', -, rfl⟩ := hg.below
  exact fun _ => rfl

/-- One argument. -/
theorem argumentsRead_one (hinside : ∀ more, isEnd (e.spell ++ more) = false)
    (h : ExprReads .free d e) (hd : 0 < d) : ArgumentsRead d [e] := by
  intro g rest hg
  obtain ⟨fuel, hfuel⟩ := Nat.exists_eq_add_of_lt (Nat.lt_of_lt_of_le hd hg.fuel)
  have hlist : Takes (commaList g.fuel isEnd (g.expr .free)) (e.spell ++ .closing .paren :: rest)
      (.closing .paren :: rest) [e] := by
    rw [hfuel]
    refine takes_repeat_done (Takes.ahead ?_) (Nat.succ_pos _)
    rw [hinside]
    exact (h g _ hg rfl).bind (Takes.ahead takes_pure)
  have hspell : spellArguments [e] ++ rest =
      .opening .paren :: (e.spell ++ .closing .paren :: rest) := by
    show Token.opening .paren :: (e.spell ++ [.closing .paren]) ++ rest = _
    simp
  rw [hspell]
  exact takes_grouped .paren hlist

/-! ## Paths that are called -/

/-- A path of names that is called. -/
theorem chained_callNames {names : List String} (hw : BeginsPath w)
    (h : ∀ n ∈ w :: names, isSegmentName n = true) (hd : names.length < d)
    (ha : ArgumentsRead d args) :
    Chained d 1 anyRest (.call (Expr.names false (w :: names)) args) :=
  (chained_names hw h hd).call (fun _ _ => rfl) ha

/-- Whether the arguments of a call come next. -/
def opensCall (_ : Bool) (ts : List Token) : Bool := startsGroup .paren ts

/-- A method of a trait, named through the type that implements it. -/
theorem chained_qualified (hx : Keyword.isReserved x = false) (hm : Keyword.isReserved m = false) :
    Chained 2 0 opensCall
      (.path (.qualified (Ty.named "T") (some (Path.single x)) [.name m])) := by
  constructor
  intro g allow u fuel rest rest' e' hg hrest hmore
  obtain ⟨more, rfl⟩ : ∃ more, rest = .opening .paren :: more := by
    cases rest with
    | nil => cases hrest
    | cons t more =>
      cases t with
      | opening d =>
        obtain rfl := of_decide_eq_true hrest
        exact ⟨more, rfl⟩
      | _ => cases hrest
  -- What follows the trait: the end of the brackets, the method, and its arguments.
  let inside : List Token := mark '>' :: (colons ++ .ident m :: .opening .paren :: more)
  have hty : Takes (g.ty true) (.ident "T" :: .ident "as" :: .ident x :: inside)
      (.ident "as" :: .ident x :: inside) (Ty.named "T") :=
    (tyReads_named true (by decide)).reads hg rfl
  have hpath : Takes g.path (.ident x :: inside) inside (Path.single x) :=
    takes_path_name hg (isSegmentName_plain hx) rfl rfl
  have hsegments : Takes (repeatStep (fun (done : List Segment) => do
      let s ← segmentWith (angleArguments g) true
      if ← op? [':', ':'] then return .ok (s :: done) else return .error (s :: done).reverse)
      g.fuel []) (.ident m :: .opening .paren :: more) (.opening .paren :: more) [.name m] :=
    takes_repeat_done ((takes_segmentWith _ (isSegmentName_plain hm) rfl).bind
      ((takes_op?_not rfl).bind takes_pure)) (Nat.lt_of_lt_of_le Nat.two_pos hg.fuel)
  have hq : Takes (qpath g true) (mark '<' :: .ident "T" :: .ident "as" :: .ident x :: inside)
      (.opening .paren :: more) (.qualified (Ty.named "T") (some (Path.single x)) [.name m]) :=
    (takes_op? rfl).bind (hty.bind ((takes_word? "as").bind (hpath.bind (takes_pure.bind
      ((takes_op rfl).bind ((takes_op rfl).bind (hsegments.bind takes_pure)))))))
  have hexpr : Takes (pathExpr g allow)
      (mark '<' :: .ident "T" :: .ident "as" :: .ident x :: inside) (.opening .paren :: more)
      (.path (.qualified (Ty.named "T") (some (Path.single x)) [.name m])) := by
    refine hq.bind (Takes.ahead ?_)
    cases allow with
    | _ => exact takes_pure
  exact (hexpr.of_steps fun _ => rfl).bind hmore

end DispatchLayer.Code.Reader
