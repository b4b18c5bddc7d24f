import DispatchLayer.Proofs.Code.Reader.Type

/-!
# Reading bounds

A bound is a trait called by a plain name, perhaps with a type in parentheses behind it, or a
lifetime. From these come the types that are sums of a trait and a lifetime, the parameters of items
and the conditions on them.
-/

namespace DispatchLayer.Code.Reader

open Token

variable {ts mid rest more : List Token} {n w l : String} {g : Grammar} {d : Nat} {t : Ty}
  {place : BoundPlace}

/-! ## One bound -/

/-- What a bound begins with that is a path. -/
structure OpensBound (ts : List Token) : Prop where
  lifetime : startsLifetime ts = false
  use : startsWord "use" ts = false
  group : ∀ d, startsGroup d ts = false
  binder : startsWord "for" ts = false
  constant : startsWord "const" ts = false
  question : startsOp ['?'] ts = false

theorem opensBound_ident (hn : Keyword.isReserved n = false) : OpensBound (.ident n :: ts) :=
  ⟨rfl, startsWord_plain hn (by decide), fun _ => rfl, startsWord_plain hn (by decide +kernel),
    startsWord_plain hn (by decide), rfl⟩

theorem opensBound_colons : OpensBound (colons ++ ts) := ⟨rfl, rfl, fun _ => rfl, rfl, rfl, rfl⟩

/-- A path as a bound, given what is read of it. -/
theorem OpensBound.takes_bound {p : Path} (h : OpensBound ts) (place : BoundPlace)
    (hp : Takes (g.path >>= withParenArguments g) ts rest p) :
    Takes (bound g place) ts rest (.trait false false none p) := by
  have hconst : Takes (constMark place) ts ts false := by
    refine Takes.ahead ?_
    rw [h.group .bracket, h.constant]
    exact takes_pure
  have htrait : Takes (traitBound g place false) ts rest (false, .trait false false none p) := by
    refine (takes_binder?_not h.binder).bind (hconst.bind ((takes_op?_not h.question).bind ?_))
    refine takes_pure.bind ?_
    dsimp only
    rw [← bind_assoc]
    exact hp.bind takes_pure
  refine Takes.ahead ?_
  rw [h.lifetime, h.use]
  refine Takes.withTokens (a := (false, .trait false false none p)) ?_ fun tokens => takes_pure
  rw [h.group .paren]
  exact htrait

/-- A path of names as types use it. -/
theorem takes_path_names (leading : Bool) {names : List String} (hg : Deep (d + 1) g)
    (hne : names ≠ []) (h : ∀ n ∈ names, isSegmentName n = true) (hl : names.length ≤ d)
    (hsegment : startsSegment rest = false) (harguments : startsArguments false rest = false) :
    Takes g.path ((Path.ofNames leading names).spell ++ rest) rest (Path.ofNames leading names) := by
  obtain ⟨g', hg', rfl⟩ := hg.below
  exact takes_pathWith_names leading hne h hsegment harguments (Nat.le_trans hl hg'.fuel)

theorem takes_path_name (hg : Deep 2 g) (hn : isSegmentName n = true)
    (hsegment : startsSegment rest = false) (harguments : startsArguments false rest = false) :
    Takes g.path (.ident n :: rest) rest (Path.single n) := by
  have hnames : ∀ m ∈ [n], isSegmentName m = true := List.forall_mem_singleton.2 hn
  exact takes_path_names false hg (List.cons_ne_nil n []) hnames (Nat.le_refl 1) hsegment harguments

theorem isSegmentName_plain (hn : Keyword.isReserved n = false) : isSegmentName n = true := by
  unfold isSegmentName
  rw [hn]
  exact Bool.or_true _

/-- A trait called by a name. -/
theorem takes_bound_name (hg : Deep 2 g) (hn : Keyword.isReserved n = false)
    (hsegment : startsSegment rest = false) (harguments : startsArguments false rest = false)
    (hparens : startsParenArguments rest = false) (place : BoundPlace) :
    Takes (bound g place) (.ident n :: rest) rest (Bound.ofName n) := by
  refine (opensBound_ident hn).takes_bound place
    ((takes_path_name hg (isSegmentName_plain hn) hsegment harguments).bind (Takes.ahead ?_))
  rw [hparens]
  exact takes_pure

/-! ## Sums of a trait and a lifetime -/

/-- A trait and a lifetime with `+` between them. -/
theorem takes_bounds_pair (hg : Deep 3 g) (hn : Keyword.isReserved n = false)
    (hplus : startsOp ['+'] rest = false) (place : BoundPlace) :
    Takes (bounds g place true) (.ident n :: mark '+' :: (Token.lifetime l ++ rest)) rest
      [Bound.ofName n, .lifetime l] := by
  refine (takes_bound_name (hg.mono (by omega)) hn rfl rfl rfl place).bind ?_
  obtain ⟨fuel, hfuel⟩ := Nat.exists_eq_add_of_le' hg.fuel
  have hmore : ∀ fuel, Takes (repeatStep (fun (done : List Bound) => do
      if startsOp ['+'] (← ahead) then
        drop 1
        if startsBound place (← ahead) then return .ok ((← bound g place) :: done)
        else return .error done.reverse
      else return .error done.reverse) (fuel + 1) [.lifetime l, Bound.ofName n]) rest rest
      [Bound.ofName n, .lifetime l] := by
    intro fuel
    refine takes_repeat_done (Takes.ahead ?_) (Nat.succ_pos fuel)
    rw [hplus]
    exact takes_pure
  show Takes (moreBounds g place (Bound.ofName n)) _ _ _
  unfold moreBounds
  rw [hfuel]
  exact takes_repeat_more (fun _ => rfl) (hmore _)

/-- A sum of bounds with a trait in it, behind `dyn`. -/
theorem tyReads_object {plus : Bool} {bs : List Bound} (ts : List Token)
    (hs : ∀ j, closed j (Ty.object bs).spell = .ident "dyn" :: ts)
    (htrait : bs.any isTrait = true) (hstar : ∀ rest, startsOp ['*'] (ts ++ rest) = false)
    (h : ∀ g rest, Deep d g → endsTy rest = true →
      Takes (bounds g .object plus) (ts ++ rest) rest bs) : TyReads plus d (.object bs) := by
  refine ⟨rfl, fun j k rest hk hrest => ?_⟩
  have hobject : Takes (objectType (Grammar.ofDepth k) plus) (ts ++ rest) rest (.object bs) := by
    refine (h _ rest ⟨k, hk, rfl⟩ hrest).bind ?_
    rw [htrait]
    exact takes_pure
  have hdyn : Takes (dynType (Grammar.ofDepth k) plus) (.ident "dyn" :: (ts ++ rest)) rest
      (.object bs) :=
    Takes.withTokens ((takes_word "dyn").bind ((takes_op?_not (hstar rest)).bind
      (hobject.bind takes_pure))) fun _ => takes_pure
  rw [hs]
  exact hdyn.of_steps fun _ => rfl

/-- The same behind `dyn`, as a type. -/
theorem tyReads_dyn (hn : Keyword.isReserved n = false) :
    TyReads true 4 (.object [Bound.ofName n, .lifetime l]) := by
  refine tyReads_object (.ident n :: mark '+' :: Token.lifetime l) (fun j => ?_) rfl (fun _ => rfl)
    fun g rest hg hrest => takes_bounds_pair (hg.mono (by omega)) hn (endsTy_spec hrest).plus .object
  have hlast := closed_ident j l
  show closed j ([.ident "dyn", .ident n, mark '+', .punct '\'' .joint] ++ [Token.ident l]) = _
  rw [closed_append j (by simp), hlast]
  rfl

/-- The same behind `impl`. -/
theorem tyReads_impl (hn : Keyword.isReserved n = false) :
    TyReads true 4 (.impl [Bound.ofName n, .lifetime l]) := by
  refine ⟨rfl, fun j k rest hk hrest => ?_⟩
  have hs : closed j (Ty.impl [Bound.ofName n, .lifetime l]).spell =
      .ident "impl" :: .ident n :: mark '+' :: Token.lifetime l := by
    have hlast := closed_ident j l
    show closed j ([.ident "impl", .ident n, mark '+', .punct '\'' .joint] ++ [Token.ident l]) = _
    rw [closed_append j (by simp), hlast]
    rfl
  have hdeep : Deep 3 (Grammar.ofDepth k) := ⟨k, by omega, rfl⟩
  have hb := @takes_bounds_pair rest n l _ hdeep hn (endsTy_spec hrest).plus .impl
  have himpl : Takes (implType (Grammar.ofDepth k) true)
      (.ident n :: mark '+' :: (Token.lifetime l ++ rest)) rest
      (.impl [Bound.ofName n, .lifetime l]) := hb.bind takes_pure
  rw [hs]
  exact himpl.of_steps fun _ => rfl

/-! ## A trait with a type in parentheses -/

theorem tyReads_named (plus : Bool) (hn : Keyword.isReserved n = false) :
    TyReads plus 1 (Ty.named n) := by
  have ht : n ≠ "try" := by
    rintro rfl
    exact absurd hn (by decide)
  have hpath : TypePath false [] n :=
    ⟨by simpa using isSegmentName_plain hn, fun _ => by simpa using ht⟩
  exact tyReads_path plus hpath (segmentReadsAt_name 1 (isSegmentName_plain hn)) ⟨[], rfl⟩
    Nat.one_pos

/-- A trait that takes a value of a type and answers with a `bool`. -/
theorem takes_bound_predicate (hg : Deep (d + 4) g) (ht : TyReads true d t)
    (hrest : endsTy rest = true) :
    Takes (bound g .param) ((Bound.predicate "FnMut" t).spell ++ rest) rest
      (Bound.predicate "FnMut" t) := by
  have hitem : ∀ a ∈ [t], ∀ more, endsTy more = true →
      isEnd (a.spell ++ more) = false ∧ Takes (g.ty true) (a.spell ++ more) more a := by
    intro a ha more hmore
    rw [List.mem_singleton.1 ha]
    exact ⟨(opensTy_spec (opensTy_append ht.opens more)).inside,
      ht.reads (hg.mono (by omega)) hmore⟩
  have hinputs : Takes (commaList g.fuel isEnd (g.ty true))
      (t.spell ++ .closing .paren :: (operator ['-', '>'] ++ .ident "bool" :: rest))
      (.closing .paren :: (operator ['-', '>'] ++ .ident "bool" :: rest)) [t] :=
    takes_commaList hitem (fun _ => ⟨rfl, rfl⟩) rfl rfl (Nat.lt_of_lt_of_le (by simp) hg.fuel)
  have hbool : Takes (g.ty false) (.ident "bool" :: rest) rest (Ty.named "bool") :=
    (tyReads_named false (by decide)).reads (hg.mono (by omega)) hrest
  have houtput : Takes (output g false) (operator ['-', '>'] ++ .ident "bool" :: rest) rest
      (some (Ty.named "bool")) :=
    (takes_op? rfl).bind (hbool.bind takes_pure)
  have hsegment : Takes (parenSegment g "FnMut")
      (.opening .paren :: (t.spell ++ .closing .paren ::
        (operator ['-', '>'] ++ .ident "bool" :: rest))) rest
      (.paren "FnMut" [t] (some (Ty.named "bool"))) :=
    (takes_grouped .paren hinputs).bind (houtput.bind takes_pure)
  have hspell : (Bound.predicate "FnMut" t).spell ++ rest = .ident "FnMut" :: .opening .paren ::
      (t.spell ++ .closing .paren :: (operator ['-', '>'] ++ .ident "bool" :: rest)) := by
    show Token.ident "FnMut" :: .opening .paren :: ((t.spell ++ [.closing .paren]) ++
      (operator ['-', '>'] ++ [.ident "bool"])) ++ rest = _
    simp
  rw [hspell]
  refine (opensBound_ident (by decide)).takes_bound .param
    ((takes_path_name (hg.mono (by omega)) (by decide) rfl rfl).bind (Takes.ahead ?_))
  exact (takes_op?_not rfl).bind (hsegment.bind takes_pure)

/-! ## Parameters and conditions -/

/-- A parameter with one bound. -/
theorem takes_genericParams_bound (hg : Deep 4 g) (hn : Keyword.isReserved n = false) :
    Takes (genericParams g)
      ((Generics.ofParams [.ofType "T" [Bound.ofName n]]).spellParams ++ rest) rest
      [.ofType "T" [Bound.ofName n]] := by
  have hbound : Takes (bound g .param) (.ident n :: mark '>' :: rest) (mark '>' :: rest)
      (Bound.ofName n) := takes_bound_name (hg.mono (by omega)) hn rfl rfl rfl .param
  -- With its levels in sight the grammar can be run on tokens that are known.
  obtain ⟨g', rfl⟩ := hg.exists_repeat 4 (Nat.le_refl 4)
  have hbounds : Takes (boundsUntil (Nat.repeat Grammar.above 4 g') fun ts =>
      endsParam ts || startsOp ['='] ts) (.ident n :: mark '>' :: rest) (mark '>' :: rest)
      [Bound.ofName n] := by
    refine takes_repeat_done (Takes.ahead ?_) (Nat.succ_pos _)
    exact hbound.bind ((takes_op?_not rfl).bind takes_pure)
  have hparam : Takes (itemParam (Nat.repeat Grammar.above 4 g'))
      (.ident "T" :: mark ':' :: .ident n :: mark '>' :: rest) (mark '>' :: rest)
      (.ofType "T" [Bound.ofName n]) := by
    have htype : Takes (typeParam (Nat.repeat Grammar.above 4 g') [])
        (.ident "T" :: mark ':' :: .ident n :: mark '>' :: rest) (mark '>' :: rest)
        (.ofType "T" [Bound.ofName n]) :=
      (takes_name (by decide)).bind ((takes_op? rfl).bind (hbounds.bind
        ((takes_op?_not rfl).bind takes_pure)))
    exact htype.of_steps fun _ => rfl
  have hlist : Takes (commaList (Nat.repeat Grammar.above 4 g').fuel (startsOp ['>'])
      (itemParam (Nat.repeat Grammar.above 4 g')))
      (.ident "T" :: mark ':' :: .ident n :: mark '>' :: rest) (mark '>' :: rest)
      [.ofType "T" [Bound.ofName n]] :=
    takes_repeat_done (Takes.ahead (hparam.bind (Takes.ahead takes_pure))) (Nat.succ_pos _)
  exact (takes_op? rfl).bind (hlist.bind ((takes_op rfl).bind takes_pure))

/-- A condition on a parameter, in front of braces. -/
theorem takes_whereClause_predicate (hg : Deep (d + 4) g) (ht : TyReads true d t) :
    Takes (whereClause g)
      ((Generics.mk [] [.type none (Ty.named "F") [Bound.predicate "FnMut" t]]).spellWhere ++
        .opening .brace :: rest) (.opening .brace :: rest)
      [.type none (Ty.named "F") [Bound.predicate "FnMut" t]] := by
  have hbound : Takes (bound g .param)
      ((Bound.predicate "FnMut" t).spell ++ mark ',' :: .opening .brace :: rest)
      (mark ',' :: .opening .brace :: rest) (Bound.predicate "FnMut" t) :=
    takes_bound_predicate hg ht rfl
  obtain ⟨g', rfl⟩ := hg.exists_repeat 4 (Nat.le_add_left 4 d)
  have hbounds : Takes (boundsUntil (Nat.repeat Grammar.above 4 g') endsWhere)
      ((Bound.predicate "FnMut" t).spell ++ mark ',' :: .opening .brace :: rest)
      (mark ',' :: .opening .brace :: rest) [Bound.predicate "FnMut" t] := by
    refine takes_repeat_done (Takes.ahead ?_) (Nat.succ_pos _)
    exact hbound.bind ((takes_op?_not rfl).bind takes_pure)
  have hpredicate : Takes (wherePredicate (Nat.repeat Grammar.above 4 g'))
      (.ident "F" :: mark ':' :: ((Bound.predicate "FnMut" t).spell ++
        mark ',' :: .opening .brace :: rest))
      (mark ',' :: .opening .brace :: rest)
      (.type none (Ty.named "F") [Bound.predicate "FnMut" t]) :=
    (hbounds.map (WherePredicate.type none (Ty.named "F"))).of_steps fun _ => rfl
  have hclause : Takes (whereClause? (Nat.repeat Grammar.above 4 g'))
      (.ident "where" :: .ident "F" :: mark ':' :: ((Bound.predicate "FnMut" t).spell ++
        mark ',' :: .opening .brace :: rest))
      (.opening .brace :: rest) (some [.type none (Ty.named "F") [Bound.predicate "FnMut" t]]) := by
    refine (takes_word? "where").bind (Takes.bind ?_ takes_pure)
    refine takes_repeat_more (Takes.ahead (hpredicate.bind ((takes_op? rfl).bind takes_pure))) ?_
    exact takes_repeat_done (Takes.ahead takes_pure) (Nat.succ_pos _)
  have hspell : (Generics.mk [] [.type none (Ty.named "F") [Bound.predicate "FnMut" t]]).spellWhere ++
      .opening .brace :: rest = .ident "where" :: .ident "F" :: mark ':' ::
        ((Bound.predicate "FnMut" t).spell ++ mark ',' :: .opening .brace :: rest) := by
    show .ident "where" :: .ident "F" :: mark ':' :: ((Bound.predicate "FnMut" t).spell ++
      [mark ',']) ++ _ = _
    simp
  rw [hspell]
  exact hclause.map _

end DispatchLayer.Code.Reader
