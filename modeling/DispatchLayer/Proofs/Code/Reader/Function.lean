import DispatchLayer.Proofs.Code.Reader.Attribute
import DispatchLayer.Proofs.Code.Reader.Statement
import DispatchLayer.Code.Reader.Item

/-!
# Reading functions

A parameter is a receiver or a name with its type. The head of a function is read in front of its
body or of a semicolon (`SignatureReads`), and a function with its attributes and its visibility as
an item of an implementation.
-/

namespace DispatchLayer.Code.Reader

open Token

variable {ts mid rest more : List Token} {n : String} {g : Grammar} {d d' : Nat} {t : Ty}
  {p : FnParam} {ps : List FnParam} {s : Signature} {attrs : List Attribute} {vis : Visibility}
  {ss : List Stmt}

/-! ## Parameters -/

/-- From a depth on the parameter is read, in front of a comma or of the closing parenthesis. -/
structure ParamReads (d : Nat) (p : FnParam) : Prop where
  inside : ∀ more, isEnd (p.spell ++ more) = false
  fixed : isVariadic p = false
  takes : ∀ g rest, Deep d g → endsParam rest = true → Takes (fnParam g) (p.spell ++ rest) rest p

theorem ParamReads.mono (h : ParamReads d p) (hd : d ≤ d') : ParamReads d' p :=
  { h with takes := fun g rest hg hrest => h.takes g rest (hg.mono hd) hrest }

/-- A comma or a closing bracket. -/
theorem endsParam_cases (h : endsParam ts = true) :
    ts = [] ∨ (∃ d more, ts = .closing d :: more) ∨
      ∃ c s more, ts = .punct c s :: more ∧ (c = ',' ∨ c = '>') := by
  cases ts with
  | nil => exact Or.inl rfl
  | cons t ts =>
    cases t with
    | closing d => exact Or.inr (Or.inl ⟨d, ts, rfl⟩)
    | punct c s =>
      refine Or.inr (Or.inr ⟨c, s, ts, rfl, ?_⟩)
      have h : (decide (',' = c) || decide ('>' = c)) = true := h
      rw [Bool.or_eq_true, decide_eq_true_eq, decide_eq_true_eq] at h
      exact h.imp Eq.symm Eq.symm
    | _ => cases h

theorem endsTy_of_endsParam (h : endsParam ts = true) : endsTy ts = true := by
  rcases endsParam_cases h with rfl | ⟨d, more, rfl⟩ | ⟨c, s, more, rfl, rfl | rfl⟩
  · rfl
  · rfl
  · rfl
  · rfl

theorem paramReads_selfValue : ParamReads 1 FnParam.selfValue := by
  refine ⟨fun _ => rfl, rfl, fun g rest hg hrest => ?_⟩
  obtain ⟨g', -, rfl⟩ := hg.below
  rcases endsParam_cases hrest with rfl | ⟨d, more, rfl⟩ | ⟨c, s, more, rfl, rfl | rfl⟩
  · exact fun _ => rfl
  · exact fun _ => rfl
  · exact fun _ => rfl
  · exact fun _ => rfl

theorem paramReads_selfRef : ParamReads 1 FnParam.selfRef := by
  refine ⟨fun _ => rfl, rfl, fun g rest hg hrest => ?_⟩
  obtain ⟨g', -, rfl⟩ := hg.below
  rcases endsParam_cases hrest with rfl | ⟨d, more, rfl⟩ | ⟨c, s, more, rfl, rfl | rfl⟩
  · exact fun _ => rfl
  · exact fun _ => rfl
  · exact fun _ => rfl
  · exact fun _ => rfl

theorem paramReads_selfMut : ParamReads 1 FnParam.selfMut := by
  refine ⟨fun _ => rfl, rfl, fun g rest hg hrest => ?_⟩
  obtain ⟨g', -, rfl⟩ := hg.below
  rcases endsParam_cases hrest with rfl | ⟨d, more, rfl⟩ | ⟨c, s, more, rfl, rfl | rfl⟩
  · exact fun _ => rfl
  · exact fun _ => rfl
  · exact fun _ => rfl
  · exact fun _ => rfl

/-- A type begins with a name or with one of two marks. -/
theorem startsOp_of_opensTy (h : opensTy ts = true) {c : Char} (hc : c ≠ ':' ∧ c ≠ '&')
    (cs : List Char) : startsOp (c :: cs) ts = false := by
  cases ts with
  | nil => cases h
  | cons t ts =>
    cases t with
    | punct b s =>
      simp only [opensTy, Bool.or_eq_true, beq_iff_eq] at h
      have hne : c ≠ b := by
        rintro rfl
        exact h.elim hc.1 hc.2
      cases cs with
      | nil => exact decide_eq_false hne
      | cons e cs =>
        cases s with
        | alone => rfl
        | joint => simp [startsOp, hne]
    | ident n => exact startsOp_ident c cs
    | _ => cases cs <;> rfl

/-- A name with its type. -/
theorem paramReads_named (hn : Keyword.isReserved n = false) (ht : TyReads true d t) :
    ParamReads (d + 1) (FnParam.named n t) := by
  refine ⟨fun _ => rfl, ?_, fun g rest hg hrest => ?_⟩
  · cases t with
    | variadic => exact absurd ht.opens (by decide)
    | _ => rfl
  · have hspell : (FnParam.named n t).spell ++ rest = .ident n :: mark ':' :: (t.spell ++ rest) := rfl
    have hreceiver : Fails (receiver g []) (.ident n :: mark ':' :: (t.spell ++ rest)) :=
      (takes_op?_not rfl).bind_fails (takes_pure.bind_fails
        ((takes_word?_not (startsWord_plain hn (by decide))).bind_fails
          ((fails_word (startsWord_plain hn (by decide))).bind _)))
    have hpat : Takes g.pat (.ident n :: mark ':' :: (t.spell ++ rest)) (mark ':' :: (t.spell ++ rest))
        (Pat.name n) := takes_pat_name (hg.mono (by omega)) hn ⟨rfl, rfl, fun _ => rfl, rfl, rfl⟩
    have hpoints := startsOp_of_opensTy (opensTy_append ht.opens rest)
      (c := '.') (by decide) ['.', '.']
    rw [hspell]
    refine (takes_outerAttributes_none (Nat.lt_of_lt_of_le (Nat.succ_pos d) hg.fuel) rfl).bind
      (Takes.ahead ?_)
    refine (takes_attempt_none hreceiver).bind (Takes.ahead ?_)
    rw [show startsOp ['<'] _ = false from rfl, Bool.and_false]
    have hcolon : Takes (op [':']) (mark ':' :: (t.spell ++ rest)) (t.spell ++ rest) () :=
      takes_op rfl
    refine hpat.bind (hcolon.bind (Takes.ahead ?_))
    rw [hpoints]
    exact (ht.reads hg (endsTy_of_endsParam hrest)).bind takes_pure

/-- Parameters that can come behind those that have been taken: only the first of all may be a
receiver. -/
structure CanFollow (d : Nat) (done ps : List FnParam) : Prop where
  reads : ∀ p ∈ ps, ParamReads d p
  later : ∀ p ∈ ps.tail, isReceiver p = false
  first : done = [] ∨ ∀ p ∈ ps, isReceiver p = false

theorem CanFollow.isReceiver_and {done : List FnParam} {p : FnParam}
    (h : CanFollow d done (p :: ps)) :
    (isReceiver p && done.any isReceiver) = false ∧ (isReceiver p && !done.isEmpty) = false := by
  rcases h.first with rfl | hall
  · exact ⟨Bool.and_false _, Bool.and_false _⟩
  · rw [hall p List.mem_cons_self]
    exact ⟨Bool.false_and _, Bool.false_and _⟩

theorem CanFollow.next {done : List FnParam} {p : FnParam} (h : CanFollow d done (p :: ps)) :
    CanFollow d (p :: done) ps where
  reads := fun q hq => h.reads q (List.mem_cons_of_mem p hq)
  later := fun q hq => h.later q (List.mem_of_mem_tail hq)
  first := Or.inr h.later

/-- Parameters, where only the first one may be a receiver. -/
theorem takes_fnParams (hg : Deep d g) (h : ∀ p ∈ ps, ParamReads d p)
    (hreceiver : ∀ p ∈ ps.tail, isReceiver p = false) (hl : ps.length < d) :
    Takes (fnParams g) (commaSeparated (ps.map FnParam.spell) ++ .closing .paren :: rest)
      (.closing .paren :: rest) ps := by
  refine takes_gather (CanFollow d)
    (fun qs => commaSeparated (qs.map FnParam.spell) ++ .closing .paren :: rest)
    (fun done qs hqs => ?_) ⟨h, hreceiver, Or.inl rfl⟩ (Nat.lt_of_lt_of_le hl hg.fuel)
  cases qs with
  | nil =>
    refine Or.inl (Takes.ahead ?_)
    rw [List.append_nil]
    exact takes_pure
  | cons q qs =>
    have hq := hqs.reads q List.mem_cons_self
    obtain ⟨hsecond, hlate⟩ := hqs.isReceiver_and
    cases qs with
    -- The last parameter ends the loop: the parenthesis follows it, and no comma.
    | nil =>
      refine Or.inl (Takes.ahead ?_)
      rw [List.map_singleton, commaSeparated, hq.inside]
      refine (hq.takes g _ hg rfl).bind ?_
      rw [hq.fixed, hsecond, hlate, ← List.reverse_cons]
      exact Takes.ahead takes_pure
    | cons r qs =>
      have hsplit : commaSeparated ((q :: r :: qs).map FnParam.spell) ++ .closing .paren :: rest =
          q.spell ++ mark ',' :: (commaSeparated ((r :: qs).map FnParam.spell) ++
            .closing .paren :: rest) := by
        simp [commaSeparated]
      refine Or.inr ⟨q, r :: qs, rfl, hqs.next, Takes.ahead ?_⟩
      rw [hsplit, hq.inside]
      refine (hq.takes g _ hg rfl).bind ?_
      rw [hq.fixed, hsecond, hlate]
      exact Takes.ahead ((takes_op rfl).bind takes_pure)

/-! ## Heads of functions -/

/-- From a depth on the head of a function is read, in front of its body or of a semicolon. -/
structure SignatureReads (d : Nat) (s : Signature) : Prop where
  begins : ∃ ts, s.spell = .ident "fn" :: ts
  takes : ∀ g c rest, Deep d g → (c = .opening .brace ∨ c = mark ';') →
    Takes (signature g false) (s.spell ++ c :: rest) (c :: rest) s

theorem SignatureReads.mono (h : SignatureReads d s) (hd : d ≤ d') : SignatureReads d' s :=
  { h with takes := fun g c rest hg hc => h.takes g c rest (hg.mono hd) hc }

theorem takes_genericParams_none (h : startsOp ['<'] ts = false) :
    Takes (genericParams g) ts ts [] := (takes_op?_not h).bind takes_pure

theorem takes_whereClause_none (h : startsWord "where" ts = false) :
    Takes (whereClause g) ts ts [] := by
  have hclause : Takes (whereClause? g) ts ts none := (takes_word?_not h).bind takes_pure
  exact hclause.map _

/-- The head of a function without generic parameters that returns something. -/
theorem signatureReads_plain (hn : Keyword.isReserved n = false) (h : ∀ p ∈ ps, ParamReads d p)
    (hreceiver : ∀ p ∈ ps.tail, isReceiver p = false) (hl : ps.length < d)
    (ht : TyReads true d t) : SignatureReads (d + 1) (Signature.plain n ps (some t)) := by
  refine ⟨⟨_, rfl⟩, fun g c rest hg hc => ?_⟩
  have hspell : (Signature.plain n ps (some t)).spell ++ c :: rest =
      .ident "fn" :: .ident n :: .opening .paren :: (commaSeparated (ps.map FnParam.spell) ++
        .closing .paren :: (operator ['-', '>'] ++ (t.spell ++ c :: rest))) := by
    rw [← spellFnParams_eq_map]
    show (.ident "fn" :: .ident n :: [] ++
      (.opening .paren :: (commaSeparated (spellFnParams ps) ++ [.closing .paren])) ++
      (operator ['-', '>'] ++ t.spell) ++ []) ++ c :: rest = _
    simp
  have hends : endsTy (c :: rest) = true := by
    rcases hc with rfl | rfl
    · rfl
    · rfl
  have hinputs : Takes (fnParams g) (commaSeparated (ps.map FnParam.spell) ++
      .closing .paren :: (operator ['-', '>'] ++ (t.spell ++ c :: rest)))
      (.closing .paren :: (operator ['-', '>'] ++ (t.spell ++ c :: rest))) ps :=
    takes_fnParams (hg.mono (Nat.le_succ d)) h hreceiver hl
  have houtput : Takes (output g true) (operator ['-', '>'] ++ (t.spell ++ c :: rest)) (c :: rest)
      (some t) := (takes_op? rfl).bind ((ht.reads hg hends).bind takes_pure)
  have hwhere : startsWord "where" (c :: rest) = false := by
    rcases hc with rfl | rfl
    · rfl
    · rfl
  -- Behind the word `fn` each part of the head has a reader of its own.
  have hsignature : Takes (do
      let n ← name
      let params ← genericParams g
      let inputs ← Reader.grouped .paren (fnParams g)
      let out ← output g true
      return Signature.mk [] none n (.mk params (← whereClause g)) inputs out)
      (.ident n :: .opening .paren :: (commaSeparated (ps.map FnParam.spell) ++
        .closing .paren :: (operator ['-', '>'] ++ (t.spell ++ c :: rest)))) (c :: rest)
      (Signature.plain n ps (some t)) :=
    (takes_name hn).bind ((takes_genericParams_none rfl).bind
      ((takes_grouped .paren hinputs).bind (houtput.bind
        ((takes_whereClause_none hwhere).bind takes_pure))))
  rw [hspell]
  exact hsignature.of_steps fun _ => rfl

/-! ## Functions of implementations -/

/-- From a depth on the item is read by a reader, whatever follows it. -/
structure ItemReads (r : Grammar → Reader Item) (d : Nat) (i : Item) : Prop where
  opens : ∀ more, isEnd (i.spell ++ more) = false ∧ startsInner (i.spell ++ more) = false
  takes : ∀ g rest, Deep d g → Takes (r g) (i.spell ++ rest) rest i

theorem ItemReads.mono {r : Grammar → Reader Item} {i : Item} (h : ItemReads r d i) (hd : d ≤ d') :
    ItemReads r d' i :=
  { h with takes := fun g rest hg => h.takes g rest (hg.mono hd) }

/-- Whether a visibility is none, or the one for everyone. -/
def isSimple : Visibility → Bool
  | .restricted _ => false
  | _ => true

theorem takes_visibility_none (h : startsWord "pub" ts = false) :
    Takes (visibility g) ts ts .inherited := (takes_word?_not h).bind takes_pure

theorem takes_visibility (hv : isSimple vis = true) {w : String}
    (hw : startsWord "pub" [.ident w] = false) :
    Takes (visibility g) (vis.spell ++ .ident w :: ts) (.ident w :: ts) vis := by
  cases vis with
  | restricted p => cases hv
  | inherited => exact takes_visibility_none hw
  | pub => exact (takes_word? "pub").bind (Takes.ahead takes_pure)

theorem spellAttributes_inner (h : ∀ a ∈ attrs, AttributeReads d a) :
    spellAttributes true attrs = [] := by
  induction attrs with
  | nil => rfl
  | cons a attrs ih =>
    obtain ⟨hinner, -⟩ := h a List.mem_cons_self
    rw [spellAttributes, hinner, ih fun b hb => h b (List.mem_cons_of_mem a hb)]
    rfl

/-- What begins with attributes, or else as the tokens behind them do. -/
theorem opens_attributes (ha : ∀ a ∈ attrs, AttributeReads d a) (h : isEnd ts = false)
    (hinner : startsInner ts = false) :
    isEnd (spellAttributes false attrs ++ ts) = false ∧
      startsInner (spellAttributes false attrs ++ ts) = false := by
  cases attrs with
  | nil => exact ⟨h, hinner⟩
  | cons a attrs =>
    obtain ⟨hinner, inside, hspell, -⟩ := ha a List.mem_cons_self
    rw [spellAttributes, if_pos hinner, hspell]
    exact ⟨rfl, rfl⟩

theorem startsOp_visibility (hv : isSimple vis = true) (w : String) :
    startsOp ['#'] (vis.spell ++ .ident w :: ts) = false := by
  cases vis with
  | restricted p => cases hv
  | _ => rfl

theorem isEnd_visibility (hv : isSimple vis = true) (w : String) :
    isEnd (vis.spell ++ .ident w :: ts) = false := by
  cases vis with
  | restricted p => cases hv
  | _ => rfl

/-- A function with its body. -/
theorem itemReads_function (ha : ∀ a ∈ attrs, AttributeReads d a) (hl : attrs.length < d)
    (hv : isSimple vis = true) (hs : SignatureReads d s) (hss : StmtsRead d ss) :
    ItemReads implItem d (.function attrs vis s ss) := by
  obtain ⟨us, hus⟩ := hs.begins
  have hspell : ∀ more, (Item.function attrs vis s ss).spell ++ more = spellAttributes false attrs ++
      (vis.spell ++ Token.ident "fn" ::
        (us ++ .opening .brace :: (spellStmts ss ++ .closing .brace :: more))) := by
    intro more
    show (spellAttributes false attrs ++ vis.spell ++ [] ++ s.spell ++ (Token.opening .brace ::
      ((spellAttributes true attrs ++ spellStmts ss) ++ [Token.closing .brace]))) ++ more = _
    rw [spellAttributes_inner ha, hus]
    simp
  constructor
  case opens =>
    intro more
    rw [hspell]
    exact opens_attributes ha (isEnd_visibility hv "fn")
      (startsInner_of (startsOp_visibility hv "fn"))
  case takes =>
    intro g rest hg
    -- The brace that opens the body ends the head.
    have hsignature := hs.takes g _ (spellStmts ss ++ .closing .brace :: rest) hg (Or.inl rfl)
    rw [hus] at hsignature
    have hbody : Takes (fnBody g) (.opening .brace :: (spellStmts ss ++ .closing .brace :: rest)) rest
        ([], ss) :=
      takes_grouped .brace (hss.takes_inside (Nat.zero_lt_of_lt hl) hg Prod.mk)
    have hfn : Takes (do
        let s ← signature g false
        if ← op? [';'] then return none
        let body ← fnBody g
        return some (Item.fn (attrs ++ body.1) vis false s body.2))
        (.ident "fn" :: (us ++ .opening .brace :: (spellStmts ss ++ .closing .brace :: rest))) rest
        (some (.function attrs vis s ss)) := by
      refine hsignature.bind ((takes_op?_not rfl).bind (hbody.bind ?_))
      dsimp only
      rw [List.append_nil]
      exact takes_pure
    rw [hspell]
    refine Takes.withTokens (a := some (.function attrs vis s ss))
      ((takes_outerAttributes hg ha hl (startsOp_visibility hv "fn")).bind
        ((takes_visibility hv rfl).bind ?_)) fun tokens => takes_pure
    exact hfn.of_steps fun _ => rfl

end DispatchLayer.Code.Reader
