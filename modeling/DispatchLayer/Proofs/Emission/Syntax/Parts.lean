import DispatchLayer.Proofs.Code.Reader.Item
import DispatchLayer.Proofs.Code.Reader.Match
import DispatchLayer.Proofs.Emission.Spelling

/-!
# Reading the parts of generated files

The types, arms and statements that generated files are made of are read back, with the names of the
kinds in them. A name is read back where it is no keyword; a slot is also spelled as a name and not
as a position.
-/

namespace DispatchLayer.Code.Reader

variable {n : String} {d d' : Nat} {t : Ty} {a : GenericArg} {leading plus : Bool}
  {names : List String}

theorem TyReads.mono (h : TyReads plus d t) (hd : d ≤ d') : TyReads plus d' t :=
  { h with takes := fun j n rest hn hrest => h.takes j n rest (Nat.le_trans hd hn) hrest }

/-- A path whose last segment has one argument. -/
theorem tyReads_applied (plus : Bool) (hp : TypePath leading names n)
    (hn : Keyword.isReserved n = false) (h : ArgReads d a) (hd : 1 < d) (hl : names.length < d) :
    TyReads plus d (Ty.ofPath (Path.applied leading names n [a])) :=
  tyReads_path plus hp (segmentReadsAt_angle hn h hd) ⟨_, rfl⟩ hl

theorem typePath_single (hn : Keyword.isReserved n = false) : TypePath false [] n := by
  have ht : n ≠ "try" := by
    rintro rfl
    exact absurd hn (by decide)
  exact ⟨by simpa using isSegmentName_plain hn, fun _ => by simpa using ht⟩

/-- A name with one lifetime. -/
theorem tyReads_lifetimeApplied (plus : Bool) (hn : Keyword.isReserved n = false) (l : String) :
    TyReads plus 2 (Ty.applied n [.lifetime l]) :=
  tyReads_applied plus (typePath_single hn) hn (argReads_lifetime 2 l) (by decide) (by decide)

/-- A name with one type. -/
theorem tyReads_typeApplied (plus : Bool) (hn : Keyword.isReserved n = false)
    (ht : TyReads true d t) (hd : 0 < d) : TyReads plus (d + 1) (Ty.applied n [.type t]) :=
  tyReads_applied plus (typePath_single hn) hn ht.arg (by omega) (Nat.succ_pos d)

theorem tyReads_self (plus : Bool) : TyReads plus 1 (Ty.named "Self") := by
  have hpath : TypePath false [] "Self" := ⟨by decide, fun _ => by decide⟩
  exact tyReads_path plus hpath (segmentReadsAt_name 1 (by decide)) ⟨[], rfl⟩ Nat.one_pos

end DispatchLayer.Code.Reader

namespace DispatchLayer.Emission

open Code Code.Reader Token

variable {name label traitName method slot variant register : String} {t : Ty} {d d' : Nat}
  {doc : Attribute}

/-! ## Types -/

theorem tyReads_nodeTy (plus : Bool) (life : String) : TyReads plus 2 (nodeTy life) :=
  tyReads_lifetimeApplied plus (by decide) life

theorem tyReads_nodeRef (plus : Bool) (ht : TyReads false d t) : TyReads plus (d + 1) (nodeRef t) :=
  ht.reference plus _ _

theorem tyReads_anyTy : TyReads false 5 anyTy := by
  have hnames : ∀ n ∈ ["std", "any", "Any"], isSegmentName n = true := by decide
  refine tyReads_object (Path.ofNames true ["std", "any", "Any"]).spell (fun j => ?_) rfl
    (fun _ => rfl) fun g rest hg hrest => ?_
  · cases j with
    | _ => rfl
  · have hends := endsTy_spec hrest
    refine Takes.bind (opensBound_colons.takes_bound .object ?_) takes_pure
    refine (takes_path_names true (hg.mono (by decide : 4 ≤ 5)) (by simp) hnames (Nat.le_refl 3)
      hends.segment hends.arguments).bind (Takes.ahead ?_)
    rw [hends.parens]
    exact takes_pure

/-! ## Arms and blocks -/

/-- The names of a pattern for a variant of the node type. -/
theorem not_reserved_node (hv : Keyword.isReserved variant = false) :
    ∀ n ∈ ["Node", variant], Keyword.isReserved n = false :=
  forall_mem_pair (by decide) hv

theorem armReads_label (hv : Keyword.isReserved variant = false) (label : String) :
    ArmReads 3 (labelArm variant label) := by
  have hliteral : Chained 1 0 anyRest (.literal (Text.stringLiteral label)) :=
    (chained_literal (spellLiteral_stringLiteral label)).mono (Nat.zero_le 1)
  have hspell : (Expr.literal (Text.stringLiteral label)).spell =
      [.literal (Text.stringLiteral label)] := spellLiteral_stringLiteral label
  have hbody : ExprReads .beginning 2 (.literal (Text.stringLiteral label)) := by
    refine hliteral.beginning Nat.one_pos rfl (fun rest => ?_) (closes_anyRest true)
      (fun g rest => ?_) rfl
    · rw [hspell]
      exact ⟨rfl, rfl, rfl⟩
    · rw [hspell]
      rfl
  exact armReads_comma patReads_wild (not_reserved_node hv) (Nat.le_refl 1)
    (hbody.mono (Nat.le_succ 2)) rfl rfl

/-- A field of `self`, and what hangs behind it. -/
theorem chained_slot (hs : Keyword.isReserved slot = false) (hm : spellMember slot = .ident slot) :
    Chained 1 1 endsField (Expr.selfField slot) := by
  have hself : Chained 1 0 endsPath (Expr.name "self") :=
    chained_names (fun _ _ _ _ _ => rfl) (by decide) Nat.one_pos
  exact hself.field (fun _ _ => rfl) rfl hs hm

/-- A method of what a slot holds. -/
theorem chained_slotMethod (hs : Keyword.isReserved slot = false)
    (hm : spellMember slot = .ident slot) (hn : Keyword.isReserved name = false) :
    Chained 1 2 anyRest ((Expr.selfField slot).invoke name []) :=
  (chained_slot hs hm).invoke (fun _ _ => rfl) rfl hn argumentsRead_nil

theorem armReads_presence (hv : Keyword.isReserved variant = false)
    (hs : Keyword.isReserved slot = false) (hm : spellMember slot = .ident slot) :
    ArmReads 4 (presenceArm variant slot) := by
  have hslot : Chained 3 2 anyRest ((Expr.selfField slot).invoke "is_some" []) :=
    (chained_slotMethod hs hm (by decide)).mono (by decide)
  have hbody : ExprReads .beginning 4 ((Expr.selfField slot).invoke "is_some" []) :=
    hslot.beginning (by decide) rfl (fun _ => ⟨rfl, rfl, rfl⟩) (closes_anyRest true)
      (fun _ _ => rfl) rfl
  exact armReads_comma (patReads_wild.mono (by decide)) (not_reserved_node hv)
    (Nat.le_succ 1) hbody rfl rfl

theorem argumentsRead_word {w : String} (hw : BeginsPath w) (hn : isSegmentName w = true)
    (ho : ∀ rest, OpensChain (.ident w :: rest)) : ArgumentsRead 2 [Expr.name w] := by
  have hword : Chained 1 0 endsPath (Expr.name w) :=
    chained_names hw (List.forall_mem_singleton.2 hn) Nat.one_pos
  exact argumentsRead_one (fun _ => rfl)
    (hword.free Nat.one_pos rfl ho (closes_endsPath true)) Nat.two_pos

/-- The answer of a handler, turned into the answer of a visit. -/
theorem chained_handled {argument : String} (hm : Keyword.isReserved method = false)
    (ha : ArgumentsRead 2 [Expr.name argument]) :
    Chained 4 1 anyRest (.call (Expr.names false ["Continuation", "from"])
      [(Expr.name "h").invoke method [Expr.name argument]]) := by
  have hh : Chained 2 0 endsPath (Expr.name "h") :=
    chained_names (fun _ _ _ _ _ => rfl) (by decide) Nat.two_pos
  have hcall : ExprReads .free 3 ((Expr.name "h").invoke method [Expr.name argument]) :=
    (hh.invoke (fun _ _ => rfl) rfl hm ha).free (by decide) rfl (fun _ => ⟨rfl, rfl, rfl⟩)
      (closes_anyRest true)
  exact chained_callNames (fun _ _ _ _ _ => rfl) (by decide) (by decide)
    (argumentsRead_one (fun _ => rfl) (hcall.mono (by decide)) (by decide))

/-- The condition that a slot holds a handler. -/
theorem exprReads_slotCondition (hs : Keyword.isReserved slot = false)
    (hm : spellMember slot = .ident slot) :
    ExprReads .beforeBlock 4 (.letCondition (Pat.wrap ["Some"] (Pat.name "h"))
      ((Expr.selfField slot).invoke "as_deref_mut" [])) := by
  have hslot : Chained 3 2 anyRest ((Expr.selfField slot).invoke "as_deref_mut" []) :=
    (chained_slotMethod hs hm (by decide)).mono (by decide)
  refine exprReads_letCondition (fun g rest hg => ?_) (fun _ => rfl) hslot (by decide) rfl
    (fun _ => ⟨rfl, rfl, rfl⟩) (closes_anyRest false) (by decide)
  exact takes_pat_wrap hg (patReads_name (by decide)) (by decide) (Nat.zero_le 1)

theorem armReads_dispatch (hv : Keyword.isReserved variant = false)
    (hs : Keyword.isReserved slot = false) (hmember : spellMember slot = .ident slot)
    (hm : Keyword.isReserved method = false) : ArmReads 10 (dispatchArm variant slot method) := by
  have hreturn : Chained 5 0 endsAnswer (.returnWith (some (.call
      (Expr.names false ["Continuation", "from"])
        [(Expr.name "h").invoke method [Expr.name "n"]]))) :=
    chained_return (fun _ => rfl) ((chained_handled hm
      (argumentsRead_word (fun _ _ _ _ _ => rfl) (by decide) fun _ => ⟨rfl, rfl, rfl⟩)).free
      (by decide) rfl (fun _ => ⟨rfl, rfl, rfl⟩) (closes_anyRest true))
  have heffect : StmtReads 6 true (Stmt.effect (.returnWith (some (.call
      (Expr.names false ["Continuation", "from"])
        [(Expr.name "h").invoke method [Expr.name "n"]])))) :=
    stmtReads_effect (by decide) (fun _ => ⟨rfl, rfl, rfl, rfl, rfl⟩) (fun _ _ _ _ => rfl)
      (fun g rest hg => hreturn.beginning (by decide) rfl (fun _ => ⟨rfl, rfl, rfl⟩)
        closes_endsAnswer (fun _ _ => rfl) rfl g _ hg rfl) rfl
  have hbody := stmtsRead_of (.last heffect) (Nat.succ_le_succ (Nat.zero_le 5))
  have hif : StmtReads 8 true (Stmt.value (.ifThen
      (.letCondition (Pat.wrap ["Some"] (Pat.name "h"))
        ((Expr.selfField slot).invoke "as_deref_mut" []))
      [Stmt.effect (.returnWith (some (.call (Expr.names false ["Continuation", "from"])
        [(Expr.name "h").invoke method [Expr.name "n"]])))] none)) :=
    stmtReads_value (by decide) (fun _ => ⟨rfl, rfl, rfl, rfl, rfl⟩) (fun _ _ _ _ => rfl)
      (fun g rest hg hrest => takes_ifThen
        ((exprReads_slotCondition hs hmember).mono (by decide)) hbody (Nat.succ_pos 6) hg
        (by simpa [followsStmt] using hrest))
      rfl (fun _ => rfl)
  have hblock := standsRead_braces (stmtsRead_of (.last hif) (Nat.succ_le_succ (Nat.zero_le 7)))
    (Nat.succ_pos 8)
  exact armReads_block ((patReads_name (by decide)).mono (by decide)) (not_reserved_node hv)
    (Nat.le_add_left 1 7) hblock

/-! ## Heads of functions -/

theorem signatureReads_handler (hm : Keyword.isReserved method = false) (ht : TyReads true d t)
    (hd : 1 < d) : SignatureReads (d + 2) (handlerSignature method t) := by
  refine signatureReads_plain hm (forall_mem_pair (paramReads_selfMut.mono (by omega))
    (paramReads_named (by decide) ht)) (by simp [FnParam.named, isReceiver]) ?_
    ((tyReads_named true (by decide)).mono (by omega))
  exact Nat.succ_lt_succ hd

/-! ## Statements -/

theorem stmtReads_self : StmtReads 3 true (Stmt.value (Expr.name "self")) :=
  stmtReads_of_run 3 (fun _ => rfl) (fun _ => rfl) (fun _ => rfl) (fun _ _ => rfl)
    fun _ _ _ _ => rfl

/-- A handler in its box. -/
def boxedHandler : Expr :=
  .call (Expr.name "Some") [.call (Expr.names false ["Box", "new"]) [Expr.name "handler"]]

theorem chained_boxedHandler : Chained 4 1 anyRest boxedHandler := by
  have hbox : Chained 2 1 anyRest
      (.call (Expr.names false ["Box", "new"]) [Expr.name "handler"]) :=
    chained_callNames (fun _ _ _ _ _ => rfl) (by decide) Nat.one_lt_two
      (argumentsRead_word (fun _ _ _ _ _ => rfl) (by decide) fun _ => ⟨rfl, rfl, rfl⟩)
  have harguments := argumentsRead_one (fun _ => rfl)
    (hbox.free Nat.one_lt_two rfl (fun _ => ⟨rfl, rfl, rfl⟩) (closes_anyRest true)) (Nat.succ_pos 2)
  exact (chained_callNames (fun _ _ _ _ _ => rfl) (by decide) (Nat.succ_pos 2)
    harguments).mono (Nat.le_succ 3)

/-- A handler in its box, put into a slot. -/
theorem stmtReads_register (hs : Keyword.isReserved slot = false)
    (hm : spellMember slot = .ident slot) :
    StmtReads 5 false (Stmt.effect (.assign (Expr.selfField slot) boxedHandler)) := by
  have hspell : ∀ more, (Expr.assign (Expr.selfField slot) boxedHandler).spell ++ more =
      (Expr.selfField slot).spell ++ mark '=' :: (boxedHandler.spell ++ more) := by
    intro more
    show ((Expr.selfField slot).spell ++ mark '=' :: boxedHandler.spell) ++ more = _
    rw [List.append_assoc, List.cons_append]
  refine stmtReads_effect (Nat.succ_pos 4) (fun _ => ⟨rfl, rfl, rfl, rfl, rfl⟩)
    (fun g more hg => ?_) (fun g rest hg => ?_) rfl
  · obtain ⟨g', rfl⟩ := hg.exists_repeat 1 (Nat.succ_le_succ (Nat.zero_le 4))
    rw [hspell]
    exact fun _ => rfl
  -- The slot is read as one operand, and the sign behind it makes it an assignment.
  · obtain ⟨g', hg', rfl⟩ := hg.below
    obtain ⟨fuel, hfuel⟩ := Nat.exists_eq_add_of_le' (Nat.le_trans (Nat.le_add_left 1 3) hg'.fuel)
    have hpos : 0 < g'.fuel := Nat.lt_of_lt_of_le (Nat.succ_pos 3) hg'.fuel
    have hslot : Takes (unaryWith g' true g'.fuel)
        ((Expr.selfField slot).spell ++ mark '=' :: (boxedHandler.spell ++ mark ';' :: rest))
        (mark '=' :: (boxedHandler.spell ++ mark ';' :: rest)) (Expr.selfField slot) := by
      have hchained := (chained_slot hs hm).mono (Nat.le_add_left 1 3)
      rw [hfuel]
      exact hchained.takes_unaryWith (by decide) rfl hg' ⟨rfl, rfl, rfl⟩ rfl ⟨rfl, rfl, rfl, rfl⟩ _
    have hvalue : Takes (unaryWith g' true g'.fuel) (boxedHandler.spell ++ mark ';' :: rest)
        (mark ';' :: rest) boxedHandler := by
      rw [hfuel]
      exact chained_boxedHandler.takes_unaryWith (by decide) rfl hg' ⟨rfl, rfl, rfl⟩ rfl
        ⟨rfl, rfl, rfl, rfl⟩ _
    rw [hspell]
    refine (takes_outerAttributes_none hpos rfl).bind (Takes.ahead ?_)
    refine Takes.bind (r := unaryWith g' true g'.fuel) hslot (Takes.ahead ?_)
    exact takes_assign (Nat.le_trans (Nat.le_add_left 2 2) hg'.fuel) rfl hvalue

/-! ## Bodies of functions -/

theorem stmtsRead_register (hs : Keyword.isReserved slot = false)
    (hm : spellMember slot = .ident slot) :
    StmtsRead 6 [Stmt.effect (.assign (Expr.selfField slot) boxedHandler),
      Stmt.value (Expr.name "self")] :=
  stmtsRead_of (.cons (stmtReads_register hs hm) (.last (stmtReads_self.mono (by decide)))
    fun _ => rfl) (Nat.le_add_left 2 3)

/-- A node of one type as a node of any kind. -/
theorem stmtsRead_conversion (hv : Keyword.isReserved variant = false) :
    StmtsRead 4 [Stmt.value (.call (Expr.names false ["Node", variant]) [Expr.name "node"])] := by
  have hcall : Chained 2 1 anyRest (.call (Expr.names false ["Node", variant]) [Expr.name "node"]) :=
    chained_callNames (fun _ _ _ _ _ => rfl)
      (fun n hn => isSegmentName_plain (not_reserved_node hv n hn)) Nat.one_lt_two
      (argumentsRead_word (fun _ _ _ _ _ => rfl) (by decide) fun _ => ⟨rfl, rfl, rfl⟩)
  refine hcall.stmtsRead Nat.one_lt_two rfl (closes_anyRest true)
    (fun _ => ⟨⟨rfl, rfl, rfl⟩, rfl, rfl, rfl, rfl, rfl⟩) (fun g more hg => ?_) (fun _ _ => rfl) rfl rfl
  exact takes_macroAhead?_path (takes_plainPath_pair (Nat.le_trans (by decide) hg.fuel) (by decide)
    hv rfl) rfl

/-- A closure is called. -/
theorem stmtsRead_closure :
    StmtsRead 4 [Stmt.value (.call (Expr.name "self") [Expr.name "node"])] := by
  have hcall : Chained 2 1 anyRest (.call (Expr.name "self") [Expr.name "node"]) :=
    chained_callNames (fun _ _ _ _ _ => rfl) (by decide) Nat.two_pos
      (argumentsRead_word (fun _ _ _ _ _ => rfl) (by decide) fun _ => ⟨rfl, rfl, rfl⟩)
  refine hcall.stmtsRead Nat.one_lt_two rfl (closes_anyRest true)
    (fun _ => ⟨⟨rfl, rfl, rfl⟩, rfl, rfl, rfl, rfl, rfl⟩) (fun g more hg => ?_) (fun _ _ => rfl) rfl rfl
  obtain ⟨g', rfl⟩ := hg.exists_repeat 1 (by decide)
  exact fun _ => rfl

/-- The value inside of a shared handler, borrowed to be changed, and a node. -/
theorem argumentsRead_borrowed :
    ArgumentsRead 4 [.reference true (.unary '*' (sharedInside.invoke "borrow_mut" [])),
      Expr.name "node"] := by
  intro g rest hg
  obtain ⟨g', rfl⟩ := hg.exists_repeat 4 (Nat.le_refl 4)
  exact fun _ => rfl

/-- The handler inside of a shared one is called. -/
theorem stmtsRead_shared (hx : Keyword.isReserved traitName = false)
    (hm : Keyword.isReserved method = false) :
    StmtsRead 6 [Stmt.value (.call
      (.path (.qualified (Ty.named "T") (some (Path.single traitName)) [.name method]))
      [.reference true (.unary '*' (sharedInside.invoke "borrow_mut" [])), Expr.name "node"])] :=
  (((chained_qualified hx hm).mono (Nat.le_add_left 2 2)).call (fun _ _ => rfl)
    argumentsRead_borrowed).stmtsRead (by decide) rfl (closes_anyRest true)
    (fun _ => ⟨⟨rfl, rfl, rfl⟩, rfl, rfl, rfl, rfl, rfl⟩) (fun _ _ _ _ => rfl) (fun _ _ => rfl) rfl
    rfl

/-- A block with one expression that is a `match` on a name. -/
theorem exprReads_matched {w : String} (hw : BeginsPath w) (hn : isSegmentName w = true)
    (ho : ∀ rest, OpensChain (.ident w :: rest)) : ExprReads .beforeBlock 2 (Expr.name w) := by
  have hword : Chained 1 0 endsPath (Expr.name w) :=
    chained_names hw (List.forall_mem_singleton.2 hn) Nat.one_pos
  exact hword.beforeBlock Nat.one_pos rfl ho (closes_endsPath false)

/-! ## Matches on nodes -/

theorem stmtsRead_nothing : StmtsRead 2 [] := by
  refine ⟨fun _ => rfl, fun g rest hg => ?_⟩
  obtain ⟨g', rfl⟩ := hg.exists_repeat 2 (Nat.le_refl 2)
  exact fun _ => rfl

/-- The last arm of a visit does nothing. -/
theorem armReads_otherBlock : ArmReads 3 (Arm.plain (Pat.wrap ["Node", Naming.otherVariant] .wild)
    (Expr.braces [])) :=
  armReads_block patReads_wild (not_reserved_node (by decide)) (Nat.le_refl 1)
    (standsRead_braces stmtsRead_nothing Nat.two_pos)

/-- The last arm of the test for a handler. -/
theorem armReads_otherFalse : ArmReads 4 (Arm.plain (Pat.wrap ["Node", Naming.otherVariant] .wild)
    (.literal "false")) := by
  refine ⟨fun _ => rfl, fun g rest hg _ => ?_⟩
  obtain ⟨g', rfl⟩ := hg.exists_repeat 4 (Nat.le_refl 4)
  exact fun _ => rfl

/-- The arm of the catch-all. -/
theorem armReads_caught : ArmReads 5 (Arm.plain (Pat.wrap ["Some"] (Pat.name "h"))
    (.call (Expr.names false ["Continuation", "from"])
      [(Expr.name "h").invoke Naming.defaultMethod [Expr.name "node"]])) := by
  have hnode : ArgumentsRead 2 [Expr.name "node"] :=
    argumentsRead_word (fun _ _ _ _ _ => rfl) (by decide) fun _ => ⟨rfl, rfl, rfl⟩
  exact armReads_comma ((patReads_name (by decide)).mono (by decide)) (by decide) (Nat.zero_le 3)
    ((chained_handled (by decide) hnode).beginning (by decide) rfl (fun _ => ⟨rfl, rfl, rfl⟩)
      (closes_anyRest true) (fun _ _ => rfl) rfl) rfl rfl

/-- The arm without a catch-all. -/
theorem armReads_none : ArmReads 4 (Arm.plain (Pat.name "None") (answerExpr "Continue")) := by
  refine ⟨fun _ => rfl, fun g rest hg _ => ?_⟩
  obtain ⟨g', rfl⟩ := hg.exists_repeat 4 (Nat.le_refl 4)
  exact fun _ => rfl

section Matches

variable {arms : List Arm}

theorem matchReads_name {w : String} (hw : ExprReads .beforeBlock 2 (Expr.name w))
    (ha : ∀ a ∈ arms, ArmReads d a) (hl : arms.length < d) (hd : 1 < d) :
    MatchReads d (Expr.name w) arms := ⟨hw.mono hd, ha, hl⟩

theorem exprReads_self : ExprReads .beforeBlock 2 (Expr.name "self") :=
  exprReads_matched (fun _ _ _ _ _ => rfl) (by decide) fun _ => ⟨rfl, rfl, rfl⟩

theorem exprReads_node : ExprReads .beforeBlock 2 (Expr.name "node") :=
  exprReads_matched (fun _ _ _ _ _ => rfl) (by decide) fun _ => ⟨rfl, rfl, rfl⟩

/-- The answer of the catch-all. -/
theorem matchReads_fallback : MatchReads 5
    ((Expr.selfField Naming.defaultSlot).invoke "as_deref_mut" [])
    [Arm.plain (Pat.wrap ["Some"] (Pat.name "h"))
      (.call (Expr.names false ["Continuation", "from"])
        [(Expr.name "h").invoke Naming.defaultMethod [Expr.name "node"]]),
      Arm.plain (Pat.name "None") (answerExpr "Continue")] := by
  have hslot : Chained 4 2 anyRest
      ((Expr.selfField Naming.defaultSlot).invoke "as_deref_mut" []) :=
    (chained_slotMethod (by decide) (by decide) (by decide)).mono (by decide)
  exact ⟨hslot.beforeBlock (by decide) rfl (fun _ => ⟨rfl, rfl, rfl⟩) (closes_anyRest false),
    forall_mem_pair armReads_caught (armReads_none.mono (by decide)), by decide⟩

theorem stmtsRead_visit (ha : ∀ a ∈ arms, ArmReads d a) (hl : arms.length + 1 < d) (hd : 5 ≤ d) :
    StmtsRead (d + 2) [Stmt.value (.matchOn (Expr.name "node") []
      (arms ++ [Arm.plain (Pat.wrap ["Node", Naming.otherVariant] .wild) (Expr.braces [])])),
      Stmt.value (.matchOn ((Expr.selfField Naming.defaultSlot).invoke "as_deref_mut" []) []
        [Arm.plain (Pat.wrap ["Some"] (Pat.name "h"))
          (.call (Expr.names false ["Continuation", "from"])
            [(Expr.name "h").invoke Naming.defaultMethod [Expr.name "node"]]),
          Arm.plain (Pat.name "None") (answerExpr "Continue")])] := by
  have hnode := matchReads_name exprReads_node
    (forall_mem_snoc ha (armReads_otherBlock.mono (by omega))) (by simpa using hl) (by omega)
  refine stmtsRead_of (.cons (hnode.stmt false) (.last ?_) fun _ => rfl) (by simp; omega)
  exact (matchReads_fallback.stmt true).mono (by omega)

/-- The test for a handler, where the answer for all other nodes is `false`. -/
theorem stmtsRead_hasHandler (ha : ∀ a ∈ arms, ArmReads d a) (hl : arms.length + 1 < d)
    (hd : 5 ≤ d) :
    StmtsRead (d + 2) [Stmt.bind "specific" (.matchOn (Expr.name "node") []
      (arms ++ [Arm.plain (Pat.wrap ["Node", Naming.otherVariant] .wild) (.literal "false")])),
      Stmt.value (.binary "||" (Expr.name "specific")
        ((Expr.selfField Naming.defaultSlot).invoke "is_some" []))] := by
  have hnode := matchReads_name exprReads_node
    (forall_mem_snoc ha (armReads_otherFalse.mono (by omega))) (by simpa using hl) (by omega)
  have hspecific : ExprReads .free (d + 1) (.matchOn (Expr.name "node") []
      (arms ++ [Arm.plain (Pat.wrap ["Node", Naming.otherVariant] .wild) (.literal "false")])) :=
    hnode.chained.free (by omega) rfl (fun _ => ⟨rfl, rfl, rfl⟩) (closes_anyRest true)
  have hvalue : StmtReads 5 true (Stmt.value (.binary "||" (Expr.name "specific")
      ((Expr.selfField Naming.defaultSlot).invoke "is_some" []))) :=
    stmtReads_of_run 5 (fun _ => rfl) (fun _ => rfl) (fun _ => rfl) (fun _ _ => rfl)
      fun _ _ _ _ => rfl
  refine stmtsRead_of (.cons (stmtReads_bind (Nat.succ_pos d) (by decide) hspecific)
    (.last (hvalue.mono (by omega))) fun _ => rfl) (by simp; omega)

end Matches

end DispatchLayer.Emission
