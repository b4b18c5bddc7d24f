import DispatchLayer.Code.Build
import DispatchLayer.Code.Printer
import Mathlib.Data.List.Basic

/-!
# Documents without refusals

A document can be set on lines if nothing in it is a refusal (`Settable`). What puts documents
together adds none, so a tree can be set if its parts can.
-/

namespace DispatchLayer.Pretty

/-- Nothing in the document is a refusal. -/
def Settable (d : Doc) : Prop := refusal? d = none

instance (d : Doc) : Decidable (Settable d) := inferInstanceAs (Decidable (refusal? d = none))

variable {a b d : Doc} {ds : List Doc} {n : Int} {s : String}

theorem refusal?_append (a b : Doc) : refusal? (a ++ b) = (refusal? a).or (refusal? b) := by
  induction a with
  | nil => rfl
  | cons c a ih =>
    cases c with
    | refusal m => rfl
    | _ => exact ih

@[simp] theorem settable_nil : Settable [] := rfl

@[simp] theorem settable_append : Settable (a ++ b) ↔ Settable a ∧ Settable b := by
  unfold Settable
  rw [refusal?_append, Option.or_eq_none_iff]

/-- A document in a box. -/
theorem settable_boxed {c : Bool} {close : Cmd} (h : Settable [close]) :
    Settable (.box n c :: d ++ [close]) ↔ Settable d := by
  show Settable (d ++ [close]) ↔ _
  rw [settable_append, and_iff_left h]

@[simp] theorem settable_flatMap {α : Type} {f : α → Doc} {as : List α} :
    Settable (as.flatMap f) ↔ ∀ a ∈ as, Settable (f a) := by
  induction as with
  | nil => simp
  | cons a as ih => rw [List.flatMap_cons, settable_append, ih, List.forall_mem_cons]

@[simp] theorem settable_word : Settable (word s) := rfl

@[simp] theorem settable_zeroBreak : Settable zeroBreak := rfl

@[simp] theorem settable_brk {b : Break} : Settable (.brk b :: d) ↔ Settable d := Iff.rfl

@[simp] theorem settable_space : Settable space := rfl

@[simp] theorem settable_hardBreak : Settable hardBreak := rfl

@[simp] theorem settable_hardBreakIfNonempty : Settable hardBreakIfNonempty := rfl

@[simp] theorem settable_neverBreak : Settable neverBreak := rfl

@[simp] theorem settable_shift : Settable (shift n) := rfl

@[simp] theorem settable_box {c : Bool} : Settable (.box n c :: d) ↔ Settable d := Iff.rfl

@[simp] theorem settable_endBox : Settable (.endBox :: d) ↔ Settable d := Iff.rfl

@[simp] theorem settable_breakBeforePoint : Settable (.breakBeforePoint :: d) ↔ Settable d :=
  Iff.rfl

@[simp] theorem settable_consistent : Settable (consistent n d) ↔ Settable d := settable_boxed rfl

@[simp] theorem settable_inconsistent : Settable (inconsistent n d) ↔ Settable d :=
  settable_boxed rfl

@[simp] theorem settable_ite {c : Prop} [Decidable c] :
    Settable (if c then a else b) ↔ (c → Settable a) ∧ (¬c → Settable b) := by
  split <;> simp [*]

end DispatchLayer.Pretty

namespace DispatchLayer.Code.Printer

open Pretty

variable {d : Doc} {ds : List Doc} {s : Setting} {e : Expr}

@[simp] theorem settable_withLast {α : Type} {f : α → Bool → Doc} {as : List α}
    (h : ∀ a b, Settable (f a b) ↔ Settable (f a true)) :
    Settable (withLast f as) ↔ ∀ a ∈ as, Settable (f a true) := by
  fun_induction withLast f as with
  | case1 => simp
  | case2 a => simp
  | case3 a rest hne ih => rw [settable_append, h, ih, List.forall_mem_cons]

@[simp] theorem settable_trailingComma {b : Bool} : Settable (trailingComma b) := by
  cases b <;> rfl

@[simp] theorem settable_commaItems : Settable (commaItems ds) ↔ ∀ d ∈ ds, Settable d := by
  unfold commaItems
  rw [settable_withLast]
  · simp
  · simp

@[simp] theorem settable_bracketed {o c : String} : Settable (bracketed o c d) ↔ Settable d := by
  simp [bracketed]

@[simp] theorem settable_framed : Settable (s.framed e d) ↔ Settable d := by
  cases s with
  | alone b => rfl
  | link b =>
    unfold Setting.framed
    dsimp only
    split
    · rfl
    · exact settable_consistent
  | arm b =>
    unfold Setting.framed
    dsimp only
    split
    · rfl
    · simp [armFrame]
  | otherwise =>
    unfold Setting.framed otherwiseFrame
    dsimp only
    split
    · simp
    · simp
    · simp

@[simp] theorem settable_chain : Settable (s.chain d) ↔ Settable d := by
  unfold Setting.chain
  split
  · rfl
  · exact settable_consistent

@[simp] theorem settable_joined {sep : String} : Settable (joined sep ds) ↔ ∀ d ∈ ds, Settable d := by
  fun_induction joined sep ds with
  | case1 => simp
  | case2 d => simp
  | case3 d rest hne ih => simp [ih]

@[simp] theorem settable_parted {sep : String} : Settable (parted sep ds) ↔ ∀ d ∈ ds, Settable d := by
  cases ds with
  | nil => simp [parted]
  | cons d ds => simp [parted]

@[simp] theorem settable_lifetimesFirst {items : List (Bool × Doc)} :
    Settable (lifetimesFirst items) ↔ ∀ i ∈ items, Settable i.2 := by
  unfold lifetimesFirst
  rw [settable_commaItems]
  constructor
  · intro h i hi
    refine h _ (List.mem_map_of_mem (List.mem_append.2 ?_))
    by_cases hl : i.1 = true
    · exact Or.inl (List.mem_filter.2 ⟨hi, hl⟩)
    · exact Or.inr (List.mem_filter.2 ⟨hi, by simpa using hl⟩)
  · intro h d hd
    obtain ⟨i, hi, rfl⟩ := List.mem_map.1 hd
    rcases List.mem_append.1 hi with hi | hi
    · exact h i (List.mem_filter.1 hi).1
    · exact h i (List.mem_filter.1 hi).1

@[simp] theorem settable_lifetimeDoc {name : String} : Settable (lifetimeDoc name) := rfl

@[simp] theorem settable_wordIfDoc {b : Bool} {w : String} : Settable (wordIfDoc b w) := by
  cases b <;> rfl

@[simp] theorem settable_wordsDoc {words : List String} : Settable (wordsDoc words) := by
  simp [wordsDoc]

@[simp] theorem settable_boundedDoc {opener : String} :
    Settable (boundedDoc opener ds) ↔ ∀ d ∈ ds, Settable d := by
  unfold boundedDoc
  cases ds with
  | nil => simp
  | cons d ds => simp

@[simp] theorem settable_conditionDoc {n : Int} :
    Settable (conditionDoc d n ds) ↔ Settable d ∧ ∀ d ∈ ds, Settable d := by
  simp [conditionDoc]

@[simp] theorem settable_whereBeforeBody :
    Settable (whereBeforeBody ds) ↔ ∀ d ∈ ds, Settable d := by
  unfold whereBeforeBody
  cases ds with
  | nil => simp
  | cons d ds => simp

@[simp] theorem settable_whereBeforeSemicolon (h : ds = []) :
    Settable (whereBeforeSemicolon ds) := by
  subst h
  rfl

@[simp] theorem settable_lines : Settable (lines d) ↔ Settable d := by
  simp [lines]

@[simp] theorem settable_blockLines : Settable (blockLines d) ↔ Settable d := by
  simp [blockLines]

@[simp] theorem settable_bodyLines : Settable (bodyLines d) ↔ Settable d := by
  simp [bodyLines]

@[simp] theorem settable_conditioned {b : Bool} : Settable (conditioned b d) ↔ Settable d := by
  unfold conditioned
  cases b with
  | _ => simp

@[simp] theorem settable_memberBreak {b : Bool} : Settable (memberBreak b e) := by
  unfold memberBreak
  split
  · rfl
  · rfl

theorem settable_smallBlock {b : Bool} (h : Settable d) : Settable (smallBlock b d) := by
  unfold smallBlock
  split
  · rfl
  · simp [h]

theorem settable_callDoc {args : List Expr} (h : ∀ d ∈ ds, Settable d) :
    Settable (callDoc args ds) := by
  unfold callDoc
  split
  · next e d =>
    have hd := h d List.mem_cons_self
    split
    · simp [hd]
    · simp [hd]
  · simpa using h

/-! ## Paths and types -/

theorem settable_segments {place : PathPlace} {names : List String} :
    ∀ d ∈ segmentDocs place (names.map Segment.name), Settable d := by
  induction names with
  | nil => simp [segmentDocs]
  | cons n names ih => simpa [segmentDocs, segmentDoc] using ih

@[simp] theorem settable_names {leading : Bool} {names : List String} {place : PathPlace} :
    Settable (pathDoc place (Path.ofNames leading names)) := by
  cases leading with
  | _ => simpa [Path.ofNames, pathDoc] using settable_segments

variable {n : String} {t : Ty} {args : List GenericArg} {bs : List Bound}

@[simp] theorem settable_tyNames {leading : Bool} {names : List String} :
    Settable (tyDoc (Ty.ofPath (Path.ofNames leading names))) := settable_names

@[simp] theorem settable_tyNamed : Settable (tyDoc (Ty.named n)) := settable_names

@[simp] theorem settable_tyReference {life : Option String} {mutable : Bool} :
    Settable (tyDoc (.reference life mutable t)) ↔ Settable (tyDoc t) := by
  cases life with
  | _ => simp [tyDoc]

@[simp] theorem settable_tyObject :
    Settable (tyDoc (.object bs)) ↔ ∀ d ∈ boundDocs bs, Settable d := by
  simp [tyDoc]

@[simp] theorem settable_tyImpl :
    Settable (tyDoc (.impl bs)) ↔ ∀ d ∈ boundDocs bs, Settable d := by
  simp [tyDoc]

@[simp] theorem settable_boundLifetime : Settable (boundDoc (.lifetime n)) := by
  simp [boundDoc]

@[simp] theorem settable_boundOfName : Settable (boundDoc (Bound.ofName n)) := by
  have h : Settable (pathDoc .type (Path.single n)) := settable_names
  simpa [Bound.ofName, boundDoc, binderDoc] using h

/-- A path whose last segment has arguments. -/
theorem settable_applied {leading : Bool} {names : List String}
    (h : ∀ a ∈ genericArgDocs args, Settable a.2) :
    Settable (pathDoc .type (Path.applied leading names n args)) := by
  have hsegments : ∀ d ∈ segmentDocs .type (names.map Segment.name ++ [Segment.angle n false args]),
      Settable d := by
    induction names with
    | nil => simpa [segmentDocs, segmentDoc] using fun _ => h
    | cons m names ih => simpa [segmentDocs, segmentDoc] using ih
  cases leading with
  | _ => simpa [Path.applied, pathDoc] using hsegments

theorem settable_tyApplied {leading : Bool} {names : List String}
    (h : ∀ a ∈ genericArgDocs args, Settable a.2) :
    Settable (tyDoc (Ty.ofPath (Path.applied leading names n args))) := settable_applied h

/-! ## Patterns and expressions -/

@[simp] theorem settable_patName : Settable (patDoc (Pat.name n)) := by
  simp [Pat.name, patDoc]

@[simp] theorem settable_patWild : Settable (patDoc .wild) := by
  simp [patDoc]

@[simp] theorem settable_patWrap {names : List String} {p : Pat} :
    Settable (patDoc (Pat.wrap names p)) ↔ Settable (patDoc p) := by
  have hpath : Settable (pathDoc .expr (Path.ofNames false names)) := settable_names
  simp [Pat.wrap, patDoc, qpathDoc, patDocs, hpath]

/-- The expression can be set, whatever surrounds it. -/
def SettableExpr (e : Expr) : Prop := ∀ s, Settable (exprDoc s e)

variable {f : Expr} {es : List Expr} {ss : List Stmt}

theorem settable_exprDocs (h : ∀ e ∈ es, SettableExpr e) : ∀ d ∈ exprDocs es, Settable d := by
  induction es with
  | nil => simp [exprDocs]
  | cons e es ih =>
    rw [exprDocs]
    exact List.forall_mem_cons.2 ⟨h e List.mem_cons_self _,
      ih fun e' he => h e' (List.mem_cons_of_mem e he)⟩

theorem settableExpr_literal (text : String) : SettableExpr (.literal text) := fun _ =>
  settable_framed.2 settable_word

theorem settableExpr_names (leading : Bool) (names : List String) :
    SettableExpr (Expr.names leading names) := fun _ =>
  settable_framed.2 settable_names

theorem settableExpr_call (hf : SettableExpr f) (h : ∀ e ∈ es, SettableExpr e) :
    SettableExpr (.call f es) := fun _ =>
  settable_framed.2 (settable_append.2 ⟨hf _, settable_callDoc (settable_exprDocs h)⟩)

theorem settableExpr_invoke (hf : SettableExpr f) (h : ∀ e ∈ es, SettableExpr e) :
    SettableExpr (f.invoke n es) := by
  intro s
  let last : Doc := consistent
    (if !s.isLink && s.startsLine && f.isShortName then -indent else 0) (callDoc es (exprDocs es))
  have hlast : Settable last := settable_consistent.2 (settable_callDoc (settable_exprDocs h))
  have hall : Settable (exprDoc (.link s.startsLine) f ++ memberBreak s.startsLine f ++ word "." ++
      word n ++ last) := by
    simp [hf (.link s.startsLine), hlast]
  exact settable_framed.2 (settable_chain.2 hall)

theorem settableExpr_field (hf : SettableExpr f) : SettableExpr (.field f n) := by
  intro s
  have hall : Settable (exprDoc (.link s.startsLine) f ++ memberBreak s.startsLine f ++ word "." ++
      word n) := by
    simp [hf (.link s.startsLine)]
  exact settable_framed.2 (settable_chain.2 hall)

theorem settableExpr_unary {op : Char} (hf : SettableExpr f) : SettableExpr (.unary op f) :=
  fun _ => settable_framed.2 (settable_append.2 ⟨settable_word, hf _⟩)

theorem settableExpr_reference {mutable : Bool} (hf : SettableExpr f) :
    SettableExpr (.reference mutable f) := fun _ =>
  settable_framed.2 (settable_append.2 ⟨settable_word, hf _⟩)

theorem settableExpr_binary {op : String} (he : SettableExpr e) (hf : SettableExpr f) :
    SettableExpr (.binary op e f) := by
  intro s
  have hall : Settable (inconsistent indent (inconsistent (-indent) (exprDoc .inner e) ++ space ++
      word op ++ word " " ++ exprDoc .inner f)) := by
    simp [he .inner, hf .inner]
  exact settable_framed.2 hall

theorem settableExpr_assign (he : SettableExpr e) (hf : SettableExpr f) :
    SettableExpr (.assign e f) := by
  intro s
  have hall : Settable (inconsistent 0 (exprDoc .inner e ++ word " = " ++ neverBreak ++
      exprDoc .inner f)) := by
    simp [he .inner, hf .inner]
  exact settable_framed.2 hall

theorem settableExpr_return (hf : SettableExpr f) : SettableExpr (.returnWith (some f)) :=
  fun _ => settable_framed.2 (settable_append.2 ⟨settable_word, hf _⟩)

theorem settableExpr_letCondition {p : Pat} (hp : Settable (patDoc p)) (hf : SettableExpr f) :
    SettableExpr (.letCondition p f) := by
  intro s
  have hall : Settable (inconsistent 0 (word "let " ++ inconsistent 0 (patDoc p) ++ word " = " ++
      neverBreak ++ inconsistent 0 (exprDoc .inner f))) := by
    simp [hp, hf .inner]
  exact settable_framed.2 hall

/-! ## Statements -/

/-- The statement can be set, in a small place or in a large one, and so can the value that it may
be. -/
structure SettableStmt (s : Stmt) : Prop where
  doc : ∀ small isLast, Settable (stmtDoc small isLast s)
  value : ∀ e, s = .expr e false → SettableExpr e

theorem settableStmt_expr {semicolon : Bool} (he : SettableExpr e) :
    SettableStmt (.expr e semicolon) := by
  refine ⟨fun small isLast => ?_, fun f hf => ?_⟩
  · show Settable (if small && !semicolon then inconsistent 0 (exprDoc (.alone true) e) ++ space
      else inconsistent 0 (exprDoc (.alone true) e ++
        if (if semicolon then !e.losesSemicolon else e.getsSemicolon) then word ";" else []) ++
        hardBreak)
    simp [he (.alone true)]
  · cases hf
    exact he

theorem settableStmt_bind (he : SettableExpr e) : SettableStmt (Stmt.bind n e) := by
  refine ⟨fun small isLast => ?_, nofun⟩
  have hall : Settable ([] ++ inconsistent 0 (word "let " ++ patDoc (Pat.name n) ++
      (word " = " ++ neverBreak ++ exprDoc .inner e) ++ []) ++ [] ++ word ";" ++ hardBreak) := by
    simp [he .inner]
  exact hall

theorem settable_stmtsDoc (h : ∀ s ∈ ss, SettableStmt s) (small : Bool) :
    Settable (stmtsDoc small ss) := by
  induction ss generalizing small with
  | nil => exact settable_nil
  | cons s ss ih =>
    have hs := h s List.mem_cons_self
    cases ss with
    | nil => exact hs.doc small true
    | cons s' ss =>
      exact settable_append.2 ⟨hs.doc false false,
        ih (fun u hu => h u (List.mem_cons_of_mem s hu)) false⟩

/-! ## Blocks -/

theorem settableExpr_braces (h : ∀ s ∈ ss, SettableStmt s) : SettableExpr (Expr.braces ss) := by
  have hlarge : Settable (blockLines ([] ++ stmtsDoc false ss)) :=
    settable_blockLines.2 (settable_stmtsDoc h false)
  have hsmall : Settable (smallBlock ss.isEmpty (stmtsDoc true ss)) :=
    settable_smallBlock (settable_stmtsDoc h true)
  have hplain : Settable ([] ++ consistent indent (smallBlock ss.isEmpty ([] ++ stmtsDoc true ss))) :=
    settable_consistent.2 hsmall
  intro s
  cases s with
  | alone b => exact settable_framed.2 hplain
  | link b => exact settable_framed.2 hplain
  | otherwise => exact settable_framed.2 hsmall
  | arm givesWay =>
    cases givesWay with
    | false => exact settable_framed.2 hlarge
    | true =>
      cases ss with
      | nil => exact settable_framed.2 hlarge
      | cons s ss =>
        cases ss with
        | cons s' ss =>
          cases s with
          | expr e semicolon => cases semicolon <;> exact settable_framed.2 hlarge
          | _ => exact settable_framed.2 hlarge
        | nil =>
          -- A block of a single value gives way to the value.
          cases s with
          | expr e semicolon =>
            cases semicolon with
            | true => exact settable_framed.2 hlarge
            | false =>
              exact settable_framed.2 ((h _ List.mem_cons_self).value e rfl (.arm true))
          | _ => exact settable_framed.2 hlarge

/-- A condition and its block, without anything behind them. -/
theorem settableExpr_ifThen (hc : SettableExpr e) (h : ∀ s ∈ ss, SettableStmt s) :
    SettableExpr (.ifThen e ss none) := by
  let opening : Doc := word "if " ++
    consistent (-indent) (conditioned e.wrapsOpenly (exprDoc .inner e))
  have hopening : Settable opening := by
    simp [opening, hc .inner]
  have hsmall : Settable (opening ++ smallBlock ss.isEmpty (stmtsDoc true ss)) :=
    settable_append.2 ⟨hopening, settable_smallBlock (settable_stmtsDoc h true)⟩
  have hlarge : Settable (consistent indent (opening ++
      if ss.isEmpty then word "\x7b\x7d"
      else word "\x7b" ++ hardBreak ++ stmtsDoc false ss ++ shift (-indent) ++ word "\x7d")) := by
    simp [hopening, settable_stmtsDoc h false]
  intro s
  cases s with
  | otherwise => exact settable_framed.2 hsmall
  | _ => exact settable_framed.2 hlarge

theorem settableExpr_match (he : SettableExpr e) {arms : List Arm} (h : Settable (armsDoc arms)) :
    SettableExpr (.matchOn e [] arms) := by
  have hall : Settable (inconsistent 0 (word "match " ++
      conditioned e.wrapsOpenly (exprDoc .inner e) ++ blockLines ([] ++ armsDoc arms))) := by
    simp [he .inner, h]
  exact fun _ => settable_framed.2 hall

/-! ## Arms -/

/-- The arm can be set among others. -/
def SettableArm (a : Arm) : Prop := Settable (armsDoc [a])

theorem settableArm_plain {p : Pat} (hp : Settable (patDoc p)) (he : SettableExpr e) :
    SettableArm (Arm.plain p e) := by
  have hall : Settable ([] ++ inconsistent 0 (patDoc p ++ [] ++ word " => " ++
      exprDoc (.arm true) e) ++ hardBreak ++ []) := by
    simp [hp, he (.arm true)]
  exact hall

theorem settable_armsDoc {arms : List Arm} (h : ∀ a ∈ arms, SettableArm a) :
    Settable (armsDoc arms) := by
  induction arms with
  | nil => exact settable_nil
  | cons a arms ih =>
    have ha : Settable (armsDoc [a]) := h a List.mem_cons_self
    have harms := ih fun b hb => h b (List.mem_cons_of_mem a hb)
    obtain ⟨attrs, p, guard, body⟩ := a
    cases guard with
    | _ => exact settable_append.2 ⟨(settable_append.1 ha).1, harms⟩

/-! ## Functions -/

@[simp] theorem settable_paramItems {variadic : Bool} :
    Settable (paramItems variadic ds) ↔ ∀ d ∈ ds, Settable d := by
  cases variadic with
  | false => exact settable_commaItems
  | true =>
    unfold paramItems
    rw [if_pos rfl, settable_withLast]
    · simp
    · simp

theorem settable_signature {ps : List FnParam} (h : ∀ p ∈ ps, Settable (fnParamDoc p))
    (ht : Settable (tyDoc t)) : Settable (signatureDoc (Signature.plain n ps (some t))) := by
  have hparams : ∀ d ∈ fnParamDocs ps, Settable d := by
    induction ps with
    | nil => simp [fnParamDocs]
    | cons p ps ih =>
      exact List.forall_mem_cons.2 ⟨h p List.mem_cons_self,
        ih fun q hq => h q (List.mem_cons_of_mem p hq)⟩
  have hall : Settable ([] ++ [] ++ word "fn " ++ word n ++ [] ++ word "(" ++ neverBreak ++
      consistent 0 (zeroBreak ++ paramItems (endsVariadic ps) (fnParamDocs ps) ++ shift (-indent)) ++
      word ")" ++ consistent (-indent) (word " -> " ++ tyDoc t)) := by
    simpa [ht] using hparams
  exact hall

@[simp] theorem settable_selfRef : Settable (fnParamDoc FnParam.selfRef) := rfl

@[simp] theorem settable_selfMut : Settable (fnParamDoc FnParam.selfMut) := rfl

@[simp] theorem settable_namedParam (ht : Settable (tyDoc t)) :
    Settable (fnParamDoc (FnParam.named n t)) := by
  have hall : Settable ([] ++ patDoc (Pat.name n) ++ word ": " ++ tyDoc t) := by
    simp [ht]
  exact hall

/-! ## Attributes -/

variable {attrs : List Attribute}

theorem settable_attributes (h : ∀ a ∈ attrs, Settable (attributeDoc a)) (inner : Bool) :
    Settable (attributesDoc inner attrs) := by
  induction attrs with
  | nil => exact settable_nil
  | cons a attrs ih =>
    have ha := h a List.mem_cons_self
    have hall : Settable ((if a.isInner = inner then attributeDoc a else []) ++
        attributesDoc inner attrs) := by
      simp [ha, ih fun b hb => h b (List.mem_cons_of_mem a hb)]
    exact hall

theorem settable_lineComment (opener text : String) : Settable (lineComment opener text) := by
  simp [lineComment]

theorem settable_nestedComment (opener text : String) : Settable (nestedComment opener text) := by
  simp [nestedComment]

/-- A comment can be set. -/
theorem settable_comment {inner : Bool} {path : PlainPath} (h : comment? inner path e = some d) :
    Settable d := by
  unfold comment? at h
  split at h
  · unfold docComment? at h
    dsimp only at h
    split at h
    · cases h
      exact settable_lineComment _ _
    · split at h
      · cases h
        exact settable_nestedComment _ _
      · cases h
  · obtain ⟨text, -, h⟩ := Option.bind_eq_some_iff.1 h
    unfold plainComment? at h
    dsimp only at h
    split at h
    · cases h
      exact settable_lineComment _ _
    · split at h
      · cases h
        exact settable_nestedComment _ _
      · cases h

/-- An attribute with a literal as its value can be set, as a comment or not. -/
theorem settable_attributeText (path : PlainPath) (text : String) :
    Settable (attributeDoc (.value false path (.literal text))) := by
  have hplain : Settable (word "#[" ++ plainPathDoc path ++ word " = " ++
      exprDoc .inner (.literal text) ++ word "]" ++ space) := by
    simp [plainPathDoc, settableExpr_literal text .inner]
  rw [attributeDoc]
  split
  · next d hd => exact settable_comment hd
  · exact hplain

/-! ## Items -/

variable {generics : Generics} {place : ItemPlace} {vis : Visibility} {items : List Item}

/-- Generic parameters and the conditions on them can be set. -/
structure SettableGenerics (generics : Generics) : Prop where
  params : Settable (genericsDoc generics)
  conditions : ∀ d ∈ conditionDocs generics, Settable d

theorem settable_visibility : Settable (visibilityDoc vis) := by
  cases vis with
  | _ => simp [visibilityDoc, plainPathDoc]

theorem settable_itemsDoc (h : ∀ i ∈ items, Settable (itemDoc place i)) :
    Settable (itemsDoc place items) := by
  induction items with
  | nil => exact settable_nil
  | cons i items ih =>
    exact settable_append.2 ⟨h i List.mem_cons_self, ih fun j hj => h j (List.mem_cons_of_mem i hj)⟩

theorem settable_function {s : Signature} (ha : ∀ a ∈ attrs, Settable (attributeDoc a))
    (hs : Settable (signatureDoc s)) (hc : signatureConditions s = [])
    (hss : ∀ s ∈ ss, SettableStmt s) : Settable (itemDoc place (.function attrs vis s ss)) := by
  have hall : Settable (attributesDoc false attrs ++ [Cmd.box indent true] ++ visibilityDoc vis ++ [] ++
      signatureDoc s ++ whereBeforeBody (signatureConditions s) ++
      bodyLines (attributesDoc true attrs ++ stmtsDoc false ss) ++ hardBreak) := by
    simp [settable_attributes ha, settable_visibility, hs, hc, settable_stmtsDoc hss]
  exact hall

theorem settable_fnHead {s : Signature} (ha : ∀ a ∈ attrs, Settable (attributeDoc a))
    (hs : Settable (signatureDoc s)) (hc : signatureConditions s = []) :
    Settable (itemDoc place (.fnHead attrs vis s)) := by
  have hall : Settable (attributesDoc false attrs ++ consistent indent (visibilityDoc vis ++
      signatureDoc s ++ whereBeforeSemicolon (signatureConditions s)) ++ hardBreak) := by
    simp [settable_attributes ha, settable_visibility, hs, hc]
  exact hall

theorem settable_enum {variants : List Variant} (ha : ∀ a ∈ attrs, Settable (attributeDoc a))
    (hg : SettableGenerics generics) (hv : Settable (variantsDoc variants)) :
    Settable (itemDoc place (.enum attrs vis n generics variants)) := by
  have hall : Settable (attributesDoc false attrs ++ [Cmd.box indent true] ++ visibilityDoc vis ++
      word "enum " ++ word n ++ genericsDoc generics ++ whereBeforeBody (conditionDocs generics) ++
      bodyLines (variantsDoc variants) ++ hardBreak) := by
    simp [settable_attributes ha, settable_visibility, hg.params, hv]
    exact hg.conditions
  exact hall

theorem settable_struct {fs : List Field} (ha : ∀ a ∈ attrs, Settable (attributeDoc a))
    (hg : SettableGenerics generics) (hf : ∀ f ∈ fs, Settable (fieldDoc f)) :
    Settable (itemDoc place (.struct attrs vis n generics (.named fs))) := by
  have hfields : ∀ d ∈ fieldDocs fs, Settable d := by
    induction fs with
    | nil => simp [fieldDocs]
    | cons f fs ih =>
      exact List.forall_mem_cons.2 ⟨hf f List.mem_cons_self,
        ih fun g hg => hf g (List.mem_cons_of_mem f hg)⟩
  have hall : Settable (attributesDoc false attrs ++ [Cmd.box indent true] ++ visibilityDoc vis ++
      word "struct " ++ word n ++ genericsDoc generics ++
      (whereBeforeBody (conditionDocs generics) ++
        bodyLines ((fieldDocs fs).flatMap fun d => d ++ word "," ++ hardBreak)) ++ hardBreak) := by
    simp [settable_attributes ha, settable_visibility, hg.params]
    exact ⟨hg.conditions, hfields⟩
  exact hall

theorem settable_trait (ha : ∀ a ∈ attrs, Settable (attributeDoc a)) (hg : SettableGenerics generics)
    (hi : ∀ i ∈ items, Settable (itemDoc .traitBody i)) :
    Settable (itemDoc place (.trait attrs vis [] n generics [] items)) := by
  have hall : Settable (attributesDoc false attrs ++ [Cmd.box indent true] ++ visibilityDoc vis ++
      wordsDoc [] ++ word "trait " ++ word n ++ genericsDoc generics ++ [] ++
      whereBeforeBody (conditionDocs generics) ++
      bodyLines (attributesDoc true attrs ++ itemsDoc .traitBody items) ++ hardBreak) := by
    simp [settable_attributes ha, settable_visibility, hg.params, settable_itemsDoc hi]
    exact hg.conditions
  exact hall

theorem settable_implementation {trait? : Option Path} (hg : SettableGenerics generics)
    (hp : ∀ p ∈ trait?, Settable (pathDoc .type p)) (ht : Settable (tyDoc t))
    (hi : ∀ i ∈ items, Settable (itemDoc .implBody i)) :
    Settable (itemDoc place (.implementation generics trait? t items)) := by
  have hall : ∀ head, Settable head → Settable ([] ++ [Cmd.box indent true] ++
      inconsistent (-indent) (consistent indent (wordsDoc [] ++ word "impl" ++
        genericsDoc generics) ++ word " " ++ head ++ tyDoc t) ++
      whereBeforeBody (conditionDocs generics) ++
      bodyLines ([] ++ itemsDoc .implBody items) ++ hardBreak) := by
    intro head hhead
    simp [hhead, hg.params, ht, settable_itemsDoc hi]
    exact hg.conditions
  cases trait? with
  | none => exact hall [] settable_nil
  | some p => exact hall ([] ++ pathDoc .type p ++ space ++ word "for ") (by simp [hp p rfl])

end DispatchLayer.Code.Printer
