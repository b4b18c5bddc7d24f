import DispatchLayer.Proofs.Code.Spelling

/-!
# Trees that are well spelled

A tree is spelled in tokens part by part, so it is well spelled if its parts are: there is one lemma
for each form of tree that generated code is made of. The names in a tree have to be names of source
code; everything else about them is left open. Documentation is a literal, which reads as one
whatever name it quotes (`wellSpelled_docEscaped`).
-/

namespace DispatchLayer.Code

open Token

/-! ## Spelling part by part -/

theorem spellSegments_eq_map (ss : List Segment) : spellSegments ss = ss.map Segment.spell := by
  induction ss with
  | nil => rfl
  | cons s ss ih => exact congrArg (s.spell :: ·) ih

theorem spellGenericArgs_eq_map (as : List GenericArg) :
    spellGenericArgs as = as.map GenericArg.spell := by
  induction as with
  | nil => rfl
  | cons a as ih => exact congrArg (a.spell :: ·) ih

theorem spellBounds_eq_map (bs : List Bound) : spellBounds bs = bs.map Bound.spell := by
  induction bs with
  | nil => rfl
  | cons b bs ih => exact congrArg (b.spell :: ·) ih

theorem spellExprs_eq_map (es : List Expr) : spellExprs es = es.map Expr.spell := by
  induction es with
  | nil => rfl
  | cons e es ih => exact congrArg (e.spell :: ·) ih

theorem spellFnParams_eq_map (ps : List FnParam) : spellFnParams ps = ps.map FnParam.spell := by
  induction ps with
  | nil => rfl
  | cons p ps ih => exact congrArg (p.spell :: ·) ih

theorem spellItems_eq_flatMap (items : List Item) : spellItems items = items.flatMap Item.spell := by
  induction items with
  | nil => rfl
  | cons i items ih => rw [spellItems, ih, List.flatMap_cons]

theorem spellVariants_eq_append (v : Variant) (rest : List Variant) :
    spellVariants (v :: rest) = spellVariants [v] ++ spellVariants rest := by
  obtain ⟨attrs, name, fields, discriminant⟩ := v
  cases discriminant with
  | none => exact (List.append_assoc _ [mark ','] (spellVariants rest)).symm
  | some e => exact (List.append_assoc _ [mark ','] (spellVariants rest)).symm

theorem spellVariants_eq_flatMap (vs : List Variant) :
    spellVariants vs = vs.flatMap fun v => spellVariants [v] := by
  induction vs with
  | nil => rfl
  | cons v vs ih => rw [spellVariants_eq_append, ih, List.flatMap_cons]

theorem spellNamedFields_eq_flatMap (fs : List Field) :
    spellNamedFields fs = fs.flatMap fun f => f.spell ++ [mark ','] := by
  induction fs with
  | nil => rfl
  | cons f fs ih => rw [spellNamedFields, ih, List.flatMap_cons, List.append_assoc,
      List.singleton_append]

theorem spellArms_append (a : Arm) (arms : List Arm) :
    spellArms (a :: arms) = spellArms [a] ++ spellArms arms := by
  obtain ⟨attrs, p, guard, body⟩ := a
  cases guard with
  | _ =>
    cases body with
    | _ => simp [spellArms]

theorem spellArms_eq_flatMap (arms : List Arm) :
    spellArms arms = arms.flatMap fun a => spellArms [a] := by
  induction arms with
  | nil => rfl
  | cons a arms ih => rw [spellArms_append, ih, List.flatMap_cons]

/-- What holds of the parts of a list holds of the tokens of each part. -/
theorem forall_mem_spell {α : Type} {spell : α → List Token} {as : List α}
    (h : ∀ a ∈ as, WellSpelled (spell a)) : ∀ ts ∈ as.map spell, WellSpelled ts :=
  List.forall_mem_map.2 h

/-! ## Paths and types -/

section Types

variable {name : String} {names : List String}

theorem wellSpelled_colons : WellSpelled colons := .operator (by decide)

theorem wellSpelled_colonsIf (b : Bool) : WellSpelled (colonsIf b) := by
  cases b with
  | false => exact .nil
  | true => exact wellSpelled_colons

theorem wellSpelled_wordIf (b : Bool) (h : Scan.isLatinName name = true) :
    WellSpelled (wordIf b name) := by
  cases b with
  | false => exact .nil
  | true => exact .word_only h

theorem wellSpelled_pathOfSegments (leading : Bool) {ss : List Segment}
    (h : ∀ s ∈ ss, WellSpelled s.spell) : WellSpelled (Path.mk leading ss).spell := by
  show WellSpelled (colonsIf leading ++ separatedBy colons (spellSegments ss))
  rw [spellSegments_eq_map]
  exact (wellSpelled_colonsIf leading).append
    (wellSpelled_separatedBy wellSpelled_colons (forall_mem_spell h))

theorem wellSpelled_segmentNames (h : ∀ n ∈ names, Scan.isSourceName n.toList = true) :
    ∀ s ∈ names.map Segment.name, WellSpelled s.spell :=
  List.forall_mem_map.2 fun n hn => .ident_only (h n hn)

theorem wellSpelled_pathOfNames (leading : Bool)
    (h : ∀ n ∈ names, Scan.isSourceName n.toList = true) :
    WellSpelled (Path.ofNames leading names).spell :=
  wellSpelled_pathOfSegments leading (wellSpelled_segmentNames h)

theorem wellSpelled_single (h : Scan.isSourceName name.toList = true) :
    WellSpelled (Path.single name).spell :=
  wellSpelled_pathOfNames false (by simpa using h)

theorem wellSpelled_angle (h : Scan.isSourceName name.toList = true) {args : List GenericArg}
    (ha : ∀ a ∈ args, WellSpelled a.spell) : WellSpelled (Segment.angle name false args).spell := by
  show WellSpelled (.ident name :: angled (commaSeparated (spellGenericArgs args)))
  rw [spellGenericArgs_eq_map]
  exact .ident h (wellSpelled_angled (wellSpelled_commaSeparated (forall_mem_spell ha)))

theorem wellSpelled_pathApplied (leading : Bool)
    (hn : ∀ n ∈ names, Scan.isSourceName n.toList = true)
    (h : Scan.isSourceName name.toList = true) {args : List GenericArg}
    (ha : ∀ a ∈ args, WellSpelled a.spell) :
    WellSpelled (Path.applied leading names name args).spell := by
  refine wellSpelled_pathOfSegments leading fun s hs => ?_
  rcases List.mem_append.1 hs with hs | hs
  · exact wellSpelled_segmentNames hn s hs
  · rw [List.mem_singleton.1 hs]
    exact wellSpelled_angle h ha

/-- A path as a type is spelled as a path. -/
theorem spell_tyOfPath (p : Path) : (Ty.ofPath p).spell = p.spell := rfl

theorem wellSpelled_reference {life : Option String} (mutable : Bool) {t : Ty}
    (hl : ∀ l ∈ life, Name.isIdentifier l.toList = true) (h : WellSpelled t.spell) :
    WellSpelled (Ty.reference life mutable t).spell := by
  have hlife : WellSpelled (spellLifetime? life) := by
    cases life with
    | none => exact .nil
    | some l => exact .lifetime (hl l rfl)
  exact ((WellSpelled.mark (by decide) hlife).append
    (wellSpelled_wordIf mutable (by decide))).append h

theorem wellSpelled_boundsAfter {word : String} (hw : Scan.isLatinName word = true)
    {bounds : List Bound} (h : ∀ b ∈ bounds, WellSpelled b.spell) :
    WellSpelled (.ident word :: plusSeparated (spellBounds bounds)) := by
  rw [spellBounds_eq_map]
  exact .word hw (wellSpelled_separatedBy (.mark (by decide) .nil) (forall_mem_spell h))

theorem wellSpelled_object {bounds : List Bound} (h : ∀ b ∈ bounds, WellSpelled b.spell) :
    WellSpelled (Ty.object bounds).spell :=
  wellSpelled_boundsAfter (by decide) h

theorem wellSpelled_impl {bounds : List Bound} (h : ∀ b ∈ bounds, WellSpelled b.spell) :
    WellSpelled (Ty.impl bounds).spell :=
  wellSpelled_boundsAfter (by decide) h

theorem wellSpelled_traitBound {p : Path} (h : WellSpelled p.spell) :
    WellSpelled (Bound.trait false false none p).spell :=
  h

end Types

/-! ## Attributes -/

/-- A literal that begins with a quote, or with the letter of a raw string. -/
theorem spellLiteral_of_opener {text : String}
    (h : text.toList.head? = some '"' ∨ text.toList.head? = some 'r') :
    spellLiteral text = [.literal text] := by
  have hne : ∀ word : String, word.toList.head? ≠ some '"' → word.toList.head? ≠ some 'r' →
      (text == word) = false := by
    rintro word hq hr
    rw [beq_eq_false_iff_ne]
    rintro rfl
    exact h.elim hq hr
  unfold spellLiteral
  rw [hne "true" (by decide) (by decide), hne "false" (by decide) (by decide)]
  split
  · next hl =>
    rw [hl] at h
    exact absurd h (by simp)
  · rfl

theorem spellLiteral_stringLiteral (text : String) :
    spellLiteral (Text.stringLiteral text) = [.literal (Text.stringLiteral text)] := by
  refine spellLiteral_of_opener (Or.inl ?_)
  unfold Text.stringLiteral
  rw [String.toList_ofList]
  rfl

theorem wellSpelled_docAttribute {text : String}
    (h : spellLiteral text = [.literal text]) (hr : Scan.ReadsAsLiteral text.toList) :
    WellSpelled (Attribute.value false (PlainPath.single "doc") (.literal text)).spell := by
  have he : WellSpelled (Expr.literal text).spell := by
    show WellSpelled (spellLiteral text)
    rw [h]
    exact .literal hr .nil
  exact .mark (by decide) (.grouped .bracket
    (.word (by decide) (.mark (by decide) he)))

/-- A line of documentation without quotes and carriage returns. -/
theorem wellSpelled_doc {text : String} (h : Scan.isRawText text = true) :
    WellSpelled (Attribute.doc text).spell := by
  refine wellSpelled_docAttribute (spellLiteral_of_opener (Or.inr ?_)) (Scan.readsAsLiteral_raw h)
  rw [String.toList_append, String.toList_append]
  rfl

/-- Any line of documentation, escaped. -/
theorem wellSpelled_docEscaped (text : String) : WellSpelled (Attribute.docEscaped text).spell :=
  wellSpelled_docAttribute (spellLiteral_stringLiteral text) (Scan.readsAsLiteral_stringLiteral text)

/-- The attribute that derives traits is a list of names. -/
theorem wellSpelled_derive {traits : List String}
    (h : ∀ n ∈ traits, Scan.isSourceName n.toList = true) :
    WellSpelled (Attribute.derive traits).spell := by
  have hlist : WellSpelled (nameList traits) := by
    fun_induction nameList traits with
    | case1 => exact .nil
    | case2 n => exact .ident_only (h n (by simp))
    | case3 n rest hne ih =>
      exact .ident (h n (by simp)) (.mark (by decide) (ih fun m hm => h m (by simp [hm])))
  exact .mark (by decide)
    (.grouped .bracket (.word (by decide) (.grouped .paren hlist)))

theorem wellSpelled_attributes {inner : Bool} {attrs : List Attribute}
    (h : ∀ a ∈ attrs, WellSpelled a.spell) : WellSpelled (spellAttributes inner attrs) := by
  induction attrs with
  | nil => exact .nil
  | cons a attrs ih =>
    obtain ⟨ha, hrest⟩ := List.forall_mem_cons.1 h
    refine WellSpelled.append ?_ (ih hrest)
    split
    · exact ha
    · exact .nil

/-! ## Expressions and patterns -/

section Expressions

variable {name : String} {names : List String} {e : Expr} {args : List Expr}

theorem wellSpelled_names (leading : Bool)
    (h : ∀ n ∈ names, Scan.isSourceName n.toList = true) :
    WellSpelled (Expr.names leading names).spell :=
  wellSpelled_pathOfNames leading h

theorem wellSpelled_name (h : Scan.isSourceName name.toList = true) :
    WellSpelled (Expr.name name).spell :=
  wellSpelled_names false (by simpa using h)

theorem wellSpelled_arguments (h : ∀ e ∈ args, WellSpelled e.spell) :
    WellSpelled (grouped .paren (commaSeparated (spellExprs args))) := by
  rw [spellExprs_eq_map]
  exact .grouped .paren (wellSpelled_commaSeparated (forall_mem_spell h))

theorem wellSpelled_call (he : WellSpelled e.spell) (h : ∀ e ∈ args, WellSpelled e.spell) :
    WellSpelled (Expr.call e args).spell :=
  he.append (wellSpelled_arguments h)

theorem wellSpelled_invoke (he : WellSpelled e.spell) (hn : Scan.isSourceName name.toList = true)
    (h : ∀ e ∈ args, WellSpelled e.spell) : WellSpelled (e.invoke name args).spell :=
  (he.append (.mark (by decide) (.ident_only hn))).append (wellSpelled_arguments h)

/-- The name of a member is no number. -/
theorem spellMember_of_isSourceName (h : Scan.isSourceName name.toList = true) :
    spellMember name = .ident name := by
  obtain ⟨c, cs, hc, hs⟩ := exists_isNameStart h
  have hd : c.isDigit = false := by
    rw [Bool.eq_false_iff]
    intro hd
    rw [Name.isNameStart_of_isDigit hd] at hs
    cases hs
  unfold spellMember
  rw [hc, List.all_cons, hd]
  rfl

theorem wellSpelled_field (he : WellSpelled e.spell) (h : Scan.isSourceName name.toList = true) :
    WellSpelled (Expr.field e name).spell := by
  show WellSpelled (e.spell ++ [mark '.', spellMember name])
  rw [spellMember_of_isSourceName h]
  exact he.append (.mark (by decide) (.ident_only h))

theorem wellSpelled_firstField (he : WellSpelled e.spell) :
    WellSpelled (Expr.field e "0").spell :=
  he.append (.mark (by decide) (.literal Scan.readsAsLiteral_zero .nil))

theorem wellSpelled_literal {text : String} (h : Scan.ReadsAsLiteral text.toList)
    (ho : text.toList.head? = some '"' ∨ text.toList.head? = some 'r') :
    WellSpelled (Expr.literal text).spell := by
  show WellSpelled (spellLiteral text)
  rw [spellLiteral_of_opener ho]
  exact .literal h .nil

theorem wellSpelled_wrap {p : Pat} (h : ∀ n ∈ names, Scan.isSourceName n.toList = true)
    (hp : WellSpelled p.spell) : WellSpelled (Pat.wrap names p).spell :=
  (wellSpelled_pathOfNames false h).append (.grouped .paren hp)

theorem wellSpelled_wild : WellSpelled Pat.wild.spell :=
  .word_only (by decide)

theorem wellSpelled_patName (h : Scan.isSourceName name.toList = true) :
    WellSpelled (Pat.name name).spell :=
  .ident_only h

/-- The tokens of statements, one after the other. -/
theorem wellSpelled_value (h : WellSpelled e.spell) : WellSpelled (spellStmts [Stmt.value e]) :=
  (h.append .nil).append .nil

theorem wellSpelled_effect (h : WellSpelled e.spell) {rest : List Stmt}
    (hr : WellSpelled (spellStmts rest)) : WellSpelled (spellStmts (Stmt.effect e :: rest)) :=
  (h.append (.mark (by decide) .nil)).append hr

theorem wellSpelled_bind (hn : Scan.isSourceName name.toList = true) (h : WellSpelled e.spell)
    {rest : List Stmt} (hr : WellSpelled (spellStmts rest)) :
    WellSpelled (spellStmts (Stmt.bind name e :: rest)) := by
  have hi : WellSpelled (mark '=' :: e.spell) := .mark (by decide) h
  exact (((WellSpelled.word (by decide) (wellSpelled_patName hn)).append hi).append
    .nil).append (.mark (by decide) hr)

theorem wellSpelled_braces {body : List Stmt} (h : WellSpelled (spellStmts body)) :
    WellSpelled (Expr.braces body).spell :=
  .grouped .brace h

/-- What ends an arm. -/
def armEnd : Expr → List Token
  | .block .. => []
  | _ => [mark ',']

theorem spellArms_cons (p : Pat) (e : Expr) (rest : List Arm) :
    spellArms (Arm.plain p e :: rest) =
      p.spell ++ operator ['=', '>'] ++ e.spell ++ armEnd e ++ spellArms rest := by
  show p.spell ++ [] ++ operator ['=', '>'] ++ e.spell ++ _ ++ spellArms rest = _
  rw [List.append_nil]
  cases e with
  | _ => rfl

theorem wellSpelled_armEnd (e : Expr) : WellSpelled (armEnd e) := by
  unfold armEnd
  split
  · exact .nil
  · exact .mark (by decide) .nil

/-- An arm without guard, whose pattern and expression are well spelled. -/
inductive WellSpelledArm : Arm → Prop
  | plain {p : Pat} {e : Expr} (hp : WellSpelled p.spell) (he : WellSpelled e.spell) :
    WellSpelledArm (Arm.plain p e)

theorem wellSpelled_arms {arms : List Arm} (h : ∀ a ∈ arms, WellSpelledArm a) :
    WellSpelled (spellArms arms) := by
  induction arms with
  | nil => exact .nil
  | cons a arms ih =>
    obtain ⟨ha, hrest⟩ := List.forall_mem_cons.1 h
    obtain ⟨hp, he⟩ := ha
    rw [spellArms_cons]
    exact (((hp.append (.operator (by decide))).append he).append (wellSpelled_armEnd _)).append
      (ih hrest)

theorem wellSpelled_matchOn (he : WellSpelled e.spell) {arms : List Arm}
    (h : ∀ a ∈ arms, WellSpelledArm a) : WellSpelled (Expr.matchOn e [] arms).spell :=
  (WellSpelled.word (by decide) he).append (.grouped .brace (wellSpelled_arms h))

theorem wellSpelled_ifLet {p : Pat} (hp : WellSpelled p.spell) (he : WellSpelled e.spell)
    {body : List Stmt} (h : WellSpelled (spellStmts body)) :
    WellSpelled (Expr.ifThen (.letCondition p e) body none).spell := by
  have hc : WellSpelled (Expr.letCondition p e).spell := by
    exact (WellSpelled.word (by decide) hp).append (.mark (by decide) he)
  exact ((WellSpelled.word (by decide) hc).append (.grouped .brace h)).append .nil

theorem wellSpelled_ifElse {c : Expr} (hc : WellSpelled c.spell) (he : WellSpelled e.spell)
    {body : List Stmt} (h : WellSpelled (spellStmts body)) :
    WellSpelled (Expr.ifThen c body (some e)).spell :=
  ((WellSpelled.word (by decide) hc).append (.grouped .brace h)).append
    (.word (by decide) he)

theorem wellSpelled_return (he : WellSpelled e.spell) :
    WellSpelled (Expr.returnWith (some e)).spell :=
  .word (by decide) he

theorem wellSpelled_assign {l : Expr} (hl : WellSpelled l.spell) (he : WellSpelled e.spell) :
    WellSpelled (Expr.assign l e).spell :=
  hl.append (.mark (by decide) he)

end Expressions

/-! ## Functions and items -/

section Items

variable {name : String} {t : Ty} {attrs : List Attribute} {body : List Stmt} {items : List Item}

theorem wellSpelled_pub : WellSpelled Visibility.pub.spell := .word_only (by decide)

theorem wellSpelled_inherited : WellSpelled Visibility.inherited.spell := .nil

theorem wellSpelled_selfParam :
    WellSpelled FnParam.selfValue.spell ∧ WellSpelled FnParam.selfRef.spell ∧
      WellSpelled FnParam.selfMut.spell := by
  have hs : WellSpelled [.ident "self"] := .word_only (by decide)
  have hm : WellSpelled [.ident "mut"] := .word_only (by decide)
  have hr : WellSpelled [mark '&'] := .mark (by decide) .nil
  refine ⟨?_, ?_, ?_⟩
  · exact hs
  · exact hr.append hs
  · exact (hr.append hm).append hs

theorem wellSpelled_param (h : Scan.isSourceName name.toList = true)
    (ht : WellSpelled t.spell) : WellSpelled (FnParam.named name t).spell :=
  (wellSpelled_patName h).append (.mark (by decide) ht)

theorem wellSpelled_output {t? : Option Ty} (h : ∀ t ∈ t?, WellSpelled t.spell) :
    WellSpelled (spellOutput t?) := by
  cases t? with
  | none => exact .nil
  | some t => exact (WellSpelled.operator (by decide)).append (h t rfl)

theorem wellSpelled_params {params : List FnParam} (hp : ∀ p ∈ params, WellSpelled p.spell) :
    WellSpelled (commaSeparated (spellFnParams params)) := by
  rw [spellFnParams_eq_map]
  exact wellSpelled_commaSeparated (forall_mem_spell hp)

theorem wellSpelled_signature (hn : Scan.isSourceName name.toList = true) {params : List FnParam}
    {output : Option Ty} (hp : ∀ p ∈ params, WellSpelled p.spell)
    (ho : ∀ t ∈ output, WellSpelled t.spell) :
    WellSpelled (Signature.plain name params output).spell :=
  (((WellSpelled.word (by decide) (.ident_only hn)).append
    (.grouped .paren (wellSpelled_params hp))).append (wellSpelled_output ho)).append .nil

theorem wellSpelled_function (ha : ∀ a ∈ attrs, WellSpelled a.spell) {vis : Visibility}
    (hv : WellSpelled vis.spell) {s : Signature} (hs : WellSpelled s.spell)
    (hb : WellSpelled (spellStmts body)) : WellSpelled (Item.function attrs vis s body).spell :=
  ((((wellSpelled_attributes ha).append hv).append .nil).append hs).append
    (.grouped .brace ((wellSpelled_attributes ha).append hb))

theorem wellSpelled_lifetimeParam (h : Name.isIdentifier name.toList = true) :
    WellSpelled (GenericParam.ofLifetime name).spell :=
  (WellSpelled.lifetime h).append .nil

theorem wellSpelled_typeParam (hn : Scan.isSourceName name.toList = true) {bounds : List Bound}
    (h : ∀ b ∈ bounds, WellSpelled b.spell) :
    WellSpelled (GenericParam.ofType name bounds).spell := by
  have hb : WellSpelled (markedIf ':' (plusSeparated (spellBounds bounds))) := by
    rw [spellBounds_eq_map]
    unfold markedIf
    split
    · exact .nil
    · exact .mark (by decide) (wellSpelled_separatedBy (.mark (by decide) .nil) (forall_mem_spell h))
  exact (WellSpelled.ident hn hb).append .nil

theorem wellSpelled_generics {p : GenericParam} (h : WellSpelled p.spell)
    (conditions : List WherePredicate) :
    WellSpelled (Generics.mk [p] conditions).spellParams :=
  wellSpelled_angled h

theorem wellSpelled_items (h : ∀ i ∈ items, WellSpelled i.spell) :
    WellSpelled (spellItems items) := by
  induction items with
  | nil => exact .nil
  | cons i items ih =>
    obtain ⟨hi, hrest⟩ := List.forall_mem_cons.1 h
    exact hi.append (ih hrest)

theorem wellSpelled_implementation {generics : Generics} (hg : WellSpelled generics.spellParams)
    (hw : WellSpelled generics.spellWhere) {trait? : Option Path}
    (ht : ∀ p ∈ trait?, WellSpelled p.spell) {self : Ty} (hs : WellSpelled self.spell)
    (hi : ∀ i ∈ items, WellSpelled i.spell) :
    WellSpelled (Item.implementation generics trait? self items).spell := by
  have hbody := WellSpelled.grouped .brace (WellSpelled.nil.append (wellSpelled_items hi))
  have himpl : WellSpelled ([] ++ [] ++ .ident "impl" :: generics.spellParams) :=
    .word (by decide) hg
  cases trait? with
  | none => exact (((himpl.append .nil).append hs).append hw).append hbody
  | some p =>
    have hp := (WellSpelled.nil.append (ht p rfl)).append
      (.word_only (n := "for") (by decide))
    exact (((himpl.append hp).append hs).append hw).append hbody

theorem wellSpelled_fields {fs : List Field} (h : ∀ f ∈ fs, WellSpelled f.spell) :
    WellSpelled (spellNamedFields fs) := by
  induction fs with
  | nil => exact .nil
  | cons f fs ih =>
    obtain ⟨hf, hrest⟩ := List.forall_mem_cons.1 h
    exact hf.append (.mark (by decide) (ih hrest))

theorem wellSpelled_namedField (hn : Scan.isSourceName name.toList = true)
    (ht : WellSpelled t.spell) : WellSpelled (Field.named name t).spell :=
  (WellSpelled.ident hn (.mark (by decide) .nil)).append ht

theorem wellSpelled_variants {vs : List Variant} (h : ∀ v ∈ vs, WellSpelled (spellVariants [v])) :
    WellSpelled (spellVariants vs) := by
  induction vs with
  | nil => exact .nil
  | cons v vs ih =>
    obtain ⟨hv, hrest⟩ := List.forall_mem_cons.1 h
    rw [spellVariants_eq_append]
    exact hv.append (ih hrest)

theorem wellSpelled_variant (ha : ∀ a ∈ attrs, WellSpelled a.spell)
    (hn : Scan.isSourceName name.toList = true) {fields : Fields} (hf : WellSpelled fields.spell) :
    WellSpelled (spellVariants [.mk attrs name fields none]) :=
  (((wellSpelled_attributes ha).append (WellSpelled.ident hn hf)).append .nil).append
    (WellSpelled.mark (c := ',') (by decide) .nil)

section Declarations

variable {generics : Generics}

theorem wellSpelled_enum (ha : ∀ a ∈ attrs, WellSpelled a.spell)
    (hn : Scan.isSourceName name.toList = true) (hg : WellSpelled generics.spellParams)
    (hw : WellSpelled generics.spellWhere) {vs : List Variant}
    (h : ∀ v ∈ vs, WellSpelled (spellVariants [v])) :
    WellSpelled (Item.enum attrs .pub name generics vs).spell :=
  ((((wellSpelled_attributes ha).append wellSpelled_pub).append
    (WellSpelled.word (n := "enum") (by decide) (.ident hn hg))).append hw).append
    (.grouped .brace (wellSpelled_variants h))

/-- What stands before the fields of a struct. -/
theorem wellSpelled_structHead (ha : ∀ a ∈ attrs, WellSpelled a.spell)
    (hn : Scan.isSourceName name.toList = true) (hg : WellSpelled generics.spellParams) :
    WellSpelled (spellAttributes false attrs ++ Visibility.pub.spell ++
      .ident "struct" :: .ident name :: generics.spellParams) :=
  ((wellSpelled_attributes ha).append wellSpelled_pub).append
    (.word (by decide) (.ident hn hg))

theorem wellSpelled_struct (ha : ∀ a ∈ attrs, WellSpelled a.spell)
    (hn : Scan.isSourceName name.toList = true) (hg : WellSpelled generics.spellParams)
    (hw : WellSpelled generics.spellWhere) {fs : List Field} (h : ∀ f ∈ fs, WellSpelled f.spell) :
    WellSpelled (Item.struct attrs .pub name generics (.named fs)).spell :=
  (wellSpelled_structHead ha hn hg).append (hw.append (.grouped .brace (wellSpelled_fields h)))

theorem wellSpelled_tupleStruct (ha : ∀ a ∈ attrs, WellSpelled a.spell)
    (hn : Scan.isSourceName name.toList = true) (hg : WellSpelled generics.spellParams)
    (hw : WellSpelled generics.spellWhere) (ht : WellSpelled t.spell) :
    WellSpelled (Item.struct attrs .pub name generics (.tuple [Field.positional t])).spell :=
  (wellSpelled_structHead ha hn hg).append
    (((WellSpelled.grouped .paren ht).append hw).append (.mark (by decide) .nil))

theorem wellSpelled_fnHead (ha : ∀ a ∈ attrs, WellSpelled a.spell) {s : Signature}
    (hs : WellSpelled s.spell) : WellSpelled (Item.fnHead attrs .inherited s).spell :=
  (((wellSpelled_attributes ha).append wellSpelled_inherited).append hs).append
    (.mark (by decide) .nil)

theorem wellSpelled_trait (ha : ∀ a ∈ attrs, WellSpelled a.spell)
    (hn : Scan.isSourceName name.toList = true) (hi : ∀ i ∈ items, WellSpelled i.spell) :
    WellSpelled (Item.trait attrs .pub [] name Generics.empty [] items).spell :=
  (((((wellSpelled_attributes ha).append wellSpelled_pub).append .nil).append
    (WellSpelled.word (n := "trait") (by decide) (.ident_only hn))).append .nil).append
    .nil |>.append (.grouped .brace ((wellSpelled_attributes ha).append (wellSpelled_items hi)))

end Declarations

end Items

end DispatchLayer.Code
