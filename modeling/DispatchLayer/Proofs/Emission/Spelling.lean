import DispatchLayer.Proofs.Code.Reader.Path
import DispatchLayer.Proofs.Code.WellSpelled
import DispatchLayer.Proofs.Emission.Completion

/-!
# The generated files are well spelled

Every item of the two files is well spelled if the names that it is made of are names of source
code. The names of a kind are, once they have been checked (`Spelled`), and so are those of a path
that was read; so the files are well spelled whenever they are emitted
(`wellSpelled_handlersTree`, `wellSpelled_visitorTree`).
-/

namespace DispatchLayer.Emission

open Code Token Scan

variable {name label traitName method slot variant : String} {t : Ty}

/-- What two things have, the list of the two has. -/
theorem forall_mem_pair {α : Type} {p : α → Prop} {a b : α} (ha : p a) (hb : p b) :
    ∀ x ∈ [a, b], p x :=
  List.forall_mem_cons.2 ⟨ha, List.forall_mem_singleton.2 hb⟩

/-- What one more thing has, the longer list has. -/
theorem forall_mem_snoc {α : Type} {p : α → Prop} {as : List α} {b : α} (h : ∀ a ∈ as, p a)
    (hb : p b) : ∀ x ∈ as ++ [b], p x :=
  List.forall_mem_append.2 ⟨h, List.forall_mem_singleton.2 hb⟩

theorem forall_mem_some {α : Type} {p : α → Prop} {a : α} (h : p a) : ∀ x ∈ some a, p x := by
  rintro x ⟨⟩
  exact h

theorem wellSpelled_named (hn : isSourceName name.toList = true) :
    WellSpelled (Ty.named name).spell :=
  wellSpelled_single hn

theorem wellSpelled_namedWord (hn : isLatinName name = true) : WellSpelled (Ty.named name).spell :=
  wellSpelled_named (isSourceName_of_isLatinName hn)

theorem wellSpelled_word (hn : isLatinName name = true) : WellSpelled (Expr.name name).spell :=
  wellSpelled_name (isSourceName_of_isLatinName hn)

/-- Names that are all Latin. -/
theorem isSourceName_of_all {names : List String} (h : names.all isLatinName = true) :
    ∀ n ∈ names, isSourceName n.toList = true :=
  fun n hn => isSourceName_of_isLatinName (List.all_eq_true.1 h n hn)

theorem wellSpelled_docs (texts : List String)
    (h : ∀ text ∈ texts, isRawText text = true) :
    ∀ a ∈ texts.map Attribute.doc, WellSpelled a.spell :=
  List.forall_mem_map.2 fun text ht => wellSpelled_doc (h text ht)

/-- Generic arguments that are one type. -/
theorem forall_mem_typeArgument (ht : WellSpelled t.spell) :
    ∀ a ∈ [GenericArg.type t], WellSpelled a.spell :=
  List.forall_mem_singleton.2 ht

theorem wellSpelled_noGenerics : WellSpelled Generics.empty.spellParams := .nil

/-! ## The node type -/

theorem wellSpelled_lifetimeGenerics {life : String} (h : isLatinName life = true) :
    WellSpelled (Generics.ofParams [.ofLifetime life]).spellParams :=
  wellSpelled_generics (wellSpelled_lifetimeParam (isIdentifier_of_isLatinName h)) []

theorem wellSpelled_nodeTy {life : String} (h : isLatinName life = true) :
    WellSpelled (nodeTy life).spell :=
  wellSpelled_pathApplied false (by simp) (isSourceName_of_isLatinName (by decide))
    (List.forall_mem_singleton.2 (WellSpelled.lifetime (isIdentifier_of_isLatinName h)))

theorem wellSpelled_nodeRef (ht : WellSpelled t.spell) : WellSpelled (nodeRef t).spell := by
  refine wellSpelled_reference false (fun l hl => ?_) ht
  cases hl
  exact isIdentifier_of_isLatinName (by decide)

theorem wellSpelled_nodeVariant (hn : isSourceName name.toList = true) (ht : WellSpelled t.spell) :
    WellSpelled (spellVariants [nodeVariant name t]) :=
  wellSpelled_variant (by simp) hn (.grouped .paren (wellSpelled_nodeRef ht))

theorem wellSpelled_anyTy : WellSpelled anyTy.spell :=
  wellSpelled_object (List.forall_mem_singleton.2
    (wellSpelled_traitBound (wellSpelled_pathOfNames true (isSourceName_of_all (by decide)))))

theorem wellSpelled_nodeItem {variants : List Variant}
    (h : ∀ v ∈ variants, WellSpelled (spellVariants [v])) :
    WellSpelled (nodeItem variants).spell :=
  wellSpelled_enum
    (forall_mem_snoc (wellSpelled_docs [_, _, _] (by decide))
      (wellSpelled_derive (isSourceName_of_all (by decide))))
    (isSourceName_of_isLatinName (by decide)) (wellSpelled_lifetimeGenerics (by decide)) .nil
    (forall_mem_snoc h
      (wellSpelled_nodeVariant (isSourceName_of_isLatinName (by decide)) wellSpelled_anyTy))

theorem wellSpelled_stringLiteral (text : String) :
    WellSpelled (Expr.literal (Text.stringLiteral text)).spell := by
  refine wellSpelled_literal (readsAsLiteral_stringLiteral text) (Or.inl ?_)
  unfold Text.stringLiteral
  rw [String.toList_ofList]
  rfl

theorem isSourceName_node (hn : isSourceName variant.toList = true) :
    ∀ n ∈ ["Node", variant], isSourceName n.toList = true :=
  forall_mem_pair (isSourceName_of_isLatinName (by decide)) hn

theorem wellSpelled_labelArm (hn : isSourceName variant.toList = true) :
    WellSpelledArm (labelArm variant label) :=
  .plain (wellSpelled_wrap (isSourceName_node hn) wellSpelled_wild) (wellSpelled_stringLiteral label)

theorem wellSpelled_staticStr : WellSpelled staticStr.spell := by
  refine wellSpelled_reference false (fun l hl => ?_) (wellSpelled_namedWord (by decide))
  cases hl
  exact isIdentifier_of_isLatinName (by decide)

/-- The distinction that tells the name of a node's kind. -/
theorem wellSpelled_labelBody {arms : List Arm} (h : ∀ a ∈ arms, WellSpelledArm a) :
    WellSpelled (spellStmts [Stmt.value (.matchOn (Expr.name "self") []
      (arms ++ [labelArm Naming.otherVariant Naming.otherVariant]))]) :=
  wellSpelled_value (wellSpelled_matchOn (wellSpelled_word (by decide))
    (forall_mem_snoc h (wellSpelled_labelArm (isSourceName_of_isLatinName (by decide)))))

theorem wellSpelled_labelItem {arms : List Arm} (h : ∀ a ∈ arms, WellSpelledArm a) :
    WellSpelled (labelItem arms).spell :=
  wellSpelled_implementation (wellSpelled_lifetimeGenerics (by decide)) .nil (by simp)
    (wellSpelled_nodeTy (by decide)) (List.forall_mem_singleton.2 (wellSpelled_function
      (wellSpelled_docs [_] (by decide)) wellSpelled_pub
      (wellSpelled_signature (isSourceName_of_isLatinName (by decide))
        (List.forall_mem_singleton.2 wellSpelled_selfParam.2.1)
        (forall_mem_some wellSpelled_staticStr))
      (wellSpelled_labelBody h)))

theorem wellSpelled_conversionItem (hn : isSourceName variant.toList = true)
    (ht : WellSpelled t.spell) : WellSpelled (conversionItem variant t).spell := by
  refine wellSpelled_implementation (wellSpelled_lifetimeGenerics (by decide)) .nil
    (forall_mem_some ?_) (wellSpelled_nodeTy (by decide))
    (List.forall_mem_singleton.2 (wellSpelled_function (by simp) wellSpelled_inherited ?_
      (wellSpelled_value ?_)))
  · exact wellSpelled_pathApplied true (isSourceName_of_all (by decide))
      (isSourceName_of_isLatinName (by decide))
      (forall_mem_typeArgument (wellSpelled_nodeRef ht))
  · exact wellSpelled_signature (isSourceName_of_isLatinName (by decide))
      (List.forall_mem_singleton.2 (wellSpelled_param (isSourceName_of_isLatinName (by decide))
        (wellSpelled_nodeRef ht)))
      (forall_mem_some (wellSpelled_namedWord (by decide)))
  · exact wellSpelled_call (wellSpelled_names false (isSourceName_node hn))
      (List.forall_mem_singleton.2 (wellSpelled_word (by decide)))

/-! ## The handler traits -/

/-- The parameters of a method that is given a node. -/
theorem wellSpelled_nodeParams {receiver : FnParam} (hr : WellSpelled receiver.spell)
    (ht : WellSpelled t.spell) : ∀ p ∈ [receiver, FnParam.named "node" t], WellSpelled p.spell :=
  forall_mem_pair hr (wellSpelled_param (isSourceName_of_isLatinName (by decide)) ht)

theorem wellSpelled_handlerSignature (hm : isSourceName method.toList = true)
    (ht : WellSpelled t.spell) : WellSpelled (handlerSignature method t).spell :=
  wellSpelled_signature hm (wellSpelled_nodeParams wellSpelled_selfParam.2.2 ht)
    (forall_mem_some (wellSpelled_namedWord (by decide)))

/-- The condition on the closures that implement a trait. -/
theorem wellSpelled_closureCondition (ht : WellSpelled t.spell) :
    WellSpelled (Generics.mk [.ofType "F" []]
      [.type none (Ty.named "F") [Bound.predicate "FnMut" t]]).spellWhere := by
  have hbound : WellSpelled (Bound.predicate "FnMut" t).spell :=
    .word (by decide) ((WellSpelled.grouped .paren ht).append
      ((WellSpelled.operator (by decide)).append (.word_only (by decide))))
  exact (WellSpelled.word (by decide) ((WellSpelled.nil.append (.word_only (by decide))).append
    (.mark (by decide) hbound))).append (.mark (by decide) .nil)

theorem wellSpelled_contractItems {doc : Attribute} (hd : WellSpelled doc.spell)
    (hn : isSourceName traitName.toList = true) (hm : isSourceName method.toList = true)
    (ht : WellSpelled t.spell) :
    ∀ i ∈ contractItems doc traitName method t, WellSpelled i.spell := by
  refine forall_mem_pair ?_ ?_
  · exact wellSpelled_trait (List.forall_mem_singleton.2 hd) hn
      (List.forall_mem_singleton.2 (wellSpelled_fnHead (wellSpelled_docs [_] (by decide))
        (wellSpelled_handlerSignature hm ht)))
  · exact wellSpelled_implementation
      (wellSpelled_generics (wellSpelled_typeParam (isSourceName_of_isLatinName (by decide))
        (by simp)) _)
      (wellSpelled_closureCondition ht) (forall_mem_some (wellSpelled_single hn))
      (wellSpelled_namedWord (by decide))
      (List.forall_mem_singleton.2 (wellSpelled_function (by simp) wellSpelled_inherited
        (wellSpelled_handlerSignature hm ht)
        (wellSpelled_value (wellSpelled_call (wellSpelled_word (by decide))
          (List.forall_mem_singleton.2 (wellSpelled_word (by decide)))))))

theorem wellSpelled_defaultContract : ∀ i ∈ defaultContract, WellSpelled i.spell :=
  wellSpelled_contractItems (wellSpelled_doc (by decide))
    (isSourceName_of_isLatinName (by decide)) (isSourceName_of_isLatinName (by decide))
    (wellSpelled_nodeTy (by decide))

theorem wellSpelled_allowUnused : WellSpelled allowUnused.spell :=
  .mark (by decide) (.mark (by decide) (.grouped .bracket
    (.word (by decide) (.grouped .paren (.word_only (by decide))))))

/-! ## The visitor -/

theorem wellSpelled_answerExpr (hv : isLatinName variant = true) :
    WellSpelled (answerExpr variant).spell :=
  wellSpelled_names false (forall_mem_pair (isSourceName_of_isLatinName (by decide))
    (isSourceName_of_isLatinName hv))

theorem wellSpelled_continuationItems : ∀ i ∈ continuationItems, WellSpelled i.spell := by
  have hvariant : ∀ {text name}, isRawText text = true →
      isLatinName name = true → WellSpelled (spellVariants [.mk [Attribute.doc text] name .unit none]) :=
    fun ht hn => wellSpelled_variant (List.forall_mem_singleton.2 (wellSpelled_doc ht))
      (isSourceName_of_isLatinName hn) .nil
  refine List.forall_mem_cons.2 ⟨?_, forall_mem_pair ?_ ?_⟩
  · exact wellSpelled_enum
      (forall_mem_pair (wellSpelled_doc (by decide))
        (wellSpelled_derive (isSourceName_of_all (by decide))))
      (isSourceName_of_isLatinName (by decide)) wellSpelled_noGenerics .nil
      (forall_mem_pair (hvariant (by decide) (by decide)) (hvariant (by decide) (by decide)))
  · refine wellSpelled_implementation wellSpelled_noGenerics .nil (by simp) (wellSpelled_namedWord (by decide))
      (List.forall_mem_singleton.2 (wellSpelled_function (by simp) wellSpelled_pub
        (wellSpelled_signature (isSourceName_of_isLatinName (by decide))
          (List.forall_mem_singleton.2 wellSpelled_selfParam.1)
          (forall_mem_some (wellSpelled_namedWord (by decide)))) (wellSpelled_value ?_)))
    -- The test is a macro call, whose tokens are spelled as they stand.
    exact .word (n := "matches") (by decide) (.mark (by decide) (.grouped .paren
      (.word (by decide) (.mark (by decide) (wellSpelled_answerExpr (by decide))))))
  · exact wellSpelled_implementation wellSpelled_noGenerics .nil
      (forall_mem_some (wellSpelled_pathApplied true (isSourceName_of_all (by decide))
        (isSourceName_of_isLatinName (by decide))
        (forall_mem_typeArgument (wellSpelled_namedWord (by decide)))))
      (wellSpelled_namedWord (by decide))
      (List.forall_mem_singleton.2 (wellSpelled_function (by simp) wellSpelled_inherited
        (wellSpelled_signature (isSourceName_of_isLatinName (by decide))
          (List.forall_mem_singleton.2 (wellSpelled_param (isSourceName_of_isLatinName (by decide))
            (wellSpelled_namedWord (by decide))))
          (forall_mem_some (wellSpelled_namedWord (by decide))))
        (wellSpelled_value (wellSpelled_ifElse (wellSpelled_word (by decide))
          (wellSpelled_braces (wellSpelled_value (wellSpelled_answerExpr (by decide))))
          (wellSpelled_value (wellSpelled_answerExpr (by decide)))))))

theorem wellSpelled_applied (hn : isLatinName name = true) {args : List GenericArg}
    (ha : ∀ a ∈ args, WellSpelled a.spell) : WellSpelled (Ty.applied name args).spell :=
  wellSpelled_pathApplied false (by simp) (isSourceName_of_isLatinName hn) ha

theorem wellSpelled_sharedTy : WellSpelled sharedTy.spell :=
  wellSpelled_applied (by decide) (forall_mem_typeArgument (wellSpelled_namedWord (by decide)))

theorem wellSpelled_cellPath (hn : isLatinName name = true) {args : List GenericArg}
    (ha : ∀ a ∈ args, WellSpelled a.spell) : WellSpelled (cellPath name args).spell :=
  wellSpelled_pathApplied true (isSourceName_of_all (by decide)) (isSourceName_of_isLatinName hn) ha

theorem wellSpelled_sharedInside : WellSpelled sharedInside.spell :=
  wellSpelled_firstField (wellSpelled_word (by decide))

theorem wellSpelled_typeGenerics {bounds : List Bound} (h : ∀ b ∈ bounds, WellSpelled b.spell) :
    WellSpelled (Generics.ofParams [.ofType "T" bounds]).spellParams :=
  wellSpelled_generics (wellSpelled_typeParam (isSourceName_of_isLatinName (by decide)) h) []

theorem wellSpelled_borrowFn {guardName : String} (hn : isLatinName name = true)
    (hg : isLatinName guardName = true) : WellSpelled (borrowFn name guardName).spell := by
  refine wellSpelled_function (by simp) wellSpelled_pub
    (wellSpelled_signature (isSourceName_of_isLatinName hn)
      (List.forall_mem_singleton.2 wellSpelled_selfParam.2.1)
      (forall_mem_some (wellSpelled_cellPath hg (forall_mem_pair ?_ ?_))))
    (wellSpelled_value (wellSpelled_invoke wellSpelled_sharedInside
      (isSourceName_of_isLatinName hn) (by simp)))
  · exact WellSpelled.lifetime (isIdentifier_of_isLatinName (by decide))
  · exact wellSpelled_namedWord (by decide)

theorem wellSpelled_sharedItems : ∀ i ∈ sharedItems, WellSpelled i.spell := by
  refine List.forall_mem_cons.2 ⟨?_, forall_mem_pair ?_ ?_⟩
  · exact wellSpelled_tupleStruct (wellSpelled_docs [_, _, _, _] (by decide))
      (isSourceName_of_isLatinName (by decide)) (wellSpelled_typeGenerics (by simp)) .nil
      (wellSpelled_pathApplied true (isSourceName_of_all (by decide))
        (isSourceName_of_isLatinName (by decide)) (forall_mem_typeArgument
          (wellSpelled_cellPath (by decide)
            (forall_mem_typeArgument (wellSpelled_namedWord (by decide))))))
  · refine wellSpelled_implementation (wellSpelled_typeGenerics (by simp)) .nil (by simp)
      wellSpelled_sharedTy (List.forall_mem_cons.2 ⟨?_, forall_mem_pair
        (wellSpelled_borrowFn (by decide) (by decide))
        (wellSpelled_borrowFn (by decide) (by decide))⟩)
    exact wellSpelled_function (by simp) wellSpelled_pub
      (wellSpelled_signature (isSourceName_of_isLatinName (by decide))
        (List.forall_mem_singleton.2 (wellSpelled_param (isSourceName_of_isLatinName (by decide))
          (wellSpelled_namedWord (by decide))))
        (forall_mem_some (wellSpelled_namedWord (by decide))))
      (wellSpelled_value (wellSpelled_call (wellSpelled_word (by decide))
        (List.forall_mem_singleton.2
          (wellSpelled_call (wellSpelled_names true (isSourceName_of_all (by decide)))
            (List.forall_mem_singleton.2
              (wellSpelled_call (wellSpelled_names true (isSourceName_of_all (by decide)))
                (List.forall_mem_singleton.2 (wellSpelled_word (by decide)))))))))
  · exact wellSpelled_implementation (wellSpelled_typeGenerics (by simp)) .nil
      (forall_mem_some (wellSpelled_pathOfNames true (isSourceName_of_all (by decide))))
      wellSpelled_sharedTy
      (List.forall_mem_singleton.2 (wellSpelled_function (by simp) wellSpelled_inherited
        (wellSpelled_signature (isSourceName_of_isLatinName (by decide))
          (List.forall_mem_singleton.2 wellSpelled_selfParam.2.1)
          (forall_mem_some (wellSpelled_namedWord (by decide))))
        (wellSpelled_value (wellSpelled_call (wellSpelled_word (by decide))
          (List.forall_mem_singleton.2
            (wellSpelled_call (wellSpelled_names true (isSourceName_of_all (by decide)))
              (List.forall_mem_singleton.2 (.mark (by decide) wellSpelled_sharedInside))))))))

theorem wellSpelled_ofName (hn : isSourceName traitName.toList = true) :
    WellSpelled (Bound.ofName traitName).spell :=
  wellSpelled_traitBound (wellSpelled_single hn)

/-- A method named through the trait that it belongs to. -/
theorem wellSpelled_qualifiedMethod (hn : isSourceName traitName.toList = true)
    (hm : isSourceName method.toList = true) :
    WellSpelled (Expr.path
      (.qualified (Ty.named "T") (some (Path.single traitName)) [.name method])).spell :=
  ((wellSpelled_angled ((wellSpelled_namedWord (by decide)).append
    (.word (by decide) (wellSpelled_single hn)))).append wellSpelled_colons).append (.ident_only hm)

theorem wellSpelled_sharedImpl (hn : isSourceName traitName.toList = true)
    (hm : isSourceName method.toList = true) (ht : WellSpelled t.spell) :
    WellSpelled (sharedImpl traitName method t).spell := by
  refine wellSpelled_implementation
    (wellSpelled_typeGenerics (List.forall_mem_singleton.2 (wellSpelled_ofName hn))) .nil
    (forall_mem_some (wellSpelled_single hn)) wellSpelled_sharedTy
    (List.forall_mem_singleton.2 (wellSpelled_function (by simp) wellSpelled_inherited
      (wellSpelled_handlerSignature hm ht)
      (wellSpelled_value (wellSpelled_call (wellSpelled_qualifiedMethod hn hm)
        (forall_mem_pair ?_ (wellSpelled_word (by decide)))))))
  have hinner : WellSpelled (sharedInside.invoke "borrow_mut" []).spell :=
    wellSpelled_invoke wellSpelled_sharedInside (isSourceName_of_isLatinName (by decide)) (by simp)
  exact (WellSpelled.mark (by decide) (.word_only (by decide))).append (.mark (by decide) hinner)

/-- The bounds of a handler that is kept. -/
theorem wellSpelled_handlerBounds (hn : isSourceName traitName.toList = true) :
    ∀ b ∈ [Bound.ofName traitName, .lifetime handlerLifetime], WellSpelled b.spell :=
  forall_mem_pair (wellSpelled_ofName hn)
    (WellSpelled.lifetime (isIdentifier_of_isLatinName (by decide)))

theorem wellSpelled_slotField (hs : isSourceName slot.toList = true)
    (hn : isSourceName traitName.toList = true) :
    WellSpelled (slotField slot traitName).spell :=
  wellSpelled_namedField hs (wellSpelled_applied (by decide) (forall_mem_typeArgument
    (wellSpelled_applied (by decide) (forall_mem_typeArgument
      (wellSpelled_object (wellSpelled_handlerBounds hn))))))

theorem wellSpelled_visitorItem {slots : List Field} (h : ∀ f ∈ slots, WellSpelled f.spell) :
    WellSpelled (visitorItem slots).spell :=
  wellSpelled_struct
    (forall_mem_snoc (wellSpelled_docs [_, _, _, _] (by decide))
      (wellSpelled_derive (isSourceName_of_all (by decide))))
    (isSourceName_of_isLatinName (by decide)) (wellSpelled_lifetimeGenerics (by decide)) .nil
    (forall_mem_snoc h (wellSpelled_slotField (isSourceName_of_isLatinName (by decide))
      (isSourceName_of_isLatinName (by decide))))

theorem wellSpelled_selfField (hs : isSourceName slot.toList = true) :
    WellSpelled (Expr.selfField slot).spell :=
  wellSpelled_field (wellSpelled_word (by decide)) hs

/-- A method of what a slot holds. -/
theorem wellSpelled_slotMethod (hs : isSourceName slot.toList = true)
    (hn : isLatinName name = true) :
    WellSpelled ((Expr.selfField slot).invoke name []).spell :=
  wellSpelled_invoke (wellSpelled_selfField hs) (isSourceName_of_isLatinName hn) (by simp)

/-- The parameters of a registration method. -/
theorem wellSpelled_registerParams (hn : isSourceName traitName.toList = true) :
    ∀ p ∈ [FnParam.selfMut,
      FnParam.named "handler" (.impl [Bound.ofName traitName, .lifetime handlerLifetime])],
      WellSpelled p.spell :=
  forall_mem_pair wellSpelled_selfParam.2.2
    (wellSpelled_param (isSourceName_of_isLatinName (by decide))
      (wellSpelled_impl (wellSpelled_handlerBounds hn)))

/-- A field is filled, and the visitor is the answer. -/
theorem wellSpelled_registerBody (hs : isSourceName slot.toList = true) :
    WellSpelled (spellStmts [Stmt.effect (.assign (Expr.selfField slot)
      (.call (Expr.name "Some") [.call (Expr.names false ["Box", "new"]) [Expr.name "handler"]])),
      Stmt.value (Expr.name "self")]) :=
  wellSpelled_effect
    (wellSpelled_assign (wellSpelled_selfField hs) (wellSpelled_call (wellSpelled_word (by decide))
      (List.forall_mem_singleton.2
        (wellSpelled_call (wellSpelled_names false (isSourceName_of_all (by decide)))
          (List.forall_mem_singleton.2 (wellSpelled_word (by decide)))))))
    (wellSpelled_value (wellSpelled_word (by decide)))

theorem wellSpelled_registerFn {doc : Attribute} (hd : WellSpelled doc.spell)
    (hr : isSourceName name.toList = true) (hs : isSourceName slot.toList = true)
    (hn : isSourceName traitName.toList = true) :
    WellSpelled (registerFn doc name slot traitName).spell :=
  wellSpelled_function (List.forall_mem_singleton.2 hd) wellSpelled_pub
    (wellSpelled_signature hr (wellSpelled_registerParams hn)
      (forall_mem_some (wellSpelled_reference true (by simp) (wellSpelled_namedWord (by decide)))))
    (wellSpelled_registerBody hs)

theorem wellSpelled_presenceArm (hv : isSourceName variant.toList = true)
    (hs : isSourceName slot.toList = true) : WellSpelledArm (presenceArm variant slot) :=
  .plain (wellSpelled_wrap (isSourceName_node hv) wellSpelled_wild)
    (wellSpelled_slotMethod hs (by decide))

/-- The answer of a handler, turned into the answer of the visit. -/
theorem wellSpelled_handled {argument : String} (hm : isSourceName method.toList = true)
    (ha : isLatinName argument = true) :
    WellSpelled (Expr.call (Expr.names false ["Continuation", "from"])
      [(Expr.name "h").invoke method [Expr.name argument]]).spell :=
  wellSpelled_call (wellSpelled_names false (isSourceName_of_all (by decide)))
    (List.forall_mem_singleton.2 (wellSpelled_invoke (wellSpelled_word (by decide)) hm
      (List.forall_mem_singleton.2 (wellSpelled_word ha))))

/-- The pattern of something that is there. -/
theorem wellSpelled_some : WellSpelled (Pat.wrap ["Some"] (Pat.name "h")).spell :=
  wellSpelled_wrap (isSourceName_of_all (by decide))
    (wellSpelled_patName (isSourceName_of_isLatinName (by decide)))

theorem wellSpelled_dispatchArm (hv : isSourceName variant.toList = true)
    (hs : isSourceName slot.toList = true) (hm : isSourceName method.toList = true) :
    WellSpelledArm (dispatchArm variant slot method) :=
  .plain
    (wellSpelled_wrap (isSourceName_node hv)
      (wellSpelled_patName (isSourceName_of_isLatinName (by decide))))
    (wellSpelled_braces (wellSpelled_value (wellSpelled_ifLet wellSpelled_some
      (wellSpelled_slotMethod hs (by decide))
      (wellSpelled_effect (wellSpelled_return (wellSpelled_handled hm (by decide))) .nil))))

/-- The arm of all other nodes. -/
theorem wellSpelledArm_other {e : Expr} (he : WellSpelled e.spell) :
    WellSpelledArm (Arm.plain (Pat.wrap ["Node", Naming.otherVariant] .wild) e) :=
  .plain (wellSpelled_wrap (isSourceName_of_all (by decide)) wellSpelled_wild) he

/-- The head of a method that is given a node. -/
theorem wellSpelled_nodeSignature {receiver : FnParam} (hr : WellSpelled receiver.spell)
    {output : String} (hn : isLatinName name = true) (ho : isLatinName output = true) :
    WellSpelled (Signature.plain name [receiver, FnParam.named "node" anyNodeTy]
      (some (Ty.named output))).spell :=
  wellSpelled_signature (isSourceName_of_isLatinName hn)
    (wellSpelled_nodeParams hr (wellSpelled_nodeTy (by decide)))
    (forall_mem_some (wellSpelled_namedWord ho))

/-- The distinction that tells whether a node has a handler. -/
theorem wellSpelled_hasHandlerBody {arms : List Arm} (h : ∀ a ∈ arms, WellSpelledArm a) :
    WellSpelled (spellStmts [Stmt.bind "specific" (.matchOn (Expr.name "node") []
      (arms ++ [Arm.plain (Pat.wrap ["Node", Naming.otherVariant] .wild) (Expr.name "false")])),
      Stmt.value (.binary "||" (Expr.name "specific")
        ((Expr.selfField Naming.defaultSlot).invoke "is_some" []))]) := by
  have hslot : WellSpelled ((Expr.selfField Naming.defaultSlot).invoke "is_some" []).spell :=
    wellSpelled_slotMethod (isSourceName_of_isLatinName (by decide)) (by decide)
  refine wellSpelled_bind (isSourceName_of_isLatinName (by decide)) ?_ (wellSpelled_value ?_)
  · exact wellSpelled_matchOn (wellSpelled_word (by decide))
      (forall_mem_snoc h (wellSpelledArm_other (wellSpelled_word (by decide))))
  · exact ((wellSpelled_word (by decide)).append (.operator (by decide))).append hslot

theorem wellSpelled_hasHandlerFn {arms : List Arm} (h : ∀ a ∈ arms, WellSpelledArm a) :
    WellSpelled (hasHandlerFn arms).spell :=
  wellSpelled_function (wellSpelled_docs [_] (by decide)) wellSpelled_pub
    (wellSpelled_nodeSignature wellSpelled_selfParam.2.1 (by decide) (by decide))
    (wellSpelled_hasHandlerBody h)

/-- The visit of a node: its own handler, or else the catch-all. -/
theorem wellSpelled_visitBody {arms : List Arm} (h : ∀ a ∈ arms, WellSpelledArm a) :
    WellSpelled (spellStmts [Stmt.value (.matchOn (Expr.name "node") []
      (arms ++ [Arm.plain (Pat.wrap ["Node", Naming.otherVariant] .wild) (Expr.braces [])])),
      Stmt.value (.matchOn ((Expr.selfField Naming.defaultSlot).invoke "as_deref_mut" []) []
        [Arm.plain (Pat.wrap ["Some"] (Pat.name "h"))
          (.call (Expr.names false ["Continuation", "from"])
            [(Expr.name "h").invoke Naming.defaultMethod [Expr.name "node"]]),
          Arm.plain (Pat.name "None") (answerExpr "Continue")])]) := by
  have hkinds : WellSpelled (Expr.matchOn (Expr.name "node") [] (arms ++
      [Arm.plain (Pat.wrap ["Node", Naming.otherVariant] .wild) (Expr.braces [])])).spell :=
    wellSpelled_matchOn (wellSpelled_word (by decide))
      (forall_mem_snoc h (wellSpelledArm_other (wellSpelled_braces .nil)))
  refine (hkinds.append .nil).append (wellSpelled_value ?_)
  exact wellSpelled_matchOn
    (wellSpelled_slotMethod (isSourceName_of_isLatinName (by decide)) (by decide))
    (forall_mem_pair
      (.plain wellSpelled_some
        (wellSpelled_handled (isSourceName_of_isLatinName (by decide)) (by decide)))
      (.plain (wellSpelled_patName (isSourceName_of_isLatinName (by decide)))
        (wellSpelled_answerExpr (by decide))))

theorem wellSpelled_visitFn {arms : List Arm} (h : ∀ a ∈ arms, WellSpelledArm a) :
    WellSpelled (visitFn arms).spell :=
  wellSpelled_function (wellSpelled_docs [_] (by decide)) wellSpelled_pub
    (wellSpelled_nodeSignature wellSpelled_selfParam.2.2 (by decide) (by decide))
    (wellSpelled_visitBody h)

theorem wellSpelled_newFn : WellSpelled newFn.spell :=
  wellSpelled_function (by simp) wellSpelled_pub
    (wellSpelled_signature (isSourceName_of_isLatinName (by decide)) (by simp)
      (forall_mem_some (wellSpelled_namedWord (by decide))))
    (wellSpelled_value (wellSpelled_call
      (wellSpelled_names false (isSourceName_of_all (by decide))) (by simp)))

theorem wellSpelled_methodsItem {registrations : List Item} {presence dispatch : List Arm}
    (hr : ∀ i ∈ registrations, WellSpelled i.spell) (hp : ∀ a ∈ presence, WellSpelledArm a)
    (hd : ∀ a ∈ dispatch, WellSpelledArm a) :
    WellSpelled (methodsItem registrations presence dispatch).spell := by
  have hdefault : WellSpelled defaultRegisterFn.spell :=
    wellSpelled_registerFn (wellSpelled_doc (by decide))
      (isSourceName_of_isLatinName (by decide)) (isSourceName_of_isLatinName (by decide))
      (isSourceName_of_isLatinName (by decide))
  have hlifetime : WellSpelled (GenericArg.lifetime handlerLifetime).spell :=
    WellSpelled.lifetime (isIdentifier_of_isLatinName (by decide))
  exact wellSpelled_implementation (wellSpelled_lifetimeGenerics (by decide)) .nil (by simp)
    (wellSpelled_applied (by decide) (List.forall_mem_singleton.2 hlifetime))
    (List.forall_mem_append.2 ⟨List.forall_mem_cons.2 ⟨wellSpelled_newFn, hr⟩,
      List.forall_mem_cons.2 ⟨hdefault,
        forall_mem_pair (wellSpelled_hasHandlerFn hp) (wellSpelled_visitFn hd)⟩⟩)

/-! ## The files -/

/-- All names of a kind are names of source code. -/
structure Spelled (k : KindNames) : Prop where
  name : isSourceName k.name.toList = true
  handlerTrait : isSourceName k.handlerTrait.toList = true
  method : isSourceName k.method.toList = true
  slot : isSourceName k.slot.toList = true
  registerFn : isSourceName k.registerFn.toList = true

theorem spelled_of_validate {k : KindNames} (h : ∀ n ∈ namesOf k, Name.validate n = .ok ()) :
    Spelled k := by
  have hall := fun n hn => isSourceName_of_validate (h n hn)
  exact ⟨hall _ (by simp [namesOf]), hall _ (by simp [namesOf]), hall _ (by simp [namesOf]),
    hall _ (by simp [namesOf]), hall _ (by simp [namesOf])⟩

section Files

variable {ast : PlainPath} {kinds : List KindNames}

/-- The type of a kind's own nodes, behind a path of names. -/
theorem wellSpelled_ownTy (hp : ∀ n ∈ ast.names, isSourceName n.toList = true) {k : KindNames}
    (hn : isSourceName k.name.toList = true) :
    WellSpelled (ownTy (Path.ofNames ast.leading ast.names) k).spell :=
  wellSpelled_pathOfSegments ast.leading
    (forall_mem_snoc (wellSpelled_segmentNames hp) (.ident_only hn))

/-- A reference to a kind's own nodes. -/
theorem wellSpelled_ownRef (hp : ∀ n ∈ ast.names, isSourceName n.toList = true) {k : KindNames}
    (hn : isSourceName k.name.toList = true) :
    WellSpelled (Ty.ref (ownTy (Path.ofNames ast.leading ast.names) k)).spell :=
  wellSpelled_reference false (by simp) (wellSpelled_ownTy hp hn)

/-- **The handlers file is well spelled.** -/
theorem wellSpelled_handlersTree (hp : ∀ n ∈ ast.names, isSourceName n.toList = true)
    (hk : ∀ k ∈ kinds, Spelled k) :
    WellSpelled (handlersTree (Path.ofNames ast.leading ast.names) kinds).spell := by
  refine (wellSpelled_attributes (List.forall_mem_singleton.2 wellSpelled_allowUnused)).append
    (wellSpelled_items (List.forall_mem_append.2 ⟨List.forall_mem_append.2
      ⟨List.forall_mem_cons.2 ⟨?_, List.forall_mem_cons.2 ⟨?_, ?_⟩⟩, ?_⟩,
      wellSpelled_defaultContract⟩))
  · exact wellSpelled_nodeItem (List.forall_mem_map.2 fun k hm =>
      wellSpelled_nodeVariant (hk k hm).name (wellSpelled_ownTy hp (hk k hm).name))
  · exact wellSpelled_labelItem (List.forall_mem_map.2 fun k hm =>
      wellSpelled_labelArm (hk k hm).name)
  · exact List.forall_mem_map.2 fun k hm =>
      wellSpelled_conversionItem (hk k hm).name (wellSpelled_ownTy hp (hk k hm).name)
  · refine List.forall_mem_flatten.2 (List.forall_mem_map.2 fun k hm => ?_)
    exact wellSpelled_contractItems (wellSpelled_docEscaped _) (hk k hm).handlerTrait
      (hk k hm).method (wellSpelled_ownRef hp (hk k hm).name)

theorem wellSpelled_useHandlers :
    WellSpelled (Item.use [] .inherited false
      (.path "super" (.path Naming.handlersModule .glob))).spell :=
  (WellSpelled.word (n := "use") (by decide) ((WellSpelled.word (n := "super") (by decide)
    wellSpelled_colons).append ((WellSpelled.word (by decide) wellSpelled_colons).append
    (.mark (by decide) .nil)))).append (.mark (by decide) .nil)

/-- **The visitor file is well spelled.** -/
theorem wellSpelled_visitorTree (hp : ∀ n ∈ ast.names, isSourceName n.toList = true)
    (hk : ∀ k ∈ kinds, Spelled k) :
    WellSpelled (visitorTree (Path.ofNames ast.leading ast.names) kinds).spell := by
  have hdefault : WellSpelled
      (sharedImpl Naming.defaultTrait Naming.defaultMethod anyNodeTy).spell :=
    wellSpelled_sharedImpl (isSourceName_of_isLatinName (by decide))
      (isSourceName_of_isLatinName (by decide)) (wellSpelled_nodeTy (by decide))
  refine (wellSpelled_attributes (List.forall_mem_singleton.2 wellSpelled_allowUnused)).append
    (wellSpelled_items (List.forall_mem_append.2 ⟨List.forall_mem_append.2
      ⟨List.forall_mem_cons.2 ⟨wellSpelled_useHandlers, wellSpelled_continuationItems⟩,
        forall_mem_snoc (List.forall_mem_append.2 ⟨wellSpelled_sharedItems, ?_⟩) hdefault⟩,
      forall_mem_pair ?_ ?_⟩))
  · exact List.forall_mem_map.2 fun k hm => wellSpelled_sharedImpl (hk k hm).handlerTrait
      (hk k hm).method (wellSpelled_ownRef hp (hk k hm).name)
  · exact wellSpelled_visitorItem (List.forall_mem_map.2 fun k hm =>
      wellSpelled_slotField (hk k hm).slot (hk k hm).handlerTrait)
  · exact wellSpelled_methodsItem
      (List.forall_mem_map.2 fun k hm => wellSpelled_registerFn (wellSpelled_docEscaped _)
        (hk k hm).registerFn (hk k hm).slot (hk k hm).handlerTrait)
      (List.forall_mem_map.2 fun k hm => wellSpelled_presenceArm (hk k hm).name (hk k hm).slot)
      (List.forall_mem_map.2 fun k hm =>
        wellSpelled_dispatchArm (hk k hm).name (hk k hm).slot (hk k hm).method)

end Files

/-! ## Accepted paths -/

/-- An accepted path has names only, and its tokens are those of the text. -/
theorem spelled_of_readAstPath {path : String} {p : Path} (h : readAstPath path = .ok p) :
    ∃ leading names, p = Path.ofNames leading names ∧ names ≠ [] ∧
      Token.ofText? path = some (Path.ofNames leading names).spell ∧
      ∀ n ∈ names, Reader.isSegmentName n = true := by
  unfold readAstPath at h
  cases ht : Path.ofText? path with
  | error e =>
    rw [ht] at h
    cases h
  | ok q =>
    rw [ht] at h
    dsimp only at h
    split at h
    · next hplain =>
      cases h
      obtain ⟨plain, hplain⟩ := Option.isSome_iff_exists.1 hplain
      obtain ⟨leading, names⟩ := plain
      have hq := eq_ofNames_of_asPlain? hplain
      unfold Path.ofText? at ht
      cases hts : Token.ofText? path with
      | none =>
        rw [hts] at ht
        cases ht
      | some ts =>
        rw [hts] at ht
        obtain ⟨rest, hrest, hr⟩ := Reader.of_run ht
        rw [hq] at hr
        obtain ⟨hne, htokens, hnames⟩ := Reader.of_pathWith hr (isChain_apart_of_ofText? hts)
        rw [hrest, List.append_nil] at htokens
        exact ⟨leading, names, hq, hne, congrArg some htokens, hnames⟩
    · cases h

/-- **An accepted path is spelled as it was written.** -/
theorem ofText?_of_readAstPath {path : String} {p : Path} (h : readAstPath path = .ok p) :
    Token.ofText? path = some p.spell := by
  obtain ⟨leading, names, rfl, -, hts, -⟩ := spelled_of_readAstPath h
  exact hts

theorem ident_mem_spell_ofNames {leading : Bool} {names : List String} {n : String}
    (hn : n ∈ names) : Token.ident n ∈ (Path.ofNames leading names).spell := by
  cases names with
  | nil => cases hn
  | cons m names =>
    rw [Reader.spell_ofNames_cons]
    refine List.mem_append_right _ ?_
    rcases List.mem_cons.1 hn with rfl | hn
    · exact List.mem_cons_self
    · exact List.mem_cons_of_mem _ (List.mem_flatMap.2 ⟨n, hn, by simp⟩)

/-- An accepted path is made of names that source has and that segments can be called. -/
theorem of_readAstPath {path : String} {p : Path} (h : readAstPath path = .ok p) :
    ∃ leading names, p = Path.ofNames leading names ∧ names ≠ [] ∧
      ∀ n ∈ names, Scan.isSourceName n.toList = true ∧ Reader.isSegmentName n = true := by
  obtain ⟨leading, names, hp, hne, hts, hnames⟩ := spelled_of_readAstPath h
  refine ⟨leading, names, hp, hne, fun n hn => ⟨?_, hnames n hn⟩⟩
  exact isSourceName_of_ofText? hts (ident_mem_spell_ofNames hn)

end DispatchLayer.Emission
