import DispatchLayer.Proofs.Code.Settable
import DispatchLayer.Proofs.Emission.Syntax.Files

/-!
# Setting the files on lines

No item of the two files holds loose tokens, so both can be set on lines once they are read. What is
the same in every file is looked through for refusals as it stands.
-/

namespace DispatchLayer.Emission

open Code Code.Printer Pretty

variable {variant traitName method slot name : String} {t : Ty} {doc : Attribute}

/-! ## Parts -/

theorem settable_doc (text : String) : Settable (attributeDoc (Attribute.doc text)) :=
  settable_attributeText _ _

theorem settable_docEscaped (text : String) : Settable (attributeDoc (Attribute.docEscaped text)) :=
  settable_attributeText _ _

/-- The head of a handler's method. -/
theorem settable_handlerSignature (ht : Settable (tyDoc t)) :
    Settable (signatureDoc (handlerSignature method t)) := by
  refine settable_signature (List.forall_mem_cons.2 ⟨settable_selfMut, ?_⟩) settable_tyNamed
  exact List.forall_mem_singleton.2 (settable_namedParam ht)

theorem settable_nodeTy (life : String) : Settable (tyDoc (nodeTy life)) :=
  settable_tyApplied (by simp [genericArgDocs, genericArgDoc])

theorem settable_nodeRef (ht : Settable (tyDoc t)) : Settable (tyDoc (nodeRef t)) :=
  settable_tyReference.2 ht

theorem settableGenerics_lifetime (life : String) :
    SettableGenerics (Generics.ofParams [.ofLifetime life]) where
  params := rfl
  conditions := by simp [Generics.ofParams, conditionDocs, whereDocs]

/-- The expression `self.member`. -/
theorem settableExpr_selfField (member : String) : SettableExpr (Expr.selfField member) :=
  settableExpr_field (settableExpr_names false ["self"])

theorem settableExpr_invokeNone {e : Expr} (he : SettableExpr e) : SettableExpr (e.invoke name []) :=
  settableExpr_invoke he (by simp)

/-- A body that is a single value. -/
theorem settableStmt_value {e : Expr} (he : SettableExpr e) :
    ∀ s ∈ [Stmt.value e], SettableStmt s := List.forall_mem_singleton.2 (settableStmt_expr he)

/-- A call of the handler `h`, answered as a visit answers. -/
theorem settableExpr_answered (method argument : String) :
    SettableExpr (.call (Expr.names false ["Continuation", "from"])
      [(Expr.name "h").invoke method [Expr.name argument]]) :=
  settableExpr_call (settableExpr_names _ _) (List.forall_mem_singleton.2
    (settableExpr_invoke (settableExpr_names _ _)
      (List.forall_mem_singleton.2 (settableExpr_names _ _))))

/-! ## The handlers file -/

/-- Variants that hold a reference each. -/
theorem settable_nodeVariants {variants : List (String × Ty)}
    (h : ∀ v ∈ variants, Settable (tyDoc v.2)) :
    Settable (variantsDoc (variants.map fun v => nodeVariant v.1 v.2)) := by
  induction variants with
  | nil => exact settable_nil
  | cons v variants ih =>
    have hv := settable_nodeRef (h v List.mem_cons_self)
    have hrest := ih fun w hw => h w (List.mem_cons_of_mem v hw)
    have hfield : Settable ([] ++ [] ++ [] ++ tyDoc (nodeRef v.2)) := hv
    have hall : Settable ([] ++ word v.1 ++ consistent indent (word "(" ++ zeroBreak ++
        commaItems [[] ++ [] ++ [] ++ tyDoc (nodeRef v.2)] ++ shift (-indent) ++ word ")") ++ [] ++
        word "," ++ hardBreak ++ variantsDoc (variants.map fun v => nodeVariant v.1 v.2)) := by
      simp [hv, hrest]
    exact hall

theorem settable_anyTy : Settable (tyDoc anyTy) := by decide

/-- The node type with variants for some names and types. -/
theorem settable_nodeItem {variants : List (String × Ty)}
    (h : ∀ v ∈ variants, Settable (tyDoc v.2)) :
    Settable (itemDoc .module (nodeItem (variants.map fun v => nodeVariant v.1 v.2))) := by
  refine settable_enum (by decide +kernel) (settableGenerics_lifetime _) ?_
  have hall : Settable (variantsDoc ((variants ++ [(Naming.otherVariant, anyTy)]).map
      fun v => nodeVariant v.1 v.2)) :=
    settable_nodeVariants (forall_mem_snoc h settable_anyTy)
  rwa [List.map_append] at hall

theorem settableArm_label (variant label : String) : SettableArm (labelArm variant label) :=
  settableArm_plain (settable_patWrap.2 settable_patWild) (settableExpr_literal _)

theorem settable_labelItem {arms : List Arm} (h : ∀ a ∈ arms, SettableArm a) :
    Settable (itemDoc .module (labelItem arms)) := by
  have hmatch : SettableExpr (.matchOn (Expr.name "self") []
      (arms ++ [labelArm Naming.otherVariant Naming.otherVariant])) :=
    settableExpr_match (settableExpr_names _ _)
      (settable_armsDoc (forall_mem_snoc h (settableArm_label _ _)))
  have hkind : Settable (itemDoc .implBody (.function
      [Attribute.doc " Kind name of this node."] .pub
      (Signature.plain "kind" [FnParam.selfRef] (some staticStr)) _)) :=
    settable_function (List.forall_mem_singleton.2 (settable_doc _)) rfl rfl
      (settableStmt_value hmatch)
  exact settable_implementation (settableGenerics_lifetime _) nofun (settable_nodeTy _)
    (List.forall_mem_singleton.2 hkind)

theorem settable_conversionItem (ht : Settable (tyDoc t)) :
    Settable (itemDoc .module (conversionItem variant t)) := by
  have hnode := settable_nodeRef ht
  have hsignature : Settable (signatureDoc (Signature.plain "from"
      [FnParam.named "node" (nodeRef t)] (some (Ty.named "Self")))) :=
    settable_signature (List.forall_mem_singleton.2 (settable_namedParam hnode)) settable_tyNamed
  have hcall : SettableExpr (.call (Expr.names false ["Node", variant]) [Expr.name "node"]) :=
    settableExpr_call (settableExpr_names _ _)
      (List.forall_mem_singleton.2 (settableExpr_names _ _))
  have hfrom : Settable (itemDoc .implBody (.function [] .inherited _ _)) :=
    settable_function nofun hsignature rfl (settableStmt_value hcall)
  refine settable_implementation (settableGenerics_lifetime _) ?_ (settable_nodeTy _)
    (List.forall_mem_singleton.2 hfrom)
  rintro p ⟨⟩
  exact settable_applied (by simpa [genericArgDocs, genericArgDoc] using hnode)

/-- The parameters of the implementation for closures. -/
theorem settableGenerics_predicate (ht : Settable (tyDoc t)) :
    SettableGenerics (.mk [.ofType "F" []] [.type none (Ty.named "F") [Bound.predicate "FnMut" t]])
    where
  params := rfl
  conditions := by
    have hbound : Settable (word "FnMut" ++ consistent indent (word "(" ++ zeroBreak ++
        commaItems [tyDoc t] ++ shift (-indent) ++ word ")" ++
        (word " -> " ++ tyDoc (Ty.named "bool")))) := by
      simp [ht]
    have hall : Settable (conditionDoc (tyDoc (Ty.named "F")) 0 [[] ++ [] ++ [] ++ ([] ++
        (word "FnMut" ++ consistent indent (word "(" ++ zeroBreak ++
        commaItems [tyDoc t] ++ shift (-indent) ++ word ")" ++
        (word " -> " ++ tyDoc (Ty.named "bool"))))) ++ []]) := by
      simpa using hbound
    exact List.forall_mem_singleton.2 hall

theorem settable_contractItems (hdoc : Settable (attributeDoc doc)) (ht : Settable (tyDoc t)) :
    ∀ i ∈ contractItems doc traitName method t, Settable (itemDoc .module i) := by
  have hsignature : Settable (signatureDoc (handlerSignature method t)) :=
    settable_handlerSignature ht
  have hhead : Settable (itemDoc .traitBody (.fnHead
      [Attribute.doc " Return `false` to skip the node's children."] .inherited _)) :=
    settable_fnHead (List.forall_mem_singleton.2 (settable_doc _)) hsignature rfl
  have hcall : SettableExpr (.call (Expr.name "self") [Expr.name "node"]) :=
    settableExpr_call (settableExpr_names _ _)
      (List.forall_mem_singleton.2 (settableExpr_names _ _))
  have hmethod : Settable (itemDoc .implBody (.function [] .inherited _ _)) :=
    settable_function nofun hsignature rfl (settableStmt_value hcall)
  refine List.forall_mem_cons.2 ⟨?_, List.forall_mem_singleton.2 ?_⟩
  · exact settable_trait (List.forall_mem_singleton.2 hdoc)
      ⟨rfl, by simp [Generics.empty, conditionDocs, whereDocs]⟩ (List.forall_mem_singleton.2 hhead)
  · refine settable_implementation (settableGenerics_predicate ht) ?_ settable_tyNamed
      (List.forall_mem_singleton.2 hmethod)
    rintro p ⟨⟩
    exact settable_names

/-! ## The visitor file -/

theorem settable_sharedImpl (ht : Settable (tyDoc t)) :
    Settable (itemDoc .module (sharedImpl traitName method t)) := by
  have hpath : Settable (word "<" ++ tyDoc (Ty.named "T") ++ word " as " ++
      pathDoc .type (Path.single traitName) ++ word ">" ++
      ([word method].flatMap fun d => word "::" ++ d)) := by
    have htrait : Settable (pathDoc .type (Path.single traitName)) := settable_names
    simp [htrait]
  have hcall : SettableExpr (.call
      (.path (.qualified (Ty.named "T") (some (Path.single traitName)) [.name method]))
      [.reference true (.unary '*' (sharedInside.invoke "borrow_mut" [])), Expr.name "node"]) :=
    settableExpr_call (fun _ => settable_framed.2 hpath) (forall_mem_pair
      (settableExpr_reference (settableExpr_unary
        (settableExpr_invokeNone (settableExpr_selfField _))))
      (settableExpr_names _ _))
  have hsignature : Settable (signatureDoc (handlerSignature method t)) :=
    settable_handlerSignature ht
  have hmethod : Settable (itemDoc .implBody (.function [] .inherited _ _)) :=
    settable_function nofun hsignature rfl
      (settableStmt_value hcall)
  have htrait : Settable (boundDoc (Bound.ofName traitName)) := settable_boundOfName
  refine settable_implementation ⟨?_, by simp [Generics.ofParams, conditionDocs, whereDocs]⟩ ?_
    (by decide) (List.forall_mem_singleton.2 hmethod)
  · have hall : Settable (word "<" ++ consistent 0 (zeroBreak ++ commaItems [[] ++ word "T" ++
        inconsistent indent (boundedDoc ": " [boundDoc (Bound.ofName traitName)] ++ [])] ++
        shift (-indent)) ++ word ">") := by
      simp
    exact hall
  · rintro p ⟨⟩
    exact settable_names

theorem settable_slotField : Settable (fieldDoc (slotField slot traitName)) := by
  have hobject : Settable (tyDoc (.object [Bound.ofName traitName, .lifetime handlerLifetime])) :=
    settable_tyObject.2 (by simp [boundDocs])
  have hbox : Settable (tyDoc (Ty.applied "Box"
      [.type (.object [Bound.ofName traitName, .lifetime handlerLifetime])])) :=
    settable_tyApplied (by simpa [genericArgDocs, genericArgDoc] using hobject)
  have hoption : Settable (tyDoc (Ty.applied "Option" [.type (Ty.applied "Box"
      [.type (.object [Bound.ofName traitName, .lifetime handlerLifetime])])])) :=
    settable_tyApplied (by simpa [genericArgDocs, genericArgDoc] using hbox)
  have hall : Settable ([] ++ [] ++ (word slot ++ word ": ") ++ tyDoc (Ty.applied "Option"
      [.type (Ty.applied "Box"
        [.type (.object [Bound.ofName traitName, .lifetime handlerLifetime])])])) := by
    simp [hoption]
  exact hall

theorem settable_visitorItem {slots : List Field} (h : ∀ f ∈ slots, Settable (fieldDoc f)) :
    Settable (itemDoc .module (visitorItem slots)) :=
  settable_struct (by decide +kernel) (settableGenerics_lifetime _)
    (forall_mem_snoc h settable_slotField)

theorem settable_registerFn (hdoc : Settable (attributeDoc doc)) :
    Settable (itemDoc .implBody (registerFn doc name slot traitName)) := by
  have himpl : Settable (tyDoc (.impl [Bound.ofName traitName, .lifetime handlerLifetime])) :=
    settable_tyImpl.2 (by simp [boundDocs])
  have hsignature : Settable (signatureDoc (Signature.plain name
      [FnParam.selfMut,
        FnParam.named "handler" (.impl [Bound.ofName traitName, .lifetime handlerLifetime])]
      (some (.reference none true (Ty.named "Self"))))) :=
    settable_signature (forall_mem_pair settable_selfMut (settable_namedParam himpl))
      (settable_tyReference.2 settable_tyNamed)
  have hboxed : SettableExpr (.call (Expr.names false ["Box", "new"]) [Expr.name "handler"]) :=
    settableExpr_call (settableExpr_names _ _)
      (List.forall_mem_singleton.2 (settableExpr_names _ _))
  have hassign : SettableExpr (.assign (Expr.selfField slot) (.call (Expr.name "Some")
      [.call (Expr.names false ["Box", "new"]) [Expr.name "handler"]])) :=
    settableExpr_assign (settableExpr_selfField slot)
      (settableExpr_call (settableExpr_names _ _) (List.forall_mem_singleton.2 hboxed))
  exact settable_function (List.forall_mem_singleton.2 hdoc) hsignature rfl
    (forall_mem_pair (settableStmt_expr hassign) (settableStmt_expr (settableExpr_names _ _)))

theorem settableArm_presence (variant slot : String) : SettableArm (presenceArm variant slot) :=
  settableArm_plain (settable_patWrap.2 settable_patWild)
    (settableExpr_invokeNone (settableExpr_selfField slot))

theorem settableArm_dispatch (variant slot method : String) :
    SettableArm (dispatchArm variant slot method) := by
  have hcondition : SettableExpr (.letCondition (Pat.wrap ["Some"] (Pat.name "h"))
      ((Expr.selfField slot).invoke "as_deref_mut" [])) :=
    settableExpr_letCondition (settable_patWrap.2 settable_patName)
      (settableExpr_invokeNone (settableExpr_selfField slot))
  have hcall := settableExpr_return (settableExpr_answered method "n")
  exact settableArm_plain (settable_patWrap.2 settable_patName)
    (settableExpr_braces (List.forall_mem_singleton.2 (settableStmt_expr
      (settableExpr_ifThen hcondition (List.forall_mem_singleton.2 (settableStmt_expr hcall))))))

/-- The head of a method that is given any node. -/
theorem settable_anyNodeSignature {receiver : FnParam} {answer : String}
    (h : Settable (fnParamDoc receiver)) : Settable (signatureDoc
      (Signature.plain name [receiver, FnParam.named "node" anyNodeTy] (some (Ty.named answer)))) :=
  settable_signature (forall_mem_pair h (settable_namedParam (settable_nodeTy _))) settable_tyNamed

theorem settable_hasHandlerFn {arms : List Arm} (h : ∀ a ∈ arms, SettableArm a) :
    Settable (itemDoc .implBody (readHasHandlerFn arms)) := by
  have hlast : SettableArm
      (Arm.plain (Pat.wrap ["Node", Naming.otherVariant] .wild) (.literal "false")) :=
    settableArm_plain (settable_patWrap.2 settable_patWild) (settableExpr_literal _)
  have hmatch : SettableExpr (.matchOn (Expr.name "node") []
      (arms ++ [Arm.plain (Pat.wrap ["Node", Naming.otherVariant] .wild) (.literal "false")])) :=
    settableExpr_match (settableExpr_names _ _) (settable_armsDoc (forall_mem_snoc h hlast))
  have hanswer : SettableExpr (.binary "||" (Expr.name "specific")
      ((Expr.selfField Naming.defaultSlot).invoke "is_some" [])) :=
    settableExpr_binary (settableExpr_names _ _)
      (settableExpr_invokeNone (settableExpr_selfField _))
  exact settable_function (List.forall_mem_singleton.2 (settable_doc _))
    (settable_anyNodeSignature settable_selfRef) rfl
    (forall_mem_pair (settableStmt_bind hmatch) (settableStmt_expr hanswer))

theorem settable_visitFn {arms : List Arm} (h : ∀ a ∈ arms, SettableArm a) :
    Settable (itemDoc .implBody (visitFn arms)) := by
  have hlast : SettableArm
      (Arm.plain (Pat.wrap ["Node", Naming.otherVariant] .wild) (Expr.braces [])) :=
    settableArm_plain (settable_patWrap.2 settable_patWild) (settableExpr_braces nofun)
  have hmatch : SettableExpr (.matchOn (Expr.name "node") []
      (arms ++ [Arm.plain (Pat.wrap ["Node", Naming.otherVariant] .wild) (Expr.braces [])])) :=
    settableExpr_match (settableExpr_names _ _) (settable_armsDoc (forall_mem_snoc h hlast))
  have hfallback : SettableExpr (.matchOn
      ((Expr.selfField Naming.defaultSlot).invoke "as_deref_mut" []) []
      [Arm.plain (Pat.wrap ["Some"] (Pat.name "h"))
        (.call (Expr.names false ["Continuation", "from"])
          [(Expr.name "h").invoke Naming.defaultMethod [Expr.name "node"]]),
        Arm.plain (Pat.name "None") (answerExpr "Continue")]) :=
    settableExpr_match (settableExpr_invokeNone (settableExpr_selfField _))
      (settable_armsDoc (forall_mem_pair
        (settableArm_plain (settable_patWrap.2 settable_patName)
          (settableExpr_answered Naming.defaultMethod "node"))
        (settableArm_plain settable_patName (settableExpr_names _ _))))
  exact settable_function (List.forall_mem_singleton.2 (settable_doc _))
    (settable_anyNodeSignature settable_selfMut) rfl
    (forall_mem_pair (settableStmt_expr hmatch) (settableStmt_expr hfallback))

theorem settable_methodsItem {registrations : List Item} {presence dispatch : List Arm}
    (hr : ∀ i ∈ registrations, Settable (itemDoc .implBody i))
    (hp : ∀ a ∈ presence, SettableArm a) (hv : ∀ a ∈ dispatch, SettableArm a) :
    Settable (itemDoc .module (readMethodsItem registrations presence dispatch)) := by
  have hnew : Settable (itemDoc .implBody newFn) := by decide
  refine settable_implementation (settableGenerics_lifetime _) nofun
    (settable_tyApplied (by simp [genericArgDocs, genericArgDoc])) ?_
  exact List.forall_mem_append.2 ⟨List.forall_mem_cons.2 ⟨hnew, hr⟩, List.forall_mem_cons.2
    ⟨settable_registerFn (settable_doc _),
      forall_mem_pair (settable_hasHandlerFn hp) (settable_visitFn hv)⟩⟩

/-! ## Whole files -/

/-- A file can be set if each of its items can. -/
theorem print_eq_ok {items : List Item} (h : ∀ i ∈ items, Settable (itemDoc .module i)) :
    ∃ text, (SourceFile.mk none [allowUnused] items).print = .ok text := by
  have hdoc : Settable (fileDoc ⟨none, [allowUnused], items⟩) := by
    have hattrs : Settable (attributesDoc true [allowUnused]) := by decide
    simp [fileDoc, hattrs, settable_itemsDoc h]
  unfold SourceFile.print
  dsimp only
  rw [show refusal? (fileDoc ⟨none, [allowUnused], items⟩) = none from hdoc]
  exact ⟨_, rfl⟩

section Files

variable (leading : Bool) (names : List String) (kinds : List KindNames)

theorem settable_ownTy (k : KindNames) : Settable (tyDoc (ownTy (Path.ofNames leading names) k)) := by
  have hextend : (Path.ofNames leading names).extend k.name =
      Path.ofNames leading (names ++ [k.name]) := by
    simp [Code.Path.ofNames, Code.Path.extend, Code.Path.leading, Code.Path.segments]
  unfold ownTy
  rw [hextend]
  exact settable_tyNames

/-- The handlers file can be set on lines. -/
theorem print_handlersTree :
    ∃ text, (handlersTree (Path.ofNames leading names) kinds).print = .ok text := by
  have hown := settable_ownTy leading names
  have hvariants : kinds.map (fun k => nodeVariant k.name (ownTy (Path.ofNames leading names) k)) =
      (kinds.map fun k => (k.name, ownTy (Path.ofNames leading names) k)).map
        fun v => nodeVariant v.1 v.2 := by
    rw [List.map_map]
    rfl
  refine print_eq_ok (List.forall_mem_append.2 ⟨List.forall_mem_append.2 ⟨List.forall_mem_cons.2
    ⟨?_, List.forall_mem_cons.2 ⟨?_, List.forall_mem_map.2 fun k _ => ?_⟩⟩, ?_⟩, ?_⟩)
  · rw [hvariants]
    exact settable_nodeItem (List.forall_mem_map.2 fun k _ => hown k)
  · exact settable_labelItem (List.forall_mem_map.2 fun k _ => settableArm_label _ _)
  · exact settable_conversionItem (hown k)
  · exact List.forall_mem_flatten.2 (List.forall_mem_map.2 fun k _ =>
      settable_contractItems (settable_docEscaped _) (settable_tyReference.2 (hown k)))
  · exact settable_contractItems (settable_doc _) (settable_nodeTy _)

/-- The visitor file, as it is read back, can be set on lines. -/
theorem print_readVisitorTree :
    ∃ text, (readVisitorTree (Path.ofNames leading names) kinds).print = .ok text := by
  have huse : Settable (itemDoc .module
      (.use [] .inherited false (.path "super" (.path Naming.handlersModule .glob)))) := by
    decide
  have hcontinuation : ∀ i ∈ continuationItems, Settable (itemDoc .module i) := by decide +kernel
  have hshared : ∀ i ∈ sharedItems, Settable (itemDoc .module i) := by decide +kernel
  have himpls : ∀ i ∈ kinds.map fun k => sharedImpl k.handlerTrait k.method
      (Ty.ref (ownTy (Path.ofNames leading names) k)), Settable (itemDoc .module i) :=
    List.forall_mem_map.2 fun k _ =>
      settable_sharedImpl (settable_tyReference.2 (settable_ownTy leading names k))
  refine print_eq_ok (List.forall_mem_append.2 ⟨List.forall_mem_append.2 ⟨List.forall_mem_cons.2
    ⟨huse, hcontinuation⟩, forall_mem_snoc (List.forall_mem_append.2 ⟨hshared, himpls⟩)
      (settable_sharedImpl (settable_nodeTy _))⟩, forall_mem_pair ?_ ?_⟩)
  · exact settable_visitorItem (List.forall_mem_map.2 fun k _ => settable_slotField)
  · exact settable_methodsItem
      (List.forall_mem_map.2 fun k _ => settable_registerFn (settable_docEscaped _))
      (List.forall_mem_map.2 fun k _ => settableArm_presence _ _)
      (List.forall_mem_map.2 fun k _ => settableArm_dispatch _ _ _)

end Files

end DispatchLayer.Emission
