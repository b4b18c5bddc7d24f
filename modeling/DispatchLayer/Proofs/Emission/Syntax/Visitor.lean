import DispatchLayer.Proofs.Emission.Syntax.Handlers

/-!
# Reading the visitor file

The items of the visitor file are read back one by one. What is the same in every file is read by
running the reader on it. The test for a handler is read back as a tree of its own: its last arm
answers with the name `false`, which is read as a literal.
-/

namespace DispatchLayer.Emission

open Code Code.Reader Token

variable {variant traitName method slot name : String} {t : Ty} {d : Nat} {doc : Attribute}

/-! ## The answer of a visit -/

theorem itemReads_useHandlers : ItemReads Grammar.item 4
    (.use [] .inherited false (.path "super" (.path Naming.handlersModule .glob))) := by
  refine ⟨fun _ => ⟨rfl, rfl⟩, fun g rest hg => ?_⟩
  obtain ⟨g', rfl⟩ := hg.exists_repeat 4 (Nat.le_refl 4)
  exact fun _ => rfl

theorem itemReads_continuationItems : ∀ i ∈ continuationItems, ItemReads Grammar.item 12 i := by
  have hattrs : ∀ a ∈ [Attribute.doc " Whether traversal should descend into a node's children.",
      Attribute.derive ["Debug", "Clone", "Copy", "PartialEq", "Eq"]], AttributeReads 3 a :=
    attributeReads_all (forall_mem_pair (attributeReads_doc _) (attributeReads_derive _))
      (Nat.le_succ 2)
  have hvariants : ∀ v ∈ [Variant.mk [Attribute.doc " Descend into the node's children."] "Continue"
        .unit none, .mk [Attribute.doc " Skip the node's children."] "Stop" .unit none],
      VariantReads 3 v :=
    forall_mem_pair
      (variantReads_unit (attributeReads_one (attributeReads_doc _) (Nat.le_succ 2)) (by simp)
        (by decide))
      (variantReads_unit (attributeReads_one (attributeReads_doc _) (Nat.le_succ 2)) (by simp)
        (by decide))
  have hown : TyReads true 1 (Ty.named "Continuation") := tyReads_named true (by decide)
  have hbool : TyReads true 2 (Ty.named "bool") := (tyReads_named true (by decide)).mono (by decide)
  have hmatches : StmtsRead 4 [Stmt.value (.macroCall ⟨PlainPath.single "matches", .paren,
      .ident "self" :: Token.mark ',' :: (answerExpr "Continue").spell⟩)] :=
    stmtsRead_of_run 4 (fun _ => rfl) fun _ _ _ => rfl
  have hbranches : StmtsRead 8 [Stmt.value (.ifThen (Expr.name "descend")
      [Stmt.value (answerExpr "Continue")] (some (Expr.braces [Stmt.value (answerExpr "Stop")])))] :=
    stmtsRead_of_run 8 (fun _ => rfl) fun _ _ _ => rfl
  have hdescend : SignatureReads 3 (Signature.plain "should_descend" [FnParam.selfValue]
      (some (Ty.named "bool"))) :=
    signatureReads_plain (by decide)
      (List.forall_mem_singleton.2 (paramReads_selfValue.mono (by decide))) (by simp) (by decide)
      hbool
  have hfrom : SignatureReads 4 (Signature.plain "from" [FnParam.named "descend" (Ty.named "bool")]
      (some (Ty.named "Self"))) :=
    signatureReads_plain (by decide)
      (List.forall_mem_singleton.2 (paramReads_named (by decide) hbool)) (by simp) (by decide)
      ((tyReads_self true).mono (by decide))
  have htest : ItemReads implItem 4 (.function [] .pub _ _) :=
    itemReads_function (by simp) (by simp) rfl (hdescend.mono (by decide)) hmatches
  have hconvert : ItemReads implItem 8 (.function [] .inherited _ _) :=
    itemReads_function (by simp) (by simp) rfl (hfrom.mono (by decide)) hbranches
  refine List.forall_mem_cons.2 ⟨?_, forall_mem_pair ?_ ?_⟩
  · exact (itemReads_enum hattrs (by decide) rfl (by decide) (genericsRead_empty.mono (by decide))
      hvariants (by decide)).mono (by decide)
  · exact (itemReads_implementation (genericsRead_empty.mono (by decide))
      ⟨by simp, hown.mono (by decide), fun _ => rfl⟩ (List.forall_mem_singleton.2 htest)
      (by decide)).mono (by decide)
  · exact (itemReads_implementation (genericsRead_empty.mono (by decide))
      ⟨forall_mem_some ((tyReads_from hbool (by decide)).mono (by decide)), hown.mono (by decide),
        fun _ => rfl⟩ (List.forall_mem_singleton.2 hconvert) (by decide)).mono (by decide)

/-! ## Shared handlers -/

theorem genericsRead_type : GenericsRead 4 (Generics.ofParams [.ofType "T" []]) := by
  refine ⟨fun g rest hg _ => ?_, fun _ => Or.inl rfl, fun _ _ _ => takes_whereClause_none rfl,
    fun _ => ⟨rfl, rfl, rfl⟩⟩
  obtain ⟨g', rfl⟩ := hg.exists_repeat 4 (Nat.le_refl 4)
  exact fun _ => rfl

theorem tyReads_shared : TyReads true 2 sharedTy :=
  tyReads_typeApplied true (by decide) (tyReads_named true (by decide)) (by decide)

theorem stmtsRead_borrow : ∀ name ∈ ["borrow", "borrow_mut"],
    StmtsRead 6 [Stmt.value (sharedInside.invoke name [])] :=
  forall_mem_pair (stmtsRead_of_run 6 (fun _ => rfl) fun _ _ _ => rfl)
    (stmtsRead_of_run 6 (fun _ => rfl) fun _ _ _ => rfl)

theorem stmtsRead_new : StmtsRead 10 [Stmt.value (.call (Expr.name "Shared")
    [.call (Expr.names true (["std", "rc"] ++ ["Rc", "new"]))
      [.call (Expr.names true ["std", "cell", "RefCell", "new"]) [Expr.name "handler"]]])] :=
  stmtsRead_of_run 10 (fun _ => rfl) fun _ _ _ => rfl

theorem stmtsRead_clone : StmtsRead 10 [Stmt.value (.call (Expr.name "Shared")
    [.call (Expr.names true (["std", "rc"] ++ ["Rc", "clone"]))
      [.reference false sharedInside]])] :=
  stmtsRead_of_run 10 (fun _ => rfl) fun _ _ _ => rfl

/-- What a method of shared handlers gives: a guard for the value. -/
theorem tyReads_guard (hn : Keyword.isReserved name = false) :
    TyReads true 4 (cellPath name [.lifetime "_", .type (Ty.named "T")]) := by
  have hsegment : SegmentReadsAt 4 (.angle name false [.lifetime "_", .type (Ty.named "T")]) := by
    intro j k hk
    obtain ⟨k, rfl⟩ := Nat.exists_eq_add_of_le' hk
    have hspell : closed j (Segment.angle name false [.lifetime "_", .type (Ty.named "T")]).spell =
        .ident name :: mark '<' :: (Token.lifetime "_" ++ [mark ',', .ident "T",
          .punct '>' (if j then .joint else .alone)]) := by
      cases j with
      | _ => rfl
    rw [hspell]
    refine ⟨⟨name, _, rfl⟩, fun rest _ => takes_segment_plain hn ?_⟩
    rw [if_pos (by rfl)]
    cases j with
    | _ => exact fun _ => rfl
  have hpath : TypePath true ["std", "cell"] name :=
    ⟨forall_mem_snoc (by decide) (isSegmentName_plain hn), nofun⟩
  exact tyReads_path true hpath hsegment ⟨_, rfl⟩ (by decide)

theorem itemReads_borrowFn {guardName : String} (hname : name ∈ ["borrow", "borrow_mut"])
    (hn : Keyword.isReserved name = false) (hg : Keyword.isReserved guardName = false) :
    ItemReads implItem 6 (borrowFn name guardName) := by
  have hsignature : SignatureReads 5 (Signature.plain name [FnParam.selfRef]
      (some (cellPath guardName [.lifetime "_", .type (Ty.named "T")]))) :=
    signatureReads_plain hn (List.forall_mem_singleton.2 (paramReads_selfRef.mono (by decide)))
      (by simp) (by simp) (tyReads_guard hg)
  exact itemReads_function (by simp) (by simp) rfl (hsignature.mono (by decide))
    (stmtsRead_borrow name hname)

/-- The methods of shared handlers. -/
theorem itemReads_sharedMethods : ∀ i ∈ [Item.function [] .pub
      (Signature.plain "new" [FnParam.named "handler" (Ty.named "T")] (some (Ty.named "Self")))
      [Stmt.value (.call (Expr.name "Shared")
        [.call (Expr.names true (["std", "rc"] ++ ["Rc", "new"]))
          [.call (Expr.names true ["std", "cell", "RefCell", "new"]) [Expr.name "handler"]]])],
      borrowFn "borrow" "Ref", borrowFn "borrow_mut" "RefMut"], ItemReads implItem 10 i := by
  have hsignature : SignatureReads 3 (Signature.plain "new"
      [FnParam.named "handler" (Ty.named "T")] (some (Ty.named "Self"))) :=
    signatureReads_plain (by decide)
      (List.forall_mem_singleton.2 (paramReads_named (by decide) (tyReads_named true (by decide))))
      (by simp) (by decide) ((tyReads_self true).mono (by decide))
  have hnew : ItemReads implItem 10 (.function [] .pub _ _) :=
    itemReads_function (by simp) (by simp) rfl (hsignature.mono (by decide))
      stmtsRead_new
  exact List.forall_mem_cons.2 ⟨hnew, forall_mem_pair
    ((itemReads_borrowFn (by simp) (by decide) (by decide)).mono (by decide))
    ((itemReads_borrowFn (by simp) (by decide) (by decide)).mono (by decide))⟩

/-- A value behind a counted reference, in a cell. -/
theorem tyReads_cell : TyReads true 5 (Ty.ofPath (Path.applied true ["std", "rc"] "Rc"
    [.type (cellPath "RefCell" [.type (Ty.named "T")])])) := by
  have hvalue : TyReads true 2 (Ty.named "T") := (tyReads_named true (by decide)).mono (by decide)
  have hcell : TyReads true 3 (cellPath "RefCell" [.type (Ty.named "T")]) :=
    tyReads_applied true ⟨by decide, nofun⟩ (by decide) hvalue.arg (by decide) (by decide)
  have hpath : TypePath true ["std", "rc"] "Rc" := ⟨by decide, nofun⟩
  exact (tyReads_applied true hpath (by decide) hcell.arg (by decide) (by decide)).mono (by decide)

theorem itemReads_sharedItems : ∀ i ∈ sharedItems, ItemReads Grammar.item 12 i := by
  have hattrs : ∀ a ∈ [Attribute.doc " A handler shared between several `Visitor` slots.",
      Attribute.doc "",
      Attribute.doc (" Clones point at the same handler, so a value implementing several " ++
        "handler traits can be registered"),
      Attribute.doc " once per trait and inspected after the walk."], AttributeReads 11 a :=
    attributeReads_all (List.forall_mem_cons.2 ⟨attributeReads_doc _, List.forall_mem_cons.2
      ⟨attributeReads_doc _, forall_mem_pair (attributeReads_doc _) (attributeReads_doc _)⟩⟩)
      (by decide)
  have hclone : SignatureReads 3 (Signature.plain "clone" [FnParam.selfRef]
      (some (Ty.named "Self"))) :=
    signatureReads_plain (by decide)
      (List.forall_mem_singleton.2 (paramReads_selfRef.mono (by decide))) (by simp) (by decide)
      ((tyReads_self true).mono (by decide))
  have hmethod : ItemReads implItem 10 (.function [] .inherited _ _) :=
    itemReads_function (by simp) (by simp) rfl (hclone.mono (by decide))
      stmtsRead_clone
  have hpath : TypePath true ["core", "clone"] "Clone" := ⟨by decide, nofun⟩
  have htrait : TyReads true 4 (Ty.ofPath (Path.ofNames true ["core", "clone", "Clone"])) :=
    tyReads_path true hpath (segmentReadsAt_name 4 (by decide)) ⟨_, rfl⟩ (by decide)
  refine List.forall_mem_cons.2 ⟨?_, forall_mem_pair ?_ ?_⟩
  · exact itemReads_newtype hattrs (by decide) rfl (by decide) (genericsRead_type.mono (by decide))
      (tyReads_cell.mono (by decide)) fun _ => rfl
  · exact itemReads_implementation (genericsRead_type.mono (by decide))
      ⟨by simp, tyReads_shared.mono (by decide), fun _ => rfl⟩ itemReads_sharedMethods (by decide)
  · exact itemReads_implementation (genericsRead_type.mono (by decide))
      ⟨forall_mem_some (htrait.mono (by decide)), tyReads_shared.mono (by decide), fun _ => rfl⟩
      (List.forall_mem_singleton.2 hmethod) (by decide)

/-- A handler trait for shared handlers. -/
theorem itemReads_sharedImpl (hx : Keyword.isReserved traitName = false)
    (hm : Keyword.isReserved method = false) (ht : TyReads true d t) (hd : 1 < d) :
    ItemReads Grammar.item (d + 6) (sharedImpl traitName method t) := by
  have hcall : ItemReads implItem (d + 4) (.function [] .inherited _ _) :=
    itemReads_function (by simp) (by simp) rfl ((signatureReads_handler hm ht hd).mono (by omega))
      ((stmtsRead_shared hx hm).mono (by omega))
  refine itemReads_implementation ((genericsRead_bound hx).mono (by omega)) ⟨?_, ?_, ?_⟩
    (List.forall_mem_singleton.2 hcall) (by simp)
  · exact forall_mem_some ((tyReads_named true hx).mono (by omega))
  · exact tyReads_shared.mono (by omega)
  · intro more
    exact startsWord_plain hx (by decide)

/-! ## The visitor -/

theorem fieldReads_slotField (hs : Keyword.isReserved slot = false)
    (hx : Keyword.isReserved traitName = false) : FieldReads 7 (slotField slot traitName) :=
  fieldReads_named hs (tyReads_typeApplied true (by decide)
    (tyReads_typeApplied true (by decide) (tyReads_dyn hx) (by decide)) (by decide))

theorem itemReads_visitorItem {slots : List Field} (h : ∀ f ∈ slots, FieldReads d f)
    (hl : slots.length + 1 < d) (hd : 7 ≤ d) :
    ItemReads Grammar.item (d + 1) (visitorItem slots) := by
  have hattrs : ∀ a ∈ [Attribute.doc " Routes nodes to the registered handlers.",
      Attribute.doc "",
      Attribute.doc (" Holds at most one handler per node kind plus a catch-all. " ++
        "A node without a kind-specific handler goes"),
      Attribute.doc " to the catch-all; with no catch-all either, traversal continues.",
      Attribute.derive ["Default"]], AttributeReads d a := by
    refine attributeReads_all (List.forall_mem_cons.2 ⟨attributeReads_doc _, ?_⟩) (by omega)
    exact List.forall_mem_cons.2 ⟨attributeReads_doc _, List.forall_mem_cons.2
      ⟨attributeReads_doc _, forall_mem_pair (attributeReads_doc _) (attributeReads_derive _)⟩⟩
  have hfallback : FieldReads 7 (slotField Naming.defaultSlot Naming.defaultTrait) :=
    fieldReads_slotField (by decide) (by decide)
  exact itemReads_struct hattrs (by simp; omega) rfl (by decide)
    ((genericsRead_lifetime _).mono (by omega)) (forall_mem_snoc h (hfallback.mono hd))
    (by simpa using hl)

/-! ## Methods of the visitor -/

theorem itemReads_registerFn (hdoc : AttributeReads 2 doc) (hn : Keyword.isReserved name = false)
    (hs : Keyword.isReserved slot = false) (hmember : spellMember slot = .ident slot)
    (hx : Keyword.isReserved traitName = false) :
    ItemReads implItem 6 (registerFn doc name slot traitName) := by
  have hself : TyReads true 2 (.reference none true (Ty.named "Self")) :=
    (tyReads_self false).reference true _ _
  have hsignature : SignatureReads 6 (Signature.plain name
      [FnParam.selfMut,
        FnParam.named "handler" (.impl [Bound.ofName traitName, .lifetime handlerLifetime])]
      (some (.reference none true (Ty.named "Self")))) :=
    signatureReads_plain hn (forall_mem_pair (paramReads_selfMut.mono (by decide))
      (paramReads_named (by decide) (tyReads_impl hx))) (by simp [FnParam.named, isReceiver])
      (by simp) (hself.mono (by decide))
  exact itemReads_function (attributeReads_one hdoc (by decide)) (by simp) rfl hsignature
    (stmtsRead_register hs hmember)

theorem itemReads_newFn : ItemReads implItem 6 newFn := by
  have hsignature : SignatureReads 2 (Signature.plain "new" [] (some (Ty.named "Self"))) :=
    signatureReads_plain (by decide) (by simp) (by simp) (by decide) (tyReads_self true)
  have hbody : StmtsRead 6 [Stmt.value (.call (Expr.names false ["Self", "default"]) [])] :=
    stmtsRead_of_run 6 (fun _ => rfl) fun _ _ _ => rfl
  exact itemReads_function (by simp) (by simp) rfl (hsignature.mono (by decide)) hbody

/-- The head of a method that is given any node. -/
theorem signatureReads_anyNode {receiver : FnParam} {answer : String}
    (hn : Keyword.isReserved name = false) (hr : ParamReads 1 receiver)
    (ha : Keyword.isReserved answer = false) : SignatureReads 4
      (Signature.plain name [receiver, FnParam.named "node" anyNodeTy] (some (Ty.named answer))) :=
  signatureReads_plain hn (forall_mem_pair (hr.mono (by decide))
    (paramReads_named (by decide) (tyReads_nodeTy true "_"))) (by simp [FnParam.named, isReceiver])
    (by simp) ((tyReads_named true ha).mono (by decide))

/-- The test for a handler as it is read back. -/
def readHasHandlerFn (arms : List Arm) : Item :=
  .function [Attribute.doc " Whether `visit` would hand `node` to a handler."] .pub
    (Signature.plain "has_handler_for" [FnParam.selfRef, FnParam.named "node" anyNodeTy]
      (some (Ty.named "bool")))
    [Stmt.bind "specific" (.matchOn (Expr.name "node") []
      (arms ++ [Arm.plain (Pat.wrap ["Node", Naming.otherVariant] .wild) (.literal "false")])),
      Stmt.value (.binary "||" (Expr.name "specific")
        ((Expr.selfField Naming.defaultSlot).invoke "is_some" []))]

theorem itemReads_hasHandlerFn {arms : List Arm} (ha : ∀ a ∈ arms, ArmReads d a)
    (hl : arms.length + 1 < d) (hd : 5 ≤ d) :
    ItemReads implItem (d + 2) (readHasHandlerFn arms) :=
  itemReads_function (attributeReads_one (attributeReads_doc _) (Nat.le_add_left 2 d)) (by simp) rfl
    ((signatureReads_anyNode (by decide) paramReads_selfRef (by decide)).mono (by omega))
    (stmtsRead_hasHandler ha hl hd)

theorem itemReads_visitFn {arms : List Arm} (ha : ∀ a ∈ arms, ArmReads d a)
    (hl : arms.length + 1 < d) (hd : 5 ≤ d) : ItemReads implItem (d + 2) (visitFn arms) :=
  itemReads_function (attributeReads_one (attributeReads_doc _) (Nat.le_add_left 2 d)) (by simp) rfl
    ((signatureReads_anyNode (by decide) paramReads_selfMut (by decide)).mono (by omega))
    (stmtsRead_visit ha hl hd)

/-- The methods of the visitor as they are read back. -/
def readMethodsItem (registrations : List Item) (presence dispatch : List Arm) : Item :=
  .implementation (Generics.ofParams [.ofLifetime handlerLifetime]) none
    (Ty.applied "Visitor" [.lifetime handlerLifetime])
    (newFn :: registrations ++ [defaultRegisterFn, readHasHandlerFn presence, visitFn dispatch])

theorem itemReads_methodsItem {registrations : List Item} {presence dispatch : List Arm}
    (hr : ∀ i ∈ registrations, ItemReads implItem 6 i) (hp : ∀ a ∈ presence, ArmReads d a)
    (hv : ∀ a ∈ dispatch, ArmReads d a) (hlr : registrations.length + 2 < d)
    (hlp : presence.length + 1 < d) (hlv : dispatch.length + 1 < d) (hd : 5 ≤ d) :
    ItemReads Grammar.item (d + 4) (readMethodsItem registrations presence dispatch) := by
  have hdefault : ItemReads implItem 6 defaultRegisterFn :=
    itemReads_registerFn (attributeReads_doc _) (by decide) (by decide) (by decide)
      (by decide)
  have hlow : ∀ i ∈ newFn :: registrations, ItemReads implItem (d + 2) i := fun i hi =>
    (List.forall_mem_cons.2 ⟨itemReads_newFn, hr⟩ i hi).mono (by omega)
  exact itemReads_implementation ((genericsRead_lifetime _).mono (by omega))
    ⟨by simp, (tyReads_lifetimeApplied true (by decide) _).mono (by omega), fun _ => rfl⟩
    (List.forall_mem_append.2 ⟨hlow, List.forall_mem_cons.2 ⟨hdefault.mono (by omega),
      forall_mem_pair (itemReads_hasHandlerFn hp hlp hd) (itemReads_visitFn hv hlv hd)⟩⟩)
    (by simp; omega)

end DispatchLayer.Emission
