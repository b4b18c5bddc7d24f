import DispatchLayer.Proofs.Code.Declarations
import DispatchLayer.Proofs.Code.Reader.Type
import DispatchLayer.Proofs.Emission.Spelling

/-!
# What the generated files declare

The declarations of the two files, read off their tokens, are one fixed part for each kind in the
place of each repeated fragment, in the order of the kinds (`handlersOutline`, `visitorOutline`). The
kinds of a plan need not be different, nor need they come from a catalog; it is enough that their
names are names (`artifacts_declare`).
-/

namespace DispatchLayer.Emission

open Code Token Scan

variable {name traitName method slot variant : String} {t : Ty}

/-! ## Outlines -/

/-- A trait with one method, and its implementation for closures. -/
def contractOutline (traitName method : String) : List Declaration :=
  [.trait traitName [method], .implementation ["F"] (some [traitName]) ["F"] [method]]

/-- What the handlers file declares. -/
def handlersOutline (kinds : List KindNames) : List Declaration :=
  .enum "Node" (kinds.map KindNames.name ++ ["Other"]) ::
    .implementation [] none ["Node"] ["kind"] ::
    kinds.map (fun _ => .implementation [] (some ["core", "convert", "From"]) ["Node"] ["from"]) ++
    kinds.flatMap (fun k => contractOutline k.handlerTrait k.method) ++
    contractOutline "DefaultHandler" "handle"

/-- The fields of the visitor with the names of their types. -/
def slotOutline (kinds : List KindNames) : List (String × List String) :=
  kinds.map (fun k => (k.slot, ["Option"])) ++ [("h_default", ["Option"])]

/-- What the visitor file declares: the answer of a visit, the shared handlers, and the visitor. -/
def visitorOutline (kinds : List KindNames) : List Declaration :=
  [.use, .enum "Continuation" ["Continue", "Stop"],
    .implementation [] none ["Continuation"] ["should_descend"],
    .implementation [] (some ["core", "convert", "From"]) ["Continuation"] ["from"]] ++
    ([.tupleStruct "Shared",
      .implementation ["T"] none ["Shared"] ["new", "borrow", "borrow_mut"],
      .implementation ["T"] (some ["core", "clone", "Clone"]) ["Shared"] ["clone"]] ++
      kinds.map (fun k => .implementation ["T"] (some [k.handlerTrait]) ["Shared"] [k.method]) ++
      [.implementation ["T"] (some ["DefaultHandler"]) ["Shared"] ["handle"]]) ++
    [.struct "Visitor" (slotOutline kinds),
      .implementation [] none ["Visitor"]
        ("new" :: kinds.map KindNames.registerFn ++ ["on_default", "has_handler_for", "visit"])]

/-! ## The handlers file -/

theorem balances_docs (texts : List String) :
    ∀ a ∈ texts.map Attribute.doc, Balances a.inside :=
  List.forall_mem_map.2 fun _ _ => balances_docInside _

theorem readsAs_nodeVariant (name : String) (ht : WellSpelled t.spell) :
    ReadsAs isComma readVariant (spellVariants [nodeVariant name t]) name :=
  readsAs_variant (by simp) (.grouped (d := .paren) (fun _ => rfl) (wellSpelled_nodeRef ht).balances)

theorem readsAs_nodeItem {variants : List Variant} {names : List String}
    (h : AllRead isComma readVariant (fun v => spellVariants [v]) variants names) :
    ReadsAs endsItem readItem (nodeItem variants).spell (.enum "Node" (names ++ ["Other"])) := by
  refine readsAs_enum ?_ (.inline rfl) (h.append (.single ?_))
  · exact forall_mem_snoc (balances_docs [_, _, _]) (balances_deriveInside _)
  · exact readsAs_nodeVariant _ wellSpelled_anyTy

theorem readsAs_labelItem {arms : List Arm} (h : ∀ a ∈ arms, WellSpelledArm a) :
    ReadsAs endsItem readItem (labelItem arms).spell
      (.implementation [] none ["Node"] ["kind"]) := by
  refine readsAs_ownImplementation (.inline rfl) rfl rfl (.single ?_)
  exact readsAs_function "kind" (balances_docs [_]) (Or.inl rfl)
    (wellSpelled_params (List.forall_mem_singleton.2 wellSpelled_selfParam.2.1)).balances
    (.inline rfl) (wellSpelled_labelBody h).balances

/-- The type is spelled as a path of names. -/
def IsPathTy (t : Ty) : Prop :=
  ∃ ts n, t.spell = ts ++ [Token.ident n] ∧ ts.all isPathToken = true

theorem isPathTy_ownTy (leading : Bool) (names : List String) (k : KindNames) :
    IsPathTy (ownTy (Path.ofNames leading names) k) := by
  have hspell := Reader.spell_pathEnding leading names (.name k.name)
  refine ⟨Reader.pathUpTo leading names [], k.name, ?_, isPathToken_pathUpTo rfl⟩
  rw [Reader.pathUpTo_append]
  exact hspell

/-- The head of a conversion up to the type it is from. -/
def conversionFront : List Token :=
  [mark '<'] ++ Token.lifetime nodeLifetime ++ [mark '>'] ++ (colons ++ ([.ident "core"] ++ colons ++
    ([.ident "convert"] ++ colons ++ [.ident "From", mark '<', mark '&'] ++
      Token.lifetime nodeLifetime)))

/-- The head of a conversion behind the type it is from. -/
def conversionRest : List Token :=
  [mark '>', .ident "for", .ident "Node", mark '<'] ++ Token.lifetime nodeLifetime ++ [mark '>']

theorem spell_conversionHead (ht : IsPathTy t) :
    (Generics.ofParams [.ofLifetime nodeLifetime]).spellParams ++
      ((Path.applied true ["core", "convert"] "From" [.type (nodeRef t)]).spell ++
        Token.ident "for" :: ((nodeTy nodeLifetime).spell ++ [])) =
      conversionFront ++ (t.spell ++ conversionRest) := by
  obtain ⟨ts, n, hts, -⟩ := ht
  -- The path ends with a name, so no closing bracket in it is joined with the one behind it.
  have hangled : angled (nodeRef t).spell = mark '<' :: ((nodeRef t).spell ++ [mark '>']) := by
    have href : (nodeRef t).spell = mark '&' :: Token.lifetime nodeLifetime ++ t.spell := rfl
    unfold angled
    rw [href, hts, ← List.append_assoc, joinCloser_append (by simp)]
    rfl
  have hhead := congrArg (fun us => [mark '<'] ++ Token.lifetime nodeLifetime ++ [mark '>'] ++
    (colons ++ ([Token.ident "core"] ++ colons ++ ([Token.ident "convert"] ++ colons ++
      Token.ident "From" :: us)) ++ Token.ident "for" :: ((nodeTy nodeLifetime).spell ++ []))) hangled
  exact hhead.trans (congrArg (conversionFront ++ ·) (List.append_assoc t.spell [mark '>'] _))

theorem readsAs_conversionItem (ht : WellSpelled t.spell) (hp : IsPathTy t) :
    ReadsAs endsItem readItem (conversionItem variant t).spell
      (.implementation [] (some ["core", "convert", "From"]) ["Node"] ["from"]) := by
  have hhead := spell_conversionHead hp
  obtain ⟨ts, n, hts, hpath⟩ := hp
  have hall : t.spell.all isPathToken = true := by
    rw [hts, List.all_append, hpath]
    rfl
  have hfront : Front endsItem (conversionFront ++ (t.spell ++ conversionRest))
      (conversionFront.map .leaf ++ (t.spell.map .leaf ++ conversionRest.map .leaf)) :=
    (Front.inline rfl).append ((front_path hall).append (.inline rfl))
  refine readsAs_traitImplementation (hhead ▸ hfront) rfl ?_ (.single ?_)
  · -- The path stands in angle brackets and is passed over.
    have houtside : outsideAngles 0 (conversionFront.map .leaf ++
        (t.spell.map .leaf ++ conversionRest.map .leaf)) =
        (colons ++ ([Token.ident "core"] ++ colons ++ ([Token.ident "convert"] ++ colons ++
          [Token.ident "From"]))).map .leaf ++
          outsideAngles (0 + 1) (t.spell.map .leaf ++ conversionRest.map .leaf) := rfl
    unfold readHead
    rw [houtside, outsideAngles_path hall]
    rfl
  · exact readsAs_function "from" (by simp) (Or.inr rfl) (wellSpelled_params
      (List.forall_mem_singleton.2 (wellSpelled_param (isSourceName_of_isLatinName (by decide))
        (wellSpelled_nodeRef ht)))).balances (.inline rfl) (fun _ _ => rfl)

theorem readsAs_contractItems {doc : Attribute} (hd : Balances doc.inside)
    (ho : doc.isInner = false) (hfor : traitName ≠ "for") (hwhere : traitName ≠ "where")
    (ht : WellSpelled t.spell) :
    AllRead endsItem readItem Item.spell (contractItems doc traitName method t)
      (contractOutline traitName method) := by
  have hparams : Balances (commaSeparated (spellFnParams [FnParam.selfMut, FnParam.named "node" t])) :=
    (wellSpelled_params (wellSpelled_nodeParams wellSpelled_selfParam.2.2 ht)).balances
  refine .cons ?_ (.single ?_)
  · exact readsAs_trait (List.forall_mem_singleton.2 hd) (List.forall_mem_singleton.2 ho)
      (.cons (readsAs_fnHead method (balances_docs [_]) hparams (.inline rfl)) .nil)
  · have hfront : Front endsItem
        ([mark '<', .ident "F", mark '>', .ident traitName, .ident "for", .ident "F", .ident "where",
          .ident "F", mark ':', .ident "FnMut"] ++ (Token.grouped .paren t.spell ++
            (operator ['-', '>'] ++ [.ident "bool"]) ++ [mark ','])) _ :=
      (Front.inline rfl).append (((Front.grouped (d := .paren) (fun _ => rfl) ht.balances).append
        (.inline rfl)).append (.inline rfl))
    refine readsAs_traitImplementation hfront rfl ?_ (.single ?_)
    · unfold readHead
      simp [outsideAngles, mark, operator, wordTree, readPath, pathNames, hfor, hwhere]
    · exact readsAs_function method (by simp) (Or.inr rfl) hparams (.inline rfl) (fun _ _ => rfl)

/-! ## The visitor file -/

theorem readsAs_useHandlers :
    ReadsAs endsItem readItem (Item.use [] .inherited false
      (.path "super" (.path Naming.handlersModule .glob))).spell .use := by
  have hpart : ReadsAs endsItem readItem ([Token.ident "use", .ident "super"] ++ colons ++
      ([.ident Naming.handlersModule] ++ colons ++ [mark '*']) ++ [mark ';']) .use :=
    Front.readsAs_mark (.inline rfl) rfl rfl
  exact hpart

theorem allRead_continuationItems :
    AllRead endsItem readItem Item.spell continuationItems
      [.enum "Continuation" ["Continue", "Stop"],
        .implementation [] none ["Continuation"] ["should_descend"],
        .implementation [] (some ["core", "convert", "From"]) ["Continuation"] ["from"]] := by
  refine .cons ?_ (.cons ?_ (.single ?_))
  · exact readsAs_enum (forall_mem_pair (balances_docInside _) (balances_deriveInside _))
      (.inline rfl)
      (.cons (readsAs_variant (balances_docs [_]) (.inline rfl))
        (.cons (readsAs_variant (balances_docs [_]) (.inline rfl)) .nil))
  · exact readsAs_ownImplementation (.inline rfl) rfl rfl (.cons (readsAs_function _ (by simp)
      (Or.inl rfl) (fun _ _ => rfl) (.inline rfl) (fun _ _ => rfl)) .nil)
  · exact readsAs_traitImplementation (.inline rfl) rfl rfl (.cons (readsAs_function _ (by simp)
      (Or.inr rfl) (fun _ _ => rfl) (.inline rfl) (fun _ _ => rfl)) .nil)

theorem readsAs_borrowFn {guardName : String} :
    ReadsAs endsItem readMethod (borrowFn name guardName).spell name :=
  readsAs_function name (by simp) (Or.inl rfl) (fun _ _ => rfl) (.inline rfl) (fun _ _ => rfl)

theorem allRead_sharedItems :
    AllRead endsItem readItem Item.spell sharedItems
      [.tupleStruct "Shared",
        .implementation ["T"] none ["Shared"] ["new", "borrow", "borrow_mut"],
        .implementation ["T"] (some ["core", "clone", "Clone"]) ["Shared"] ["clone"]] := by
  refine .cons ?_ (.cons ?_ (.single ?_))
  · exact readsAs_tupleStruct (balances_docs [_, _, _, _]) (.inline rfl) rfl
      (fun _ _ => rfl)
  · exact readsAs_ownImplementation (.inline rfl) rfl rfl
      (.cons (readsAs_function _ (by simp) (Or.inl rfl) (fun _ _ => rfl) (.inline rfl)
        (fun _ _ => rfl)) (.cons readsAs_borrowFn (.cons readsAs_borrowFn .nil)))
  · exact readsAs_traitImplementation (.inline rfl) rfl rfl (.cons (readsAs_function _ (by simp)
      (Or.inr rfl) (fun _ _ => rfl) (.inline rfl) (fun _ _ => rfl)) .nil)

theorem readsAs_sharedImpl (hfor : traitName ≠ "for") (hwhere : traitName ≠ "where")
    (ht : WellSpelled t.spell) :
    ReadsAs endsItem readItem (sharedImpl traitName method t).spell
      (.implementation ["T"] (some [traitName]) ["Shared"] [method]) := by
  have hfront : Front endsItem [mark '<', .ident "T", mark ':', .ident traitName, mark '>',
      .ident traitName, .ident "for", .ident "Shared", mark '<', .ident "T", mark '>'] _ :=
    .inline rfl
  refine readsAs_traitImplementation hfront rfl ?_ (.single ?_)
  · unfold readHead
    simp [outsideAngles, mark, wordTree, readPath, pathNames, hfor, hwhere]
  · exact readsAs_function method (by simp) (Or.inr rfl)
      (wellSpelled_params (wellSpelled_nodeParams wellSpelled_selfParam.2.2 ht)).balances
      (.inline rfl) (fun _ _ => rfl)

theorem readsAs_slotField :
    ReadsAs isComma readField ((slotField slot traitName).spell ++ [mark ',']) (slot, ["Option"]) :=
  Front.readsAs_mark (.inline rfl) rfl rfl

theorem readsAs_visitorItem {slots : List Field} {fields : List (String × List String)}
    (h : AllRead isComma readField (fun f => f.spell ++ [mark ',']) slots fields) :
    ReadsAs endsItem readItem (visitorItem slots).spell
      (.struct "Visitor" (fields ++ [("h_default", ["Option"])])) := by
  refine readsAs_struct ?_ (.inline rfl) (h.append (.single readsAs_slotField))
  exact forall_mem_snoc (balances_docs [_, _, _, _]) (balances_deriveInside _)

theorem readsAs_registerFn {doc : Attribute} (hd : Balances doc.inside)
    (hs : isSourceName slot.toList = true) (hn : isSourceName traitName.toList = true) :
    ReadsAs endsItem readMethod (registerFn doc name slot traitName).spell name :=
  readsAs_function name (List.forall_mem_singleton.2 hd) (Or.inl rfl)
    (wellSpelled_params (wellSpelled_registerParams hn)).balances (.inline rfl)
    (wellSpelled_registerBody hs).balances

theorem readsAs_methodsItem {registrations : List Item} {names : List String}
    {presence dispatch : List Arm} (hr : AllRead endsItem readMethod Item.spell registrations names)
    (hp : ∀ a ∈ presence, WellSpelledArm a) (hd : ∀ a ∈ dispatch, WellSpelledArm a) :
    ReadsAs endsItem readItem (methodsItem registrations presence dispatch).spell
      (.implementation [] none ["Visitor"]
        ("new" :: names ++ ["on_default", "has_handler_for", "visit"])) := by
  have hnew : ReadsAs endsItem readMethod newFn.spell "new" :=
    readsAs_function _ (by simp) (Or.inl rfl) (fun _ _ => rfl) (.inline rfl) (fun _ _ => rfl)
  have hdefault : ReadsAs endsItem readMethod defaultRegisterFn.spell "on_default" :=
    readsAs_registerFn (balances_docInside _) (isSourceName_of_isLatinName (by decide))
      (isSourceName_of_isLatinName (by decide))
  have hpresence : ReadsAs endsItem readMethod (hasHandlerFn presence).spell "has_handler_for" :=
    readsAs_function _ (balances_docs [_]) (Or.inl rfl) (fun _ _ => rfl) (.inline rfl)
      (wellSpelled_hasHandlerBody hp).balances
  have hvisit : ReadsAs endsItem readMethod (visitFn dispatch).spell "visit" :=
    readsAs_function _ (balances_docs [_]) (Or.inl rfl) (fun _ _ => rfl) (.inline rfl)
      (wellSpelled_visitBody hd).balances
  have hmembers : AllRead endsItem readMethod Item.spell (newFn :: registrations ++
      [defaultRegisterFn, hasHandlerFn presence, visitFn dispatch])
      ("new" :: names ++ ["on_default", "has_handler_for", "visit"]) :=
    .append (.cons hnew hr) (.cons hdefault (.cons hpresence (.single hvisit)))
  exact readsAs_ownImplementation (.inline rfl) rfl rfl hmembers

/-! ## The files -/

section Files

variable {kinds : List KindNames}

/-- A string that is one name, and no keyword. A raw name is none of the keywords. -/
def IsName (name : String) : Prop :=
  Token.ofText? name = some [.ident name] ∧ Keyword.isReserved name = false

instance (name : String) : Decidable (IsName name) := inferInstanceAs (Decidable (_ ∧ _))

theorem IsName.isSourceName (h : IsName name) : isSourceName name.toList = true :=
  isSourceName_of_ofText? h.1 (List.mem_singleton.2 rfl)

theorem IsName.ne {word : String} (h : IsName name) (hw : Keyword.isReserved word = true) :
    name ≠ word := by
  rintro rfl
  rw [h.2] at hw
  cases hw

/-- What is known of the names of a kind once each of them is a name. -/
theorem spelled_of_isName {k : KindNames} (h : ∀ n ∈ namesOf k, IsName n) :
    Spelled k ∧ k.handlerTrait ≠ "for" ∧ k.handlerTrait ≠ "where" := by
  have htrait : IsName k.handlerTrait := h _ (by simp [namesOf])
  exact ⟨spelled_of_validate fun n hn => validate_of_isSourceName (h n hn).isSourceName,
    htrait.ne (by decide), htrait.ne (by decide)⟩

theorem balances_allowUnused : ∀ a ∈ [allowUnused], Balances a.inside :=
  List.forall_mem_singleton.2 fun _ _ => rfl

theorem declarations_handlersTree (ast : PlainPath)
    (hp : ∀ n ∈ ast.names, isSourceName n.toList = true)
    (hk : ∀ k ∈ kinds, ∀ n ∈ namesOf k, IsName n) :
    declarations (handlersTree (Path.ofNames ast.leading ast.names) kinds).spell =
      some (handlersOutline kinds) := by
  have hs := fun k hm => (spelled_of_isName (hk k hm)).1
  have hown := fun k hm => wellSpelled_ownTy hp (hs k hm).name
  have hnode : ReadsAs endsItem readItem (nodeItem (kinds.map fun k =>
      nodeVariant k.name (ownTy (Path.ofNames ast.leading ast.names) k))).spell
      (.enum "Node" (kinds.map KindNames.name ++ ["Other"])) :=
    readsAs_nodeItem (.of_map fun k hm => readsAs_nodeVariant k.name (hown k hm))
  have hlabel : ReadsAs endsItem readItem (labelItem (kinds.map fun k => labelArm k.name k.name)).spell
      (.implementation [] none ["Node"] ["kind"]) :=
    readsAs_labelItem (List.forall_mem_map.2 fun k hm => wellSpelled_labelArm (hs k hm).name)
  refine declarations_spell ?_ balances_allowUnused
  refine .append (.append (.cons hnode (.cons hlabel ?_)) ?_) ?_
  · exact AllRead.of_map fun k hm => readsAs_conversionItem (hown k hm) (isPathTy_ownTy _ _ k)
  · refine AllRead.of_flatMap fun k hm => ?_
    obtain ⟨-, hfor, hwhere⟩ := spelled_of_isName (hk k hm)
    exact readsAs_contractItems (balances_docInside _) rfl hfor hwhere
      (wellSpelled_ownRef hp (hs k hm).name)
  · exact readsAs_contractItems (balances_docInside _) rfl (by decide) (by decide)
      (wellSpelled_nodeTy (by decide))

theorem declarations_visitorTree (ast : PlainPath)
    (hp : ∀ n ∈ ast.names, isSourceName n.toList = true)
    (hk : ∀ k ∈ kinds, ∀ n ∈ namesOf k, IsName n) :
    declarations (visitorTree (Path.ofNames ast.leading ast.names) kinds).spell =
      some (visitorOutline kinds) := by
  have hs := fun k hm => (spelled_of_isName (hk k hm)).1
  have hshared : AllRead endsItem readItem Item.spell
      (kinds.map fun k => sharedImpl k.handlerTrait k.method
        (Ty.ref (ownTy (Path.ofNames ast.leading ast.names) k)))
      (kinds.map fun k => .implementation ["T"] (some [k.handlerTrait]) ["Shared"] [k.method]) := by
    refine .of_map fun k hm => ?_
    obtain ⟨-, hfor, hwhere⟩ := spelled_of_isName (hk k hm)
    exact readsAs_sharedImpl hfor hwhere (wellSpelled_ownRef hp (hs k hm).name)
  have hdefault : ReadsAs endsItem readItem
      (sharedImpl Naming.defaultTrait Naming.defaultMethod anyNodeTy).spell
      (.implementation ["T"] (some ["DefaultHandler"]) ["Shared"] ["handle"]) :=
    readsAs_sharedImpl (by decide) (by decide) (wellSpelled_nodeTy (by decide))
  have hfields : ReadsAs endsItem readItem
      (visitorItem (kinds.map fun k => slotField k.slot k.handlerTrait)).spell
      (.struct "Visitor" (slotOutline kinds)) :=
    readsAs_visitorItem (.of_map fun k _ => readsAs_slotField)
  have hregistrations : AllRead endsItem readMethod Item.spell
      (kinds.map fun k => registerFn (registerDoc k) k.registerFn k.slot k.handlerTrait)
      (kinds.map KindNames.registerFn) :=
    .of_map fun k hm => readsAs_registerFn (balances_docInside _) (hs k hm).slot
      (hs k hm).handlerTrait
  have hmethods := readsAs_methodsItem hregistrations
    (List.forall_mem_map.2 fun k hm => wellSpelled_presenceArm (hs k hm).name (hs k hm).slot)
    (List.forall_mem_map.2 fun k hm =>
      wellSpelled_dispatchArm (hs k hm).name (hs k hm).slot (hs k hm).method)
  refine declarations_spell ?_ balances_allowUnused
  unfold visitorOutline
  exact .append (.append (.cons readsAs_useHandlers allRead_continuationItems)
    (.append (.append allRead_sharedItems hshared) (.single hdefault)))
    (.cons hfields (.single hmethods))

end Files

/-- The artifacts of a plan, once its path is accepted and all names in it are names of source. -/
theorem emit_eq_ok {plan : DispatchPlan} {ast : Path} (hast : readAstPath plan.astPath = .ok ast)
    (hk : ∀ k ∈ plan.kinds, ∀ n ∈ namesOf k, isSourceName n.toList = true) :
    plan.emit = .ok
      ⟨toArtifact .handlers plan.moduleId (handlersTree ast plan.kinds),
        toArtifact .visitor plan.moduleId (visitorTree ast plan.kinds)⟩ := by
  have hnames : ∀ k ∈ plan.kinds, ∀ n ∈ namesOf k, Name.validate n = .ok () :=
    fun k hm n hn => validate_of_isSourceName (hk k hm n hn)
  have hh : handlers ast plan = .ok (toArtifact .handlers plan.moduleId
      (handlersTree ast plan.kinds)) := by
    refine map_eq_ok_iff.2 ⟨_, (emits_handlersFile ast plan.kinds).eq_ok_iff.2 ⟨fun n hn => ?_, rfl⟩,
      rfl⟩
    obtain ⟨k, hm, hn⟩ := mem_handlersNames.1 hn
    exact hnames k hm n (List.mem_append_left [k.slot, k.registerFn] hn)
  have hv : visitor ast plan = .ok (toArtifact .visitor plan.moduleId
      (visitorTree ast plan.kinds)) := by
    refine map_eq_ok_iff.2 ⟨_, (emits_visitorFile ast plan.kinds).eq_ok_iff.2 ⟨fun n hn => ?_, rfl⟩,
      rfl⟩
    obtain ⟨k, hm, hn⟩ := mem_visitorNames.1 hn
    exact hnames k hm n hn
  simp only [DispatchPlan.emit, hast, hh, hv, bind, Except.bind, Except.mapError]
  rfl

/-- **What the two files declare.** For every plan whose path is accepted and whose names are names,
both files are emitted, and the declarations read off their tokens are those of the outlines: one
for each kind, in order, wherever a part is repeated. The visitor has as many fields as the plan has
slots. -/
theorem artifacts_declare {plan : DispatchPlan} {ast : Path}
    (hast : readAstPath plan.astPath = .ok ast)
    (hk : ∀ k ∈ plan.kinds, ∀ n ∈ namesOf k, IsName n) :
    ∃ artifacts, plan.emit = .ok artifacts ∧
      declarations artifacts.handlers.tokens = some (handlersOutline plan.kinds) ∧
      declarations artifacts.visitor.tokens = some (visitorOutline plan.kinds) ∧
      (slotOutline plan.kinds).length = plan.slotCount ∧
      plan.slotCount = plan.kinds.length + 1 := by
  obtain ⟨leading, names, rfl, -, hnames⟩ := of_readAstPath hast
  have hp : ∀ n ∈ names, isSourceName n.toList = true := fun n hn => (hnames n hn).1
  refine ⟨_, emit_eq_ok hast fun k hm n hn => (hk k hm n hn).isSourceName,
    declarations_handlersTree ⟨leading, names⟩ hp hk,
    declarations_visitorTree ⟨leading, names⟩ hp hk, ?_, rfl⟩
  simp [slotOutline, DispatchPlan.slotCount]

/-- A kind that no catalog gives: two of its names are raw, the others belong to fixed parts. -/
def handMade : KindNames := ⟨"r#match", "Shared", "new", "h_default", "r#match"⟩

theorem artifacts_declare_hand_made :
    (∀ n ∈ namesOf handMade, IsName n) ∧
      ∃ artifacts, DispatchPlan.emit ⟨"m", "syn", [handMade, handMade]⟩ = .ok artifacts ∧
        declarations artifacts.handlers.tokens = some (handlersOutline [handMade, handMade]) ∧
        declarations artifacts.visitor.tokens = some (visitorOutline [handMade, handMade]) := by
  have hnames : ∀ n ∈ namesOf handMade, IsName n := by
    decide +kernel
  obtain ⟨artifacts, he, hh, hv, -⟩ :=
    @artifacts_declare ⟨"m", "syn", [handMade, handMade]⟩ _ readAstPath_syn
      (forall_mem_pair hnames hnames)
  exact ⟨hnames, artifacts, he, hh, hv⟩

end DispatchLayer.Emission
