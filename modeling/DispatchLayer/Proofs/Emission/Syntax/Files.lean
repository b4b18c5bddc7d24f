import DispatchLayer.Proofs.Emission.Keywords
import DispatchLayer.Proofs.Emission.Syntax.Visitor

/-!
# Reading the generated files
-/

namespace DispatchLayer.Emission

open Code Code.Reader Token

/-! ## Names that are no keywords -/

/-- The names of a kind are no keywords of the reader, and its slot is no position. -/
structure Plain (k : KindNames) : Prop where
  name : Keyword.isReserved k.name = false
  handlerTrait : Keyword.isReserved k.handlerTrait = false
  method : Keyword.isReserved k.method = false
  slot : Keyword.isReserved k.slot = false
  registerFn : Keyword.isReserved k.registerFn = false
  member : spellMember k.slot = .ident k.slot

/-- A front part that no keyword has. -/
theorem not_reserved_front {front rest : String}
    (h : ∀ word ∈ Keyword.reserved, ¬ front.toList <+: word.toList) :
    Keyword.isReserved (front ++ rest) = false := by
  refine Bool.eq_false_iff.2 fun hk => h _ (List.contains_iff_mem.1 hk) ?_
  rw [String.toList_append]
  exact List.prefix_append _ _

/-- An end part that no keyword has. -/
theorem not_reserved_end {front rest : String}
    (h : ∀ word ∈ Keyword.reserved, ¬ rest.toList <:+ word.toList) :
    Keyword.isReserved (front ++ rest) = false := by
  refine Bool.eq_false_iff.2 fun hk => h _ (List.contains_iff_mem.1 hk) ?_
  rw [String.toList_append]
  exact List.suffix_append _ _

theorem not_reserved_snakeCase (name : String) :
    Keyword.isReserved (Keyword.escape (Text.snakeCase name)) = false := by
  rcases Keyword.escape_cases (Text.snakeCase name) with ⟨hn, he⟩ | ⟨-, -, he⟩ | ⟨-, hk, he⟩
  · have hlist : ∀ word ∈ Keyword.neverRaw, Keyword.isReserved (word ++ "_") = false := by decide
    rw [he]
    exact hlist _ hn
  · rw [he]
    exact not_reserved_front (by decide)
  · -- Beyond the words that are escaped there is the underscore, which is nothing in snake case.
    have hlist : ∀ word ∈ Keyword.reserved, word ∈ Keyword.escaped ∨ word = "_" := by decide
    rw [he]
    refine Bool.eq_false_iff.2 fun hr => ?_
    rcases hlist _ (List.contains_iff_mem.1 hr) with hm | hm
    · exact hk hm
    · have hl := Text.getLast?_snakeChars name.toList
      have hc : Text.snakeChars name.toList = ['_'] := by
        rw [← String.toList_ofList (l := Text.snakeChars name.toList)]
        exact congrArg String.toList hm
      rw [hc] at hl
      exact hl rfl

theorem not_reserved_of_isPlainName {name : String} (h : Plan.isPlainName name = true) :
    Keyword.isReserved name = false := by
  have hlist : ∀ word ∈ Keyword.reserved, Plan.isPlainName word = false := by decide
  refine Bool.eq_false_iff.2 fun hr => ?_
  rw [hlist name (List.contains_iff_mem.1 hr)] at h
  cases h

theorem spellMember_slotOf (snake : String) :
    spellMember (Naming.slotOf snake) = .ident (Naming.slotOf snake) := by
  unfold spellMember Naming.slotOf
  rw [String.toList_append]
  rfl

/-- The names of a kind that can be lowered. -/
theorem plain_ofName {name : String} (h : Plan.standsAlone name = true) :
    Plain (KindNames.ofName name) := by
  have hp : Plan.isPlainName name = true := by
    unfold Plan.standsAlone at h
    simp only [Bool.and_eq_true] at h
    exact h.1.2
  exact ⟨not_reserved_of_isPlainName hp, not_reserved_end (by decide),
    not_reserved_snakeCase name, not_reserved_front (by decide),
    not_reserved_front (by decide), spellMember_slotOf _⟩

/-! ## The handlers file -/

theorem takes_allowUnused {g : Grammar} {rest : List Token} (hg : Deep 3 g)
    (hrest : startsInner rest = false) :
    Takes (innerAttributes g) (spellAttributes true [allowUnused] ++ rest) rest [allowUnused] := by
  obtain ⟨g', rfl⟩ := hg.exists_repeat 3 (Nat.le_refl 3)
  refine @takes_repeat_more _ _ _ rest _ _ _ _ [allowUnused] _ (fun _ => rfl)
    (takes_repeat_done (Takes.ahead ?_) (Nat.succ_pos _))
  rw [show (startsOp ['#'] rest && startsOp ['!'] (rest.drop 1)) = false from hrest]
  exact takes_pure

section Files

variable {leading : Bool} {names : List String} {ast : Path} {kinds : List KindNames} {d : Nat}

theorem itemReads_handlersTree (hk : ∀ k ∈ kinds, Plain k)
    (ht : ∀ k ∈ kinds, TyReads false (d + 1) (ownTy ast k)) (hd : kinds.length ≤ d) :
    ∀ i ∈ (handlersTree ast kinds).items, ItemReads Grammar.item (d + 16) i := by
  have hvariants : ∀ v ∈ kinds.map fun k => nodeVariant k.name (ownTy ast k),
      VariantReads (d + 8) v := by
    refine List.forall_mem_map.2 fun k hm => ?_
    exact (variantReads_node (hk k hm).name (ht k hm)).mono (by omega)
  have harms : ∀ a ∈ kinds.map fun k => labelArm k.name k.name, ArmReads (d + 3) a := by
    refine List.forall_mem_map.2 fun k hm => ?_
    exact (armReads_label (hk k hm).name k.name).mono (Nat.le_add_left 3 d)
  refine List.forall_mem_append.2 ⟨List.forall_mem_append.2 ⟨List.forall_mem_cons.2
    ⟨?_, List.forall_mem_cons.2 ⟨?_, List.forall_mem_map.2 fun k hm => ?_⟩⟩, ?_⟩, fun i hi => ?_⟩
  · exact (itemReads_nodeItem hvariants (by simp; omega) (by omega)).mono (by omega)
  · exact (itemReads_labelItem harms (by simp; omega) (by omega)).mono (by omega)
  · exact (itemReads_conversionItem (hk k hm).name ((ht k hm).mono (by omega : _ ≤ d + 2))
      (by omega)).mono (by omega)
  · refine List.forall_mem_flatten.2 (List.forall_mem_map.2 fun k hm i hi => ?_)
    exact (itemReads_contractItems (attributeReads_docEscaped _) (hk k hm).handlerTrait
      (hk k hm).method ((ht k hm).reference true _ _) (by omega) i hi).mono (by omega)
  · exact (itemReads_contractItems (attributeReads_doc _) (by decide) (by decide)
      (tyReads_nodeTy true _) (by decide) i hi).mono (by omega)

/-! ## The visitor file -/

/-- The visitor file as it is read back. -/
def readVisitorTree (ast : Path) (kinds : List KindNames) : SourceFile :=
  ⟨none, [allowUnused],
    .use [] .inherited false (.path "super" (.path Naming.handlersModule .glob)) ::
      continuationItems ++
      (sharedItems ++
        (kinds.map fun k => sharedImpl k.handlerTrait k.method (Ty.ref (ownTy ast k))) ++
        [sharedImpl Naming.defaultTrait Naming.defaultMethod anyNodeTy]) ++
      [visitorItem (kinds.map fun k => slotField k.slot k.handlerTrait),
        readMethodsItem
          (kinds.map fun k => registerFn (registerDoc k) k.registerFn k.slot k.handlerTrait)
          (kinds.map fun k => presenceArm k.name k.slot)
          (kinds.map fun k => dispatchArm k.name k.slot k.method)]⟩

theorem itemReads_visitorTree (hk : ∀ k ∈ kinds, Plain k)
    (ht : ∀ k ∈ kinds, TyReads false (d + 1) (ownTy ast k)) (hd : kinds.length ≤ d) :
    ∀ i ∈ (readVisitorTree ast kinds).items, ItemReads Grammar.item (d + 16) i := by
  have hslots : ∀ f ∈ kinds.map fun k => slotField k.slot k.handlerTrait, FieldReads (d + 7) f :=
    List.forall_mem_map.2 fun k hm =>
      (fieldReads_slotField (hk k hm).slot (hk k hm).handlerTrait).mono (Nat.le_add_left 7 d)
  have hregister : ∀ i ∈ kinds.map fun k =>
      registerFn (registerDoc k) k.registerFn k.slot k.handlerTrait, ItemReads implItem 6 i :=
    List.forall_mem_map.2 fun k hm => itemReads_registerFn (attributeReads_docEscaped _)
      (hk k hm).registerFn (hk k hm).slot (hk k hm).member (hk k hm).handlerTrait
  have hpresence : ∀ a ∈ kinds.map fun k => presenceArm k.name k.slot, ArmReads (d + 10) a :=
    List.forall_mem_map.2 fun k hm =>
      (armReads_presence (hk k hm).name (hk k hm).slot (hk k hm).member).mono (by omega)
  have hdispatch : ∀ a ∈ kinds.map fun k => dispatchArm k.name k.slot k.method,
      ArmReads (d + 10) a :=
    List.forall_mem_map.2 fun k hm => (armReads_dispatch (hk k hm).name (hk k hm).slot
      (hk k hm).member (hk k hm).method).mono (Nat.le_add_left 10 d)
  have hshared : ItemReads Grammar.item 8
      (sharedImpl Naming.defaultTrait Naming.defaultMethod anyNodeTy) :=
    itemReads_sharedImpl (by decide) (by decide) (tyReads_nodeTy true _) Nat.one_lt_two
  refine List.forall_mem_append.2 ⟨List.forall_mem_append.2 ⟨List.forall_mem_cons.2
    ⟨itemReads_useHandlers.mono (by omega), fun i hi => ?_⟩,
      forall_mem_snoc (List.forall_mem_append.2 ⟨fun i hi => ?_, List.forall_mem_map.2 fun k hm => ?_⟩)
        (hshared.mono (by omega))⟩, forall_mem_pair ?_ ?_⟩
  · exact (itemReads_continuationItems i hi).mono (by omega)
  · exact (itemReads_sharedItems i hi).mono (by omega)
  · exact (itemReads_sharedImpl (hk k hm).handlerTrait (hk k hm).method
      ((ht k hm).reference true _ _) (by omega)).mono (by omega)
  · exact (itemReads_visitorItem hslots (by simp; omega) (by omega)).mono (by omega)
  · exact (itemReads_methodsItem hregister hpresence hdispatch (by simp; omega) (by simp; omega)
      (by simp; omega) (by omega)).mono (by omega)

/-! ## Reading back -/

/-- Kinds whose types are paths that can be read. -/
theorem tyReads_ownTy {k : KindNames} (hp : TypePath leading names k.name)
    (hl : names.length ≤ d) : TyReads false (d + 1) (ownTy (Path.ofNames leading names) k) :=
  tyReads_path false hp (segmentReadsAt_name (d + 1) (hp.segments _ (by simp))) ⟨[], rfl⟩
    (Nat.lt_succ_of_le hl)

theorem length_le_length_ownTy (leading : Bool) (names : List String) (k : KindNames) :
    names.length ≤ (ownTy (Path.ofNames leading names) k).spell.length := by
  show _ ≤ (Code.Path.mk leading (names.map Segment.name ++ [Segment.name k.name])).spell.length
  rw [spell_pathEnding]
  unfold pathUpTo
  simp only [List.length_append, List.length_flatMap]
  have hsum : ((names.map fun n => (Token.ident n :: colons).length)).sum = names.length * 3 := by
    simp [colons, operator]
  omega

theorem length_le_length_handlerSignature (method : String) (t : Ty) :
    t.spell.length ≤ (handlerSignature method t).spell.length := by
  have hspell : (handlerSignature method t).spell = Token.ident "fn" :: .ident method :: [] ++
      (Token.opening .paren :: ((FnParam.selfMut.spell ++ mark ',' :: .ident "node" :: mark ':' ::
        t.spell) ++ [Token.closing .paren])) ++
      (operator ['-', '>'] ++ (Ty.named "bool").spell) ++ [] := rfl
  rw [hspell]
  simp only [List.length_append, List.length_cons]
  omega

theorem length_le_length_function (attrs : List Attribute) (vis : Visibility) (s : Signature)
    (ss : List Stmt) : s.spell.length ≤ (Item.function attrs vis s ss).spell.length := by
  have hspell : (Item.function attrs vis s ss).spell = spellAttributes false attrs ++ vis.spell ++
      [] ++ s.spell ++ (Token.opening .brace :: ((spellAttributes true attrs ++ spellStmts ss) ++
        [Token.closing .brace])) := rfl
  rw [hspell]
  simp only [List.length_append]
  omega

theorem length_le_length_implementation (generics : Generics) (p : Path) (self : Ty)
    (items : List Item) :
    (spellItems items).length ≤ (Item.implementation generics (some p) self items).spell.length := by
  obtain ⟨ps, cs⟩ := generics
  have hspell : (Item.implementation (.mk ps cs) (some p) self items).spell = [] ++ [] ++
      Token.ident "impl" :: (Generics.mk ps cs).spellParams ++
      ([] ++ p.spell ++ [Token.ident "for"]) ++
      self.spell ++ (Generics.mk ps cs).spellWhere ++
      (Token.opening .brace :: (([] ++ spellItems items) ++ [Token.closing .brace])) := rfl
  rw [hspell]
  simp only [List.length_append, List.length_cons]
  omega

/-- A handler trait that is implemented spells the type of the nodes. -/
theorem length_le_length_handled (generics : Generics) (p : Path) (self : Ty) (method : String)
    (t : Ty) (ss : List Stmt) : t.spell.length ≤ (Item.implementation generics (some p) self
      [.function [] .inherited (handlerSignature method (Ty.ref t)) ss]).spell.length := by
  have ht : t.spell.length ≤ (Ty.ref t).spell.length := Nat.le_succ _
  have hmethod := length_spell_le (List.mem_singleton.2 (Eq.refl
    (Item.function [] .inherited (handlerSignature method (Ty.ref t)) ss)))
  exact (ht.trans (length_le_length_handlerSignature method _)).trans
    ((length_le_length_function [] .inherited _ ss).trans
      (hmethod.trans (length_le_length_implementation generics p self _)))

/-- A file is read back if each of its items is, from a depth on that the numbers of the kinds and
of the names in their path bound. -/
theorem ofTokens?_of_kinds {items : List Item}
    (h : ∀ d, kinds.length ≤ d → (∀ k ∈ kinds, names.length ≤ d) →
      ∀ i ∈ items, ItemReads Grammar.item (d + 16) i)
    (hcount : kinds.length ≤ items.length)
    (hlong : ∀ k ∈ kinds, ∃ i ∈ items,
      (ownTy (Path.ofNames leading names) k).spell.length ≤ i.spell.length) :
    SourceFile.ofTokens? (SourceFile.mk none [allowUnused] items).spell =
      .ok ⟨none, [allowUnused], items⟩ := by
  refine ofTokens?_of_items (fun g rest hg => takes_allowUnused (hg.mono (by decide)))
    (h _ ?_ fun k hm => ?_)
  -- An item has at least one token, so there are no more kinds than tokens.
  · have hall := h (kinds.length + names.length) (by omega) fun _ _ => by omega
    exact hcount.trans (length_le_length_spellItems hall)
  · obtain ⟨i, hi, hl⟩ := hlong k hm
    exact (length_le_length_ownTy leading names k).trans (hl.trans (length_spell_le hi))

/-- **The handlers file is read back.** -/
theorem ofTokens?_handlersTree (hk : ∀ k ∈ kinds, Plain k)
    (hp : ∀ k ∈ kinds, TypePath leading names k.name) :
    SourceFile.ofTokens? (handlersTree (Path.ofNames leading names) kinds).spell =
      .ok (handlersTree (Path.ofNames leading names) kinds) := by
  refine @ofTokens?_of_kinds leading names _ _ (fun d hd hn =>
    itemReads_handlersTree hk (fun k hm => tyReads_ownTy (hp k hm) (hn k hm)) hd) ?_ fun k hm => ?_
  · simp
    omega
  · refine ⟨_, List.mem_append_left _ (List.mem_append_right _ (List.mem_flatten.2
      ⟨_, List.mem_map_of_mem hm, List.mem_cons_of_mem _ List.mem_cons_self⟩)),
      length_le_length_handled _ _ _ k.method _ _⟩

/-- The answer `false` has the same tokens as a name and as a literal. -/
theorem spell_readHasHandlerFn (arms : List Arm) :
    (readHasHandlerFn arms).spell = (hasHandlerFn arms).spell := by
  let last (e : Expr) : Arm := Arm.plain (Pat.wrap ["Node", Naming.otherVariant] .wild) e
  let answer : Stmt := Stmt.value (.binary "||" (Expr.name "specific")
    ((Expr.selfField Naming.defaultSlot).invoke "is_some" []))
  have harms : spellArms (arms ++ [last (.literal "false")]) =
      spellArms (arms ++ [last (Expr.name "false")]) := by
    rw [spellArms_eq_flatMap, spellArms_eq_flatMap, List.flatMap_append, List.flatMap_append]
    rfl
  have hmatch : (Expr.matchOn (Expr.name "node") [] (arms ++ [last (.literal "false")])).spell =
      (Expr.matchOn (Expr.name "node") [] (arms ++ [last (Expr.name "false")])).spell :=
    congrArg (fun ts => Token.ident "match" :: (Expr.name "node").spell ++
      (Token.opening .brace :: (ts ++ [Token.closing .brace]))) harms
  have hbody := congrArg (fun ts : List Token => Token.ident "let" :: [Token.ident "specific"] ++
    mark '=' :: ts ++ [] ++ mark ';' :: spellStmts [answer]) hmatch
  exact congrArg (fun ts => spellAttributes false
      [Attribute.doc " Whether `visit` would hand `node` to a handler."] ++ [Token.ident "pub"] ++ [] ++
    (Signature.plain "has_handler_for" [FnParam.selfRef, FnParam.named "node" anyNodeTy]
      (some (Ty.named "bool"))).spell ++
    (Token.opening .brace :: (([] ++ ts) ++ [Token.closing .brace]))) hbody

theorem spell_readMethodsItem (registrations : List Item) (presence dispatch : List Arm) :
    (readMethodsItem registrations presence dispatch).spell =
      (methodsItem registrations presence dispatch).spell := by
  have hitems : spellItems (newFn :: registrations ++
      [defaultRegisterFn, readHasHandlerFn presence, visitFn dispatch]) =
      spellItems (newFn :: registrations ++
        [defaultRegisterFn, hasHandlerFn presence, visitFn dispatch]) := by
    simp only [spellItems_eq_flatMap, List.flatMap_append, List.flatMap_cons, spell_readHasHandlerFn]
  exact congrArg (fun ts => [] ++ [] ++ Token.ident "impl" ::
    (Generics.ofParams [.ofLifetime handlerLifetime]).spellParams ++ [] ++
    (Ty.applied "Visitor" [.lifetime handlerLifetime]).spell ++ [] ++
    (Token.opening .brace :: (([] ++ ts) ++ [Token.closing .brace]))) hitems

theorem spell_readVisitorTree (ast : Path) (kinds : List KindNames) :
    (readVisitorTree ast kinds).spell = (visitorTree ast kinds).spell := by
  unfold SourceFile.spell readVisitorTree visitorTree
  simp only [spellItems_eq_flatMap, List.flatMap_append, List.flatMap_cons, spell_readMethodsItem]

/-- **The visitor file is read back**, but for the literal in the test for a handler. -/
theorem ofTokens?_visitorTree (hk : ∀ k ∈ kinds, Plain k)
    (hp : ∀ k ∈ kinds, TypePath leading names k.name) :
    SourceFile.ofTokens? (visitorTree (Path.ofNames leading names) kinds).spell =
      .ok (readVisitorTree (Path.ofNames leading names) kinds) := by
  rw [← spell_readVisitorTree]
  refine @ofTokens?_of_kinds leading names _ _ (fun d hd hn =>
    itemReads_visitorTree hk (fun k hm => tyReads_ownTy (hp k hm) (hn k hm)) hd) ?_ fun k hm => ?_
  · simp
    omega
  · refine ⟨_, List.mem_append_left _ (List.mem_append_right _ (List.mem_append_left _
      (List.mem_append_right _ (List.mem_map_of_mem hm)))),
      length_le_length_handled _ _ _ k.method _ _⟩

/-- The tokens of a type whose path begins with `try`. -/
theorem exists_spell_ownTy_try (names : List String) (k : KindNames) :
    ∃ us, (ownTy (Path.ofNames false ("try" :: names)) k).spell = .ident "try" :: us := by
  have hpath := spell_pathEnding false ("try" :: names) (.name k.name)
  exact ⟨_, hpath.trans rfl⟩

/-- **A path that begins with `try` leads to no type**: the first variant of the node type, which
borrows a value of such a type, cannot be read. -/
theorem ofTokens?_handlersTree_try {k : KindNames} (hk : Plain k) :
    ∃ e, SourceFile.ofTokens?
      (handlersTree (Path.ofNames false ("try" :: names)) (k :: kinds)).spell = .error e := by
  obtain ⟨us, hus⟩ := exists_spell_ownTy_try names k
  -- The node type is the first item of the file, and reading ends there.
  refine ofTokens?_of_fails (fun g rest hg => takes_allowUnused (hg.mono (by decide))) rfl rfl
    fun g hg => ?_
  obtain ⟨g', hg', rfl⟩ := hg.below
  refine fails_enum hg' (attributeReads_nodeItem (Nat.le_add_left 2 13)) (by decide) rfl (by decide)
    ((genericsRead_lifetime _).mono (by decide)) rfl ?_
  rw [List.map_cons, List.cons_append, spellVariants_eq_append]
  have hvariant : spellVariants [nodeVariant k.name (ownTy (Path.ofNames false ("try" :: names)) k)] =
      .ident k.name :: .opening .paren :: mark '&' ::
        (Token.lifetime nodeLifetime ++ .ident "try" :: (us ++ [.closing .paren, mark ','])) := by
    show [] ++ Token.ident k.name :: (.opening .paren :: ((mark '&' ::
      Token.lifetime nodeLifetime ++ [] ++ (ownTy (Path.ofNames false ("try" :: names)) k).spell) ++
      [Token.closing .paren])) ++ [] ++ [mark ','] = _
    rw [hus]
    simp
  rw [hvariant]
  simp only [List.cons_append, List.append_assoc]
  exact fails_variant (hg'.mono (by decide)) hk.name nodeLifetime

end Files

end DispatchLayer.Emission
