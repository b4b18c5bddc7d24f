import DispatchLayer.Proofs.Code.StringLiteral
import DispatchLayer.Proofs.Emission.Declarations
import DispatchLayer.Proofs.Emission.Reading

/-!
# The outline of the handlers file

What the readers find in the tokens of the handlers file, item by item (`HandlersPart`), and from it
the outline of the whole file (`read?_handlersTree`). The types of the kinds may be any paths of
names. A form that a reader looks for is a text; its tokens stand here beside it.
-/

namespace DispatchLayer.Emission

open Code Token

variable {t : Ty}

/-! ## The tokens of the forms -/

def variantForm : List Token := [mark '$', .opening .paren, mark '$', .closing .paren]

def nodeForm : List Token :=
  [.ident "pub", .ident "enum", .ident "Node", mark '<', .punct '\'' .joint, .ident "ast", mark '>']

def armForm : List Token :=
  [.ident "Node", .punct ':' .joint, mark ':', mark '$', .opening .paren, .ident "_",
    .closing .paren, .punct '=' .joint, mark '>', mark '$']

def labelsForm : List Token :=
  [.ident "impl", mark '<', .punct '\'' .joint, .ident "ast", mark '>', .ident "Node", mark '<',
    .punct '\'' .joint, .ident "ast", mark '>']

def kindForm : List Token :=
  [.ident "pub", .ident "fn", .ident "kind", .opening .paren, mark '&', .ident "self",
    .closing .paren, .punct '-' .joint, mark '>', mark '&', .punct '\'' .joint, .ident "static",
    .ident "str"]

def ownMatchForm : List Token := [.ident "match", .ident "self"]

def conversionForm : List Token :=
  [.ident "impl", mark '<', .punct '\'' .joint, .ident "ast", mark '>', .punct ':' .joint, mark ':',
    .ident "core", .punct ':' .joint, mark ':', .ident "convert", .punct ':' .joint, mark ':',
    .ident "From", mark '<', mark '$', mark '>', .ident "for", .ident "Node", mark '<',
    .punct '\'' .joint, .ident "ast", mark '>']

def fromForm : List Token :=
  [.ident "fn", .ident "from", .opening .paren, .ident "node", mark ':', mark '$', .closing .paren,
    .punct '-' .joint, mark '>', .ident "Self"]

def wrapForm : List Token :=
  [.ident "Node", .punct ':' .joint, mark ':', mark '$', .opening .paren, .ident "node",
    .closing .paren]

def methodForm : List Token :=
  [.ident "fn", mark '$', .opening .paren, mark '&', .ident "mut", .ident "self", mark ',',
    .ident "node", mark ':', mark '$', .closing .paren, .punct '-' .joint, mark '>', .ident "bool"]

def traitForm : List Token := [.ident "pub", .ident "trait", mark '$']

/-- The texts of the forms have these tokens. -/
structure HandlersForms : Prop where
  variant : Token.ofText? "$ ( $ )" = some variantForm
  node : Token.ofText? "pub enum Node< 'ast>" = some nodeForm
  arm : Token.ofText? "Node:: $ (_) => $" = some armForm
  labels : Token.ofText? "impl< 'ast> Node< 'ast>" = some labelsForm
  kind : Token.ofText? "pub fn kind(&self) -> & 'static str" = some kindForm
  ownMatch : Token.ofText? "match self" = some ownMatchForm
  conversion : Token.ofText? "impl< 'ast> ::core::convert::From< $ > for Node< 'ast>" =
    some conversionForm
  fromNode : Token.ofText? "fn from(node: $ ) -> Self" = some fromForm
  wrap : Token.ofText? "Node:: $ (node)" = some wrapForm
  method : Token.ofText? "fn $ (&mut self, node: $ ) -> bool" = some methodForm
  trait : Token.ofText? "pub trait $" = some traitForm

theorem handlersForms : HandlersForms := by
  constructor
  all_goals decide +kernel

/-! ## Types -/

/-- Tokens without brackets among them, which a place in front of a bracket takes all. -/
structure Flat (ts : List Token) : Prop where
  inline : ∀ t ∈ ts, isBracket t = false

theorem Flat.nodeRef (h : Flat t.spell) : Flat (nodeRef t).spell := by
  have hfront : ∀ t ∈ mark '&' :: Token.lifetime nodeLifetime, isBracket t = false := by decide
  exact ⟨List.forall_mem_append.2 ⟨hfront, h.inline⟩⟩

theorem Flat.ref (h : Flat t.spell) : Flat (Ty.ref t).spell :=
  ⟨List.forall_mem_cons.2 ⟨rfl, h.inline⟩⟩

theorem Flat.balances {ts : List Token} (h : Flat ts) : Balances ts := balances_of_inline h.inline

/-- A place in front of a closing bracket takes all of the type. -/
theorem Flat.all_ne_closing {ts : List Token} (h : Flat ts) (d : Delimiter) :
    (ts.all fun t => some (Token.closing d) ≠ some t) = true := by
  refine List.all_eq_true.2 fun t ht => decide_eq_true ?_
  intro he
  have hflat := h.inline t ht
  cases he
  cases hflat

theorem IsPathTy.all (h : IsPathTy t) : t.spell.all isPathToken = true := by
  obtain ⟨ts, n, hts, hpath⟩ := h
  rw [hts, List.all_append, hpath]
  rfl

theorem IsPathTy.flat (h : IsPathTy t) : Flat t.spell := by
  refine ⟨fun u hu => ?_⟩
  have htoken := List.all_eq_true.1 h.all u hu
  cases u with
  | opening d => cases htoken
  | closing d => cases htoken
  | _ => rfl

/-- In angle brackets, a place takes all of a path. -/
theorem IsPathTy.all_ne_closer (h : IsPathTy t) :
    (t.spell.all fun u => some (mark '>') ≠ some u) = true := by
  refine List.all_eq_true.2 fun u hu => decide_eq_true ?_
  rintro ⟨⟩
  cases List.all_eq_true.1 h.all _ hu

/-! ## Members -/

theorem reads_nodeVariant (variant : String) (ht : Flat t.spell) :
    PieceReads isComma variant? (spellVariants [nodeVariant variant t])
      (variant, (nodeRef t).spell) := by
  have hfront : Front isComma (fill variantForm [[.ident variant], (nodeRef t).spell]) _ :=
    (Front.inline rfl).append (.grouped (d := .paren) (fun _ => rfl) ht.nodeRef.balances)
  have hfits : fits variantForm [[.ident variant], (nodeRef t).spell] = true :=
    congrArg (· && true && true) (ht.nodeRef.all_ne_closing .paren)
  unfold nodeVariant
  rw [spell_variant]
  refine (isPiece_line (Or.inl rfl) hfront (fun _ => rfl) rfl).reads ?_
  unfold variant?
  rw [Piece.line?_fill handlersForms.variant _ hfits]
  rfl

theorem reads_labelArm (variant label : String) :
    PieceReads endsArm labelArm? (spellArms [labelArm variant label])
      (variant, label) := by
  have hliteral : (Expr.literal (Text.stringLiteral label)).spell =
      [.literal (Text.stringLiteral label)] := spellLiteral_stringLiteral label
  have hfront : Front endsArm
      (fill armForm [[.ident variant], [.literal (Text.stringLiteral label)]]) _ :=
    .of_trees (fun _ _ => rfl) rfl rfl
  have hline : (Pat.wrap ["Node", variant] .wild).spell ++ operator ['=', '>'] ++
      (Expr.literal (Text.stringLiteral label)).spell =
        fill armForm [[.ident variant], [.literal (Text.stringLiteral label)]] := by
    rw [hliteral]
    rfl
  have harm := isPiece_arm (hline ▸ hfront) (fun _ => rfl) rfl
  rw [hline] at harm
  refine harm.reads ?_
  unfold labelArm?
  rw [Piece.line?_fill handlersForms.arm _ rfl]
  show (stringLiteralText? _).bind _ = _
  rw [stringLiteralText?_stringLiteral]
  rfl

theorem balances_nodeParams (ht : Flat t.spell) :
    Balances (commaSeparated (spellFnParams [FnParam.selfMut, FnParam.named "node" t])) := by
  have hfront : Balances
      [mark '&', .ident "mut", .ident "self", mark ',', .ident "node", mark ':'] :=
    fun _ _ => rfl
  exact hfront.append ht.balances

theorem fits_methodForm (method : String) (ht : Flat t.spell) :
    fits methodForm [[.ident method], t.spell] = true :=
  congrArg (· && true && true) (ht.all_ne_closing .paren)

theorem spell_handlerSignature (method : String) (t : Ty) :
    (handlerSignature method t).spell = fill methodForm [[.ident method], t.spell] := by
  have hassoc := List.append_assoc t.spell [.closing .paren] (spellOutput (some (Ty.named "bool")))
  unfold handlerSignature
  rw [spell_signature]
  exact congrArg (methodForm.take 1 ++ .ident method :: (methodForm.drop 2).take 7 ++ ·) hassoc

theorem reads_handlerHead (method : String) (ht : Flat t.spell) :
    PieceReads endsItem method?
      (Item.fnHead [Attribute.doc " Return `false` to skip the node's children."] .inherited
        (handlerSignature method t)).spell
      ⟨method, t.spell⟩ := by
  have hpiece := isPiece_fnHead method
    (balances_docs [" Return `false` to skip the node's children."]) (balances_nodeParams ht)
    (@Front.inline endsItem (spellOutput (some (Ty.named "bool"))) rfl)
  refine hpiece.reads ?_
  show method? ⟨(handlerSignature method t).spell, none⟩ = _
  rw [spell_handlerSignature]
  unfold method?
  rw [Piece.line?_fill handlersForms.method _ (fits_methodForm method ht)]
  rfl

/-! ## Items -/

/-- What the readers of the handlers file find in a piece. -/
structure HandlersPart where
  variants : Option (List (String × List Token)) := none
  labels : Option (List (String × String)) := none
  conversion : Option Conversion := none
  trait : Option (String × List Method) := none

/-- A piece that is none of these. -/
def HandlersPart.nothing : HandlersPart := ⟨none, none, none, none⟩

def HandlersPart.of (p : Piece) : HandlersPart := ⟨variants? p, labels? p, conversion? p, trait? p⟩

section Absent

variable {p : Piece}

theorem variants?_eq_none (h : captures nodeForm p.line = none) : variants? p = none :=
  Piece.bind_block?_eq_none handlersForms.node h

theorem labels?_eq_none (h : captures labelsForm p.line = none) : labels? p = none :=
  Piece.bind_block?_eq_none handlersForms.labels h

theorem conversion?_eq_none (h : captures conversionForm p.line = none) : conversion? p = none :=
  Piece.bind_block?_eq_none handlersForms.conversion h

theorem trait?_eq_none (h : captures traitForm p.line = none) : trait? p = none :=
  Piece.bind_block?_eq_none handlersForms.trait h

end Absent

/-- The tokens are an item in which the readers find this. -/
abbrev ReadsHandlers (ts : List Token) (part : HandlersPart) : Prop :=
  PieceReads endsItem (fun p => some (HandlersPart.of p)) ts part

theorem readsHandlers_of_isPiece {ts : List Token} {p : Piece} {part : HandlersPart}
    (h : IsPiece endsItem ts p) (hv : variants? p = part.variants) (hl : labels? p = part.labels)
    (hc : conversion? p = part.conversion) (ht : trait? p = part.trait) :
    ReadsHandlers ts part := by
  refine h.reads (congrArg some ?_)
  unfold HandlersPart.of
  rw [hv, hl, hc, ht]

theorem reads_nodeItem {variants : List Variant} {read : List (String × List Token)}
    (h : AllPieces isComma variant? (fun v => spellVariants [v]) variants read) :
    ReadsHandlers (nodeItem variants).spell
      { variants := some (read ++ [("Other", (nodeRef anyTy).spell)]) } := by
  have hall := h.append (.single (reads_nodeVariant Naming.otherVariant (t := anyTy) ⟨by decide⟩))
  have hb := hall.balances
  rw [← spellVariants_eq_flatMap] at hb
  have hpiece : IsPiece endsItem (nodeItem variants).spell ⟨fill nodeForm [],
      some (spellVariants (variants ++ [nodeVariant Naming.otherVariant anyTy]))⟩ :=
    isPiece_enum (forall_mem_snoc (balances_docs [_, _, _]) (balances_deriveInside _))
      (.inline rfl) hb
  refine readsHandlers_of_isPiece hpiece ?_ (labels?_eq_none rfl) (conversion?_eq_none rfl)
    (trait?_eq_none rfl)
  unfold variants?
  rw [Piece.block?_fill handlersForms.node [] rfl]
  exact mapM_variantPieces hall

theorem isPiece_kindFn {body : List Stmt} (hb : Balances (spellStmts body)) :
    IsPiece endsItem (Item.function [Attribute.doc " Kind name of this node."] .pub
      (Signature.plain "kind" [FnParam.selfRef] (some staticStr)) body).spell
      ⟨fill kindForm [], some (spellStmts body)⟩ :=
  isPiece_function "kind" (balances_docs [" Kind name of this node."])
    (List.forall_mem_singleton.2 rfl) (Or.inl rfl) (fun _ _ => rfl) (.inline rfl) hb

theorem reads_labelItem {arms : List Arm} {read : List (String × String)}
    (h : AllPieces endsArm labelArm? (fun a => spellArms [a]) arms read) :
    ReadsHandlers (labelItem arms).spell { labels := some (read ++ [("Other", "Other")]) } := by
  have hall := h.append (.single (reads_labelArm Naming.otherVariant Naming.otherVariant))
  -- The arms, then the match, the method and the item around it.
  have hmatch : IsPiece endsItem (Expr.matchOn (Expr.name "self") []
      (arms ++ [labelArm Naming.otherVariant Naming.otherVariant])).spell
      ⟨fill ownMatchForm [], _⟩ :=
    isPiece_matchOn (.inline rfl) (balances_arms hall)
  have hmethod := isPiece_kindFn (balances_value hmatch.balances)
  have hitem : IsPiece endsItem (labelItem arms).spell ⟨fill labelsForm [], _⟩ :=
    isPiece_ownImplementation (.inline rfl) (balances_item hmethod.balances)
  refine readsHandlers_of_isPiece hitem (variants?_eq_none rfl) ?_ (conversion?_eq_none rfl)
    (trait?_eq_none rfl)
  unfold labels?
  simp only [Piece.block?_fill handlersForms.labels [] rfl, itemPieces_single hmethod,
    Piece.block?_fill handlersForms.kind [] rfl, itemPieces_only hmatch,
    Piece.block?_fill handlersForms.ownMatch [] rfl, mapM_armPieces hall, Option.bind_eq_bind,
    Option.bind_some]
  rfl

theorem isPiece_fromFn (hp : IsPathTy t) {body : List Stmt} (hb : Balances (spellStmts body)) :
    IsPiece endsItem (Item.function [] .inherited
      (Signature.plain "from" [FnParam.named "node" (nodeRef t)]
        (some (Ty.named "Self"))) body).spell
      ⟨fill fromForm [(nodeRef t).spell], some (spellStmts body)⟩ := by
  have hname : Balances [.ident "node", mark ':'] := fun _ _ => rfl
  have hparams : Balances (commaSeparated (spellFnParams [FnParam.named "node" (nodeRef t)])) :=
    hname.append hp.flat.nodeRef.balances
  have hout : Front endsItem (spellOutput (some (Ty.named "Self"))) _ := .inline rfl
  have hline : Visibility.inherited.spell ++ (Signature.plain "from"
      [FnParam.named "node" (nodeRef t)] (some (Ty.named "Self"))).spell =
        fill fromForm [(nodeRef t).spell] := by
    rw [spell_signature]
    exact congrArg (fromForm.take 5 ++ ·)
      (List.append_assoc (nodeRef t).spell [.closing .paren] (spellOutput (some (Ty.named "Self"))))
  rw [← hline]
  exact isPiece_function "from" (by simp) (by simp) (Or.inr rfl) hparams hout hb

theorem reads_conversionItem (variant : String) (hp : IsPathTy t) :
    ReadsHandlers (conversionItem variant t).spell
      { conversion := some ⟨variant, (nodeRef t).spell, (nodeRef t).spell⟩ } := by
  -- The type stands twice, in the head of the item and in that of the method.
  have hfits : fits conversionForm [(nodeRef t).spell] = true :=
    congrArg (· && true && true) hp.all_ne_closer
  have hfrom : fits fromForm [(nodeRef t).spell] = true :=
    congrArg (· && true && true) (hp.flat.nodeRef.all_ne_closing .paren)
  have hfront : Front endsItem (conversionFront ++ (t.spell ++ conversionRest)) _ :=
    (Front.inline rfl).append ((front_path hp.all).append (.inline rfl))
  obtain ⟨body, hspell, hb, hanswer⟩ : ∃ body, conversionItem variant t = .implementation _ _ _
      [.function [] .inherited (Signature.plain "from" [FnParam.named "node" (nodeRef t)]
        (some (Ty.named "Self"))) body] ∧ Balances (spellStmts body) ∧
      itemPieces (spellStmts body) = [⟨fill wrapForm [[.ident variant]], none⟩] :=
    ⟨_, rfl, fun _ _ => rfl, rfl⟩
  have hmethod := isPiece_fromFn hp hb
  have hitem : IsPiece endsItem (conversionItem variant t).spell
      ⟨fill conversionForm [(nodeRef t).spell], _⟩ :=
    hspell ▸ isPiece_traitImplementation (spell_conversionHead hp) hfront
      (balances_item hmethod.balances)
  refine readsHandlers_of_isPiece hitem (variants?_eq_none rfl) (labels?_eq_none rfl) ?_
    (trait?_eq_none rfl)
  unfold conversion?
  simp only [Piece.block?_fill handlersForms.conversion _ hfits, itemPieces_single hmethod,
    Piece.block?_fill handlersForms.fromNode _ hfrom, hanswer,
    Piece.line?_fill handlersForms.wrap [[.ident variant]] rfl, Option.bind_eq_bind,
    Option.bind_some]
  rfl

theorem isPiece_handlerFn (method : String) (ht : Flat t.spell) {body : List Stmt}
    (hb : Balances (spellStmts body)) :
    IsPiece endsItem (Item.function [] .inherited (handlerSignature method t) body).spell
      ⟨fill methodForm [[.ident method], t.spell], some (spellStmts body)⟩ := by
  have hout : Front endsItem (spellOutput (some (Ty.named "bool"))) _ := .inline rfl
  rw [← spell_handlerSignature]
  exact isPiece_function method (by simp) (by simp) (Or.inr rfl) (balances_nodeParams ht) hout hb

theorem reads_contractItems {doc : Attribute} (hd : Balances doc.inside)
    (ho : doc.isInner = false) (traitName method : String) (ht : Flat t.spell) :
    AllPieces endsItem (fun p => some (HandlersPart.of p)) Item.spell
      (contractItems doc traitName method t)
      [{ trait := some (traitName, [⟨method, t.spell⟩]) }, .nothing] := by
  have hhead := reads_handlerHead method ht
  have htrait : IsPiece endsItem (Item.trait [doc] .pub [] traitName Generics.empty [] _).spell
      ⟨fill traitForm [[.ident traitName]], _⟩ :=
    isPiece_trait (List.forall_mem_singleton.2 hd) (List.forall_mem_singleton.2 ho)
      (balances_item hhead.balances)
  have hfront : Front endsItem
      ([mark '<', .ident "F", mark '>', .ident traitName, .ident "for", .ident "F", .ident "where",
        .ident "F", mark ':', .ident "FnMut"] ++ (Token.grouped .paren t.spell ++
          (operator ['-', '>'] ++ [.ident "bool"]) ++ [mark ','])) _ :=
    (Front.inline rfl).append (((Front.grouped (d := .paren) (fun _ => rfl) ht.balances).append
      (.inline rfl)).append (.inline rfl))
  have hmethod : IsPiece endsItem (Item.function [] .inherited (handlerSignature method t)
      [Stmt.value (.call (Expr.name "self") [Expr.name "node"])]).spell _ :=
    isPiece_handlerFn method ht fun _ _ => rfl
  have hclosures : IsPiece endsItem (Item.implementation
      (.mk [.ofType "F" []] [.type none (Ty.named "F") [Bound.predicate "FnMut" t]])
      (some (Path.single traitName)) (Ty.named "F") _).spell ⟨_, _⟩ :=
    isPiece_traitImplementation rfl hfront (balances_item hmethod.balances)
  -- The trait is read; that closures implement it is of none of the forms.
  refine .cons ?_ (.single ?_)
  · refine readsHandlers_of_isPiece htrait (variants?_eq_none rfl) (labels?_eq_none rfl)
      (conversion?_eq_none rfl) ?_
    unfold trait?
    simp only [Piece.block?_fill handlersForms.trait [[.ident traitName]] rfl, Option.bind_eq_bind,
      Option.bind_some, mapM_itemPieces (.single hhead)]
    rfl
  · exact readsHandlers_of_isPiece hclosures (variants?_eq_none rfl) (labels?_eq_none rfl)
      (conversion?_eq_none rfl) (trait?_eq_none rfl)

/-! ## The file -/

/-- The outline of the handlers file for kinds with given types. -/
def HandlersOutline.ofKinds (own : KindNames → Ty) (kinds : List KindNames) : HandlersOutline where
  variants := kinds.map (fun k => (k.name, (nodeRef (own k)).spell)) ++
    [("Other", (nodeRef anyTy).spell)]
  labels := kinds.map (fun k => (k.name, k.name)) ++ [("Other", "Other")]
  conversions := kinds.map fun k => ⟨k.name, (nodeRef (own k)).spell, (nodeRef (own k)).spell⟩
  traits := kinds.map (fun k => (k.handlerTrait, [⟨k.method, (Ty.ref (own k)).spell⟩])) ++
    [("DefaultHandler", [⟨"handle", anyNodeTy.spell⟩])]

/-- What is found in the items of the handlers file, in order. -/
def handlersParts (own : KindNames → Ty) (kinds : List KindNames) : List HandlersPart :=
  { variants := some (HandlersOutline.ofKinds own kinds).variants } ::
    { labels := some (HandlersOutline.ofKinds own kinds).labels } ::
    kinds.map (fun k =>
      { conversion := some ⟨k.name, (nodeRef (own k)).spell, (nodeRef (own k)).spell⟩ }) ++
    kinds.flatMap (fun k =>
      [{ trait := some (k.handlerTrait, [⟨k.method, (Ty.ref (own k)).spell⟩]) }, .nothing]) ++
    [{ trait := some ("DefaultHandler", [⟨"handle", anyNodeTy.spell⟩]) }, .nothing]

theorem map_handlersParts (ast : Path) (kinds : List KindNames)
    (hown : ∀ k, IsPathTy (ownTy ast k)) :
    (itemPieces (handlersTree ast kinds).spell).map HandlersPart.of =
      handlersParts (ownTy ast) kinds := by
  have hnode := reads_nodeItem (AllRead.of_map fun k (_ : k ∈ kinds) =>
    reads_nodeVariant k.name (hown k).flat)
  have hlabels := reads_labelItem (AllRead.of_map fun k (_ : k ∈ kinds) =>
    reads_labelArm k.name k.name)
  have hitems : AllPieces endsItem (fun p => some (HandlersPart.of p)) Item.spell
      (handlersTree ast kinds).items (handlersParts (ownTy ast) kinds) := by
    unfold handlersParts
    refine .append (.append (.cons hnode (.cons hlabels ?_)) ?_) ?_
    · exact AllRead.of_map fun k _ => reads_conversionItem k.name (hown k)
    · exact AllRead.of_flatMap fun k _ =>
        reads_contractItems (balances_docInside _) rfl k.handlerTrait k.method (hown k).flat.ref
    · exact reads_contractItems (balances_docInside _) rfl _ _ ⟨by decide⟩
  have hread := @mapM_filePieces _ _ _ allowUnused none _ _ rfl
    (balances_allowUnused _ (List.mem_singleton_self _)) hitems
  exact Option.some.inj (List.mapM_pure.symm.trans hread)

section Columns

variable (own : KindNames → Ty) (kinds : List KindNames)

theorem filterMap_variants : (handlersParts own kinds).filterMap (·.variants) =
    [(HandlersOutline.ofKinds own kinds).variants] := by
  simp [handlersParts, HandlersPart.nothing, List.filterMap_flatMap, List.flatMap_eq_nil_iff]

theorem filterMap_labels : (handlersParts own kinds).filterMap (·.labels) =
    [(HandlersOutline.ofKinds own kinds).labels] := by
  simp [handlersParts, HandlersPart.nothing, List.filterMap_flatMap, List.flatMap_eq_nil_iff]

theorem filterMap_conversion : (handlersParts own kinds).filterMap (·.conversion) =
    (HandlersOutline.ofKinds own kinds).conversions := by
  simp [handlersParts, HandlersPart.nothing, List.filterMap_flatMap, List.flatMap_eq_nil_iff,
    HandlersOutline.ofKinds]

theorem filterMap_trait : (handlersParts own kinds).filterMap (·.trait) =
    (HandlersOutline.ofKinds own kinds).traits := by
  simp [handlersParts, HandlersPart.nothing, List.filterMap_flatMap, List.map_eq_flatMap,
    HandlersOutline.ofKinds]

end Columns

/-- What is read in the members of a list is read in what stands for them. -/
theorem filterMap_eq_of_map {α β γ : Type} {as : List α} {bs : List β} {f : α → β}
    (h : as.map f = bs) (r : α → Option γ) (column : β → Option γ) (hr : ∀ a, r a = column (f a)) :
    as.filterMap r = bs.filterMap column := by
  rw [← h, List.filterMap_map]
  exact congrArg (List.filterMap · as) (funext hr)

/-- **The outline of the handlers file** is read off its tokens. -/
theorem read?_handlersTree (ast : Path) (kinds : List KindNames)
    (hown : ∀ k, IsPathTy (ownTy ast k)) :
    HandlersOutline.read? (handlersTree ast kinds).spell = some (.ofKinds (ownTy ast) kinds) := by
  have hparts := map_handlersParts ast kinds hown
  unfold HandlersOutline.read?
  rw [filterMap_eq_of_map hparts variants? (·.variants) fun _ => rfl,
    filterMap_eq_of_map hparts labels? (·.labels) fun _ => rfl,
    filterMap_eq_of_map hparts conversion? (·.conversion) fun _ => rfl,
    filterMap_eq_of_map hparts trait? (·.trait) fun _ => rfl, filterMap_variants, filterMap_labels,
    filterMap_conversion, filterMap_trait]
  rfl

end DispatchLayer.Emission
