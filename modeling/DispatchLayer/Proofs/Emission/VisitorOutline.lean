import DispatchLayer.Proofs.Emission.HandlersOutline

/-!
# The outline of the visitor file

What the readers find in the tokens of the visitor file, item by item and, for the visitor itself,
method by method (`VisitorPart`, `MethodPart`), and from it the outline of the whole file
(`read?_visitorTree`).
-/

namespace DispatchLayer.Emission

open Code Token

variable {slot traitName : String} {t : Ty}

/-! ## The tokens of the forms -/

def forwardForm : List Token :=
  [mark '<', .ident "T", .ident "as", mark '$', mark '>', .punct ':' .joint, mark ':', mark '$',
    .opening .paren, mark '&', .ident "mut", mark '*', .ident "self", mark '.', .literal "0",
    mark '.', .ident "borrow_mut", .opening .paren, .closing .paren, mark ',', .ident "node",
    .closing .paren]

def sharedForm : List Token :=
  [.ident "impl", mark '<', .ident "T", mark ':', mark '$', mark '>', mark '$', .ident "for",
    .ident "Shared", mark '<', .ident "T", mark '>']

def slotForm : List Token := [mark '$', mark ':', mark '$']

def visitorForm : List Token :=
  [.ident "pub", .ident "struct", .ident "Visitor", mark '<', .punct '\'' .joint, .ident "h",
    mark '>']

def methodsForm : List Token :=
  [.ident "impl", mark '<', .punct '\'' .joint, .ident "h", mark '>', .ident "Visitor", mark '<',
    .punct '\'' .joint, .ident "h", mark '>']

def registerForm : List Token :=
  [.ident "pub", .ident "fn", mark '$', .opening .paren, mark '&', .ident "mut", .ident "self",
    mark ',', .ident "handler", mark ':', mark '$', .closing .paren, .punct '-' .joint, mark '>',
    mark '&', .ident "mut", .ident "Self"]

def assignForm : List Token :=
  [.ident "self", mark '.', mark '$', mark '=', .ident "Some", .opening .paren, .ident "Box",
    .punct ':' .joint, mark ':', .ident "new", .opening .paren, .ident "handler", .closing .paren,
    .closing .paren]

def answerForm : List Token := [.ident "self"]

def testForm : List Token :=
  [.ident "self", mark '.', mark '$', mark '.', .ident "is_some", .opening .paren, .closing .paren]

def noForm : List Token := [.ident "false"]

def presenceForm : List Token :=
  [.ident "pub", .ident "fn", .ident "has_handler_for", .opening .paren, mark '&', .ident "self",
    mark ',', .ident "node", mark ':', .ident "Node", mark '<', .punct '\'' .joint, .ident "_",
    mark '>', .closing .paren, .punct '-' .joint, mark '>', .ident "bool"]

def specificForm : List Token :=
  [.ident "let", .ident "specific", mark '=', .ident "match", .ident "node"]

def eitherForm : List Token :=
  [.ident "specific", .punct '|' .joint, mark '|', .ident "self", mark '.', mark '$', mark '.',
    .ident "is_some", .opening .paren, .closing .paren]

def conditionForm : List Token :=
  [.ident "if", .ident "let", .ident "Some", .opening .paren, .ident "h", .closing .paren, mark '=',
    .ident "self", mark '.', mark '$', mark '.', .ident "as_deref_mut", .opening .paren,
    .closing .paren]

def returnedForm : List Token :=
  [.ident "return", .ident "Continuation", .punct ':' .joint, mark ':', .ident "from",
    .opening .paren, .ident "h", mark '.', mark '$', .opening .paren, .ident "n", .closing .paren,
    .closing .paren]

def ownArmForm : List Token :=
  [.ident "Node", .punct ':' .joint, mark ':', mark '$', .opening .paren, .ident "n",
    .closing .paren, .punct '=' .joint, mark '>']

def otherArmForm : List Token :=
  [.ident "Node", .punct ':' .joint, mark ':', mark '$', .opening .paren, .ident "_",
    .closing .paren, .punct '=' .joint, mark '>']

def visitForm : List Token :=
  [.ident "pub", .ident "fn", .ident "visit", .opening .paren, mark '&', .ident "mut",
    .ident "self", mark ',', .ident "node", mark ':', .ident "Node", mark '<', .punct '\'' .joint,
    .ident "_", mark '>', .closing .paren, .punct '-' .joint, mark '>', .ident "Continuation"]

def nodeMatchForm : List Token := [.ident "match", .ident "node"]

def slotMatchForm : List Token :=
  [.ident "match", .ident "self", mark '.', mark '$', mark '.', .ident "as_deref_mut",
    .opening .paren, .closing .paren]

def handledForm : List Token :=
  [.ident "Some", .opening .paren, .ident "h", .closing .paren, .punct '=' .joint, mark '>',
    .ident "Continuation", .punct ':' .joint, mark ':', .ident "from", .opening .paren, .ident "h",
    mark '.', mark '$', .opening .paren, .ident "node", .closing .paren, .closing .paren]

def unhandledForm : List Token :=
  [.ident "None", .punct '=' .joint, mark '>', .ident "Continuation", .punct ':' .joint, mark ':',
    .ident "Continue"]

/-- The texts of the forms have these tokens. -/
structure VisitorForms : Prop where
  forward : Token.ofText? "<T as $ > :: $ (&mut *self.0.borrow_mut(), node)" = some forwardForm
  shared : Token.ofText? "impl<T: $ > $ for Shared<T>" = some sharedForm
  slot : Token.ofText? "$ : $" = some slotForm
  visitor : Token.ofText? "pub struct Visitor< 'h>" = some visitorForm
  methods : Token.ofText? "impl< 'h> Visitor< 'h>" = some methodsForm
  register : Token.ofText? "pub fn $ (&mut self, handler: $ ) -> &mut Self" = some registerForm
  assign : Token.ofText? "self. $ = Some(Box::new(handler))" = some assignForm
  answer : Token.ofText? "self" = some answerForm
  test : Token.ofText? "self. $ .is_some()" = some testForm
  no : Token.ofText? "false" = some noForm
  presence : Token.ofText? "pub fn has_handler_for(&self, node: Node< '_>) -> bool" =
    some presenceForm
  specific : Token.ofText? "let specific = match node" = some specificForm
  nothing : Token.ofText? "" = some []
  either : Token.ofText? "specific || self. $ .is_some()" = some eitherForm
  condition : Token.ofText? "if let Some(h) = self. $ .as_deref_mut()" = some conditionForm
  returned : Token.ofText? "return Continuation::from(h. $ (n))" = some returnedForm
  ownArm : Token.ofText? "Node:: $ (n) =>" = some ownArmForm
  otherArm : Token.ofText? "Node:: $ (_) =>" = some otherArmForm
  visit : Token.ofText? "pub fn visit(&mut self, node: Node< '_>) -> Continuation" = some visitForm
  nodeMatch : Token.ofText? "match node" = some nodeMatchForm
  slotMatch : Token.ofText? "match self. $ .as_deref_mut()" = some slotMatchForm
  handled : Token.ofText? "Some(h) => Continuation::from(h. $ (node))" = some handledForm
  unhandled : Token.ofText? "None => Continuation::Continue" = some unhandledForm

theorem visitorForms : VisitorForms := by
  constructor
  all_goals decide +kernel

/-! ## Items -/

/-- What the readers of methods find in a piece. -/
structure MethodPart where
  registration : Option (String × Registration) := none
  presence : Option (Distinction String) := none
  dispatch : Option (Distinction SlotCall) := none

def MethodPart.nothing : MethodPart := ⟨none, none, none⟩

def MethodPart.of (p : Piece) : MethodPart := ⟨registration? p, presence? p, dispatch? p⟩

/-- What the readers of the visitor file find in a piece. -/
structure VisitorPart where
  shared : Option (String × List Method) := none
  slots : Option (List (String × List Token)) := none
  methods : Option (List MethodPart) := none

/-- A piece that is none of these. -/
def VisitorPart.nothing : VisitorPart := ⟨none, none, none⟩

def VisitorPart.of (p : Piece) : VisitorPart :=
  ⟨shared? p, slots? p, (visitorMethods? p).map fun ms => ms.map MethodPart.of⟩

section Absent

variable {p : Piece}

theorem shared?_eq_none (h : captures sharedForm p.line = none) : shared? p = none :=
  Piece.bind_block?_eq_none visitorForms.shared h

theorem slots?_eq_none (h : captures visitorForm p.line = none) : slots? p = none :=
  Piece.bind_block?_eq_none visitorForms.visitor h

theorem visitorMethods?_eq_none (h : captures methodsForm p.line = none) :
    visitorMethods? p = none :=
  Piece.bind_block?_eq_none visitorForms.methods h

theorem registration?_eq_none (h : captures registerForm p.line = none) : registration? p = none :=
  Piece.bind_block?_eq_none visitorForms.register h

theorem presence?_eq_none (h : captures presenceForm p.line = none) : presence? p = none :=
  Piece.bind_block?_eq_none visitorForms.presence h

theorem dispatch?_eq_none (h : captures visitForm p.line = none) : dispatch? p = none :=
  Piece.bind_block?_eq_none visitorForms.visit h

end Absent

/-- The tokens are an item in which the readers find this. -/
abbrev ReadsVisitor (ts : List Token) (part : VisitorPart) : Prop :=
  PieceReads endsItem (fun p => some (VisitorPart.of p)) ts part

/-- The tokens are a method in which the readers find this. -/
abbrev ReadsMethod (ts : List Token) (part : MethodPart) : Prop :=
  PieceReads endsItem (fun p => some (MethodPart.of p)) ts part

theorem readsMethod_of_isPiece {ts : List Token} {p : Piece} {part : MethodPart}
    (h : IsPiece endsItem ts p) (hr : registration? p = part.registration)
    (hp : presence? p = part.presence) (hd : dispatch? p = part.dispatch) :
    ReadsMethod ts part := by
  refine h.reads (congrArg some ?_)
  unfold MethodPart.of
  rw [hr, hp, hd]

theorem readsVisitor_of_isPiece {ts : List Token} {p : Piece} {part : VisitorPart}
    (h : IsPiece endsItem ts p) (hs : shared? p = part.shared) (hf : slots? p = part.slots)
    (hm : (visitorMethods? p).map (fun ms => ms.map MethodPart.of) = part.methods) :
    ReadsVisitor ts part := by
  refine h.reads (congrArg some ?_)
  unfold VisitorPart.of
  rw [hs, hf, hm]

/-- An item of another form than those of the readers. -/
theorem readsVisitor_nothing {ts : List Token} {p : Piece} (h : IsPiece endsItem ts p)
    (hs : captures sharedForm p.line = none) (hf : captures visitorForm p.line = none)
    (hm : captures methodsForm p.line = none) : ReadsVisitor ts .nothing := by
  refine readsVisitor_of_isPiece h (shared?_eq_none hs) (slots?_eq_none hf) ?_
  rw [visitorMethods?_eq_none hm]
  rfl

/-! ## Shared handlers -/

/-- The body with which a shared handler hands a node on. -/
theorem reads_forwarding (traitName method : String) (ht : Flat t.spell) {body : List Stmt}
    (hb : Balances (spellStmts body))
    (hanswer : itemPieces (spellStmts body) =
      [⟨fill forwardForm [[.ident traitName], [.ident method]], none⟩]) :
    PieceReads endsItem (forwarding? traitName)
      (Item.function [] .inherited (handlerSignature method t) body).spell ⟨method, t.spell⟩ := by
  refine (isPiece_handlerFn method ht hb).reads ?_
  unfold forwarding?
  simp only [Piece.block?_fill handlersForms.method _ (fits_methodForm method ht), hanswer,
    Piece.line?_fill visitorForms.forward [[.ident traitName], [.ident method]] rfl,
    Option.bind_eq_bind, Option.bind_some]
  exact if_pos (And.intro trivial trivial)

theorem fits_sharedForm (hfor : traitName ≠ "for") :
    fits sharedForm [[.ident traitName], [.ident traitName]] = true := by
  have hne : some (Token.ident "for") ≠ some (.ident traitName) := by
    intro h
    cases h
    exact hfor rfl
  show (decide (some (Token.ident "for") ≠ some (.ident traitName)) && true && true && true) = true
  rw [decide_eq_true hne]
  rfl

theorem reads_sharedImpl (hfor : traitName ≠ "for") (method : String) (ht : Flat t.spell) :
    ReadsVisitor (sharedImpl traitName method t).spell
      { shared := some (traitName, [⟨method, t.spell⟩]) } := by
  obtain ⟨body, hspell, hb, hanswer⟩ : ∃ body, sharedImpl traitName method t =
      .implementation (Generics.ofParams [.ofType "T" [Bound.ofName traitName]])
        (some (Path.single traitName)) sharedTy
        [.function [] .inherited (handlerSignature method t) body] ∧
      Balances (spellStmts body) ∧ itemPieces (spellStmts body) =
        [⟨fill forwardForm [[.ident traitName], [.ident method]], none⟩] :=
    ⟨_, rfl, fun _ _ => rfl, rfl⟩
  have hmethod := reads_forwarding traitName method ht hb hanswer
  have hfront : Front endsItem [mark '<', .ident "T", mark ':', .ident traitName, mark '>',
      .ident traitName, .ident "for", .ident "Shared", mark '<', .ident "T", mark '>'] _ :=
    .inline rfl
  have hitem : IsPiece endsItem (Item.implementation
      (Generics.ofParams [.ofType "T" [Bound.ofName traitName]]) (some (Path.single traitName))
        sharedTy _).spell ⟨fill sharedForm [[.ident traitName], [.ident traitName]], _⟩ :=
    isPiece_traitImplementation rfl hfront (balances_item hmethod.balances)
  rw [hspell]
  refine readsVisitor_of_isPiece hitem ?_ (slots?_eq_none rfl)
    (congrArg _ (visitorMethods?_eq_none rfl))
  unfold shared?
  simp only [Piece.block?_fill visitorForms.shared _ (fits_sharedForm hfor),
    mapM_itemPieces (.single hmethod), Option.bind_eq_bind, Option.bind_some]
  exact if_pos trivial

/-! ## Fields -/

/-- The type of a field for handlers of a trait. -/
def slotTy (traitName : String) : Ty :=
  Ty.applied "Option" [.type (Ty.applied "Box"
    [.type (.object [Bound.ofName traitName, .lifetime handlerLifetime])])]

theorem reads_slotField (slot traitName : String) :
    PieceReads isComma slot? ((slotField slot traitName).spell ++ [mark ','])
      (slot, (slotTy traitName).spell) := by
  have hpiece : IsPiece isComma ((slotField slot traitName).spell ++ [mark ','])
      ⟨fill slotForm [[.ident slot], (slotTy traitName).spell], none⟩ :=
    isPiece_line (Or.inl rfl) (.inline rfl) (fun _ => rfl) rfl
  refine hpiece.reads ?_
  unfold slot?
  rw [Piece.line?_fill visitorForms.slot [[.ident slot], (slotTy traitName).spell] rfl]
  rfl

theorem reads_visitorItem {slots : List Field} {read : List (String × List Token)}
    (h : AllPieces isComma slot? (fun f => f.spell ++ [mark ',']) slots read) :
    ReadsVisitor (visitorItem slots).spell
      { slots := some (read ++ [("h_default", (slotTy "DefaultHandler").spell)]) } := by
  have hall := h.append (.single (reads_slotField Naming.defaultSlot Naming.defaultTrait))
  have hb := hall.balances
  rw [← spellNamedFields_eq_flatMap] at hb
  have hitem : IsPiece endsItem (visitorItem slots).spell ⟨fill visitorForm [],
      some (spellNamedFields (slots ++ [slotField Naming.defaultSlot Naming.defaultTrait]))⟩ :=
    isPiece_struct (forall_mem_snoc (balances_docs [_, _, _, _]) (balances_deriveInside _))
      (.inline rfl) hb
  refine readsVisitor_of_isPiece hitem (shared?_eq_none rfl) ?_
    (congrArg _ (visitorMethods?_eq_none rfl))
  unfold slots?
  simp only [Piece.block?_fill visitorForms.visitor [] rfl, Option.bind_eq_bind, Option.bind_some]
  exact mapM_fieldPieces hall

/-! ## Registration -/

/-- The type of a handler that is registered for a trait. -/
def handlerTy (traitName : String) : Ty :=
  .impl [Bound.ofName traitName, .lifetime handlerLifetime]

/-- The method has the name of the other one, or another name; its parameters are others. -/
theorem presence?_registerForm (name : String) (ts inside : List Token) :
    presence? ⟨fill registerForm [[.ident name], ts], some inside⟩ = none :=
  presence?_eq_none
    (captures_cons_eq_none rfl (captures_cons_eq_none rfl (captures_cons_eq_none rfl rfl)))

theorem dispatch?_registerForm (name : String) (ts inside : List Token) :
    dispatch? ⟨fill registerForm [[.ident name], ts], some inside⟩ = none :=
  dispatch?_eq_none
    (captures_cons_eq_none rfl (captures_cons_eq_none rfl (captures_cons_eq_none rfl rfl)))

theorem reads_registerFn {doc : Attribute} (hd : Balances doc.inside) (ho : doc.isInner = false)
    (hm : spellMember slot = .ident slot) (name traitName : String) :
    ReadsMethod (registerFn doc name slot traitName).spell
      { registration := some (name, ⟨(handlerTy traitName).spell, slot⟩) } := by
  obtain ⟨body, hspell, hbody⟩ : ∃ body, registerFn doc name slot traitName =
      .function [doc] .pub (Signature.plain name
        [FnParam.selfMut, FnParam.named "handler" (handlerTy traitName)]
        (some (.reference none true (Ty.named "Self")))) body ∧
      spellStmts body = fill assignForm [[.ident slot]] ++ [mark ';', .ident "self"] :=
    ⟨_, rfl, congrArg (fun m => fill assignForm [[m]] ++ [mark ';', .ident "self"]) hm⟩
  -- A field is spelled as a member, which is the name itself where that is a name of source.
  have hb : Balances (spellStmts body) := hbody ▸ fun _ _ => rfl
  have heffects : itemPieces (spellStmts body) =
      [⟨fill assignForm [[.ident slot]], none⟩, ⟨fill answerForm [], none⟩] := by
    rw [hbody]
    rfl
  have hitem : IsPiece endsItem (Item.function [doc] .pub (Signature.plain name
      [FnParam.selfMut, FnParam.named "handler" (handlerTy traitName)]
      (some (.reference none true (Ty.named "Self")))) body).spell
      ⟨fill registerForm [[.ident name], (handlerTy traitName).spell], some (spellStmts body)⟩ :=
    isPiece_function name (List.forall_mem_singleton.2 hd) (List.forall_mem_singleton.2 ho)
      (Or.inl rfl) (fun _ _ => rfl) (.inline rfl) hb
  rw [hspell]
  refine readsMethod_of_isPiece hitem ?_ (presence?_registerForm name _ _)
    (dispatch?_registerForm name _ _)
  unfold registration?
  simp only [heffects,
    Piece.block?_fill visitorForms.register [[.ident name], (handlerTy traitName).spell] rfl,
    Piece.line?_fill visitorForms.assign [[.ident slot]] rfl,
    Piece.line?_fill visitorForms.answer [] rfl, Option.bind_eq_bind, Option.bind_some]
  rfl

/-! ## Presence -/

theorem reads_presenceArm (variant : String) (hm : spellMember slot = .ident slot) :
    PieceReads endsArm presenceArm? (spellArms [presenceArm variant slot])
      (variant, some slot) := by
  have hfront : Front endsArm (fill armForm [[.ident variant], fill testForm [[.ident slot]]]) _ :=
    .of_trees (fun _ _ => rfl) rfl rfl
  have hline : (Pat.wrap ["Node", variant] .wild).spell ++ operator ['=', '>'] ++
      ((Expr.selfField slot).invoke "is_some" []).spell =
        fill armForm [[.ident variant], fill testForm [[.ident slot]]] :=
    congrArg (fun m => fill armForm [[.ident variant], fill testForm [[m]]]) hm
  have harm := isPiece_arm (hline ▸ hfront) (fun _ => rfl) rfl
  rw [hline] at harm
  refine harm.reads ?_
  unfold presenceArm? test?
  simp only [capturesOf_fill visitorForms.test [[.ident slot]] rfl,
    Piece.line?_fill handlersForms.arm [[.ident variant], fill testForm [[.ident slot]]] rfl,
    Option.bind_eq_bind, Option.bind_some]
  rfl

/-- The arm of `has_handler_for` for nodes without a kind. -/
def absentArm (variant : String) : Arm :=
  Arm.plain (Pat.wrap ["Node", variant] .wild) (Expr.name "false")

theorem reads_absentArm (variant : String) :
    PieceReads endsArm presenceArm? (spellArms [absentArm variant]) (variant, none) := by
  have harm : IsPiece endsArm (spellArms [absentArm variant])
      ⟨fill armForm [[.ident variant], noForm], none⟩ :=
    isPiece_arm (.of_trees (fun _ _ => rfl) rfl rfl) (fun _ => rfl) rfl
  have htest : capturesOf "self. $ .is_some()" noForm = none :=
    (capturesOf_eq visitorForms.test noForm).trans rfl
  have hno : capturesOf "false" noForm = some [] := capturesOf_fill visitorForms.no [] rfl
  refine harm.reads ?_
  unfold presenceArm? test?
  simp only [Piece.line?_fill handlersForms.arm [[.ident variant], noForm] rfl, htest, hno,
    Option.bind_eq_bind, Option.bind_some]
  rfl

/-- The body of `has_handler_for`. -/
def presenceBody (arms : List Arm) : List Stmt :=
  [Stmt.bind "specific" (.matchOn (Expr.name "node") [] arms),
    Stmt.value (.binary "||" (Expr.name "specific")
      ((Expr.selfField Naming.defaultSlot).invoke "is_some" []))]

theorem spell_presenceBody (arms : List Arm) :
    spellStmts (presenceBody arms) = specificForm ++ grouped .brace (spellArms arms) ++
      mark ';' :: fill eitherForm [[.ident "h_default"]] := by
  have hnil := List.append_nil (specificForm ++ grouped .brace (spellArms arms))
  exact congrArg (· ++ mark ';' :: fill eitherForm [[.ident "h_default"]]) hnil

theorem reads_hasHandlerFn {arms : List Arm} {read : List (String × Option String)}
    (h : AllPieces endsArm presenceArm? (fun a => spellArms [a]) arms read) :
    ReadsMethod (hasHandlerFn arms).spell
      { presence := some ⟨read ++ [("Other", none)], "h_default"⟩ } := by
  have hall := h.append (.single (reads_absentArm Naming.otherVariant))
  have hdistinction : IsPiece endsItem
      (specificForm ++ grouped .brace (spellArms (arms ++ [absentArm Naming.otherVariant])))
      ⟨fill specificForm [], some (spellArms (arms ++ [absentArm Naming.otherVariant]))⟩ :=
    isPiece_block (.inline rfl) (balances_arms hall) (fun _ => rfl) rfl
  have hbody := spell_presenceBody (arms ++ [absentArm Naming.otherVariant])
  have hrest : Balances (mark ';' :: fill eitherForm [[.ident "h_default"]]) := fun _ _ => rfl
  -- The braces end a piece, so the semicolon behind them is one of its own.
  have hparts : itemPieces (spellStmts (presenceBody (arms ++ [absentArm Naming.otherVariant]))) =
      [⟨fill specificForm [], some (spellArms (arms ++ [absentArm Naming.otherVariant]))⟩,
        ⟨fill [] [], none⟩, ⟨fill eitherForm [[.ident "h_default"]], none⟩] := by
    rw [hbody]
    exact pieces_append hdistinction _
  have hmethod : IsPiece endsItem (hasHandlerFn arms).spell ⟨fill presenceForm [],
      some (spellStmts (presenceBody (arms ++ [absentArm Naming.otherVariant])))⟩ :=
    isPiece_function "has_handler_for" (balances_docs [_]) (List.forall_mem_singleton.2 rfl)
      (Or.inl rfl) (fun _ _ => rfl) (.inline rfl) (hbody ▸ hdistinction.balances.append hrest)
  refine readsMethod_of_isPiece hmethod (registration?_eq_none rfl) ?_ (dispatch?_eq_none rfl)
  unfold presence?
  simp only [Piece.block?_fill visitorForms.presence [] rfl, hparts,
    Piece.block?_fill visitorForms.specific [] rfl, Piece.line?_fill visitorForms.nothing [] rfl,
    Piece.line?_fill visitorForms.either [[.ident "h_default"]] rfl, mapM_armPieces hall,
    Option.bind_eq_bind, Option.bind_some]
  rfl

/-! ## Dispatch -/

/-- What an arm of `visit` does for the nodes of a kind. -/
def ownBody (slot method : String) : List Stmt :=
  [Stmt.value (.ifThen
    (.letCondition (Pat.wrap ["Some"] (Pat.name "h"))
      ((Expr.selfField slot).invoke "as_deref_mut" []))
    [Stmt.effect (.returnWith (some (.call (Expr.names false ["Continuation", "from"])
      [(Expr.name "h").invoke method [Expr.name "n"]])))]
    none)]

theorem spell_ownBody (hm : spellMember slot = .ident slot) (method : String) :
    spellStmts (ownBody slot method) = fill conditionForm [[.ident slot]] ++
      grouped .brace (fill returnedForm [[.ident method]] ++ [mark ';']) :=
  congrArg (fun m => fill conditionForm [[m]] ++
    grouped .brace (fill returnedForm [[.ident method]] ++ [mark ';'])) hm

theorem reads_ownArm (variant method : String) (hm : spellMember slot = .ident slot) :
    PieceReads endsArm dispatchArm? (spellArms [dispatchArm variant slot method])
      (variant, some ⟨slot, method⟩) := by
  have hbody := spell_ownBody hm method
  have harm : IsPiece endsArm (spellArms [dispatchArm variant slot method])
      ⟨fill ownArmForm [[.ident variant]], some (spellStmts (ownBody slot method))⟩ :=
    isPiece_blockArm (.of_trees (fun _ _ => rfl) rfl rfl) (fun _ => rfl) (hbody ▸ fun _ _ => rfl)
  have hcondition : itemPieces (spellStmts (ownBody slot method)) =
      [⟨fill conditionForm [[.ident slot]],
        some (fill returnedForm [[.ident method]] ++ [mark ';'])⟩] := by
    rw [hbody]
    rfl
  have hcall : itemPieces (fill returnedForm [[.ident method]] ++ [mark ';']) =
      [⟨fill returnedForm [[.ident method]], none⟩] := rfl
  refine harm.reads ?_
  unfold dispatchArm? ownCall?
  simp only [Piece.block?_fill visitorForms.ownArm [[.ident variant]] rfl, hcondition, hcall,
    Piece.block?_fill visitorForms.condition [[.ident slot]] rfl,
    Piece.line?_fill visitorForms.returned [[.ident method]] rfl, Option.bind_eq_bind,
    Option.bind_some]
  rfl

/-- The arm of `visit` for nodes without a kind. -/
def idleArm (variant : String) : Arm :=
  Arm.plain (Pat.wrap ["Node", variant] .wild) (Expr.braces [])

theorem reads_idleArm (variant : String) :
    PieceReads endsArm dispatchArm? (spellArms [idleArm variant]) (variant, none) := by
  have harm : IsPiece endsArm (spellArms [idleArm variant])
      ⟨fill otherArmForm [[.ident variant]], some []⟩ :=
    isPiece_blockArm (.of_trees (fun _ _ => rfl) rfl rfl) (fun _ => rfl) .nil
  have hown : Piece.block? "Node:: $ (n) =>" ⟨fill otherArmForm [[.ident variant]], some []⟩ =
      none := Piece.block?_eq_none visitorForms.ownArm rfl
  refine harm.reads ?_
  unfold dispatchArm?
  simp only [hown, Piece.block?_fill visitorForms.otherArm [[.ident variant]] rfl,
    Option.bind_eq_bind, Option.bind_some]
  rfl

/-- What `visit` falls back on. -/
def fallbackArms : List Arm :=
  [Arm.plain (Pat.wrap ["Some"] (Pat.name "h"))
      (.call (Expr.names false ["Continuation", "from"])
        [(Expr.name "h").invoke Naming.defaultMethod [Expr.name "node"]]),
    Arm.plain (Pat.name "None") (answerExpr "Continue")]

theorem armPieces_fallbackArms : armPieces (spellArms fallbackArms) =
    [⟨fill handledForm [[.ident "handle"]], none⟩, ⟨fill unhandledForm [], none⟩] := rfl

/-- The body of `visit`. -/
def visitBody (arms : List Arm) : List Stmt :=
  [Stmt.value (.matchOn (Expr.name "node") [] arms),
    Stmt.value (.matchOn ((Expr.selfField Naming.defaultSlot).invoke "as_deref_mut" []) []
      fallbackArms)]

theorem reads_visitFn {arms : List Arm} {read : List (String × Option SlotCall)}
    (h : AllPieces endsArm dispatchArm? (fun a => spellArms [a]) arms read) :
    ReadsMethod (visitFn arms).spell
      { dispatch := some ⟨read ++ [("Other", none)], ⟨"h_default", "handle"⟩⟩ } := by
  have hall := h.append (.single (reads_idleArm Naming.otherVariant))
  have hdistinction : IsPiece endsItem
      (Expr.matchOn (Expr.name "node") [] (arms ++ [idleArm Naming.otherVariant])).spell
      ⟨fill nodeMatchForm [], some (spellArms (arms ++ [idleArm Naming.otherVariant]))⟩ :=
    isPiece_matchOn (.inline rfl) (balances_arms hall)
  have hfallback : IsPiece endsItem (Expr.matchOn
      ((Expr.selfField Naming.defaultSlot).invoke "as_deref_mut" []) [] fallbackArms).spell
      ⟨fill slotMatchForm [[.ident "h_default"]], some (spellArms fallbackArms)⟩ :=
    isPiece_matchOn (.of_trees (fun _ _ => rfl) rfl rfl) (fun _ _ => rfl)
  have hparts : itemPieces (spellStmts (visitBody (arms ++ [idleArm Naming.otherVariant]))) =
      [⟨fill nodeMatchForm [], some (spellArms (arms ++ [idleArm Naming.otherVariant]))⟩,
        ⟨fill slotMatchForm [[.ident "h_default"]], some (spellArms fallbackArms)⟩] := by
    unfold visitBody
    rw [itemPieces_value hdistinction, itemPieces_only hfallback]
  have hb : Balances (spellStmts (visitBody (arms ++ [idleArm Naming.otherVariant]))) :=
    (hdistinction.balances.append .nil).append (balances_value hfallback.balances)
  have hmethod : IsPiece endsItem (visitFn arms).spell ⟨fill visitForm [],
      some (spellStmts (visitBody (arms ++ [idleArm Naming.otherVariant])))⟩ :=
    isPiece_function "visit" (balances_docs [_]) (List.forall_mem_singleton.2 rfl)
      (Or.inl rfl) (fun _ _ => rfl) (.inline rfl) hb
  refine readsMethod_of_isPiece hmethod (registration?_eq_none rfl) (presence?_eq_none rfl) ?_
  unfold dispatch?
  simp only [Piece.block?_fill visitorForms.visit [] rfl, hparts,
    Piece.block?_fill visitorForms.nodeMatch [] rfl,
    Piece.block?_fill visitorForms.slotMatch [[.ident "h_default"]] rfl, armPieces_fallbackArms,
    Piece.line?_fill visitorForms.handled [[.ident "handle"]] rfl,
    Piece.line?_fill visitorForms.unhandled [] rfl, mapM_armPieces hall, Option.bind_eq_bind,
    Option.bind_some]
  rfl

/-! ## The visitor -/

theorem reads_methodsItem {registrations : List Item} {parts : List MethodPart}
    {presence dispatch : List Arm} {tests : List (String × Option String)}
    {calls : List (String × Option SlotCall)}
    (hr : AllPieces endsItem (fun p => some (MethodPart.of p)) Item.spell registrations parts)
    (hp : AllPieces endsArm presenceArm? (fun a => spellArms [a]) presence tests)
    (hd : AllPieces endsArm dispatchArm? (fun a => spellArms [a]) dispatch calls) :
    ReadsVisitor (methodsItem registrations presence dispatch).spell
      { methods := some (.nothing :: parts ++
        [{ registration := some ("on_default", ⟨(handlerTy "DefaultHandler").spell, "h_default"⟩) },
          { presence := some ⟨tests ++ [("Other", none)], "h_default"⟩ },
          { dispatch := some ⟨calls ++ [("Other", none)], ⟨"h_default", "handle"⟩⟩ }]) } := by
  have hnew : ReadsMethod newFn.spell .nothing := by
    have hpiece : IsPiece endsItem newFn.spell _ :=
      isPiece_function "new" (List.forall_mem_nil _) (List.forall_mem_nil _) (Or.inl rfl)
        (fun _ _ => rfl) (.inline rfl) (fun _ _ => rfl)
    exact readsMethod_of_isPiece hpiece (registration?_eq_none rfl) (presence?_eq_none rfl)
      (dispatch?_eq_none rfl)
  have hdefault : ReadsMethod defaultRegisterFn.spell _ :=
    reads_registerFn (balances_docInside _) rfl rfl Naming.defaultRegister Naming.defaultTrait
  have hmembers := AllRead.append (.cons hnew hr)
    (.cons hdefault (.cons (reads_hasHandlerFn hp) (.single (reads_visitFn hd))))
  have hb := hmembers.balances
  rw [← spellItems_eq_flatMap] at hb
  have hitem : IsPiece endsItem (methodsItem registrations presence dispatch).spell
      ⟨fill methodsForm [], some (spellItems (newFn :: registrations ++
        [defaultRegisterFn, hasHandlerFn presence, visitFn dispatch]))⟩ :=
    isPiece_ownImplementation (.inline rfl) hb
  refine readsVisitor_of_isPiece hitem (shared?_eq_none rfl) (slots?_eq_none rfl) ?_
  unfold visitorMethods?
  simp only [Piece.block?_fill visitorForms.methods [] rfl, Option.bind_eq_bind, Option.bind_some]
  exact List.mapM_pure.symm.trans (mapM_itemPieces hmembers)

/-- An item that is one piece, for another reader, and of another form. -/
theorem readsVisitor_of_readsAs {α : Type} {read : List TokenTree → Option α} {a : α}
    {ts : List Token} (h : ReadsAs endsItem read ts a)
    (hs : captures sharedForm (toPiece (trees ts)).line = none)
    (hf : captures visitorForm (toPiece (trees ts)).line = none)
    (hm : captures methodsForm (toPiece (trees ts)).line = none) : ReadsVisitor ts .nothing := by
  have hpiece : IsPiece endsItem ts (toPiece (trees ts)) := ⟨h.balances, h.one_part, rfl⟩
  exact readsVisitor_nothing hpiece hs hf hm

/-- Of the fixed items, none is of a form that is read. -/
theorem fixedItems_unread : ∀ i ∈ continuationItems ++ sharedItems,
    captures sharedForm (toPiece (trees i.spell)).line = none ∧
      captures visitorForm (toPiece (trees i.spell)).line = none ∧
      captures methodsForm (toPiece (trees i.spell)).line = none := by
  decide +kernel

/-! ## The file -/

/-- The outline of the visitor file for kinds with given types. -/
def VisitorOutline.ofKinds (own : KindNames → Ty) (kinds : List KindNames) : VisitorOutline where
  shared := kinds.map (fun k => (k.handlerTrait, [⟨k.method, (Ty.ref (own k)).spell⟩])) ++
    [("DefaultHandler", [⟨"handle", anyNodeTy.spell⟩])]
  slots := kinds.map (fun k => (k.slot, (slotTy k.handlerTrait).spell)) ++
    [("h_default", (slotTy "DefaultHandler").spell)]
  registrations :=
    kinds.map (fun k => (k.registerFn, ⟨(handlerTy k.handlerTrait).spell, k.slot⟩)) ++
      [("on_default", ⟨(handlerTy "DefaultHandler").spell, "h_default"⟩)]
  presence := ⟨kinds.map (fun k => (k.name, some k.slot)) ++ [("Other", none)], "h_default"⟩
  dispatch := ⟨kinds.map (fun k => (k.name, some ⟨k.slot, k.method⟩)) ++ [("Other", none)],
    ⟨"h_default", "handle"⟩⟩

/-- What is found in the methods of the visitor, in order. -/
def methodParts (own : KindNames → Ty) (kinds : List KindNames) : List MethodPart :=
  .nothing :: kinds.map (fun k =>
    { registration := some (k.registerFn, ⟨(handlerTy k.handlerTrait).spell, k.slot⟩) }) ++
    [{ registration := some ("on_default", ⟨(handlerTy "DefaultHandler").spell, "h_default"⟩) },
      { presence := some (VisitorOutline.ofKinds own kinds).presence },
      { dispatch := some (VisitorOutline.ofKinds own kinds).dispatch }]

/-- What is found in the items of the visitor file, in order. -/
def visitorParts (own : KindNames → Ty) (kinds : List KindNames) : List VisitorPart :=
  .nothing :: continuationItems.map (fun _ => .nothing) ++
    (sharedItems.map (fun _ => .nothing) ++
      kinds.map (fun k =>
        { shared := some (k.handlerTrait, [⟨k.method, (Ty.ref (own k)).spell⟩]) }) ++
      [{ shared := some ("DefaultHandler", [⟨"handle", anyNodeTy.spell⟩]) }]) ++
    [{ slots := some (VisitorOutline.ofKinds own kinds).slots },
      { methods := some (methodParts own kinds) }]

theorem reads_fixedItems {items : List Item} {ds : List Declaration}
    (h : AllRead endsItem readItem Item.spell items ds)
    (hsub : ∀ i ∈ items, i ∈ continuationItems ++ sharedItems) :
    AllPieces endsItem (fun p => some (VisitorPart.of p)) Item.spell items
      (items.map fun _ => .nothing) := by
  induction h with
  | nil => exact .nil
  | @cons i _ is _ hi _ ih =>
    obtain ⟨hmem, hrest⟩ := List.forall_mem_cons.1 hsub
    obtain ⟨hs, hf, hm⟩ := fixedItems_unread i hmem
    exact .cons (readsVisitor_of_readsAs hi hs hf hm) (ih hrest)

section File

variable (ast : Path) {kinds : List KindNames}

theorem map_visitorParts (hown : ∀ k, IsPathTy (ownTy ast k))
    (hfor : ∀ k ∈ kinds, k.handlerTrait ≠ "for")
    (hslot : ∀ k ∈ kinds, spellMember k.slot = .ident k.slot) :
    (itemPieces (visitorTree ast kinds).spell).map VisitorPart.of =
      visitorParts (ownTy ast) kinds := by
  have huse : ReadsVisitor (Item.use [] .inherited false
      (.path "super" (.path Naming.handlersModule .glob))).spell .nothing :=
    readsVisitor_of_readsAs readsAs_useHandlers rfl rfl rfl
  have hcontinuation := reads_fixedItems allRead_continuationItems
    fun i hi => List.mem_append_left sharedItems hi
  have hshared := reads_fixedItems allRead_sharedItems
    fun i hi => List.mem_append_right continuationItems hi
  have hfields := reads_visitorItem (AllRead.of_map fun k (_ : k ∈ kinds) =>
    reads_slotField k.slot k.handlerTrait)
  have hmethods := reads_methodsItem
    (AllRead.of_map fun k (hk : k ∈ kinds) =>
      @reads_registerFn _ (registerDoc k) (balances_docInside _) rfl (hslot k hk) k.registerFn
        k.handlerTrait)
    (AllRead.of_map fun k (hk : k ∈ kinds) => reads_presenceArm k.name (hslot k hk))
    (AllRead.of_map fun k (hk : k ∈ kinds) => reads_ownArm k.name k.method (hslot k hk))
  have hitems : AllPieces endsItem (fun p => some (VisitorPart.of p)) Item.spell
      (visitorTree ast kinds).items (visitorParts (ownTy ast) kinds) := by
    unfold visitorParts
    refine .append (.append (.cons huse hcontinuation) (.append (.append hshared ?_) (.single ?_)))
      (.cons hfields (.single hmethods))
    · exact AllRead.of_map fun k hk =>
        reads_sharedImpl (hfor k hk) k.method (hown k).flat.ref
    · exact reads_sharedImpl (by decide) _ ⟨by decide⟩
  have hread := @mapM_filePieces _ _ _ allowUnused none _ _ rfl
    (balances_allowUnused _ (List.mem_singleton_self _)) hitems
  exact Option.some.inj (List.mapM_pure.symm.trans hread)

end File

section Columns

variable (own : KindNames → Ty) (kinds : List KindNames)

theorem filterMap_shared : (visitorParts own kinds).filterMap (·.shared) =
    (VisitorOutline.ofKinds own kinds).shared := by
  simp [visitorParts, VisitorPart.nothing, VisitorOutline.ofKinds]

theorem filterMap_slots : (visitorParts own kinds).filterMap (·.slots) =
    [(VisitorOutline.ofKinds own kinds).slots] := by
  simp [visitorParts, VisitorPart.nothing]

theorem filterMap_methods : (visitorParts own kinds).filterMap (·.methods) =
    [methodParts own kinds] := by
  simp [visitorParts, VisitorPart.nothing]

theorem filterMap_registration : (methodParts own kinds).filterMap (·.registration) =
    (VisitorOutline.ofKinds own kinds).registrations := by
  simp [methodParts, MethodPart.nothing, VisitorOutline.ofKinds]

theorem filterMap_presence : (methodParts own kinds).filterMap (·.presence) =
    [(VisitorOutline.ofKinds own kinds).presence] := by
  simp [methodParts, MethodPart.nothing]

theorem filterMap_dispatch : (methodParts own kinds).filterMap (·.dispatch) =
    [(VisitorOutline.ofKinds own kinds).dispatch] := by
  simp [methodParts, MethodPart.nothing]

end Columns

/-- **The outline of the visitor file** is read off its tokens. -/
theorem read?_visitorTree (ast : Path) {kinds : List KindNames}
    (hown : ∀ k, IsPathTy (ownTy ast k)) (hfor : ∀ k ∈ kinds, k.handlerTrait ≠ "for")
    (hslot : ∀ k ∈ kinds, spellMember k.slot = .ident k.slot) :
    VisitorOutline.read? (visitorTree ast kinds).spell = some (.ofKinds (ownTy ast) kinds) := by
  have hparts := map_visitorParts ast hown hfor hslot
  -- The methods of the visitor are read in the braces of one of the items.
  have hmethods := filterMap_eq_of_map hparts
    (fun p => (visitorMethods? p).map fun ms => ms.map MethodPart.of) (·.methods) fun _ => rfl
  rw [filterMap_methods, ← List.map_filterMap, List.map_eq_singleton_iff] at hmethods
  obtain ⟨ms, hms, hmembers⟩ := hmethods
  unfold VisitorOutline.read?
  rw [hms, filterMap_eq_of_map hparts slots? (·.slots) fun _ => rfl,
    filterMap_eq_of_map hparts shared? (·.shared) fun _ => rfl, filterMap_slots, filterMap_shared]
  dsimp only
  rw [filterMap_eq_of_map hmembers registration? (·.registration) fun _ => rfl,
    filterMap_eq_of_map hmembers presence? (·.presence) fun _ => rfl,
    filterMap_eq_of_map hmembers dispatch? (·.dispatch) fun _ => rfl, filterMap_registration,
    filterMap_presence, filterMap_dispatch]
  rfl

end DispatchLayer.Emission
