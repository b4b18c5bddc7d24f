import DispatchLayer.Emission.Contract

/-!
# The visitor

The visitor holds at most one handler for each kind, and one for all nodes without a handler of
their own. Beside it stand the answer that a visit gives, and a handler that several slots can
share.

The names are checked in the order in which the parts are built: first those of the shared handler,
kind by kind, then the fields, and then the methods of the visitor.
-/

namespace DispatchLayer.Emission

open Code

/-! ## The answer of a visit -/

/-- One of the two answers. -/
def answerExpr (variant : String) : Expr := Expr.names false ["Continuation", variant]

/-- The type of answers, a test, and the conversion from the answer of a handler. -/
def continuationItems : List Item :=
  [.enum
      [Attribute.doc " Whether traversal should descend into a node's children.",
        Attribute.derive ["Debug", "Clone", "Copy", "PartialEq", "Eq"]]
      .pub "Continuation" Generics.empty
      [.mk [Attribute.doc " Descend into the node's children."] "Continue" .unit none,
        .mk [Attribute.doc " Skip the node's children."] "Stop" .unit none],
    .implementation Generics.empty none (Ty.named "Continuation")
      [.function [] .pub
        (Signature.plain "should_descend" [FnParam.selfValue] (some (Ty.named "bool")))
        [Stmt.value (.macroCall ⟨PlainPath.single "matches", .paren,
          .ident "self" :: Token.mark ',' :: (answerExpr "Continue").spell⟩)]],
    .implementation Generics.empty
      (some (Path.applied true ["core", "convert"] "From" [.type (Ty.named "bool")]))
      (Ty.named "Continuation")
      [.function [] .inherited
        (Signature.plain "from" [FnParam.named "descend" (Ty.named "bool")]
          (some (Ty.named "Self")))
        [Stmt.value (.ifThen (Expr.name "descend") [Stmt.value (answerExpr "Continue")]
          (some (Expr.braces [Stmt.value (answerExpr "Stop")])))]]]

/-! ## Shared handlers -/

/-- The type of shared handlers. -/
def sharedTy : Ty := Ty.applied "Shared" [.type (Ty.named "T")]

/-- A path into the module of cells. -/
def cellPath (name : String) (args : List GenericArg) : Ty :=
  Ty.ofPath (Path.applied true ["std", "cell"] name args)

/-- The value inside a shared handler. -/
def sharedInside : Expr := Expr.selfField "0"

/-- A method of shared handlers that borrows the value. -/
def borrowFn (name guardName : String) : Item :=
  .function [] .pub
    (Signature.plain name [FnParam.selfRef]
      (some (cellPath guardName [.lifetime "_", .type (Ty.named "T")])))
    [Stmt.value (sharedInside.invoke name [])]

/-- The type of shared handlers and what it offers of its own. -/
def sharedItems : List Item :=
  let rc : List String := ["std", "rc"]
  [.struct
      [Attribute.doc " A handler shared between several `Visitor` slots.",
        Attribute.doc "",
        Attribute.doc (" Clones point at the same handler, so a value implementing several " ++
          "handler traits can be registered"),
        Attribute.doc " once per trait and inspected after the walk."]
      .pub "Shared" (Generics.ofParams [.ofType "T" []])
      (.tuple [Field.positional (Ty.ofPath (Path.applied true rc "Rc"
        [.type (cellPath "RefCell" [.type (Ty.named "T")])]))]),
    .implementation (Generics.ofParams [.ofType "T" []]) none sharedTy
      [.function [] .pub
        (Signature.plain "new" [FnParam.named "handler" (Ty.named "T")] (some (Ty.named "Self")))
        [Stmt.value (.call (Expr.name "Shared")
          [.call (Expr.names true (rc ++ ["Rc", "new"]))
            [.call (Expr.names true ["std", "cell", "RefCell", "new"]) [Expr.name "handler"]]])],
        borrowFn "borrow" "Ref",
        borrowFn "borrow_mut" "RefMut"],
    .implementation (Generics.ofParams [.ofType "T" []])
      (some (Path.ofNames true ["core", "clone", "Clone"])) sharedTy
      [.function [] .inherited (Signature.plain "clone" [FnParam.selfRef] (some (Ty.named "Self")))
        [Stmt.value (.call (Expr.name "Shared")
          [.call (Expr.names true (rc ++ ["Rc", "clone"])) [.reference false sharedInside]])]]]

/-- A handler trait for shared handlers: the value inside is borrowed for the call. -/
def sharedImpl (traitName method : String) (t : Ty) : Item :=
  .implementation (Generics.ofParams [.ofType "T" [Bound.ofName traitName]])
    (some (Path.single traitName)) sharedTy
    [.function [] .inherited (handlerSignature method t)
      [Stmt.value (.call
        (.path (.qualified (Ty.named "T") (some (Path.single traitName)) [.name method]))
        [.reference true (.unary '*' (sharedInside.invoke "borrow_mut" [])),
          Expr.name "node"])]]

/-- The trait of a kind for shared handlers. -/
def kindSharedImpl (ast : Path) (k : KindNames) : Except NameError Item := do
  let traitName ← Name.make k.handlerTrait
  let method ← Name.make k.method
  return sharedImpl traitName method (Ty.ref (← kindTy ast k))

/-- Everything about shared handlers. -/
def sharedPart (ast : Path) (kinds : List KindNames) : Except NameError (List Item) := do
  let impls ← kinds.mapM (kindSharedImpl ast)
  return sharedItems ++ impls ++ [sharedImpl Naming.defaultTrait Naming.defaultMethod anyNodeTy]

/-! ## The fields -/

/-- The lifetime of registered handlers. -/
def handlerLifetime : String := "h"

/-- The field for a handler of a trait. -/
def slotField (slot traitName : String) : Field :=
  Field.named slot (Ty.applied "Option" [.type (Ty.applied "Box"
    [.type (.object [Bound.ofName traitName, .lifetime handlerLifetime])])])

/-- The field of a kind. -/
def kindSlot (k : KindNames) : Except NameError Field := do
  let slot ← Name.make k.slot
  return slotField slot (← Name.make k.handlerTrait)

/-- The visitor with given fields for the kinds. -/
def visitorItem (slots : List Field) : Item :=
  .struct
    [Attribute.doc " Routes nodes to the registered handlers.",
      Attribute.doc "",
      Attribute.doc (" Holds at most one handler per node kind plus a catch-all. " ++
        "A node without a kind-specific handler goes"),
      Attribute.doc " to the catch-all; with no catch-all either, traversal continues.",
      Attribute.derive ["Default"]]
    .pub "Visitor" (Generics.ofParams [.ofLifetime handlerLifetime])
    (.named (slots ++ [slotField Naming.defaultSlot Naming.defaultTrait]))

/-- The visitor. -/
def visitorStruct (kinds : List KindNames) : Except NameError Item := do
  let slots ← kinds.mapM kindSlot
  return visitorItem slots

/-! ## The methods -/

/-- The method that puts a handler into a field. -/
def registerFn (doc : Attribute) (name slot traitName : String) : Item :=
  .function [doc] .pub
    (Signature.plain name
      [FnParam.selfMut,
        FnParam.named "handler" (.impl [Bound.ofName traitName, .lifetime handlerLifetime])]
      (some (.reference none true (Ty.named "Self"))))
    [Stmt.effect (.assign (Expr.selfField slot)
      (.call (Expr.name "Some") [.call (Expr.names false ["Box", "new"]) [Expr.name "handler"]])),
      Stmt.value (Expr.name "self")]

/-- The registration method of a kind. -/
def kindRegisterFn (k : KindNames) : Except NameError Item := do
  let name ← Name.make k.registerFn
  let slot ← Name.make k.slot
  return registerFn
    (Attribute.docEscaped (" Register the `" ++ k.name ++ "` handler, replacing any previous one."))
    name slot (← Name.make k.handlerTrait)

/-- The arm of a variant that tells whether a slot is filled. -/
def presenceArm (variant slot : String) : Arm :=
  Arm.plain (Pat.wrap ["Node", variant] .wild) ((Expr.selfField slot).invoke "is_some" [])

/-- The arm that tells whether a kind has a handler. -/
def kindPresenceArm (k : KindNames) : Except NameError Arm := do
  let variant ← Name.make k.name
  return presenceArm variant (← Name.make k.slot)

/-- The arm of a variant that calls the handler in a slot, if there is one, and returns its
answer. -/
def dispatchArm (variant slot method : String) : Arm :=
  Arm.plain (Pat.wrap ["Node", variant] (Pat.name "n"))
    (Expr.braces [Stmt.value (.ifThen
      (.letCondition (Pat.wrap ["Some"] (Pat.name "h"))
        ((Expr.selfField slot).invoke "as_deref_mut" []))
      [Stmt.effect (.returnWith (some (.call (Expr.names false ["Continuation", "from"])
        [(Expr.name "h").invoke method [Expr.name "n"]])))]
      none)])

/-- The arm that calls the handler of a kind. -/
def kindDispatchArm (k : KindNames) : Except NameError Arm := do
  let variant ← Name.make k.name
  let slot ← Name.make k.slot
  return dispatchArm variant slot (← Name.make k.method)

/-- The test whether a visit would call a handler. -/
def hasHandlerFn (arms : List Arm) : Item :=
  .function [Attribute.doc " Whether `visit` would hand `node` to a handler."] .pub
    (Signature.plain "has_handler_for" [FnParam.selfRef, FnParam.named "node" anyNodeTy]
      (some (Ty.named "bool")))
    [Stmt.bind "specific" (.matchOn (Expr.name "node") []
      (arms ++ [Arm.plain (Pat.wrap ["Node", Naming.otherVariant] .wild) (Expr.name "false")])),
      Stmt.value (.binary "||" (Expr.name "specific")
        ((Expr.selfField Naming.defaultSlot).invoke "is_some" []))]

/-- The visit. -/
def visitFn (arms : List Arm) : Item :=
  .function [Attribute.doc " Dispatch `node` and report whether to descend into its children."] .pub
    (Signature.plain "visit" [FnParam.selfMut, FnParam.named "node" anyNodeTy]
      (some (Ty.named "Continuation")))
    [Stmt.value (.matchOn (Expr.name "node") []
      (arms ++ [Arm.plain (Pat.wrap ["Node", Naming.otherVariant] .wild) (Expr.braces [])])),
      Stmt.value (.matchOn ((Expr.selfField Naming.defaultSlot).invoke "as_deref_mut" []) []
        [Arm.plain (Pat.wrap ["Some"] (Pat.name "h"))
          (.call (Expr.names false ["Continuation", "from"])
            [(Expr.name "h").invoke Naming.defaultMethod [Expr.name "node"]]),
          Arm.plain (Pat.name "None") (answerExpr "Continue")])]

/-- The visitor without any handler. -/
def newFn : Item :=
  .function [] .pub (Signature.plain "new" [] (some (Ty.named "Self")))
    [Stmt.value (.call (Expr.names false ["Self", "default"]) [])]

/-- The registration method of the catch-all. -/
def defaultRegisterFn : Item :=
  registerFn (Attribute.doc " Register the catch-all handler, replacing any previous one.")
    Naming.defaultRegister Naming.defaultSlot Naming.defaultTrait

/-- The methods of the visitor, with given registration methods and arms for the kinds. -/
def methodsItem (registrations : List Item) (presence dispatch : List Arm) : Item :=
  .implementation (Generics.ofParams [.ofLifetime handlerLifetime]) none
    (Ty.applied "Visitor" [.lifetime handlerLifetime])
    (newFn :: registrations ++ [defaultRegisterFn, hasHandlerFn presence, visitFn dispatch])

/-- The methods of the visitor. -/
def visitorImpl (kinds : List KindNames) : Except NameError Item := do
  let registrations ← kinds.mapM kindRegisterFn
  let presence ← kinds.mapM kindPresenceArm
  let dispatch ← kinds.mapM kindDispatchArm
  return methodsItem registrations presence dispatch

/-- The file with the visitor. -/
def visitorFile (ast : Path) (kinds : List KindNames) : Except NameError SourceFile := do
  let shared ← sharedPart ast kinds
  let fields ← visitorStruct kinds
  let methods ← visitorImpl kinds
  return ⟨none, [allowUnused],
    .use [] .inherited false (.path "super" (.path Naming.handlersModule .glob)) ::
      continuationItems ++ shared ++ [fields, methods]⟩

end DispatchLayer.Emission
