import DispatchLayer.Emission.NodeType

/-!
# The handler traits

Every kind has a trait with one method, which is given a node and answers whether to descend into
its children; every closure of that shape implements it. After them comes the trait of the
catch-all, which is given nodes of any kind.
-/

namespace DispatchLayer.Emission

open Code

/-- The head of a handler's method. -/
def handlerSignature (method : String) (t : Ty) : Signature :=
  Signature.plain method [FnParam.selfMut, FnParam.named "node" t] (some (Ty.named "bool"))

/-- A handler trait and its implementation for closures. -/
def contractItems (doc : Attribute) (traitName method : String) (t : Ty) : List Item :=
  [.trait [doc] .pub [] traitName Generics.empty []
      [.fnHead [Attribute.doc " Return `false` to skip the node's children."] .inherited
        (handlerSignature method t)],
    .implementation
      (.mk [.ofType "F" []] [.type none (Ty.named "F") [Bound.predicate "FnMut" t]])
      (some (Path.single traitName)) (Ty.named "F")
      [.function [] .inherited (handlerSignature method t)
        [Stmt.value (.call (Expr.name "self") [Expr.name "node"])]]]

/-- The trait of a kind. -/
def kindContract (ast : Path) (k : KindNames) : Except NameError (List Item) := do
  let traitName ← Name.make k.handlerTrait
  let method ← Name.make k.method
  let t ← kindTy ast k
  return contractItems (Attribute.docEscaped (" Handles `" ++ k.name ++ "` nodes.")) traitName
    method (Ty.ref t)

/-- The trait of the catch-all. -/
def defaultContract : List Item :=
  contractItems (Attribute.doc " Handles nodes that have no kind-specific handler registered.")
    Naming.defaultTrait Naming.defaultMethod anyNodeTy

/-- The attribute that permits unused items. -/
def allowUnused : Attribute := 
  .list true (PlainPath.single "allow") .paren [.ident "dead_code"]

/-- The file with the node type and the handler traits. -/
def handlersFile (ast : Path) (kinds : List KindNames) : Except NameError SourceFile := do
  let node ← nodeEnum ast kinds
  let kindFn ← nodeKindFn kinds
  let conversions ← kinds.mapM (nodeFrom ast)
  let contracts ← kinds.mapM (kindContract ast)
  return ⟨none, [allowUnused],
    node :: kindFn :: conversions ++ contracts.flatten ++ defaultContract⟩

end DispatchLayer.Emission
