import DispatchLayer.Code.Build
import DispatchLayer.Code.Spelling
import DispatchLayer.Name
import DispatchLayer.Plan

/-!
# The node type

The enum `Node` has one variant for each kind, which borrows a value of the kind's own type, and a
last variant for all other nodes. With it come a function from nodes to the names of their kinds and
one conversion for each kind.

Every name is checked where it is used; the first string that spells no name ends the emission.
-/

namespace DispatchLayer.Emission

open Code

/-- The lifetime of nodes. -/
def nodeLifetime : String := "ast"

/-- The node type for a lifetime. -/
def nodeTy (life : String) : Ty := Ty.applied "Node" [.lifetime life]

/-- The node type where the lifetime does not matter. -/
def anyNodeTy : Ty := nodeTy "_"

/-- The type of a kind's own nodes. -/
def kindTy (ast : Path) (k : KindNames) : Except NameError Ty :=
  return Ty.ofPath (ast.extend (← Name.make k.name))

/-- A reference that lives as long as the node. -/
def nodeRef (t : Ty) : Ty := .reference (some nodeLifetime) false t

/-- A variant with one field. -/
def nodeVariant (name : String) (t : Ty) : Variant :=
  .mk [] name (.tuple [Field.positional (nodeRef t)]) none

/-- The variant of a kind. -/
def kindVariant (ast : Path) (k : KindNames) : Except NameError Variant := do
  let name ← Name.make k.name
  return nodeVariant name (← kindTy ast k)

/-- Any value at all, behind the trait object of the standard library. -/
def anyTy : Ty := .object [.trait false false none (Path.ofNames true ["std", "any", "Any"])]

/-- The enum with given variants for the kinds. -/
def nodeItem (variants : List Variant) : Item :=
  .enum
    [Attribute.doc " A syntax-tree node handed to `Visitor::visit`.",
      Attribute.doc "",
      Attribute.doc " Nodes whose kind has no variant of its own travel as `Other`.",
      Attribute.derive ["Clone", "Copy"]]
    .pub "Node" (Generics.ofParams [.ofLifetime nodeLifetime])
    (variants ++ [nodeVariant Naming.otherVariant anyTy])

/-- The node type. -/
def nodeEnum (ast : Path) (kinds : List KindNames) : Except NameError Item := do
  let variants ← kinds.mapM (kindVariant ast)
  return nodeItem variants

/-- The arm that answers with a variant's label. -/
def labelArm (variant label : String) : Arm :=
  Arm.plain (Pat.wrap ["Node", variant] .wild) (.literal (Text.stringLiteral label))

/-- The arm of a kind. -/
def kindLabelArm (k : KindNames) : Except NameError Arm :=
  return labelArm (← Name.make k.name) k.name

/-- The type `&'static str`. -/
def staticStr : Ty := .reference (some "static") false (Ty.named "str")

/-- The method with given arms for the kinds. -/
def labelItem (arms : List Arm) : Item :=
  let body := Expr.matchOn (Expr.name "self") []
    (arms ++ [labelArm Naming.otherVariant Naming.otherVariant])
  .implementation (Generics.ofParams [.ofLifetime nodeLifetime]) none (nodeTy nodeLifetime)
    [.function [Attribute.doc " Kind name of this node."] .pub
      (Signature.plain "kind" [FnParam.selfRef] (some staticStr)) [Stmt.value body]]

/-- The function from nodes to the names of their kinds. -/
def nodeKindFn (kinds : List KindNames) : Except NameError Item := do
  let arms ← kinds.mapM kindLabelArm
  return labelItem arms

/-- The conversion into a variant from nodes of a type. -/
def conversionItem (variant : String) (t : Ty) : Item :=
  .implementation (Generics.ofParams [.ofLifetime nodeLifetime])
    (some (Path.applied true ["core", "convert"] "From" [.type (nodeRef t)]))
    (nodeTy nodeLifetime)
    [.function [] .inherited
      (Signature.plain "from" [FnParam.named "node" (nodeRef t)] (some (Ty.named "Self")))
      [Stmt.value (.call (Expr.names false ["Node", variant]) [Expr.name "node"])]]

/-- The conversion from a kind's own nodes. -/
def nodeFrom (ast : Path) (k : KindNames) : Except NameError Item := do
  let variant ← Name.make k.name
  return conversionItem variant (← kindTy ast k)

end DispatchLayer.Emission
