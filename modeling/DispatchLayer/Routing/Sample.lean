import DispatchLayer.Plan
import DispatchLayer.Routing.Visit

/-!
# A small tree to route

Nodes of a language with identifiers and calls, and the handlers that answer in turn from a list of
their own. They make the routing rules observable.
-/

namespace DispatchLayer.Routing.Sample

/-- The kinds that have a slot of their own. -/
inductive Kind where
  | ident
  | callExpr
  deriving DecidableEq, Repr

/-- A node of the tree. -/
inductive Node where
  | ident (name : String)
  | call (callee : String) (args : List String)
  /-- A node of a kind that has no slot. -/
  | other
  deriving DecidableEq, Repr

/-- The kind of a node, if it is one with a slot. -/
def Node.kind? : Node → Option Kind
  | .ident _ => some .ident
  | .call _ _ => some .callExpr
  | .other => none

/-- The name of a kind; `none` stands for the nodes without a slot. -/
def kindLabel : Option Kind → String
  | some .ident => "Ident"
  | some .callExpr => "CallExpr"
  | none => "Other"

/-- The method through which a slot calls its handler. -/
def methodOf : Option Kind → String
  | some kind => (KindNames.ofName (kindLabel (some kind))).method
  | none => Naming.defaultMethod

/-- The nodes below a node: of a call, the callee and then the arguments. -/
def Node.children : Node → List Node
  | .call callee args => .ident callee :: args.map .ident
  | _ => []

/-- Handlers that answer in turn from a list, over and over. Their state is the number of calls so
far; a handler without answers says no. -/
def cycling (answers : String → List Bool) : Behaviour Kind String Node Nat where
  start _ := 0
  react name _ _ count :=
    let list := answers name
    (list.getD (count % list.length) false, count + 1)

end DispatchLayer.Routing.Sample
