import DispatchLayer.Token.Keyword
import DispatchLayer.Text.SnakeCase

/-!
# Names in the generated code

The fixed names of the generated code and the rules by which the name of a kind gives the names that
belong to it. Code that uses the generated modules is written against these names.
-/

namespace DispatchLayer.Naming

/-- Base name of the file with the node type and the handler traits. -/
def handlersFile : String := "handlers_gen.rs"

/-- Base name of the file with the visitor. -/
def visitorFile : String := "visitor_gen.rs"

/-- Module under which the visitor finds the handlers. -/
def handlersModule : String := "handlers_gen"

/-- The trait of the catch-all handler. -/
def defaultTrait : String := "DefaultHandler"

/-- The method of the catch-all handler. -/
def defaultMethod : String := "handle"

/-- The slot of the catch-all handler. -/
def defaultSlot : String := "h_default"

/-- The registration method of the catch-all handler. -/
def defaultRegister : String := "on_default"

/-- The variant of nodes whose kind is not in the catalog. -/
def otherVariant : String := "Other"

/-- Kind names whose variant or trait would be one of the fixed ones. -/
def reservedKinds : List String := ["Default", otherVariant]

/-- Path of the module that defines the types of the built-in kinds. -/
def defaultAstPath : String := "syn"

/-- The handler trait of a kind. -/
def handlerTrait (kind : String) : String := kind ++ "Handler"

/-- Whether a kind name is one of the reserved ones. -/
def isReservedKind (kind : String) : Bool := reservedKinds.contains kind

/-- The slot of a kind, given its name in snake case. -/
def slotOf (snake : String) : String := "h_" ++ snake

/-- The registration method of a kind, given its name in snake case. -/
def registerOf (snake : String) : String := "on_" ++ snake

end DispatchLayer.Naming
