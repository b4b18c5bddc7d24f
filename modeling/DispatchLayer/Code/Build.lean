import DispatchLayer.Code
import DispatchLayer.Text.Quoted

/-!
# Building trees

Short forms for the trees that generated code is made of.
-/

namespace DispatchLayer.Code

/-! ## Types -/

/-- A type given by a path. -/
def Ty.ofPath (p : Path) : Ty := .path (.plain p)

/-- A type given by a name. -/
def Ty.named (name : String) : Ty := Ty.ofPath (Path.single name)

/-- A path of names whose last one has arguments. -/
def Path.applied (leading : Bool) (names : List String) (last : String) (args : List GenericArg) :
    Path :=
  .mk leading (names.map Segment.name ++ [.angle last false args])

/-- A name with arguments, as a type. -/
def Ty.applied (name : String) (args : List GenericArg) : Ty :=
  Ty.ofPath (Path.applied false [] name args)

/-- A shared reference without lifetime. -/
def Ty.ref (t : Ty) : Ty := .reference none false t

/-- A trait as a bound. -/
def Bound.ofName (name : String) : Bound := .trait false false none (Path.single name)

/-- A trait that takes one value and answers with a `bool`, as in `FnMut(T) -> bool`. -/
def Bound.predicate (name : String) (t : Ty) : Bound :=
  .trait false false none (.mk false [.paren name [t] (some (Ty.named "bool"))])

/-! ## Expressions and patterns -/

/-- A path of plain names as an expression. -/
def Expr.names (leading : Bool) (names : List String) : Expr :=
  .path (.plain (Path.ofNames leading names))

/-- A name as an expression. -/
def Expr.name (n : String) : Expr := Expr.names false [n]

/-- A field of `self`. -/
def Expr.selfField (member : String) : Expr := .field (Expr.name "self") member

/-- A method without generic arguments. -/
def Expr.invoke (receiver : Expr) (name : String) (args : List Expr) : Expr :=
  .method receiver (.name name) args

/-- Statements in braces. -/
def Expr.braces (body : List Stmt) : Expr := .block (.plain none) [] body

/-- A name as a pattern. -/
def Pat.name (n : String) : Pat := .ident false false n

/-- A path of plain names with one pattern in parentheses. -/
def Pat.wrap (names : List String) (p : Pat) : Pat :=
  .tupleStruct (.plain (Path.ofNames false names)) [p]

/-- An arm without guard. -/
def Arm.plain (p : Pat) (body : Expr) : Arm := .mk [] p none body

/-- An expression as the value of a block. -/
def Stmt.value (e : Expr) : Stmt := .expr e false

/-- A name for a value. -/
def Stmt.bind (name : String) (e : Expr) : Stmt := .letBinding [] (Pat.name name) (some e) none

/-- An expression for its effect. -/
def Stmt.effect (e : Expr) : Stmt := .expr e true

/-! ## Attributes and functions -/

/-- A line of documentation, as a raw string. -/
def Attribute.doc (text : String) : Attribute :=
  .value false (PlainPath.single "doc") (.literal ("r\"" ++ text ++ "\""))

/-- A line of documentation that holds a name of the user's. -/
def Attribute.docEscaped (text : String) : Attribute :=
  .value false (PlainPath.single "doc") (.literal (Text.stringLiteral text))

/-- Names with commas between them. -/
def nameList : List String → List Token
  | [] => []
  | [n] => [.ident n]
  | n :: rest => .ident n :: Token.mark ',' :: nameList rest

/-- The attribute that derives traits. -/
def Attribute.derive (traits : List String) : Attribute :=
  .list false (PlainPath.single "derive") .paren (nameList traits)

/-- The receiver `self`. -/
def FnParam.selfValue : FnParam := .receiver [] none false none

/-- The receiver `&self`. -/
def FnParam.selfRef : FnParam := .receiver [] (some none) false none

/-- The receiver `&mut self`. -/
def FnParam.selfMut : FnParam := .receiver [] (some none) true none

/-- A named parameter. -/
def FnParam.named (name : String) (t : Ty) : FnParam := .typed [] (Pat.name name) t

/-- The head of a function without generic parameters. -/
def Signature.plain (name : String) (params : List FnParam) (output : Option Ty) : Signature :=
  .mk [] none name Generics.empty params output

/-- A function with its body. -/
def Item.function (attrs : List Attribute) (vis : Visibility) (s : Signature) (body : List Stmt) :
    Item := .fn attrs vis false s body

/-- A field of a tuple. -/
def Field.positional (t : Ty) : Field := .mk [] .inherited none t

/-- A named field. -/
def Field.named (name : String) (t : Ty) : Field := .mk [] .inherited (some name) t

/-- A lifetime parameter without bounds. -/
def GenericParam.ofLifetime (name : String) : GenericParam := .lifetime [] name []

/-- A type parameter with bounds. -/
def GenericParam.ofType (name : String) (bounds : List Bound) : GenericParam :=
  .type [] name bounds none

/-- Parameters without conditions. -/
def Generics.ofParams (ps : List GenericParam) : Generics := .mk ps []

/-! ## Items -/

/-- An implementation of a trait, or of methods of a type's own. -/
def Item.implementation (generics : Generics) (trait? : Option Path) (self : Ty)
    (items : List Item) : Item := .impl [] [] generics false trait? self items

end DispatchLayer.Code
