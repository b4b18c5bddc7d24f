import DispatchLayer.Token

/-!
# Rust code as trees

The trees of source files: paths, types, patterns, expressions, statements and items, in all forms of
the language. Separators and brackets are not part of a tree; how a tree is spelled in tokens and how
it is set on lines is said elsewhere. A literal keeps its text, a macro call its tokens.

A few forms are accepted without having a tree of their own, such as a static variable without a
type. They are kept as their tokens (`bare`).
-/

namespace DispatchLayer.Code

/-! ## Parts without further trees -/

/-- A path of names without generic arguments, as modules, macros and attributes have it. -/
structure PlainPath where
  /-- Whether it begins with colons. -/
  leading : Bool
  names : List String
  deriving DecidableEq, Repr

/-- A macro call: the path, the brackets, and the tokens between them. -/
structure MacroCall where
  path : PlainPath
  delimiter : Delimiter
  tokens : List Token
  deriving DecidableEq, Repr

/-- Who may use an item. -/
inductive Visibility where
  | inherited
  | pub
  /-- Only what is below a module. -/
  | restricted (p : PlainPath)
  deriving DecidableEq, Repr

/-- What a `use` brings in. -/
inductive UseTree where
  | path (name : String) (t : UseTree)
  | name (name : String)
  | rename (name newName : String)
  | glob
  | group (ts : List UseTree)

/-- The calling convention behind `extern`: a literal, if one is given. -/
abbrev Convention := Option String

/-- What a block is there for. -/
inductive BlockKind where
  /-- Statements and a value, perhaps with a label. -/
  | plain (label : Option String)
  | unsafeBlock
  | constBlock
  | tryBlock
  | asyncBlock (moves : Bool)
  deriving DecidableEq, Repr

/-! ## Trees -/

mutual

/-- A path `a::b<T>`, with or without leading colons. -/
inductive Path where
  | mk (leading : Bool) (segments : List Segment)

/-- One segment of a path. -/
inductive Segment where
  | name (n : String)
  /-- A name with arguments in angle brackets, after colons if `turbofish`. -/
  | angle (n : String) (turbofish : Bool) (args : List GenericArg)
  /-- A name with arguments in parentheses, as in `Fn(A) -> B`. -/
  | paren (n : String) (inputs : List Ty) (output : Option Ty)

/-- An argument in angle brackets. The segment of a binding or a constraint names what it is
about. -/
inductive GenericArg where
  | lifetime (name : String)
  | type (t : Ty)
  | const (e : Expr)
  | assocType (s : Segment) (t : Ty)
  | assocConst (s : Segment) (e : Expr)
  | constraint (s : Segment) (bounds : List Bound)

/-- A bound of a type. -/
inductive Bound where
  | lifetime (name : String)
  /-- A trait, perhaps in parentheses, perhaps with `?`, perhaps for all of some parameters. -/
  | trait (parens optional : Bool) (binder : Option (List GenericParam)) (path : Path)
  /-- `use<'a, T>`: the parameters that a type captures. -/
  | captures (lifetimesAndNames : List (Bool × String))
  | bare (tokens : List Token)

/-- A path that may be qualified by a type, as in `<T as Trait>::name`. -/
inductive QPath where
  | plain (p : Path)
  | qualified (t : Ty) (trait? : Option Path) (rest : List Segment)

/-- A type. -/
inductive Ty where
  | path (p : QPath)
  | reference (lifetime : Option String) (mutable : Bool) (t : Ty)
  | pointer (mutable : Bool) (t : Ty)
  | slice (t : Ty)
  | array (t : Ty) (len : Expr)
  | tuple (ts : List Ty)
  | paren (t : Ty)
  | never
  | infer
  | function (binder : Option (List GenericParam)) (isUnsafe : Bool)
      (convention : Option Convention) (inputs : List FnParam) (output : Option Ty)
  | object (bounds : List Bound)
  | impl (bounds : List Bound)
  | macroCall (m : MacroCall)
  /-- The place of any further arguments, `...`. -/
  | variadic
  | bare (tokens : List Token)

/-- A parameter of a function or of a function type. -/
inductive FnParam where
  /-- `self`, behind a reference (with or without lifetime) if there is one. -/
  | receiver (attrs : List Attribute) (reference : Option (Option String)) (mutable : Bool)
      (t : Option Ty)
  | typed (attrs : List Attribute) (p : Pat) (t : Ty)
  | nameless (attrs : List Attribute) (t : Ty)

/-- An attribute; `inner` tells whether it stands inside of what it is about. -/
inductive Attribute where
  | word (inner : Bool) (path : PlainPath)
  | list (inner : Bool) (path : PlainPath) (d : Delimiter) (tokens : List Token)
  | value (inner : Bool) (path : PlainPath) (e : Expr)

/-- A generic parameter. -/
inductive GenericParam where
  | lifetime (attrs : List Attribute) (name : String) (bounds : List String)
  | type (attrs : List Attribute) (name : String) (bounds : List Bound) (default : Option Ty)
  | const (attrs : List Attribute) (name : String) (t : Ty) (default : Option Expr)

/-- A condition of a `where` clause. -/
inductive WherePredicate where
  | lifetime (name : String) (bounds : List String)
  | type (binder : Option (List GenericParam)) (t : Ty) (bounds : List Bound)

/-- The generic parameters of an item and the conditions on them. -/
inductive Generics where
  | mk (params : List GenericParam) (conditions : List WherePredicate)

/-- A pattern. -/
inductive Pat where
  | wild
  | rest
  | ident (byRef mutable : Bool) (name : String)
  /-- `name @ p`. -/
  | whole (byRef mutable : Bool) (name : String) (p : Pat)
  | literal (text : String)
  | path (p : QPath)
  | range (start : Option Expr) (closed : Bool) (stop : Option Expr)
  | tupleStruct (p : QPath) (ps : List Pat)
  /-- `p { fields }`: members, names on their own, and perhaps two points at the end. -/
  | record (p : QPath) (fields : List Pat)
  /-- `name: p` in the braces of a struct pattern. -/
  | member (name : String) (p : Pat)
  | reference (mutable : Bool) (p : Pat)
  /-- A tuple; `trailing` tells whether a comma follows the last pattern. -/
  | tuple (ps : List Pat) (trailing : Bool)
  | paren (p : Pat)
  | slice (ps : List Pat)
  /-- Alternatives, perhaps with a bar before the first. -/
  | alternatives (leading : Bool) (ps : List Pat)
  | constBlock (attrs : List Attribute) (body : List Stmt)
  | macroCall (m : MacroCall)
  /-- A pattern with its type, as bindings and closures have it. -/
  | typed (p : Pat) (t : Ty)
  | attributed (attrs : List Attribute) (p : Pat)
  | bare (tokens : List Token)

/-- An expression. -/
inductive Expr where
  | literal (text : String)
  | path (p : QPath)
  /-- `-e`, `!e` or `*e`. -/
  | unary (op : Char) (e : Expr)
  | reference (mutable : Bool) (e : Expr)
  /-- `&raw const e` or `&raw mut e`. -/
  | rawReference (mutable : Bool) (e : Expr)
  | binary (op : String) (l r : Expr)
  | assign (l r : Expr)
  /-- `a..b`, or `a..=b` if `closed`. -/
  | range (start : Option Expr) (closed : Bool) (stop : Option Expr)
  | cast (e : Expr) (t : Ty)
  | call (f : Expr) (args : List Expr)
  /-- A call of a method; the segment has its name and its generic arguments. -/
  | method (receiver : Expr) (s : Segment) (args : List Expr)
  | field (base : Expr) (name : String)
  | index (base i : Expr)
  | await (e : Expr)
  /-- `e?`. -/
  | question (e : Expr)
  | paren (e : Expr)
  | tuple (es : List Expr)
  | array (es : List Expr)
  /-- `[e; len]`. -/
  | repeated (e len : Expr)
  /-- `p { fields, ..rest }`; `isOpen` tells whether the two points stand there. -/
  | record (p : QPath) (fields : List Expr) (isOpen : Bool) (rest : Option Expr)
  /-- `name: value` in the braces of a struct, or a name on its own. -/
  | member (name : String) (value : Option Expr)
  | block (kind : BlockKind) (attrs : List Attribute) (body : List Stmt)
  | ifThen (condition : Expr) (body : List Stmt) (otherwise : Option Expr)
  /-- `let p = e` as a condition. -/
  | letCondition (p : Pat) (e : Expr)
  | matchOn (scrutinee : Expr) (attrs : List Attribute) (arms : List Arm)
  | loop (label : Option String) (attrs : List Attribute) (body : List Stmt)
  | whileLoop (label : Option String) (condition : Expr) (attrs : List Attribute)
      (body : List Stmt)
  | forLoop (label : Option String) (p : Pat) (e : Expr) (attrs : List Attribute)
      (body : List Stmt)
  /-- A closure; `words` stand before its bars. -/
  | closure (binder : Option (List GenericParam)) (words : List String) (params : List Pat)
      (output : Option Ty) (body : Expr)
  | returnWith (e : Option Expr)
  | breakWith (label : Option String) (e : Option Expr)
  | continueAt (label : Option String)
  | yieldWith (e : Option Expr)
  | infer
  | macroCall (m : MacroCall)
  | attributed (attrs : List Attribute) (e : Expr)
  | bare (tokens : List Token)

/-- An arm of a `match`. -/
inductive Arm where
  | mk (attrs : List Attribute) (p : Pat) (guard : Option Expr) (body : Expr)

/-- A statement. -/
inductive Stmt where
  /-- A binding; the last part is the block after `else`. -/
  | letBinding (attrs : List Attribute) (p : Pat) (init : Option Expr) (otherwise : Option Expr)
  | expr (e : Expr) (semicolon : Bool)
  | macroCall (attrs : List Attribute) (m : MacroCall) (semicolon : Bool)
  | item (i : Item)
  /-- A semicolon on its own. -/
  | empty

/-- The head of a function; `words` stand before `fn`, and before them its convention. -/
inductive Signature where
  | mk (words : List String) (convention : Option Convention) (name : String)
      (generics : Generics) (params : List FnParam) (output : Option Ty)

/-- A field of a struct or a variant; those of tuples have no name. -/
inductive Field where
  | mk (attrs : List Attribute) (vis : Visibility) (name : Option String) (type : Ty)

/-- The fields of a struct or a variant. -/
inductive Fields where
  | unit
  | tuple (fs : List Field)
  | named (fs : List Field)

/-- A variant of an enum. -/
inductive Variant where
  | mk (attrs : List Attribute) (name : String) (fields : Fields) (discriminant : Option Expr)

/-- An item of a module, of a trait, of an implementation or of a foreign block. `isDefault` tells
whether an implementation may be specialized there. -/
inductive Item where
  | use (attrs : List Attribute) (vis : Visibility) (leading : Bool) (t : UseTree)
  | enum (attrs : List Attribute) (vis : Visibility) (name : String) (generics : Generics)
      (variants : List Variant)
  | struct (attrs : List Attribute) (vis : Visibility) (name : String) (generics : Generics)
      (fields : Fields)
  | union (attrs : List Attribute) (vis : Visibility) (name : String) (generics : Generics)
      (fields : List Field)
  /-- A trait; `words` stand before `trait`. -/
  | trait (attrs : List Attribute) (vis : Visibility) (words : List String) (name : String)
      (generics : Generics) (supertraits : List Bound) (items : List Item)
  /-- `trait name = bounds`. -/
  | traitSum (attrs : List Attribute) (vis : Visibility) (name : String) (generics : Generics)
      (bounds : List Bound)
  /-- An implementation; `words` stand before `impl`. -/
  | impl (attrs : List Attribute) (words : List String) (generics : Generics) (negative : Bool)
      (trait? : Option Path) (self : Ty) (items : List Item)
  | fn (attrs : List Attribute) (vis : Visibility) (isDefault : Bool) (signature : Signature)
      (body : List Stmt)
  /-- The head of a function without a body. -/
  | fnHead (attrs : List Attribute) (vis : Visibility) (signature : Signature)
  | module (attrs : List Attribute) (vis : Visibility) (isUnsafe : Bool) (name : String)
      (items : List Item)
  /-- A module whose items stand elsewhere. -/
  | moduleHead (attrs : List Attribute) (vis : Visibility) (isUnsafe : Bool) (name : String)
  /-- The items of a foreign library. -/
  | foreign (attrs : List Attribute) (isUnsafe : Bool) (convention : Convention)
      (items : List Item)
  | const (attrs : List Attribute) (vis : Visibility) (isDefault : Bool) (name : String) (t : Ty)
      (value : Option Expr)
  | static (attrs : List Attribute) (vis : Visibility) (mutable : Bool) (name : String) (t : Ty)
      (value : Option Expr)
  /-- `type name: bounds = t`. -/
  | type (attrs : List Attribute) (vis : Visibility) (isDefault : Bool) (name : String)
      (generics : Generics) (bounds : List Bound) (t : Option Ty)
  /-- `extern crate name`, perhaps with `as` and a further name. -/
  | externCrate (attrs : List Attribute) (vis : Visibility) (name : String)
      (newName : Option String)
  /-- A macro call that stands for items, perhaps with a name behind the exclamation mark. -/
  | macroCall (attrs : List Attribute) (name : Option String) (m : MacroCall)
  | bare (tokens : List Token)

end

instance : Inhabited Path := ⟨.mk false []⟩
instance : Inhabited Ty := ⟨.infer⟩
instance : Inhabited Expr := ⟨.infer⟩
instance : Inhabited Pat := ⟨.wild⟩

/-- A source file. -/
structure SourceFile where
  /-- The first line, if it names an interpreter. -/
  interpreter : Option String
  attrs : List Attribute
  items : List Item

/-! ## Parts of trees -/

/-- A path of one plain name. -/
def PlainPath.single (name : String) : PlainPath := ⟨false, [name]⟩

/-- The name that a plain path consists of, if it is one. -/
def PlainPath.asName? : PlainPath → Option String
  | ⟨false, [n]⟩ => some n
  | _ => none

namespace Path

/-- Whether a path begins with colons. -/
def leading : Path → Bool
  | .mk l _ => l

/-- The segments of a path. -/
def segments : Path → List Segment
  | .mk _ ss => ss

/-- A path of plain names. -/
def ofNames (leading : Bool) (names : List String) : Path := .mk leading (names.map Segment.name)

/-- A path of one plain name. -/
def single (name : String) : Path := ofNames false [name]

/-- The path with one further plain name. -/
def extend (p : Path) (name : String) : Path := .mk p.leading (p.segments ++ [.name name])

/-- The name that a path consists of, if it is one. -/
def asName? : Path → Option String
  | .mk false [.name n] => some n
  | _ => none

/-- The path without generic arguments, if it has none. -/
def asPlain? (p : Path) : Option PlainPath :=
  (p.segments.mapM fun s => match s with
    | Segment.name n => some n
    | _ => none).map fun names => ⟨p.leading, names⟩

end Path

/-- The name that an expression consists of, if it is one. -/
def Expr.asName? : Expr → Option String
  | .path (.plain p) => p.asName?
  | _ => none

namespace Attribute

/-- Whether an attribute stands inside of what it is about. -/
def isInner : Attribute → Bool
  | .word inner _ => inner
  | .list inner .. => inner
  | .value inner .. => inner

end Attribute

/-- The expression with further attributes in front. -/
def Expr.withAttributes (attrs : List Attribute) (e : Expr) : Expr :=
  if attrs.isEmpty then e
  else match e with
    | .attributed more inner => .attributed (attrs ++ more) inner
    | .bare tokens => .bare tokens
    | e => .attributed attrs e

/-- The expression without the attributes in front. -/
def Expr.withoutAttributes : Expr → Expr
  | .attributed _ e => e
  | e => e

/-- The pattern with attributes in front. -/
def Pat.withAttributes (attrs : List Attribute) (p : Pat) : Pat :=
  if attrs.isEmpty then p
  else match p with
    | .bare tokens => .bare tokens
    | p => .attributed attrs p

namespace Generics

/-- The generic parameters. -/
def params : Generics → List GenericParam
  | .mk ps _ => ps

/-- The conditions. -/
def conditions : Generics → List WherePredicate
  | .mk _ cs => cs

/-- No parameters and no conditions. -/
def empty : Generics := .mk [] []

end Generics

end DispatchLayer.Code
