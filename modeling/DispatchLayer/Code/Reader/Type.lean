import DispatchLayer.Code.Reader.Path

/-!
# Reading types

A sum of bounds is a type where bounds with `+` may follow. A path alone is a type without being a
sum, whatever it names.
-/

namespace DispatchLayer.Code.Reader

/-! ## Sums of bounds -/

/-- The type that a path begins: a macro call, a sum of bounds, or the path itself. -/
def pathType (g : Grammar) (allowPlus : Bool) (params : Option (List GenericParam)) :
    Reader Ty := do
  let q ← qpath g false
  match q with
  | .qualified .. => return .path q
  | .plain p =>
    match p.asPlain?, startsBang (← ahead) with
    | some names, true => return .macroCall (← macroCallAfter names)
    | _, _ =>
      if params.isSome || (allowPlus && startsOp ['+'] (← ahead)) then
        let first := Bound.trait false false params p
        if allowPlus then return .object (← moreBounds g .object first)
        else return .object [first]
      else return .path q

/-- Whether a bound names a trait. -/
def isTrait : Bound → Bool
  | .trait .. => true
  | .bare _ => true
  | _ => false

/-- A sum of bounds after `dyn`, or without it. -/
def objectType (g : Grammar) (allowPlus : Bool) : Reader Ty := do
  let bs ← bounds g .object allowPlus
  if bs.any isTrait then return .object bs
  else failRule "at least one trait is required for an object type"

/-- A sum of bounds after `impl`. -/
def implType (g : Grammar) (allowPlus : Bool) : Reader Ty := do
  let bs ← bounds g .impl allowPlus
  if bs.any isTrait then return .impl bs
  else failRule "at least one trait must be specified"

/-- A type with `dyn`; one with a star behind it has no tree. -/
def dynType (g : Grammar) (allowPlus : Bool) : Reader Ty := do
  let ((star, t), tokens) ← withTokens do
    word "dyn"
    let star ← op? ['*']
    return (star, ← objectType g allowPlus)
  return if star then .bare tokens else t

/-! ## Types in parentheses -/

/-- Further bounds behind one in parentheses: a bound follows every `+`. -/
def summedBounds (g : Grammar) (first : Bound) : Reader (List Bound) :=
  repeatStep (fun (done : List Bound) => do
    if ← op? ['+'] then return .ok ((← bound g .object) :: done)
    else return .error done.reverse) g.fuel [first]

/-- The bound that a type in parentheses is, if `+` follows. -/
def parenBound? : Ty → Option Bound
  | .path (.plain p) => some (.trait true false none p)
  | .object [.trait _ optional ps p] => some (.trait true optional ps p)
  | .object [b] => some b
  | _ => none

/-- What stands between the parentheses of a type. -/
inductive ParenInside where
  /-- All of a type. -/
  | done (t : Ty)
  /-- One type, which may be the first bound of a sum. -/
  | one (t : Ty)
  /-- The first bound of a sum. -/
  | first (b : Bound)

/-- The inside of the parentheses of a type. -/
def parenInside (g : Grammar) : Reader ParenInside := do
  let ts ← ahead
  if isEnd ts then return .done (.tuple [])
  else if startsLifetime ts then return .done (.paren (← objectType g true))
  else if startsOp ['?'] ts then return .first (← traitBound g .object true).2
  else
    let t ← g.ty true
    if ← op? [','] then
      return .done (.tuple (t :: (← commaList g.fuel isEnd (g.ty true))))
    else return .one t

/-- A type that begins with a parenthesis. -/
def parenType (g : Grammar) (allowPlus : Bool) : Reader Ty := do
  match ← grouped .paren (parenInside g) with
  | .done t => return t
  | .first b => return .object (← summedBounds g b)
  | .one t =>
    match parenBound? t, allowPlus && startsOp ['+'] (← ahead) with
    | some b, true => return .object (← summedBounds g b)
    | _, _ => return .paren t

/-! ## Function types -/

/-- Whether a name and a colon come next, and the colon begins no other operator. -/
def startsNamed (ts : List Token) : Bool :=
  let rest := skipTree ts
  (startsName ts || startsWord "_" ts) && startsOp [':'] rest && !startsOp [':', ':'] rest

/-- Whether the last parameter of a function type comes next, for any further arguments. -/
def startsVariadic (ts : List Token) : Bool :=
  startsOp ['.', '.', '.'] ts ||
    ((startsName ts || startsWord "_" ts) && startsOp [':'] (skipTree ts) &&
      startsOp ['.', '.', '.'] ((skipTree ts).drop 1))

/-- A parameter by its name, if it has one, and its type. -/
def paramOf (attrs : List Attribute) (n : Option String) (t : Ty) : FnParam :=
  match n with
  | some n => .typed attrs (if n = "_" then .wild else .ident false false n) t
  | none => .nameless attrs t

/-- The parameter for any further arguments. -/
def variadicParam (attrs : List Attribute) : Reader FnParam := do
  let ts ← ahead
  let n ← if startsName ts || startsWord "_" ts then do
      let n ← anyName
      op [':']
      pure (some n)
    else pure none
  op ['.', '.', '.']
  let _ ← op? [',']
  return paramOf attrs n .variadic

/-- A parameter of a function type after its attributes; the first one may be called `self`. -/
def bareParam (g : Grammar) (attrs : List Attribute) (first : Bool) : Reader FnParam := do
  let mutSelf := first && startsWord "mut" (← ahead) && startsWord "self" ((← ahead).drop 1)
  let ((n, t), tokens) ← withTokens do
    if mutSelf then drop 1
    let ts ← ahead
    let rest := ts.drop 1
    if startsNamed ts || (first && startsWord "self" ts && startsOp [':'] rest &&
        !startsOp [':', ':'] rest) then
      let n ← anyName
      op [':']
      return (some n, ← g.ty true)
    else if mutSelf then
      word "self"
      return (none, Ty.infer)
    else return (none, ← g.ty true)
  return if mutSelf then .nameless attrs (.bare tokens) else paramOf attrs n t

/-- The parameters of a function type. -/
def bareParams (g : Grammar) : Reader (List FnParam) :=
  repeatStep (fun (done : List FnParam) => do
    if isEnd (← ahead) then return .error done.reverse
    let attrs ← outerAttributes g
    if startsVariadic (← ahead) then return .error ((← variadicParam attrs) :: done).reverse
    let p ← bareParam g attrs done.isEmpty
    if isEnd (← ahead) then return .error (p :: done).reverse
    op [',']
    return .ok (p :: done)) g.fuel []

/-- Whether the tokens begin with a literal that stands for a text. -/
def startsText : List Token → Bool
  | .literal text :: _ =>
    match text.toList with
    | c :: _ => c = '"' || c = 'r'
    | [] => false
  | _ => false

/-- The calling convention after its word. -/
def conventionName : Reader Convention := do
  match ← ahead with
  | .literal text :: ts =>
    if startsText (.literal text :: ts) then
      drop 1
      return some text
    else return none
  | _ => return none

/-- A calling convention, if one comes next. -/
def convention? : Reader (Option Convention) := do
  if ← word? "extern" then return some (← conventionName) else return none

/-- A function type, the parameters of `for` before it having been read. -/
def functionType (g : Grammar) (params : Option (List GenericParam)) : Reader Ty := do
  let isUnsafe ← word? "unsafe"
  let convention ← convention?
  word "fn"
  let inputs ← grouped .paren (bareParams g)
  return .function params isUnsafe convention inputs (← output g false)

/-! ## Types -/

/-- What a type can begin with. -/
def typeStarts : List String := [
  "`for`", "parentheses", "`fn`", "`unsafe`", "`extern`", "identifier", "`::`", "`<`", "`dyn`",
  "square brackets", "`*`", "`&`", "`!`", "`impl`", "`_`", "lifetime"]

/-- What a type can begin with behind `for`. -/
def boundTypeStarts : List String := [
  "identifier", "`fn`", "`unsafe`", "`extern`", "`super`", "`self`", "`Self`", "`crate`"]

/-- A type. -/
def typeWith (g : Grammar) (allowPlus : Bool) : Reader Ty := do
  let params ← binder? g
  let ts ← ahead
  if params.isSome && !(startsName ts ||
      startsAnyWord (["fn", "unsafe", "extern"] ++ pathWords) ts) then
    expected boundTypeStarts
  else if startsGroup .paren ts then parenType g allowPlus
  else if startsAnyWord ["fn", "unsafe", "extern"] ts then functionType g params
  else if startsPath ts then pathType g allowPlus params
  else if startsWord "dyn" ts then dynType g allowPlus
  else if startsGroup .bracket ts then
    grouped .bracket do
      let t ← g.ty true
      if ← op? [';'] then return .array t (← g.expr .free) else return .slice t
  else if startsOp ['*'] ts then
    drop 1
    if ← word? "const" then return .pointer false (← g.ty false)
    else if ← word? "mut" then return .pointer true (← g.ty false)
    else expected ["`const`", "`mut`"]
  else if startsOp ['&'] ts then
    drop 1
    let life ← lifetime?
    let mutable ← word? "mut"
    return .reference life mutable (← g.ty false)
  else if startsOp ['!'] ts && !startsOp ['='] ts then
    drop 1
    return .never
  else if startsWord "impl" ts then
    drop 1
    implType g allowPlus
  else if startsWord "_" ts then
    drop 1
    return .infer
  else if startsLifetime ts then objectType g true
  else expected typeStarts

end DispatchLayer.Code.Reader
