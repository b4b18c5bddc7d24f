import DispatchLayer.Code.Reader.Attribute

/-!
# Reading paths, bounds and generic parameters

A path in a type may carry generic arguments directly after a segment; in an expression they come
after colons. The colons of a path are not taken where parentheses follow them. Arguments in
parentheses belong to a trait in a bound alone.
-/

namespace DispatchLayer.Code.Reader

/-! ## Paths -/

/-- Words that stand for a module in a path. -/
def moduleWords : List String := ["super", "self", "crate", "try"]

/-- Whether a path may begin here. -/
def startsPath (ts : List Token) : Bool :=
  startsName ts || startsAnyWord pathWords ts || startsOp [':', ':'] ts || startsOp ['<'] ts

/-- Whether generic arguments follow a segment, in an expression or elsewhere. -/
def startsArguments (inExpr : Bool) (ts : List Token) : Bool :=
  (!inExpr && startsOp ['<'] ts && !startsOp ['<', '='] ts && !startsOp ['<', '<', '='] ts) ||
    (startsOp [':', ':'] ts && startsOp ['<'] (ts.drop 2))

/-- Whether a group in parentheses follows, perhaps after colons. -/
def startsParenArguments (ts : List Token) : Bool :=
  startsGroup .paren ts || (startsOp [':', ':'] ts && startsGroup .paren (ts.drop 2))

/-- Whether a further segment follows. -/
def startsSegment (ts : List Token) : Bool :=
  startsOp [':', ':'] ts && !startsGroup .paren (ts.drop 2)

/-- The parameters after `for`. -/
def binder (g : Grammar) : Reader (List GenericParam) := do
  word "for"
  op ['<']
  let ps ← commaList g.fuel (startsOp ['>']) g.param
  op ['>']
  return ps

/-- The parameters after `for`, if it comes next. -/
def binder? (g : Grammar) : Reader (Option (List GenericParam)) := do
  if startsWord "for" (← ahead) then return some (← binder g) else return none

/-- A block as an expression. -/
def blockExpr (g : Grammar) : Reader Expr :=
  grouped .brace do
    let attrs ← innerAttributes g
    return .block (.plain none) attrs (← g.stmts)

/-- A constant as a generic argument: a literal, a name or a block. -/
def constArgument (g : Grammar) : Reader Expr := do
  let ts ← ahead
  if startsLiteral ts then return .literal (← literal)
  else if startsName ts then return .path (.plain (Path.single (← name)))
  else if startsGroup .brace ts then blockExpr g
  else expected []

/-- The type after an arrow, if one comes next. -/
def output (g : Grammar) (allowPlus : Bool) : Reader (Option Ty) := do
  if ← op? ['-', '>'] then return some (← g.ty allowPlus) else return none

/-- A segment, read with a given reader for the arguments in angle brackets behind its name. -/
def segmentWith (arguments : Reader (List GenericArg)) (inExpr : Bool) : Reader Segment := do
  if startsAnyWord moduleWords (← ahead) then return .name (← anyName)
  let n ← nameOr "Self"
  if startsArguments inExpr (← ahead) then
    let turbofish ← op? [':', ':']
    return .angle n turbofish (← arguments)
  else return .name n

/-- Further segments, as long as colons follow. -/
def segmentsWith (g : Grammar) (arguments : Reader (List GenericArg)) (inExpr : Bool)
    (first : Segment) : Reader (List Segment) :=
  repeatStep (fun (done : List Segment) => do
    if startsSegment (← ahead) then
      drop 2
      return .ok ((← segmentWith arguments inExpr) :: done)
    else return .error done.reverse) g.fuel [first]

/-- A path, read with a given reader for generic arguments. -/
def pathWith (g : Grammar) (arguments : Reader (List GenericArg)) (inExpr : Bool) :
    Reader Path := do
  let leading ← op? [':', ':']
  let first ← segmentWith arguments inExpr
  return .mk leading (← segmentsWith g arguments inExpr first)

/-! ## Bounds -/

/-- Which bounds may stand in a place besides traits and lifetimes. -/
structure BoundPlace where
  /-- `use<…>`. -/
  captures : Bool
  /-- Traits with `const` or `[const]`. -/
  constant : Bool

/-- The bounds of generic parameters. -/
def BoundPlace.param : BoundPlace := ⟨false, true⟩

/-- The bounds of trait objects. -/
def BoundPlace.object : BoundPlace := ⟨false, false⟩

/-- The bounds after `impl`. -/
def BoundPlace.impl : BoundPlace := ⟨true, true⟩

/-- A name with arguments in parentheses and the type after an arrow, as in `Fn(A) -> B`. -/
def parenSegment (g : Grammar) (n : String) : Reader Segment := do
  let inputs ← grouped .paren (commaList g.fuel isEnd (g.ty true))
  return .paren n inputs (← output g false)

/-- The name of a segment without arguments. -/
def bareName? : Segment → Option String
  | .name n => some n
  | .angle n _ [] => some n
  | _ => none

/-- A path with the arguments in parentheses of its last segment, if that has no others and they
come next. -/
def withParenArguments (g : Grammar) (p : Path) : Reader Path := do
  match p.segments.getLast?.bind bareName? with
  | some n =>
    if startsParenArguments (← ahead) then
      let _ ← op? [':', ':']
      return .mk p.leading (p.segments.dropLast ++ [← parenSegment g n])
    else return p
  | none => return p

/-- The word `const` before a trait, in square brackets or not. -/
def constMark (place : BoundPlace) : Reader Bool := do
  let ts ← ahead
  if startsGroup .bracket ts then
    grouped .bracket (word "const")
    if place.constant then return true else failRule "`[const]` is not allowed here"
  else if startsWord "const" ts then
    drop 1
    if place.constant then return true else failRule "`const` is not allowed here"
  else return false

/-- A trait as a bound; `parens` tells whether it stands in parentheses. The flag of the answer tells
whether `const` stands before it. -/
def traitBound (g : Grammar) (place : BoundPlace) (parens : Bool) : Reader (Bool × Bound) := do
  let before ← binder? g
  let constant ← constMark place
  let optional ← op? ['?']
  let params ← if before.isNone && optional then binder? g else pure before
  let path ← withParenArguments g (← g.path)
  if optional && params.isSome then
    failRule "`for<...>` binder not allowed with `?` trait polarity modifier"
  return (constant, .trait parens optional params path)

/-- A parameter that `use<…>` names; the flag tells whether it is a lifetime. -/
def captured : Reader (Bool × String) := do
  let ts ← ahead
  if startsLifetime ts then return (true, ← lifetime)
  else if startsName ts || startsWord "Self" ts then return (false, ← anyName)
  else expected ["lifetime", "identifier", "`>`"]

/-- The parameters that a type captures. -/
def captures (g : Grammar) : Reader Bound := do
  word "use"
  op ['<']
  let ps ← repeatStep (fun (done : List (Bool × String)) => do
    if startsOp ['>'] (← ahead) then return .error done.reverse
    let p ← captured
    if startsOp ['>'] (← ahead) then return .error (p :: done).reverse
    else if ← op? [','] then return .ok (p :: done)
    else expected ["`,`", "`>`"]) g.fuel []
  op ['>']
  return .captures ps

/-- A bound. -/
def bound (g : Grammar) (place : BoundPlace) : Reader Bound := do
  let ts ← ahead
  if startsLifetime ts then return .lifetime (← lifetime)
  else if startsWord "use" ts then
    let b ← captures g
    if place.captures then return b
    else failRule "`use<...>` precise capturing syntax is not allowed here"
  else
    let ((constant, b), tokens) ← withTokens (if startsGroup .paren ts then
        grouped .paren (traitBound g place true)
      else traitBound g place false)
    return if constant then .bare tokens else b

/-- Whether a bound may begin here. -/
def startsBound (place : BoundPlace) (ts : List Token) : Bool :=
  startsAnyName ts || startsOp [':', ':'] ts || startsOp ['?'] ts || startsLifetime ts ||
    startsGroup .paren ts || (place.constant && startsGroup .bracket ts)

/-- Further bounds after a first one, as long as `+` follows. -/
def moreBounds (g : Grammar) (place : BoundPlace) (first : Bound) : Reader (List Bound) :=
  repeatStep (fun (done : List Bound) => do
    if startsOp ['+'] (← ahead) then
      drop 1
      if startsBound place (← ahead) then return .ok ((← bound g place) :: done)
      else return .error done.reverse
    else return .error done.reverse) g.fuel [first]

/-- Bounds with `+` between them where that is allowed. -/
def bounds (g : Grammar) (place : BoundPlace) (allowPlus : Bool) : Reader (List Bound) := do
  let first ← bound g place
  if allowPlus then moreBounds g place first else return [first]

/-- Bounds with `+` between them, until `stop` holds or no `+` follows. -/
def boundsUntil (g : Grammar) (stop : List Token → Bool) : Reader (List Bound) :=
  repeatStep (fun (done : List Bound) => do
    if stop (← ahead) then return .error done.reverse
    let b ← bound g .param
    if ← op? ['+'] then return .ok (b :: done)
    else return .error (b :: done).reverse) g.fuel []

/-- Bounds with `+` between them, up to where `stop` holds. -/
def boundsUpTo (g : Grammar) (place : BoundPlace) (stop : List Token → Bool) :
    Reader (List Bound) :=
  repeatStep (fun (done : List Bound) => do
    if stop (← ahead) then return .error done.reverse
    let b ← bound g place
    if stop (← ahead) then return .error (b :: done).reverse
    op ['+']
    return .ok (b :: done)) g.fuel []

/-! ## Generic arguments -/

/-- The segment that a type consists of, if something may be bound to it: it has no arguments in
parentheses. -/
def bindable? : Ty → Option Segment
  | .path (.plain (.mk false [.name n])) => some (.name n)
  | .path (.plain (.mk false [.angle n c as])) => some (.angle n c as)
  | _ => none

/-- What follows a type in the place of a generic argument. -/
def afterArgument (g : Grammar) (t : Ty) : Reader GenericArg := do
  match bindable? t with
  | none => return .type t
  | some s =>
    if ← op? ['='] then
      let ts ← ahead
      if startsLiteral ts || startsGroup .brace ts then return .assocConst s (← constArgument g)
      else return .assocType s (← g.ty true)
    else if ← op? [':'] then
      return .constraint s (← boundsUntil g fun ts => startsOp [','] ts || startsOp ['>'] ts)
    else return .type t

/-- A generic argument. -/
def genericArg (g : Grammar) : Reader GenericArg := do
  let ts ← ahead
  if startsLifetime ts && !startsOp ['+'] (skipTree ts) then return .lifetime (← lifetime)
  else if startsLiteral ts || startsGroup .brace ts then return .const (← constArgument g)
  else afterArgument g (← g.ty true)

/-- The arguments in angle brackets. -/
def angleArguments (g : Grammar) : Reader (List GenericArg) := do
  op ['<']
  let args ← commaList g.fuel (startsOp ['>']) (genericArg g)
  op ['>']
  return args

/-- A path as types use it: generic arguments follow segments directly. -/
def pathInType (g : Grammar) : Reader Path := pathWith g (angleArguments g) false

/-- A path that may be qualified by a type. -/
def qpath (g : Grammar) (inExpr : Bool) : Reader QPath := do
  let arguments := angleArguments g
  if ← op? ['<'] then
    let t ← g.ty true
    let trait? ← if ← word? "as" then pure (some (← g.path)) else pure none
    op ['>']
    op [':', ':']
    let rest ← repeatStep (fun (done : List Segment) => do
      let s ← segmentWith arguments inExpr
      if ← op? [':', ':'] then return .ok (s :: done) else return .error (s :: done).reverse)
      g.fuel []
    return .qualified t trait? rest
  else return .plain (← pathWith g arguments inExpr)

/-- The path of the macro call that a path becomes by an exclamation mark, if it has plain names
only. -/
def macroPath? : QPath → Option PlainPath
  | .plain p => p.asPlain?
  | .qualified .. => none

/-! ## Generic parameters -/

/-- Lifetimes with `+` between them, until `stop` holds. -/
def lifetimesUntil (g : Grammar) (stop : List Token → Bool) : Reader (List String) :=
  repeatStep (fun (done : List String) => do
    if stop (← ahead) then return .error done.reverse
    let l ← lifetime
    if ← op? ['+'] then return .ok (l :: done)
    else return .error (l :: done).reverse) g.fuel []

/-- Where the bounds of a lifetime parameter end. -/
def endsParam (ts : List Token) : Bool := isEnd ts || startsOp [','] ts || startsOp ['>'] ts

/-- A lifetime parameter after its attributes. -/
def lifetimeParam (g : Grammar) (attrs : List Attribute) : Reader GenericParam := do
  let l ← lifetime
  return .lifetime attrs l (← if ← op? [':'] then lifetimesUntil g endsParam else pure [])

/-- A type parameter after its attributes. -/
def typeParam (g : Grammar) (attrs : List Attribute) : Reader GenericParam := do
  let n ← name
  let bs ← if ← op? [':'] then boundsUntil g fun ts => endsParam ts || startsOp ['='] ts
    else pure []
  return .type attrs n bs (← if ← op? ['='] then some <$> g.ty true else pure none)

/-- A constant parameter after its attributes. -/
def constParam (g : Grammar) (attrs : List Attribute) : Reader GenericParam := do
  word "const"
  let n ← name
  op [':']
  let t ← g.ty true
  return .const attrs n t (← if ← op? ['='] then some <$> constArgument g else pure none)

/-- A generic parameter as `for` binds it. -/
def boundParam (g : Grammar) : Reader GenericParam := do
  let attrs ← outerAttributes g
  let ts ← ahead
  if startsName ts then typeParam g attrs
  else if startsLifetime ts then lifetimeParam g attrs
  else if startsWord "const" ts then constParam g attrs
  else expected ["identifier", "lifetime", "`const`"]

/-- A generic parameter of an item. -/
def itemParam (g : Grammar) : Reader GenericParam := do
  let attrs ← outerAttributes g
  let ts ← ahead
  if startsLifetime ts then lifetimeParam g attrs
  else if startsName ts then typeParam g attrs
  else if startsWord "const" ts then constParam g attrs
  else if startsWord "_" ts then return .type attrs (← anyName) [] none
  else expected ["lifetime", "identifier", "`const`"]

/-- The generic parameters of an item, if they come next. -/
def genericParams (g : Grammar) : Reader (List GenericParam) := do
  if ← op? ['<'] then
    let ps ← commaList g.fuel (startsOp ['>']) (itemParam g)
    op ['>']
    return ps
  else return []

/-- Where the conditions of a `where` clause end. -/
def endsWhere (ts : List Token) : Bool :=
  isEnd ts || startsGroup .brace ts || startsOp [','] ts || startsOp [';'] ts ||
    (startsOp [':'] ts && !startsOp [':', ':'] ts) || startsOp ['='] ts

/-- A condition. -/
def wherePredicate (g : Grammar) : Reader WherePredicate := do
  let ts ← ahead
  if startsLifetime ts && startsOp [':'] (skipTree ts) then
    let l ← lifetime
    op [':']
    return .lifetime l (← lifetimesUntil g fun ts => endsWhere ts || startsOp [':'] ts)
  else
    let params ← binder? g
    let t ← g.ty true
    op [':']
    return .type params t (← boundsUntil g endsWhere)

/-- The conditions of a `where` clause, if one comes next. -/
def whereClause? (g : Grammar) : Reader (Option (List WherePredicate)) := do
  if !(← word? "where") then return none
  let ws ← repeatStep (fun (done : List WherePredicate) => do
    if endsWhere (← ahead) then return .error done.reverse
    let p ← wherePredicate g
    if ← op? [','] then return .ok (p :: done)
    else return .error (p :: done).reverse) g.fuel []
  return some ws

/-- The conditions of a `where` clause; there are none without one. -/
def whereClause (g : Grammar) : Reader (List WherePredicate) :=
  (fun ws => ws.getD []) <$> whereClause? g

end DispatchLayer.Code.Reader
