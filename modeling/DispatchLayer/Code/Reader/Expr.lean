import DispatchLayer.Code.Reader.Pattern
import DispatchLayer.Code.Shape

/-!
# Reading expressions

Binary operators are read by their strength: a right operand takes every following operator that is
stronger than its own. A range is never the left operand of another operator. At the beginning of a
statement or of the body of an arm, an expression that ends in a block stands for itself; an operator
after it begins something new.
-/

namespace DispatchLayer.Code.Reader

/-! ## Operators -/

/-- The binary operators with their strength, longer spellings first. -/
def binaryOps : List (String × Nat) := [
  ("<<=", 1), (">>=", 1), ("&&", 4), ("||", 3), ("<<", 10), (">>", 10), ("==", 6), ("<=", 6),
  ("!=", 6), (">=", 6), ("+=", 1), ("-=", 1), ("*=", 1), ("/=", 1), ("%=", 1), ("^=", 1), ("&=", 1),
  ("|=", 1), ("+", 11), ("-", 11), ("*", 12), ("/", 12), ("%", 12), ("^", 8), ("&", 9), ("|", 7),
  ("<", 6), (">", 6)]

/-- The strength of an assignment. -/
def assignStrength : Nat := 1

/-- The strength of a range. -/
def rangeStrength : Nat := 2

/-- The strength of comparisons. -/
def compareStrength : Nat := 6

/-- The strength of a cast. -/
def castStrength : Nat := 13

/-- The binary operator that comes next. -/
def binaryOp? (ts : List Token) : Option (String × Nat) :=
  binaryOps.find? fun o => startsOp o.1.toList ts

/-- Whether an assignment comes next. -/
def startsAssign (ts : List Token) : Bool := startsOp ['='] ts && !startsOp ['=', '>'] ts

/-- Whether a member comes next, and no range. -/
def startsPoint (ts : List Token) : Bool := startsOp ['.'] ts && !startsOp ['.', '.'] ts

/-- The strength of what comes next, zero if it is no operator. -/
def nextStrength (ts : List Token) : Nat :=
  match binaryOp? ts with
  | some (_, n) => n
  | none =>
    if startsAssign ts then assignStrength
    else if startsOp ['.', '.'] ts then rangeStrength
    else if startsWord "as" ts then castStrength
    else 0

/-- Whether an expression is a comparison. -/
def isComparison : Expr → Bool
  | .binary op _ _ => ["==", "<", "<=", "!=", ">=", ">"].contains op
  | _ => false

/-- Whether an expression is a range. -/
def isRange : Expr → Bool
  | .range .. => true
  | _ => false

/-- Operators that can follow a range without an end. -/
def afterOpenRange : List String := [
  ",", ";", "?", "=>", "=", "+", "/", "%", "^", ">", "<=", "!=", "-=", "*=", "&=", "|=", "<<="]

/-- Whether the end of a range is left out. -/
def endsRange (allowStruct : Bool) (ts : List Token) : Bool :=
  isEnd ts || startsPoint ts || (!allowStruct && startsGroup .brace ts) || startsWord "as" ts ||
    afterOpenRange.any fun o => startsOp o.toList ts

/-- The end of a range, if there is one. -/
def rangeStop (allowStruct : Bool) (operand : Nat → Reader Expr) (closed : Bool) :
    Reader (Option Expr) := do
  if !closed && endsRange allowStruct (← ahead) then return none
  else return some (← operand rangeStrength)

/-- Refuse what cannot follow a cast. -/
def afterCast : Reader Unit := do
  let ts ← ahead
  let second := ts.drop 1
  let third := second.drop 1
  let refuse := fun (what : String) => failRule ("casts cannot be followed by " ++ what)
  if startsPoint ts then
    if startsWord "await" second then refuse "`.await`"
    else if startsName second && (startsGroup .paren third || startsOp [':', ':'] third) then
      refuse "a method call"
    else refuse "a field access"
  else if startsOp ['?'] ts then refuse "`?`"
  else if startsGroup .bracket ts then refuse "indexing"
  else if startsGroup .paren ts then refuse "a function call"

/-- Continue with operators of at least a given strength. `operand` reads a right operand together
with all stronger operators after it. -/
def operatorLoop (g : Grammar) (allowStruct : Bool) (operand : Nat → Reader Expr) (base : Nat)
    (left : Expr) : Reader Expr :=
  repeatStep (fun (left : Expr) => do
    let ts ← ahead
    if isRange left then return .error left
    match binaryOp? ts with
    | some (o, n) =>
      if n < base then return .error left
      else if n = compareStrength ∧ isComparison left then
        failRule "comparison operators cannot be chained"
      else
        drop o.length
        return .ok (.binary o left (← operand n))
    | none =>
      if base ≤ assignStrength ∧ startsAssign ts then
        drop 1
        return .ok (.assign left (← operand assignStrength))
      else if base ≤ rangeStrength ∧ startsOp ['.', '.'] ts then
        let closed ← limits false
        return .ok (.range (some left) closed (← rangeStop allowStruct operand closed))
      else if base ≤ castStrength ∧ startsWord "as" ts then
        drop 1
        let t ← g.ty false
        afterCast
        return .ok (.cast left t)
      else return .error left) g.fuel left

/-- A right operand: a unary expression and all operators after it that are stronger than `n`, or as
strong if it is an assignment. -/
def operandWith (g : Grammar) (allowStruct : Bool) (unary : Reader Expr) : Nat → Nat → Reader Expr
  | 0, _ => throw .tooDeep
  | depth + 1, n => do
    let first ← unary
    repeatStep (fun (right : Expr) => do
      let before ← ahead
      let next := nextStrength before
      if next > n ∨ (next = n ∧ n = assignStrength) then
        let more ← operatorLoop g allowStruct (operandWith g allowStruct unary depth) next right
        if (← ahead).length = before.length then return .error more else return .ok more
      else return .error right) g.fuel first

/-- Continue an expression with operators of at least a given strength. -/
def withOperators (g : Grammar) (allowStruct : Bool) (unary : Reader Expr) (base : Nat)
    (left : Expr) : Reader Expr :=
  operatorLoop g allowStruct (operandWith g allowStruct unary g.fuel) base left

/-! ## Members and calls -/

/-- Arguments in parentheses. -/
def arguments (g : Grammar) : Reader (List Expr) :=
  grouped .paren (commaList g.fuel isEnd (g.expr .free))

/-- A member after a point, or the word that awaits: a field or a call of a method. -/
def namedMember (g : Grammar) (base : Expr) : Reader Expr := do
  if ← word? "await" then return .await base
  let (isName, n) ← member
  let s ← if isName && startsOp [':', ':'] (← ahead) then do
      drop 2
      pure (Segment.angle n true (← angleArguments g))
    else pure (Segment.name n)
  match s with
  | .angle .. => return .method base s (← arguments g)
  | _ =>
    if isName && startsGroup .paren (← ahead) then return .method base s (← arguments g)
    else return .field base n

/-- What follows a point. A number with a point in it stands for several positions in a row. -/
def pointed (g : Grammar) (base : Expr) : Reader Expr := do
  match (← glimpse literal).filter isFloatLiteral with
  | some text =>
    let _ ← literal
    let endsInPoint := text.toList.getLast? == some '.'
    let parts := text.splitOn "."
    let e ← (if endsInPoint then parts.dropLast else parts).foldlM
      (fun e part => return .field e (← position part)) base
    if endsInPoint then namedMember g e else return e
  | none => namedMember g base

/-- Continue an expression with calls, members, indices and question marks. -/
def trailers (g : Grammar) (first : Expr) : Reader Expr :=
  repeatStep (fun (e : Expr) => do
    let ts ← ahead
    if startsGroup .paren ts then return .ok (.call e (← arguments g))
    else if startsPoint ts && !isRange e then
      drop 1
      return .ok (← pointed g e)
    else if startsGroup .bracket ts then
      return .ok (.index e (← grouped .bracket (g.expr .free)))
    else if startsOp ['?'] ts && !isRange e then
      drop 1
      return .ok (.question e)
    else return .error e) g.fuel first

/-! ## Expressions that begin with a path or a bracket -/

/-- A field of a struct expression. -/
def recordField (g : Grammar) : Reader Expr := do
  let attrs ← outerAttributes g
  let (isName, n) ← member
  if startsOp [':'] (← ahead) || !isName then
    op [':']
    return (Expr.member n (some (← g.expr .free))).withAttributes attrs
  else return (Expr.member n none).withAttributes attrs

/-- The inside of the braces of a struct expression. -/
def recordInside (g : Grammar) (q : QPath) : Reader Expr :=
  repeatStep (fun (done : List Expr) => do
    if isEnd (← ahead) then return .error (.record q done.reverse false none)
    if ← op? ['.', '.'] then
      let rest ← if isEnd (← ahead) then pure none else some <$> g.expr .free
      return .error (.record q done.reverse true rest)
    let f ← recordField g
    if isEnd (← ahead) then return .error (.record q (f :: done).reverse false none)
    op [',']
    return .ok (f :: done)) g.fuel []

/-- An expression that begins with a path. -/
def pathExpr (g : Grammar) (allowStruct : Bool) : Reader Expr := do
  let q ← qpath g true
  let ts ← ahead
  match macroPath? q, startsBang ts with
  | some names, true => return .macroCall (← macroCallAfter names)
  | _, _ =>
    if allowStruct && startsGroup .brace ts then grouped .brace (recordInside g q)
    else return .path q

/-- Expressions after a first one, with commas before them and perhaps after the last one. -/
def afterFirst (g : Grammar) (first : Expr) : Reader (List Expr) :=
  repeatStep (fun (done : List Expr) => do
    if isEnd (← ahead) then return .error done.reverse
    op [',']
    if isEnd (← ahead) then return .error done.reverse
    return .ok ((← g.expr .free) :: done)) g.fuel [first]

/-- An expression that begins with a parenthesis. -/
def parenExpr (g : Grammar) : Reader Expr :=
  grouped .paren do
    if isEnd (← ahead) then return .tuple []
    let first ← g.expr .free
    if isEnd (← ahead) then return .paren first
    return .tuple (← afterFirst g first)

/-- An array. -/
def arrayExpr (g : Grammar) : Reader Expr :=
  grouped .bracket do
    if isEnd (← ahead) then return .array []
    let first ← g.expr .free
    if isEnd (← ahead) || startsOp [','] (← ahead) then return .array (← afterFirst g first)
    else if ← op? [';'] then return .repeated first (← g.expr .free)
    else expected ["`,`", "`;`"]

/-! ## Blocks, branches and loops -/

/-- The attributes and the statements inside of braces. -/
def body (g : Grammar) : Reader (List Attribute × List Stmt) :=
  grouped .brace do
    let attrs ← innerAttributes g
    return (attrs, ← g.stmts)

/-- The branches of a conditional. -/
def ifExpr (g : Grammar) : Nat → Reader Expr
  | 0 => throw .tooDeep
  | depth + 1 => do
    word "if"
    let condition ← g.expr .beforeBlock
    let body ← grouped .brace g.stmts
    if ← word? "else" then
      let ts ← ahead
      if startsWord "if" ts then return .ifThen condition body (some (← ifExpr g depth))
      else if startsGroup .brace ts then
        return .ifThen condition body (some (.block (.plain none) [] (← grouped .brace g.stmts)))
      else expected ["`if`", "curly braces"]
    else return .ifThen condition body none

/-- An arm of a `match`. -/
def arm (g : Grammar) : Reader Arm := do
  let attrs ← outerAttributes g
  let p ← alternatives g
  let guard ← if ← word? "if" then some <$> g.expr .free else pure none
  op ['=', '>']
  let e ← g.expr .beginning
  if !e.standsAlone && !isEnd (← ahead) then op [',']
  else
    let _ ← op? [',']
  return .mk attrs p guard e

/-- A `match`. -/
def matchExpr (g : Grammar) : Reader Expr := do
  word "match"
  let scrutinee ← g.expr .beforeBlock
  grouped .brace do
    let attrs ← innerAttributes g
    return .matchOn scrutinee attrs (← itemsToEnd g.fuel (arm g))

/-- A `loop`, perhaps behind a label. -/
def loopExpr (g : Grammar) (label : Option String) : Reader Expr := do
  word "loop"
  let (attrs, ss) ← body g
  return .loop label attrs ss

/-- A `while`, perhaps behind a label. -/
def whileExpr (g : Grammar) (label : Option String) : Reader Expr := do
  word "while"
  let condition ← g.expr .beforeBlock
  let (attrs, ss) ← body g
  return .whileLoop label condition attrs ss

/-- A `for`, perhaps behind a label. -/
def forExpr (g : Grammar) (label : Option String) : Reader Expr := do
  word "for"
  let p ← alternatives g
  word "in"
  let e ← g.expr .beforeBlock
  let (attrs, ss) ← body g
  return .forLoop label p e attrs ss

/-- An expression behind a label. -/
def labeled (g : Grammar) : Reader Expr := do
  let l ← lifetime
  op [':']
  let ts ← ahead
  if startsWord "while" ts then whileExpr g (some l)
  else if startsWord "for" ts then forExpr g (some l)
  else if startsWord "loop" ts then loopExpr g (some l)
  else if startsGroup .brace ts then
    let (attrs, ss) ← body g
    return .block (.plain (some l)) attrs ss
  else expected ["loop or block expression"]

/-- Whether `for` comes next and binds lifetimes. -/
def startsBinder (ts : List Token) : Bool :=
  startsWord "for" ts && startsOp ['<'] (ts.drop 1) &&
    (startsLifetime (ts.drop 2) || startsOp ['>'] (ts.drop 2))

/-- An expression that stands for itself, where one begins here. -/
def standing? (g : Grammar) (ts : List Token) : Option (Reader Expr) :=
  if startsWord "if" ts then some (ifExpr g g.fuel)
  else if startsWord "while" ts then some (whileExpr g none)
  else if startsWord "for" ts && !startsBinder ts then some (forExpr g none)
  else if startsWord "loop" ts then some (loopExpr g none)
  else if startsWord "match" ts then some (matchExpr g)
  else if startsWord "try" ts && startsGroup .brace (ts.drop 1) then some do
    drop 1
    return .block .tryBlock [] (← grouped .brace g.stmts)
  else if startsWord "unsafe" ts then some do
    drop 1
    let (attrs, ss) ← body g
    return .block .unsafeBlock attrs ss
  else if startsWord "const" ts && startsGroup .brace (ts.drop 1) then some do
    let (attrs, ss) ← constBlock g
    return .block .constBlock attrs ss
  else if startsGroup .brace ts then some (blockExpr g)
  else if startsLifetime ts then some (labeled g)
  else none

/-! ## Closures -/

/-- Whether a closure begins here. -/
def startsClosure (ts : List Token) : Bool :=
  let second := ts.drop 1
  startsOp ['|'] ts || startsAnyWord ["move", "static"] ts || startsBinder ts ||
    (startsWord "const" ts && !startsGroup .brace second) ||
    (startsWord "async" ts && (startsOp ['|'] second || startsWord "move" second))

/-- A parameter of a closure. -/
def closureParam (g : Grammar) : Reader Pat := do
  let attrs ← outerAttributes g
  let p ← g.pat
  if ← op? [':'] then return (Pat.typed p (← g.ty true)).withAttributes attrs
  else return p.withAttributes attrs

/-- The words before the bars of a closure, in their fixed order. -/
def closureWords : List String := ["const", "static", "async", "move"]

/-- A closure. -/
def closure (g : Grammar) (allowStruct : Bool) : Reader Expr := do
  let params ← binder? g
  let words ← wordsInOrder closureWords
  op ['|']
  let inputs ← commaList g.fuel (startsOp ['|']) (closureParam g)
  op ['|']
  if ← op? ['-', '>'] then
    let t ← g.ty true
    let ss ← grouped .brace g.stmts
    return .closure params words inputs (some t) (.block (.plain none) [] ss)
  else
    return .closure params words inputs none
      (← g.expr (if allowStruct then .free else .beforeBlock))

/-! ## Other expressions -/

/-- Whether an expression may begin here, after a word that can stand alone. -/
def startsExpr (ts : List Token) : Bool :=
  (startsAnyName ts && !startsWord "as" ts) || startsLiteral ts || startsGroup .paren ts ||
    startsGroup .bracket ts || startsGroup .brace ts ||
    startsBang ts ||
    (startsOp ['-'] ts && !startsOp ['-', '='] ts && !startsOp ['-', '>'] ts) ||
    (startsOp ['*'] ts && !startsOp ['*', '='] ts) ||
    (startsOp ['|'] ts && !startsOp ['|', '='] ts) ||
    (startsOp ['&'] ts && !startsOp ['&', '='] ts) ||
    startsOp ['.', '.'] ts ||
    (startsOp ['<'] ts && !startsOp ['<', '='] ts && !startsOp ['<', '<', '='] ts) ||
    startsOp [':', ':'] ts || startsLifetime ts || startsOp ['#'] ts

/-- An expression after a word that can stand alone. -/
def operand? (g : Grammar) : Reader (Option Expr) := do
  if startsExpr (← ahead) then return some (← g.expr .free) else return none

/-- A `break`, after its word. -/
def breakExpr (g : Grammar) (allowStruct : Bool) : Reader Expr := do
  let ts ← ahead
  if startsLifetime ts && startsOp [':'] (skipTree ts) then
    let _ ← g.expr .free
    failRule "parentheses required"
  let label ← lifetime?
  if !allowStruct && startsGroup .brace (← ahead) then return .breakWith label none
  else return .breakWith label (← operand? g)

/-- A condition binding, after its word. -/
def letExpr (g : Grammar) (allowStruct : Bool) (unary : Reader Expr) : Reader Expr := do
  let p ← alternatives g
  op ['=']
  return .letCondition p (← withOperators g allowStruct unary compareStrength (← unary))

/-- A form of the compiler's own: its tokens are taken, and it has no tree. -/
def builtinExpr : Reader Expr := do
  let (_, tokens) ← withTokens do
    drop 2
    let _ ← name
    if startsGroup .paren (← ahead) then
      let _ ← rawGroup
    else expected [delimiterName .paren]
  return .bare tokens

/-- An expression without operators around it. -/
def atom (g : Grammar) (allowStruct : Bool) (unary : Reader Expr) : Reader Expr := do
  let ts ← ahead
  let second := ts.drop 1
  if startsLiteral ts then return .literal (← literal)
  else if startsWord "async" ts && (startsGroup .brace second ||
      (startsWord "move" second && startsGroup .brace (second.drop 1))) then
    drop 1
    let moves ← word? "move"
    return .block (.asyncBlock moves) [] (← grouped .brace g.stmts)
  else if startsClosure ts then closure g allowStruct
  else if startsWord "builtin" ts && startsOp ['#'] second then builtinExpr
  else if startsPath ts ||
      (startsWord "try" ts && (startsOp ['!'] second || startsOp [':', ':'] second)) then
    pathExpr g allowStruct
  else if startsGroup .paren ts then parenExpr g
  else if startsWord "break" ts then
    drop 1
    breakExpr g allowStruct
  else if startsWord "continue" ts then
    drop 1
    return .continueAt (← lifetime?)
  else if startsWord "return" ts then
    drop 1
    return .returnWith (← operand? g)
  else if startsWord "become" ts then
    let (_, tokens) ← withTokens do
      drop 1
      g.expr .free
    return .bare tokens
  else if startsGroup .bracket ts then arrayExpr g
  else if startsWord "let" ts then
    drop 1
    letExpr g allowStruct unary
  else if startsWord "yield" ts then
    drop 1
    return .yieldWith (← operand? g)
  else if startsOp ['.', '.'] ts then
    let closed ← limits false
    return .range none closed
      (← rangeStop allowStruct (operandWith g allowStruct unary g.fuel) closed)
  else if startsWord "_" ts then
    drop 1
    return .infer
  else
    match standing? g ts with
    | some r => r
    | none => expected ["an expression"]

/-- The operator that stands before its operand, if one comes next. -/
def unaryOp? : List Token → Option Char
  | .punct c _ :: _ => if ['*', '!', '-'].contains c then some c else none
  | _ => none

/-- A reference, after its sign. -/
def referenceExpr (unary : Reader Expr) : Reader Expr := do
  let ts ← ahead
  if startsWord "raw" ts && startsAnyWord ["mut", "const"] (ts.drop 1) then
    drop 1
    let mutable ← word? "mut"
    if !mutable then word "const"
    return .rawReference mutable (← unary)
  else
    let mutable ← word? "mut"
    return .reference mutable (← unary)

/-- An expression with the unary operators before it and the calls and members after it. -/
def unaryWith (g : Grammar) (allowStruct : Bool) : Nat → Reader Expr
  | 0 => throw .tooDeep
  | depth + 1 => do
    let unary := unaryWith g allowStruct depth
    let before ← ahead
    let attrs ← outerAttributes g
    let ts ← ahead
    if startsOp ['&'] ts then
      drop 1
      return (← referenceExpr unary).withAttributes attrs
    else
      match unaryOp? ts with
      | some c =>
        drop 1
        return (Expr.unary c (← unary)).withAttributes attrs
      | none =>
        let e ← trailers g (← atom g allowStruct unary)
        match e with
        | .bare _ => return .bare (between before (← ahead))
        | .range .. =>
          if attrs.isEmpty then return e
          else failRule "attributes are not allowed on range expressions starting with `..`"
        | e => return e.withAttributes attrs

/-- An expression with the operators around it. -/
def operatorExpr (g : Grammar) (allowStruct : Bool) : Reader Expr := do
  let unary := unaryWith g allowStruct g.fuel
  withOperators g allowStruct unary 0 (← unary)

/-- An expression at the beginning of a statement or of the body of an arm. -/
def beginningExpr (g : Grammar) : Reader Expr := do
  let unary := unaryWith g true g.fuel
  let attrs ← outerAttributes g
  let e ← match standing? g (← ahead) with
    | some r => r
    | none => unary
  let ts ← ahead
  if !e.standsAlone then withOperators g true unary 0 (e.withAttributes attrs)
  else if startsPoint ts || startsOp ['?'] ts then
    withOperators g true unary 0 ((← trailers g e).withAttributes attrs)
  else return e.withAttributes attrs

/-- An expression in its place. -/
def exprWith (g : Grammar) : ExprPlace → Reader Expr
  | .free => operatorExpr g true
  | .beforeBlock => operatorExpr g false
  | .beginning => beginningExpr g

end DispatchLayer.Code.Reader
