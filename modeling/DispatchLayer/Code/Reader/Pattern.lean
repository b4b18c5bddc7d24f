import DispatchLayer.Code.Reader.Type

/-!
# Reading patterns

Alternatives may stand inside of brackets, in arms and in conditions, and nowhere else without
parentheses. The end of a range is left out where something begins that cannot be one.
-/

namespace DispatchLayer.Code.Reader

/-- A pattern where alternatives may stand. -/
def alternatives (g : Grammar) : Reader Pat := do
  let bar := fun ts => startsOp ['|'] ts && !startsOp ['|', '|'] ts && !startsOp ['|', '='] ts
  let leading ← op? ['|']
  let first ← g.pat
  if leading || bar (← ahead) then
    let ps ← repeatStep (fun (done : List Pat) => do
      if bar (← ahead) then
        drop 1
        return .ok ((← g.pat) :: done)
      else return .error done.reverse) g.fuel [first]
    return .alternatives leading ps
  else return first

/-- Patterns in brackets, with commas between them. -/
def patterns (g : Grammar) : Reader (List Pat) := commaList g.fuel isEnd (alternatives g)

/-! ## Ranges -/

/-- The limits of a range: whether its end belongs to it. Three points stand for the same where
`old` says that they may. -/
def limits (old : Bool) : Reader Bool := do
  let ts ← ahead
  if startsOp ['.', '.', '='] ts then
    drop 3
    return true
  else if startsOp ['.', '.', '.'] ts then
    if old then
      drop 3
      return true
    else expected ["`..=`"]
  else
    drop 2
    return false

/-- Whether the end of a range in a pattern is left out. -/
def endsPatternRange (ts : List Token) : Bool :=
  isEnd ts || startsOp ['|'] ts || startsOp ['='] ts ||
    (startsOp [':'] ts && !startsOp [':', ':'] ts) || startsOp [','] ts || startsOp [';'] ts ||
    startsWord "if" ts

/-- What an end of a range in a pattern can begin with. -/
def rangeEndStarts : List String := [
  "literal", "identifier", "`::`", "`<`", "`self`", "`Self`", "`super`", "`crate`", "`const`"]

/-- A block after `const`. -/
def constBlock (g : Grammar) : Reader (List Attribute × List Stmt) := do
  word "const"
  grouped .brace do
    let attrs ← innerAttributes g
    return (attrs, ← g.stmts)

/-- An end of a range in a pattern, if there is one. -/
def rangeEnd? (g : Grammar) : Reader (Option Expr) := do
  let ts ← ahead
  if endsPatternRange ts then return none
  else if startsLiteral ts then return some (.literal (← literal))
  else if startsPath ts then return some (.path (← qpath g true))
  else if startsWord "const" ts then
    let (attrs, body) ← constBlock g
    return some (.block .constBlock attrs body)
  else expected rangeEndStarts

/-- The pattern that an end of a range is on its own. -/
def patOfRangeEnd : Expr → Pat
  | .literal text => .literal text
  | .path p => .path p
  | .block _ attrs body => .constBlock attrs body
  | _ => .wild

/-- The limits and the end of a range after its start. -/
def rangeFrom (g : Grammar) (start : Expr) : Reader Pat := do
  let closed ← limits true
  let stop ← rangeEnd? g
  if closed && stop.isNone then expected ["range upper bound"]
  return .range (some start) closed stop

/-- A range without a start, or the place of any further patterns. -/
def openRange (g : Grammar) : Reader Pat := do
  let closed ← limits false
  match ← rangeEnd? g with
  | some e => return .range none closed (some e)
  | none => if closed then expected ["range upper bound"] else return .rest

/-- A literal or a constant block, perhaps as the start of a range. -/
def literalPattern (g : Grammar) : Reader Pat := do
  match ← rangeEnd? g with
  | some start =>
    if startsOp ['.', '.'] (← ahead) then rangeFrom g start else return patOfRangeEnd start
  | none => expected rangeEndStarts

/-! ## Structs and paths -/

/-- A field of a struct pattern after its attributes. -/
def patternField (g : Grammar) : Reader Pat := do
  let ((isBoxed, p), tokens) ← withTokens do
    let isBoxed ← word? "box"
    let byRef ← word? "ref"
    let mutable ← word? "mut"
    if isBoxed || byRef || mutable then return (isBoxed, Pat.ident byRef mutable (← name))
    else
      let (isName, n) ← member
      if startsOp [':'] (← ahead) || !isName then
        op [':']
        return (false, .member n (← alternatives g))
      else return (false, .ident false false n)
  return if isBoxed then .bare tokens else p

/-- The fields of a struct pattern, the two points at the end among them. -/
def patternFields (g : Grammar) : Reader (List Pat) :=
  repeatStep (fun (done : List Pat) => do
    if isEnd (← ahead) then return .error done.reverse
    let attrs ← outerAttributes g
    if ← op? ['.', '.'] then return .error (Pat.rest.withAttributes attrs :: done).reverse
    let p ← patternField g
    let p := p.withAttributes attrs
    if isEnd (← ahead) then return .error (p :: done).reverse
    op [',']
    return .ok (p :: done)) g.fuel []

/-- Whether a path that is more than a name begins here: colons, an exclamation mark, brackets or
dots follow. -/
def startsLongPattern (ts : List Token) : Bool :=
  let rest := skipTree ts
  (startsName ts && (startsOp [':', ':'] rest || startsOp ['!'] rest || startsGroup .brace rest ||
      startsGroup .paren rest || startsOp ['.', '.'] rest)) ||
    (startsWord "self" ts && startsOp [':', ':'] rest) ||
    startsOp [':', ':'] ts || startsOp ['<'] ts || startsAnyWord ["Self", "super", "crate"] ts

/-- A pattern that begins with a path. -/
def pathPattern (g : Grammar) : Reader Pat := do
  let q ← qpath g true
  let ts ← ahead
  match macroPath? q, startsBang ts with
  | some names, true => return .macroCall (← macroCallAfter names)
  | _, _ =>
    if startsGroup .brace ts then return .record q (← grouped .brace (patternFields g))
    else if startsGroup .paren ts then return .tupleStruct q (← grouped .paren (patterns g))
    else if startsOp ['.', '.'] ts then rangeFrom g (.path q)
    else return .path q

/-! ## Names and brackets -/

/-- A name with the words before it, and perhaps a pattern for the whole. -/
def namePattern (g : Grammar) : Reader Pat := do
  let byRef ← word? "ref"
  let mutable ← word? "mut"
  let n ← nameOr "self"
  if ← op? ['@'] then return .whole byRef mutable n (← g.pat)
  else return .ident byRef mutable n

/-- A pattern that begins with a parenthesis. -/
def parenPattern (g : Grammar) : Reader Pat :=
  grouped .paren do
    let (ps, trailing) ← repeatStep (fun (done : List Pat) => do
      if isEnd (← ahead) then return .error (done.reverse, true)
      let p ← alternatives g
      if isEnd (← ahead) then return .error ((p :: done).reverse, false)
      op [',']
      return .ok (p :: done)) g.fuel []
    match ps, trailing with
    | [.rest], false => return .tuple ps false
    | [p], false => return .paren p
    | _, _ => return .tuple ps trailing

/-- Whether a pattern is a range with only one end. -/
def isHalfOpen : Pat → Bool
  | .range none _ _ => true
  | .range _ _ none => true
  | _ => false

/-- A pattern that begins with a square bracket. -/
def slicePattern (g : Grammar) : Reader Pat :=
  grouped .bracket do
    return .slice (← commaList g.fuel isEnd do
      let p ← alternatives g
      if isHalfOpen p then
        failRule "range pattern is not allowed unparenthesized inside slice pattern"
      return p)

/-! ## Patterns -/

/-- What a pattern can begin with. -/
def patternStarts : List String := [
  "identifier", "`::`", "`<`", "`_`", "literal", "`const`", "`ref`", "`mut`", "`&`", "parentheses",
  "square brackets", "`..`"]

/-- A pattern without alternatives. -/
def patternWith (g : Grammar) : Reader Pat := do
  let ts ← ahead
  if startsLongPattern ts then pathPattern g
  else if startsWord "_" ts then
    drop 1
    return .wild
  else if startsWord "box" ts then
    let (_, tokens) ← withTokens do
      drop 1
      g.pat
    return .bare tokens
  else if startsOp ['-'] ts || startsLiteral ts || startsWord "const" ts then literalPattern g
  else if startsAnyWord ["ref", "mut", "self"] ts || startsName ts then namePattern g
  else if startsOp ['&'] ts then
    drop 1
    let mutable ← word? "mut"
    return .reference mutable (← g.pat)
  else if startsGroup .paren ts then parenPattern g
  else if startsGroup .bracket ts then slicePattern g
  else if startsOp ['.', '.'] ts && !startsOp ['.', '.', '.'] ts then openRange g
  else expected patternStarts

end DispatchLayer.Code.Reader
