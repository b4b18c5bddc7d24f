import DispatchLayer.Code.Reader.Type
import DispatchLayer.Code.Reader.Pattern

/-!
# Reading the heads of functions

The words before `fn` come in a fixed order. Only the first parameter may be a receiver, and only the
last one may stand for any further arguments.
-/

namespace DispatchLayer.Code.Reader

/-- A receiver. -/
def receiver (g : Grammar) (attrs : List Attribute) : Reader FnParam := do
  let reference ← if ← op? ['&'] then some <$> lifetime? else pure none
  let mutable ← word? "mut"
  word "self"
  let t ← if reference.isNone && (← op? [':']) then some <$> g.ty true else pure none
  return .receiver attrs reference mutable t

/-- The parameter for any further arguments, after its points. -/
def anyFurther (p : FnParam) : Reader FnParam := do
  op ['.', '.', '.']
  if !isEnd (← ahead) then op [',']
  return p

/-- Whether a parameter stands for any further arguments. -/
def isVariadic : FnParam → Bool
  | .typed _ _ .variadic => true
  | .nameless _ .variadic => true
  | _ => false

/-- Whether a parameter is a receiver. -/
def isReceiver : FnParam → Bool
  | .receiver .. => true
  | _ => false

/-- A parameter of a function. A type without a name stands for a parameter that is not used, if it
begins with a name and generic arguments. -/
def fnParam (g : Grammar) : Reader FnParam := do
  let attrs ← outerAttributes g
  if startsOp ['.', '.', '.'] (← ahead) then return ← anyFurther (.nameless attrs .variadic)
  match ← attempt (receiver g attrs) with
  | some p => return p
  | none =>
    let ts ← ahead
    if startsName ts && startsOp ['<'] (ts.drop 1) then return .typed attrs .wild (← g.ty true)
    else
      let p ← g.pat
      op [':']
      if startsOp ['.', '.', '.'] (← ahead) then anyFurther (.typed attrs p .variadic)
      else return .typed attrs p (← g.ty true)

/-- The parameters of a function. -/
def fnParams (g : Grammar) : Reader (List FnParam) :=
  repeatStep (fun (done : List FnParam) => do
    if isEnd (← ahead) then return .error done.reverse
    let p ← fnParam g
    if isVariadic p then return .error (p :: done).reverse
    if isReceiver p && done.any isReceiver then failRule "unexpected second method receiver"
    if isReceiver p && !done.isEmpty then failRule "unexpected method receiver"
    if isEnd (← ahead) then return .error (p :: done).reverse
    op [',']
    return .ok (p :: done)) g.fuel []

/-- Words that may stand before `fn`; a foreign function may be `safe`. -/
def qualifierWords (ts : List Token) (foreign : Bool) : List String :=
  let rest := ["const", "async"].foldl (fun ts w => if startsWord w ts then ts.drop 1 else ts) ts
  ["const", "async", if foreign && startsWord "safe" rest then "safe" else "unsafe"]

/-- The tokens after a calling convention, if one comes next. -/
def afterConvention (ts : List Token) : List Token :=
  if startsWord "extern" ts then
    if startsText (ts.drop 1) then ts.drop 2 else ts.drop 1
  else ts

/-- Whether the head of a function comes next. -/
def startsSignature (foreign : Bool) (ts : List Token) : Bool :=
  let rest := (qualifierWords ts foreign).foldl
    (fun ts w => if startsWord w ts then ts.drop 1 else ts) ts
  startsWord "fn" (afterConvention rest)

/-- The head of a function. -/
def signature (g : Grammar) (foreign : Bool) : Reader Signature := do
  let words ← wordsInOrder (qualifierWords (← ahead) foreign)
  let convention ← convention?
  word "fn"
  let n ← name
  let params ← genericParams g
  let inputs ← grouped .paren (fnParams g)
  let out ← output g true
  return .mk words convention n (.mk params (← whereClause g)) inputs out

end DispatchLayer.Code.Reader
