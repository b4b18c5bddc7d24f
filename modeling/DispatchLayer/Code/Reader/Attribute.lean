import DispatchLayer.Code.Reader.Basic

/-!
# Reading plain paths, attributes and visibilities

What stands around items and expressions: paths without generic arguments, macro calls behind such a
path, attributes, and who may use an item.
-/

namespace DispatchLayer.Code.Reader

/-! ## Plain paths -/

/-- Words that stand for a module or a type in a path. -/
def pathWords : List String := ["super", "self", "Self", "crate"]

/-- Whether a name of a plain path comes next. -/
def startsPlainPath (ts : List Token) : Bool := startsName ts || startsAnyWord pathWords ts

/-- A path of plain names, as modules and macros have it. -/
def plainPath (g : Grammar) : Reader PlainPath := do
  let leading ← op? [':', ':']
  if !startsPlainPath (← ahead) then
    let _ ← name
  let names ← repeatStep (fun (done : List String) => do
    if !startsPlainPath (← ahead) then expected ["path segment after `::`"]
    let n ← anyName
    if ← op? [':', ':'] then return .ok (n :: done) else return .error (n :: done).reverse)
    g.fuel []
  return ⟨leading, names⟩

/-- Whether an exclamation mark follows, and not an operator that begins with one. -/
def startsBang (ts : List Token) : Bool := startsOp ['!'] ts && !startsOp ['!', '='] ts

/-- A macro call after its path. -/
def macroCallAfter (p : PlainPath) : Reader MacroCall := do
  op ['!']
  let (d, ts) ← rawGroup
  return ⟨p, d, ts⟩

/-! ## Attributes -/

/-- The value of an attribute: a single literal, or an expression. -/
def attributeValue (g : Grammar) : Reader Expr := do
  match ← glimpse (do
      let _ ← literal
      return isEnd (← ahead)) with
  | some true => return .literal (← literal)
  | _ =>
    let ts ← ahead
    if startsOp ['#'] ts && startsGroup .bracket (ts.drop 1) then
      failRule "unexpected attribute inside of attribute"
    else g.expr .free

/-- The inside of an attribute. -/
def attributeInside (g : Grammar) (inner : Bool) : Reader Attribute := do
  let path ← if ← word? "unsafe" then pure (PlainPath.single "unsafe") else plainPath g
  let ts ← ahead
  match ts with
  | .opening _ :: _ =>
    let (d, inside) ← rawGroup
    return .list inner path d inside
  | _ =>
    if startsOp ['='] ts && !startsOp ['=', '='] ts && !startsOp ['=', '>'] ts then
      drop 1
      return .value inner path (← attributeValue g)
    else return .word inner path

/-- Attributes of what follows. -/
def outerAttributes (g : Grammar) : Reader (List Attribute) :=
  repeatStep (fun (done : List Attribute) => do
    if ← op? ['#'] then
      return .ok ((← grouped .bracket (attributeInside g false)) :: done)
    else return .error done.reverse) g.fuel []

/-- Attributes of what encloses them. -/
def innerAttributes (g : Grammar) : Reader (List Attribute) :=
  repeatStep (fun (done : List Attribute) => do
    let ts ← ahead
    if startsOp ['#'] ts && startsOp ['!'] (ts.drop 1) then
      drop 2
      return .ok ((← grouped .bracket (attributeInside g true)) :: done)
    else return .error done.reverse) g.fuel []

/-! ## Visibility -/

/-- The module that parentheses after `pub` name by one word. -/
def wordInParens? : List Token → Option String
  | .opening .paren :: .ident w :: .closing _ :: _ =>
    if ["crate", "self", "super"].contains w then some w else none
  | _ => none

/-- A visibility. -/
def visibility (g : Grammar) : Reader Visibility := do
  if !(← word? "pub") then return .inherited
  let ts ← ahead
  match wordInParens? ts with
  | some w =>
    drop 3
    return .restricted (PlainPath.single w)
  | none =>
    if startsGroup .paren ts && startsWord "in" (ts.drop 1) then
      grouped .paren do
        drop 1
        return .restricted (← plainPath g)
    else return .pub

end DispatchLayer.Code.Reader
