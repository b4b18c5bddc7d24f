import DispatchLayer.Code.Reader.Expr

/-!
# Reading statements

A statement is a binding, an item, a macro call or an expression. A macro call with braces is a
statement on its own unless a member or a question mark follows. Every statement that could go on
needs a semicolon, except for the last one.
-/

namespace DispatchLayer.Code.Reader

/-- Whether an item begins here, and no expression. -/
def startsItem (ts : List Token) : Bool :=
  let second := ts.drop 1
  let third := second.drop 1
  startsAnyWord ["pub", "extern", "use", "fn", "mod", "type", "struct", "enum", "trait", "impl",
      "macro"] ts ||
    (startsWord "crate" ts && !startsOp [':', ':'] second) ||
    (startsWord "static" ts && (startsWord "mut" second || startsName second)) ||
    (startsWord "const" ts && !(startsGroup .brace second || startsOp ['|'] second ||
      startsAnyWord ["static", "move"] second ||
      (startsWord "async" second && !startsAnyWord ["unsafe", "extern", "fn"] third))) ||
    (startsWord "unsafe" ts && !startsGroup .brace second) ||
    (startsWord "async" ts && startsAnyWord ["unsafe", "extern", "fn"] second) ||
    (startsWord "union" ts && startsName second) ||
    (startsWord "auto" ts && startsWord "trait" second) ||
    (startsWord "default" ts && startsAnyWord ["unsafe", "impl"] second)

/-- Whether tokens end in a closing brace. -/
def endsInBrace (ts : List Token) : Bool := ts.getLast? == some (.closing .brace)

/-- A binding, after its word. -/
def letStmt (g : Grammar) (attrs : List Attribute) : Reader Stmt := do
  let p ← g.pat
  let p ← if ← op? [':'] then Pat.typed p <$> g.ty true else pure p
  if ← op? ['='] then
    let (e, tokens) ← withTokens (g.expr .free)
    if !endsInBrace tokens && startsWord "else" (← ahead) then
      drop 1
      let ss ← grouped .brace g.stmts
      op [';']
      return .letBinding attrs p (some e) (some (.block (.plain none) [] ss))
    else
      op [';']
      return .letBinding attrs p (some e) none
  else
    op [';']
    return .letBinding attrs p none none

/-- The expression with further attributes in front of its first operand. -/
def attributedFirst (attrs : List Attribute) : Expr → Expr
  | .assign l r => .assign (attributedFirst attrs l) r
  | .binary op l r => .binary op (attributedFirst attrs l) r
  | .cast e t => .cast (attributedFirst attrs e) t
  | e => e.withAttributes attrs

/-- A statement that is an expression; a macro call with a semicolon or with braces is one of its
own. -/
def expressionStmt (attrs : List Attribute) (e : Expr) (semicolon : Bool) : Stmt :=
  match attributedFirst attrs e with
  | .macroCall m =>
    if semicolon || m.delimiter == .brace then .macroCall [] m semicolon
    else .expr (.macroCall m) false
  | .attributed as (.macroCall m) =>
    if semicolon || m.delimiter == .brace then .macroCall as m semicolon
    else .expr (.attributed as (.macroCall m)) false
  | e => .expr e semicolon

/-- What the path of a macro call and its exclamation mark begin at the front of a statement. -/
inductive MacroAhead where
  /-- An item, as a name follows. -/
  | item
  /-- A statement, as braces follow. -/
  | statement (p : PlainPath)

/-- The macro call that the statement is, if it is one by its first tokens. -/
def macroAhead? (g : Grammar) : Reader (Option MacroAhead) := do
  match ← glimpse (do
      let p ← plainPath g
      return (p, ← ahead)) with
  | none => return none
  | some (p, after) =>
    let rest := after.drop 1
    let next := skipTree rest
    if !startsOp ['!'] after then return none
    else if startsName rest || startsWord "try" rest then return some .item
    else if startsGroup .brace rest && !(startsOp ['.'] next || startsOp ['?'] next) then
      return some (.statement p)
    else return none

/-- A statement. -/
def statement (g : Grammar) : Reader Stmt := do
  let here ← get
  let attrs ← outerAttributes g
  let ts ← ahead
  let item : Reader Stmt := do
    set here
    return .item (← g.item)
  match ← macroAhead? g with
  | some .item => item
  | some (.statement _) =>
    let m ← macroCallAfter (← plainPath g)
    return .macroCall attrs m (← op? [';'])
  | none =>
    if startsWord "let" ts then
      drop 1
      letStmt g attrs
    else if startsItem ts then item
    else
      let e ← g.expr .beginning
      return expressionStmt attrs e (← op? [';'])

/-- Whether a statement has to be the last one. -/
def mustBeLast : Stmt → Bool
  | .expr e false => !e.isStatement
  | .macroCall _ m false => m.delimiter != .brace
  | _ => false

/-- The statements inside a block. -/
def stmtsWith (g : Grammar) : Reader (List Stmt) :=
  repeatStep (fun (done : List Stmt) => do
    if ← op? [';'] then return .ok (.empty :: done)
    if isEnd (← ahead) then return .error done.reverse
    let s ← statement g
    if isEnd (← ahead) then return .error (s :: done).reverse
    else if mustBeLast s then failRule "unexpected token, expected `;`"
    else return .ok (s :: done)) g.fuel []

end DispatchLayer.Code.Reader
