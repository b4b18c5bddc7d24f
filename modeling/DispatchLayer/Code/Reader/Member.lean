import DispatchLayer.Code.Reader.Function

/-!
# Reading the items of traits, implementations and foreign blocks

Each of the three kinds of blocks has its own items. Where an item has parts that its place does not
provide for, such as a visibility in a trait, it is kept as its tokens.
-/

namespace DispatchLayer.Code.Reader

/-- Whether no visibility was given. -/
def isInherited : Visibility → Bool
  | .inherited => true
  | _ => false

/-- Whether the path of a macro call in place of items may begin here. -/
def startsMacro (ts : List Token) : Bool :=
  startsName ts || startsAnyWord ["self", "super", "crate"] ts || startsOp [':', ':'] ts

/-- What can begin a macro call in place of items. -/
def macroStarts : List String := ["identifier", "`self`", "`super`", "`crate`", "`::`"]

/-- A macro call in place of items, with the semicolon that brackets other than braces need. -/
def macroMember (g : Grammar) (attrs : List Attribute) : Reader Item := do
  let m ← macroCallAfter (← plainPath g)
  if m.delimiter != .brace then op [';']
  return .macroCall attrs none m

/-- The inside of the braces of a function: its attributes and statements. -/
def fnBody (g : Grammar) : Reader (List Attribute × List Stmt) :=
  grouped .brace do
    let attrs ← innerAttributes g
    return (attrs, ← g.stmts)

/-! ## Constants and types -/

/-- The name of a constant. -/
def constName : Reader String := do
  let ts ← ahead
  if startsName ts || startsWord "_" ts then anyName else expected ["identifier", "`_`"]

/-- A constant from its word on. -/
structure ConstParts where
  name : String
  type : Ty
  value : Option Expr
  /-- Whether it has generic parameters or conditions. -/
  isGeneric : Bool

/-- A constant after its word. -/
def constParts (g : Grammar) : Reader ConstParts := do
  let n ← constName
  let angle := startsOp ['<'] (← ahead)
  let _ ← genericParams g
  op [':']
  let t ← g.ty true
  let value ← if ← op? ['='] then some <$> g.expr .free else pure none
  let conditions ← whereClause? g
  op [';']
  return ⟨n, t, value, angle || conditions.isSome⟩

/-- Where the conditions of a type stand. -/
inductive WherePlace where
  | beforeEquals
  | afterEquals
  | both
  deriving DecidableEq, Repr

/-- A type from its word on. -/
structure TypeParts where
  name : String
  generics : Generics
  /-- The bounds after a colon, if there is one. -/
  bounds : Option (List Bound)
  type : Option Ty

/-- A type after its word. -/
def typeParts (g : Grammar) (place : WherePlace) : Reader TypeParts := do
  let n ← name
  let params ← genericParams g
  let stop := fun ts => startsWord "where" ts || startsOp ['='] ts || startsOp [';'] ts
  let bs ← if ← op? [':'] then some <$> boundsUpTo g .param stop else pure none
  let before ← if place = .afterEquals then pure none else whereClause? g
  let t ← if ← op? ['='] then some <$> g.ty true else pure none
  let after ← if place = .beforeEquals || before.isSome then pure none else whereClause? g
  op [';']
  return ⟨n, .mk params ((before <|> after).getD []), bs, t⟩

/-! ## Items of traits -/

/-- A function of a trait. -/
def traitFn (g : Grammar) (attrs : List Attribute) : Reader Item := do
  let s ← signature g false
  if startsGroup .brace (← ahead) then
    let (inside, ss) ← fnBody g
    return .fn (attrs ++ inside) .inherited false s ss
  else if ← op? [';'] then return .fnHead attrs .inherited s
  else expected ["curly braces", "`;`"]

/-- What an item of a trait can begin with. -/
def traitItemStarts : List String := ["`fn`", "`const`", "`type`"]

/-- A constant of a trait, or what else begins with its word. -/
def traitConst (g : Grammar) (attrs : List Attribute) : Reader (Option Item) := do
  let second := (← ahead).drop 1
  if startsName second || startsWord "_" second then
    drop 1
    let c ← constParts g
    return if c.isGeneric then none else some (.const attrs .inherited false c.name c.type c.value)
  else if startsAnyWord ["async", "unsafe", "extern", "fn"] second then some <$> traitFn g attrs
  else
    drop 1
    expected ["identifier", "`_`", "`async`", "`unsafe`", "`extern`", "`fn`"]

/-- An item of a trait. -/
def traitItem (g : Grammar) : Reader Item := do
  let (item?, tokens) ← withTokens do
    let attrs ← outerAttributes g
    let vis ← visibility g
    let isDefault ← word? "default"
    let plain := isInherited vis && !isDefault
    let ts ← ahead
    let item? ← if startsSignature false ts then some <$> traitFn g attrs
      else if startsWord "const" ts then traitConst g attrs
      else if ← word? "type" then do
        let t ← typeParts g .afterEquals
        pure (some (.type attrs .inherited false t.name t.generics (t.bounds.getD []) t.type))
      else if plain && startsMacro ts then some <$> macroMember g attrs
      else expected (traitItemStarts ++ if plain then macroStarts else [])
    return if plain then item? else none
  return item?.getD (.bare tokens)

/-! ## Items of implementations -/

/-- An item of an implementation. -/
def implItem (g : Grammar) : Reader Item := do
  let (item?, tokens) ← withTokens do
    let attrs ← outerAttributes g
    let vis ← visibility g
    let isDefault := startsWord "default" (← ahead) && !startsOp ['!'] ((← ahead).drop 1)
    if isDefault then drop 1
    let plain := isInherited vis && !isDefault
    let ts ← ahead
    if startsSignature false ts then
      let s ← signature g false
      if ← op? [';'] then return none
      let (inside, ss) ← fnBody g
      return some (.fn (attrs ++ inside) vis isDefault s ss)
    else if ← word? "const" then
      let c ← constParts g
      return if c.isGeneric || c.value.isNone then none
        else some (.const attrs vis isDefault c.name c.type c.value)
    else if ← word? "type" then
      let t ← typeParts g .afterEquals
      return if t.bounds.isSome || t.type.isNone then none
        else some (.type attrs vis isDefault t.name t.generics [] t.type)
    else if plain && startsMacro ts then return some (← macroMember g attrs)
    else
      expected ((if isDefault then [] else ["`default`"]) ++ ["`fn`", "`const`", "`type`"] ++
        if plain then macroStarts else [])
  return item?.getD (.bare tokens)

/-! ## Items of foreign blocks -/

/-- A foreign static variable; the answer is none if it has parts that none has. -/
def foreignStatic (g : Grammar) (attrs : List Attribute) (vis : Visibility) :
    Reader (Option Item) := do
  let marked := startsAnyWord ["unsafe", "safe"] (← ahead)
  if marked then drop 1
  word "static"
  let mutable ← word? "mut"
  let n ← name
  op [':']
  let t ← g.ty true
  let valued ← op? ['=']
  if valued then
    let _ ← g.expr .free
  op [';']
  return if marked || valued then none else some (.static attrs vis mutable n t none)

/-- A foreign function; the answer is none if it has parts that none has. -/
def foreignFn (g : Grammar) (attrs : List Attribute) (vis : Visibility) :
    Reader (Option Item) := do
  let s ← signature g true
  let isSafe := match s with
    | .mk words .. => words.contains "safe"
  if startsGroup .brace (← ahead) then
    let _ ← fnBody g
    return none
  else
    op [';']
    return if isSafe then none else some (.fnHead attrs vis s)

/-- An item of a foreign block. -/
def foreignItem (g : Grammar) : Reader Item := do
  let (item?, tokens) ← withTokens do
    let attrs ← outerAttributes g
    let vis ← visibility g
    let ts ← ahead
    if startsSignature true ts then foreignFn g attrs vis
    else if startsWord "static" ts ||
        (startsAnyWord ["unsafe", "safe"] ts && startsWord "static" (ts.drop 1)) then
      foreignStatic g attrs vis
    else if ← word? "type" then
      let t ← typeParts g .both
      return if t.bounds.isSome || t.type.isSome then none
        else some (.type attrs vis false t.name t.generics [] none)
    else if isInherited vis && startsMacro ts then return some (← macroMember g attrs)
    else
      expected (["`fn`", "`static`", "`type`"] ++ if isInherited vis then macroStarts else [])
  return item?.getD (.bare tokens)

end DispatchLayer.Code.Reader
