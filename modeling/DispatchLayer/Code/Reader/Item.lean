import DispatchLayer.Code.Reader.Member

/-!
# Reading items

Items are told apart by the first words after their attributes and visibility. What is expected where
none of them begins depends on whether a visibility was given: only without one may a macro call
stand there. An item that is accepted without having a tree is kept as its tokens; the readers of
such items answer with nothing.
-/

namespace DispatchLayer.Code.Reader

/-! ## Functions, constants and static variables -/

/-- A function of a module. -/
def function (g : Grammar) (attrs : List Attribute) (vis : Visibility) : Reader (Option Item) := do
  let s ← signature g false
  if ← op? [';'] then return none
  let (inside, ss) ← fnBody g
  return some (.fn (attrs ++ inside) vis false s ss)

/-- A constant, after its word. -/
def constItem (g : Grammar) (attrs : List Attribute) (vis : Visibility) :
    Reader (Option Item) := do
  let c ← constParts g
  return if c.isGeneric || c.value.isNone then none
    else some (.const attrs vis false c.name c.type c.value)

/-- A static variable, after its word. -/
def staticItem (g : Grammar) (attrs : List Attribute) (vis : Visibility) :
    Reader (Option Item) := do
  let mutable ← word? "mut"
  let n ← name
  if ← op? ['='] then
    let _ ← g.expr .free
    op [';']
    return none
  else
    op [':']
    let t ← g.ty true
    if ← op? [';'] then return none
    op ['=']
    let e ← g.expr .free
    op [';']
    return some (.static attrs vis mutable n t (some e))

/-- A name for a type, after its word. -/
def typeItem (g : Grammar) (attrs : List Attribute) (vis : Visibility) : Reader (Option Item) := do
  let t ← typeParts g .beforeEquals
  return if t.bounds.isSome || t.type.isNone then none
    else some (.type attrs vis false t.name t.generics [] t.type)

/-! ## Structs, unions and enums -/

/-- A field in parentheses. -/
def tupleField (g : Grammar) : Reader Field := do
  let attrs ← outerAttributes g
  let vis ← visibility g
  return .mk attrs vis none (← g.ty true)

/-- Fields in braces that are read for the sake of their tokens: those of a struct or a union
without a name. -/
def anonymousFields (g : Grammar) (field : Reader Field) : Reader Ty := do
  let (_, tokens) ← withTokens do
    drop 1
    grouped .brace (commaList g.fuel isEnd field)
  return .bare tokens

/-- A field in braces. -/
def namedField (g : Grammar) : Nat → Reader Field
  | 0 => throw .tooDeep
  | depth + 1 => do
    let attrs ← outerAttributes g
    let vis ← visibility g
    let n ← nameOr "_"
    op [':']
    let ts ← ahead
    let t ← if n = "_" && (startsWord "struct" ts ||
        (startsWord "union" ts && startsGroup .brace (ts.drop 1))) then
        anonymousFields g (namedField g depth)
      else g.ty true
    return .mk attrs vis (some n) t

/-- Fields in braces. -/
def namedFields (g : Grammar) : Reader (List Field) :=
  grouped .brace (commaList g.fuel isEnd (namedField g g.fuel))

/-- Fields in parentheses. -/
def tupleFields (g : Grammar) : Reader (List Field) :=
  grouped .paren (commaList g.fuel isEnd (tupleField g))

/-- A variant. -/
def variant (g : Grammar) : Reader Variant := do
  let attrs ← outerAttributes g
  let _ ← visibility g
  let n ← name
  let ts ← ahead
  let fields ← if startsGroup .brace ts then Fields.named <$> namedFields g
    else if startsGroup .paren ts then Fields.tuple <$> tupleFields g
    else pure Fields.unit
  let discriminant ← if ← op? ['='] then some <$> g.expr .free else pure none
  return .mk attrs n fields discriminant

/-- The fields and the `where` clause of a struct. -/
def structBody (g : Grammar) : Reader (Fields × List WherePredicate) := do
  let before ← whereClause? g
  let conditions := before.getD []
  let ts ← ahead
  if before.isNone && startsGroup .paren ts then
    let fs ← tupleFields g
    let after ← whereClause? g
    if ← op? [';'] then return (.tuple fs, after.getD [])
    else expected (if after.isSome then ["`;`"] else ["`where`", "`;`"])
  else if startsGroup .brace ts then return (.named (← namedFields g), conditions)
  else if ← op? [';'] then return (.unit, conditions)
  else expected (if before.isSome then ["curly braces", "`;`"]
    else ["`where`", "parentheses", "curly braces", "`;`"])

/-- A struct, after its word. -/
def structItem (g : Grammar) (attrs : List Attribute) (vis : Visibility) : Reader Item := do
  let n ← name
  let params ← genericParams g
  let (fields, conditions) ← structBody g
  return .struct attrs vis n (.mk params conditions) fields

/-- An enum, after its word. -/
def enumItem (g : Grammar) (attrs : List Attribute) (vis : Visibility) : Reader Item := do
  let n ← name
  let params ← genericParams g
  let conditions ← whereClause g
  return .enum attrs vis n (.mk params conditions)
    (← grouped .brace (commaList g.fuel isEnd (variant g)))

/-- A union, after its word. -/
def unionItem (g : Grammar) (attrs : List Attribute) (vis : Visibility) : Reader Item := do
  let n ← name
  let params ← genericParams g
  let conditions ← whereClause g
  return .union attrs vis n (.mk params conditions) (← namedFields g)

/-! ## Traits and implementations -/

/-- A trait from the colon before the traits above it. -/
def traitBody (g : Grammar) (attrs : List Attribute) (vis : Visibility) (words : List String)
    (n : String) (params : List GenericParam) : Reader Item := do
  let above ← if ← op? [':'] then
      boundsUpTo g .param fun ts => startsWord "where" ts || startsGroup .brace ts
    else pure []
  let conditions ← whereClause g
  grouped .brace do
    let inside ← innerAttributes g
    return .trait (attrs ++ inside) vis words n (.mk params conditions) above
      (← itemsToEnd g.fuel (traitItem g))

/-- A trait with words before `trait`. -/
def markedTrait (g : Grammar) (attrs : List Attribute) (vis : Visibility) : Reader Item := do
  let words ← wordsInOrder ["unsafe", "auto"]
  word "trait"
  let n ← name
  traitBody g attrs vis words n (← genericParams g)

/-- A trait or a name for a sum of traits, after its word. -/
def traitOrSum (g : Grammar) (attrs : List Attribute) (vis : Visibility) : Reader Item := do
  let n ← name
  let params ← genericParams g
  let ts ← ahead
  if startsGroup .brace ts || startsOp [':'] ts || startsWord "where" ts then
    traitBody g attrs vis [] n params
  else if ← op? ['='] then
    let bs ← boundsUpTo g .object fun ts => startsWord "where" ts || startsOp [';'] ts
    let conditions ← whereClause g
    op [';']
    return .traitSum attrs vis n (.mk params conditions) bs
  else expected ["curly braces", "`:`", "`where`", "`=`"]

/-- Whether generic parameters follow `impl`, and not a qualified path. -/
def startsImplGenerics (ts : List Token) : Bool :=
  let second := ts.drop 1
  let third := skipTree second
  startsOp ['<'] ts &&
    (startsOp ['>'] second || startsOp ['#'] second ||
      ((startsLifetime second || startsName second) &&
        (startsOp ['>'] third || startsOp [','] third ||
          (startsOp [':'] third && !startsOp [':', ':'] third) || startsOp ['='] third)) ||
      startsWord "const" second)

/-- An implementation with the words before `impl`. -/
def implementation (g : Grammar) (attrs : List Attribute) (vis : Visibility) :
    Reader (Option Item) := do
  let words ← wordsInOrder ["default", "unsafe"]
  word "impl"
  let params ← if startsImplGenerics (← ahead) then genericParams g else pure []
  let constant := startsWord "const" (← ahead) ||
    (startsOp ['?'] (← ahead) && startsWord "const" ((← ahead).drop 1))
  if constant then
    let _ ← op? ['?']
    word "const"
  let negative := startsOp ['!'] (← ahead) && !startsGroup .brace ((← ahead).drop 1)
  if negative then drop 1
  let first ← g.ty true
  let hasFor ← word? "for"
  if !hasFor && negative then failRule "inherent impls cannot be negative"
  let trait? := match first with
    | .path (.plain p) => if hasFor then some p else none
    | _ => none
  let self ← if hasFor then g.ty true else pure first
  let conditions ← whereClause g
  let (inside, items) ← grouped .brace do
    let inside ← innerAttributes g
    return (inside, ← itemsToEnd g.fuel (implItem g))
  return if !isInherited vis || constant || (hasFor && trait?.isNone) then none
    else some (.impl (attrs ++ inside) words (.mk params conditions) negative trait? self items)

/-! ## Uses, modules and foreign items -/

/-- Whether a tree of a `use` begins with a name. -/
def startsUseName (ts : List Token) : Bool := startsName ts || startsAnyWord moduleWords ts

/-- The trees in the braces of a `use`, or nothing if one of them begins with colons. -/
def useGroup (g : Grammar) (colons : Bool) : Reader (Option UseTree) := do
  let ts ← grouped .brace (commaList g.fuel isEnd do
    let here ← if colons then op? [':', ':'] else pure false
    let t ← g.useTree (colons && !here)
    return if here then none else t)
  return (ts.mapM id).map UseTree.group

/-- What a `use` brings in, or nothing if a tree in braces begins with colons; `colons` tells whether
one may. -/
def useTreeWith (g : Grammar) (colons : Bool) : Reader (Option UseTree) := do
  let ts ← ahead
  if startsUseName ts then
    let n ← anyName
    if ← op? [':', ':'] then return (← g.useTree false).map (UseTree.path n)
    else if ← word? "as" then
      if startsName (← ahead) || startsWord "_" (← ahead) then
        return some (.rename n (← anyName))
      else expected ["identifier or underscore"]
    else return some (.name n)
  else if ← op? ['*'] then return some .glob
  else if startsGroup .brace ts then useGroup g colons
  else expected ["identifier", "`self`", "`super`", "`crate`", "`try`", "`*`", "curly braces"]

/-- A `use`, after its word. -/
def useItem (g : Grammar) (attrs : List Attribute) (vis : Visibility) : Reader (Option Item) := do
  let leading ← op? [':', ':']
  let t ← g.useTree (!leading)
  op [';']
  return t.map (Item.use attrs vis leading)

/-- A module. -/
def moduleItem (g : Grammar) (attrs : List Attribute) (vis : Visibility) : Reader Item := do
  let isUnsafe ← word? "unsafe"
  word "mod"
  let n ← nameOr "try"
  if ← op? [';'] then return .moduleHead attrs vis isUnsafe n
  else if startsGroup .brace (← ahead) then
    grouped .brace do
      let inside ← innerAttributes g
      return .module (attrs ++ inside) vis isUnsafe n (← itemsToEnd g.fuel g.item)
  else expected ["`;`", "curly braces"]

/-- A foreign block, which no visibility may stand before. -/
def foreignBlock (g : Grammar) (attrs : List Attribute) (vis : Visibility) : Reader Item := do
  if !isInherited vis then throw (.expected false ["`extern`"])
  let isUnsafe ← word? "unsafe"
  word "extern"
  let convention ← conventionName
  grouped .brace do
    let inside ← innerAttributes g
    return .foreign (attrs ++ inside) isUnsafe convention (← itemsToEnd g.fuel (foreignItem g))

/-- A further crate, after its first word. -/
def crateItem (attrs : List Attribute) (vis : Visibility) : Reader Item := do
  word "crate"
  let n ← nameOr "self"
  let newName ← if ← word? "as" then some <$> nameOr "_" else pure none
  op [';']
  return .externCrate attrs vis n newName

/-- What begins with `extern` and is no function. -/
def externItem (g : Grammar) (attrs : List Attribute) (vis : Visibility) : Reader Item := do
  let second := (← ahead).drop 1
  let third := second.drop 1
  if startsWord "crate" second then
    drop 1
    crateItem attrs vis
  else if startsGroup .brace second then foreignBlock g attrs vis
  else if startsText second then
    if startsGroup .brace third then foreignBlock g attrs vis
    else
      drop 2
      expected ["curly braces"]
  else
    drop 1
    expected ["`crate`", "curly braces", "string literal"]

/-! ## Macros -/

/-- A macro call in place of items, perhaps with a name. -/
def macroItem (g : Grammar) (attrs : List Attribute) : Reader Item := do
  let p ← plainPath g
  op ['!']
  let n ← if startsName (← ahead) || startsWord "try" (← ahead) then some <$> anyName
    else pure none
  let (d, tokens) ← rawGroup
  if d != .brace then op [';']
  return .macroCall attrs n ⟨p, d, tokens⟩

/-- A macro with `macro`, which has no tree. -/
def macroDefinition : Reader (Option Item) := do
  word "macro"
  let _ ← name
  let hasParens := startsGroup .paren (← ahead)
  if hasParens then
    let _ ← rawGroup
  if startsGroup .brace (← ahead) then
    let _ ← rawGroup
    return none
  else expected ((if hasParens then [] else ["parentheses"]) ++ ["curly braces"])

/-! ## Items -/

/-- What an item can begin with after its visibility. -/
def itemStarts : List String := [
  "`fn`", "`extern`", "`use`", "`static`", "`const`", "`unsafe`", "`mod`", "`type`", "`struct`",
  "`enum`", "`union`", "`trait`", "`auto`", "`impl`", "`default`", "`macro`"]

/-- What begins with `unsafe` and is no function. -/
def unsafeItem (g : Grammar) (attrs : List Attribute) (vis : Visibility) :
    Reader (Option Item) := do
  let second := (← ahead).drop 1
  if startsWord "trait" second ||
      (startsWord "auto" second && startsWord "trait" (second.drop 1)) then
    some <$> markedTrait g attrs vis
  else if startsWord "impl" second then implementation g attrs vis
  else if startsWord "extern" second then some <$> foreignBlock g attrs vis
  else if startsWord "mod" second then some <$> moduleItem g attrs vis
  else
    drop 1
    expected ["`trait`", "`auto`", "`impl`", "`extern`", "`mod`"]

/-- An item after its attributes and visibility, or nothing if it has no tree. -/
def itemAfter (g : Grammar) (attrs : List Attribute) (vis : Visibility) :
    Reader (Option Item) := do
  let ts ← ahead
  let second := ts.drop 1
  if startsSignature false ts then function g attrs vis
  else if startsWord "extern" ts then some <$> externItem g attrs vis
  else if ← word? "use" then useItem g attrs vis
  else if ← word? "static" then staticItem g attrs vis
  else if ← word? "const" then constItem g attrs vis
  else if startsWord "unsafe" ts then unsafeItem g attrs vis
  else if startsWord "mod" ts then some <$> moduleItem g attrs vis
  else if ← word? "type" then typeItem g attrs vis
  else if ← word? "struct" then some <$> structItem g attrs vis
  else if ← word? "enum" then some <$> enumItem g attrs vis
  else if startsWord "union" ts && startsName second then
    drop 1
    some <$> unionItem g attrs vis
  else if ← word? "trait" then some <$> traitOrSum g attrs vis
  else if startsWord "auto" ts && startsWord "trait" second then some <$> markedTrait g attrs vis
  else if startsWord "impl" ts || (startsWord "default" ts && !startsOp ['!'] second) then
    implementation g attrs vis
  else if startsWord "macro" ts then macroDefinition
  else if isInherited vis && startsMacro ts then some <$> macroItem g attrs
  else expected (itemStarts ++ if isInherited vis then macroStarts else [])

/-- An item. -/
def itemWith (g : Grammar) : Reader Item := do
  let (item?, tokens) ← withTokens do
    let attrs ← outerAttributes g
    itemAfter g attrs (← visibility g)
  return item?.getD (.bare tokens)

/-- A source file without the line of an interpreter. -/
def sourceFile (g : Grammar) : Reader SourceFile := do
  let attrs ← innerAttributes g
  return ⟨none, attrs, ← itemsToEnd g.fuel g.item⟩

end DispatchLayer.Code.Reader
