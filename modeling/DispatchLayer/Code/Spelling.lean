import DispatchLayer.Code

/-!
# Spelling a tree in tokens

The tokens of a tree, as generated code spells it: parameters and arguments are separated by commas;
variants, named fields and conditions of a `where` clause each end with one, and so does an arm of a
`match` unless its body is a block. Brackets that close two lists of generic arguments in a row are
written as one operator.
-/

namespace DispatchLayer.Code

open Token

/-! ## Sequences of tokens -/

/-- Tokens with a comma between neighbours. -/
def commaSeparated : List (List Token) → List Token
  | [] => []
  | [t] => t
  | t :: rest => t ++ mark ',' :: commaSeparated rest

/-- Tokens with an operator between neighbours. -/
def separatedBy (op : List Token) : List (List Token) → List Token
  | [] => []
  | [t] => t
  | t :: rest => t ++ op ++ separatedBy op rest

/-- Bounds or lifetimes with plus signs between neighbours. -/
def plusSeparated (ts : List (List Token)) : List Token := separatedBy [mark '+'] ts

/-- Items of a tuple: a single one is followed by a comma. -/
def tupleItems (ts : List (List Token)) : List Token :=
  commaSeparated ts ++ if ts.length = 1 then [mark ','] else []

/-- The tokens, the last one joint if it is a closing angle bracket. -/
def joinCloser : List Token → List Token
  | [] => []
  | [.punct '>' _] => [.punct '>' .joint]
  | t :: rest => t :: joinCloser rest

/-- A list in angle brackets. -/
def angled (inside : List Token) : List Token := mark '<' :: joinCloser inside ++ [mark '>']

/-- The two colons. -/
def colons : List Token := operator [':', ':']

/-- Colons where a flag asks for them. -/
def colonsIf (b : Bool) : List Token := if b then colons else []

/-- A word where a flag asks for it. -/
def wordIf (b : Bool) (word : String) : List Token := if b then [.ident word] else []

/-- What follows a mark, where there is anything. -/
def markedIf (c : Char) (ts : List Token) : List Token := if ts.isEmpty then [] else mark c :: ts

/-! ## Parts without further trees -/

/-- The tokens of a literal. -/
def spellLiteral (text : String) : List Token :=
  match text.toList with
  | '-' :: cs => [mark '-', .literal (String.ofList cs)]
  | _ => if text == "true" || text == "false" then [.ident text] else [.literal text]

/-- The name of a field, or its position. -/
def spellMember (name : String) : Token :=
  if name.toList.all Char.isDigit then .literal name else .ident name

/-- A label and its colon, where there is one. -/
def spellLabel : Option String → List Token
  | none => []
  | some l => Token.lifetime l ++ [mark ':']

/-- A lifetime behind a mark, where there is one. -/
def spellLifetime? : Option String → List Token
  | none => []
  | some l => Token.lifetime l

/-- The tokens of a path without generic arguments. -/
def PlainPath.spell (p : PlainPath) : List Token :=
  colonsIf p.leading ++ separatedBy colons (p.names.map fun n => [.ident n])

/-- The tokens of a macro call. -/
def MacroCall.spell (m : MacroCall) : List Token :=
  m.path.spell ++ mark '!' :: grouped m.delimiter m.tokens

/-- Whether a path can stand behind `pub` without `in`. -/
def PlainPath.isPlace (p : PlainPath) : Bool :=
  match p.asName? with
  | some n => ["self", "super", "crate"].contains n
  | none => false

/-- The tokens of a visibility. -/
def Visibility.spell : Visibility → List Token
  | .inherited => []
  | .pub => [.ident "pub"]
  | .restricted p => .ident "pub" :: grouped .paren (wordIf (!p.isPlace) "in" ++ p.spell)

/-- The tokens of a calling convention. -/
def spellConvention : Option Convention → List Token
  | none => []
  | some none => [.ident "extern"]
  | some (some name) => [.ident "extern", .literal name]

/-- Lifetimes after a colon, where there are any. -/
def spellOutlived (bounds : List String) : List Token :=
  markedIf ':' (plusSeparated (bounds.map Token.lifetime))

/-- The parameters that a type captures. -/
def spellCaptures (names : List (Bool × String)) : List Token :=
  .ident "use" :: angled (commaSeparated (names.map fun n =>
    if n.1 then Token.lifetime n.2 else [.ident n.2]))

/-- What stands before the braces of a block. -/
def BlockKind.spell : BlockKind → List Token
  | .plain l => spellLabel l
  | .unsafeBlock => [.ident "unsafe"]
  | .constBlock => [.ident "const"]
  | .tryBlock => [.ident "try"]
  | .asyncBlock moves => .ident "async" :: wordIf moves "move"

/-- The points of a range. -/
def spellRange (closed : Bool) : List Token :=
  operator (if closed then ['.', '.', '='] else ['.', '.'])

mutual

/-- The tokens of what a `use` brings in. -/
def UseTree.spell : UseTree → List Token
  | .path name t => .ident name :: colons ++ t.spell
  | .name name => [.ident name]
  | .rename name newName => [.ident name, .ident "as", .ident newName]
  | .glob => [mark '*']
  | .group ts => grouped .brace (commaSeparated (spellUseTrees ts))

/-- The tokens of each tree. -/
def spellUseTrees : List UseTree → List (List Token)
  | [] => []
  | t :: rest => t.spell :: spellUseTrees rest

end

/-! ## Trees -/

mutual

/-- The tokens of a path. -/
def Path.spell : Path → List Token
  | .mk leading segments => colonsIf leading ++ separatedBy colons (spellSegments segments)

/-- The tokens of each segment. -/
def spellSegments : List Segment → List (List Token)
  | [] => []
  | s :: rest => s.spell :: spellSegments rest

/-- The tokens of a segment. -/
def Segment.spell : Segment → List Token
  | .name n => [.ident n]
  | .angle n turbofish args =>
    .ident n :: colonsIf turbofish ++ angled (commaSeparated (spellGenericArgs args))
  | .paren n inputs output =>
    .ident n :: grouped .paren (commaSeparated (spellTys inputs)) ++ spellOutput output

/-- The arrow and the type that a function returns. -/
def spellOutput : Option Ty → List Token
  | none => []
  | some t => operator ['-', '>'] ++ t.spell

/-- The tokens of each argument. -/
def spellGenericArgs : List GenericArg → List (List Token)
  | [] => []
  | a :: rest => a.spell :: spellGenericArgs rest

/-- The tokens of an argument in angle brackets. -/
def GenericArg.spell : GenericArg → List Token
  | .lifetime name => Token.lifetime name
  | .type t => t.spell
  | .const e => e.spell
  | .assocType s t => s.spell ++ mark '=' :: t.spell
  | .assocConst s e => s.spell ++ mark '=' :: e.spell
  | .constraint s bounds => s.spell ++ mark ':' :: plusSeparated (spellBounds bounds)

/-- The tokens of each bound. -/
def spellBounds : List Bound → List (List Token)
  | [] => []
  | b :: rest => b.spell :: spellBounds rest

/-- The tokens of a bound. -/
def Bound.spell : Bound → List Token
  | .lifetime name => Token.lifetime name
  | .trait parens optional binder path =>
    let inside := spellBinder binder ++ (if optional then [mark '?'] else []) ++ path.spell
    if parens then grouped .paren inside else inside
  | .captures names => spellCaptures names
  | .bare ts => ts

/-- The parameters of a `for`. -/
def spellBinder : Option (List GenericParam) → List Token
  | none => []
  | some ps => .ident "for" :: angled (commaSeparated (spellGenericParams ps))

/-- The tokens of a path that may be qualified. -/
def QPath.spell : QPath → List Token
  | .plain p => p.spell
  | .qualified t none rest =>
    angled t.spell ++ colons ++ separatedBy colons (spellSegments rest)
  | .qualified t (some p) rest =>
    angled (t.spell ++ .ident "as" :: p.spell) ++ colons ++ separatedBy colons (spellSegments rest)

/-- The tokens of each type. -/
def spellTys : List Ty → List (List Token)
  | [] => []
  | t :: rest => t.spell :: spellTys rest

/-- The tokens of a type. -/
def Ty.spell : Ty → List Token
  | .path p => p.spell
  | .reference life mutable t => mark '&' :: spellLifetime? life ++ wordIf mutable "mut" ++ t.spell
  | .pointer mutable t => mark '*' :: .ident (if mutable then "mut" else "const") :: t.spell
  | .slice t => grouped .bracket t.spell
  | .array t len => grouped .bracket (t.spell ++ mark ';' :: len.spell)
  | .tuple ts => grouped .paren (tupleItems (spellTys ts))
  | .paren t => grouped .paren t.spell
  | .never => [mark '!']
  | .infer => [.ident "_"]
  | .function binder isUnsafe convention inputs output =>
    spellBinder binder ++ wordIf isUnsafe "unsafe" ++ spellConvention convention ++
      .ident "fn" :: grouped .paren (commaSeparated (spellFnParams inputs)) ++ spellOutput output
  | .object bounds => .ident "dyn" :: plusSeparated (spellBounds bounds)
  | .impl bounds => .ident "impl" :: plusSeparated (spellBounds bounds)
  | .macroCall m => m.spell
  | .variadic => operator ['.', '.', '.']
  | .bare ts => ts

/-- The tokens of each parameter. -/
def spellFnParams : List FnParam → List (List Token)
  | [] => []
  | p :: rest => p.spell :: spellFnParams rest

/-- The tokens of a parameter. -/
def FnParam.spell : FnParam → List Token
  | .receiver attrs reference mutable t =>
    spellAttributes false attrs ++
      (match reference with
        | none => []
        | some life => mark '&' :: spellLifetime? life) ++ wordIf mutable "mut" ++
      .ident "self" ::
      (match t with
        | none => []
        | some t => mark ':' :: t.spell)
  | .typed attrs p t => spellAttributes false attrs ++ p.spell ++ mark ':' :: t.spell
  | .nameless attrs t => spellAttributes false attrs ++ t.spell

/-- The tokens of those attributes that stand inside, or before, what they are about. -/
def spellAttributes (inner : Bool) : List Attribute → List Token
  | [] => []
  | a :: rest => (if a.isInner = inner then a.spell else []) ++ spellAttributes inner rest

/-- The tokens of an attribute. -/
def Attribute.spell : Attribute → List Token
  | .word inner path =>
    mark '#' :: (if inner then [mark '!'] else []) ++ grouped .bracket path.spell
  | .list inner path d ts =>
    mark '#' :: (if inner then [mark '!'] else []) ++ grouped .bracket (path.spell ++ grouped d ts)
  | .value inner path e =>
    mark '#' :: (if inner then [mark '!'] else []) ++
      grouped .bracket (path.spell ++ mark '=' :: e.spell)

/-- The tokens of each generic parameter. -/
def spellGenericParams : List GenericParam → List (List Token)
  | [] => []
  | p :: rest => p.spell :: spellGenericParams rest

/-- The tokens of a generic parameter. -/
def GenericParam.spell : GenericParam → List Token
  | .lifetime attrs name bounds =>
    spellAttributes false attrs ++ Token.lifetime name ++ spellOutlived bounds
  | .type attrs name bounds default =>
    spellAttributes false attrs ++ .ident name :: markedIf ':' (plusSeparated (spellBounds bounds)) ++
      (match default with
        | none => []
        | some t => mark '=' :: t.spell)
  | .const attrs name t default =>
    spellAttributes false attrs ++ .ident "const" :: .ident name :: mark ':' :: t.spell ++
      (match default with
        | none => []
        | some e => mark '=' :: e.spell)

/-- The tokens of conditions, each with the comma that ends it. -/
def spellConditions : List WherePredicate → List Token
  | [] => []
  | c :: rest => c.spell ++ mark ',' :: spellConditions rest

/-- The tokens of a condition. -/
def WherePredicate.spell : WherePredicate → List Token
  | .lifetime name bounds => Token.lifetime name ++ spellOutlived bounds
  | .type binder t bounds =>
    spellBinder binder ++ t.spell ++ mark ':' :: plusSeparated (spellBounds bounds)

/-- The tokens of generic parameters. -/
def Generics.spellParams : Generics → List Token
  | .mk [] _ => []
  | .mk (p :: ps) _ => angled (commaSeparated (p.spell :: spellGenericParams ps))

/-- The tokens of a `where` clause. -/
def Generics.spellWhere : Generics → List Token
  | .mk _ [] => []
  | .mk _ (c :: cs) => .ident "where" :: c.spell ++ mark ',' :: spellConditions cs

/-- The tokens of each pattern. -/
def spellPats : List Pat → List (List Token)
  | [] => []
  | p :: rest => p.spell :: spellPats rest

/-- The tokens of a pattern. -/
def Pat.spell : Pat → List Token
  | .wild => [.ident "_"]
  | .rest => operator ['.', '.']
  | .ident byRef mutable name => wordIf byRef "ref" ++ wordIf mutable "mut" ++ [.ident name]
  | .whole byRef mutable name p =>
    wordIf byRef "ref" ++ wordIf mutable "mut" ++ .ident name :: mark '@' :: p.spell
  | .literal text => spellLiteral text
  | .path p => p.spell
  | .range start closed stop => spellExpr? start ++ spellRange closed ++ spellExpr? stop
  | .tupleStruct p ps => p.spell ++ grouped .paren (commaSeparated (spellPats ps))
  | .record p fields => p.spell ++ grouped .brace (commaSeparated (spellPats fields))
  | .member name p => spellMember name :: mark ':' :: p.spell
  | .reference mutable p => mark '&' :: wordIf mutable "mut" ++ p.spell
  | .tuple ps trailing =>
    grouped .paren (commaSeparated (spellPats ps) ++ if trailing then [mark ','] else [])
  | .paren p => grouped .paren p.spell
  | .slice ps => grouped .bracket (commaSeparated (spellPats ps))
  | .alternatives leading ps =>
    (if leading then [mark '|'] else []) ++ separatedBy [mark '|'] (spellPats ps)
  | .constBlock attrs body =>
    .ident "const" :: grouped .brace (spellAttributes true attrs ++ spellStmts body)
  | .macroCall m => m.spell
  | .typed p t => p.spell ++ mark ':' :: t.spell
  | .attributed attrs p => spellAttributes false attrs ++ p.spell
  | .bare ts => ts

/-- The tokens of each expression. -/
def spellExprs : List Expr → List (List Token)
  | [] => []
  | e :: rest => e.spell :: spellExprs rest

/-- The tokens of an expression, where there is one. -/
def spellExpr? : Option Expr → List Token
  | none => []
  | some e => e.spell

/-- The tokens of an expression. -/
def Expr.spell : Expr → List Token
  | .literal text => spellLiteral text
  | .path p => p.spell
  | .unary op e => mark op :: e.spell
  | .reference mutable e => mark '&' :: wordIf mutable "mut" ++ e.spell
  | .rawReference mutable e =>
    mark '&' :: .ident "raw" :: .ident (if mutable then "mut" else "const") :: e.spell
  | .binary op l r => l.spell ++ operator op.toList ++ r.spell
  | .assign l r => l.spell ++ mark '=' :: r.spell
  | .range start closed stop => spellExpr? start ++ spellRange closed ++ spellExpr? stop
  | .cast e t => e.spell ++ .ident "as" :: t.spell
  | .call f args => f.spell ++ grouped .paren (commaSeparated (spellExprs args))
  | .method receiver s args =>
    receiver.spell ++ mark '.' :: s.spell ++ grouped .paren (commaSeparated (spellExprs args))
  | .field base name => base.spell ++ [mark '.', spellMember name]
  | .index base i => base.spell ++ grouped .bracket i.spell
  | .await e => e.spell ++ [mark '.', .ident "await"]
  | .question e => e.spell ++ [mark '?']
  | .paren e => grouped .paren e.spell
  | .tuple es => grouped .paren (tupleItems (spellExprs es))
  | .array es => grouped .bracket (commaSeparated (spellExprs es))
  | .repeated e len => grouped .bracket (e.spell ++ mark ';' :: len.spell)
  | .record p fields isOpen rest =>
    p.spell ++ grouped .brace (commaSeparated (spellExprs fields) ++
      if isOpen then
        (if fields.isEmpty then [] else [mark ',']) ++ operator ['.', '.'] ++ spellExpr? rest
      else [])
  | .member name none => [spellMember name]
  | .member name (some e) => spellMember name :: mark ':' :: e.spell
  | .block kind attrs body =>
    kind.spell ++ grouped .brace (spellAttributes true attrs ++ spellStmts body)
  | .ifThen condition body otherwise =>
    .ident "if" :: condition.spell ++ grouped .brace (spellStmts body) ++
      (match otherwise with
        | none => []
        | some e => .ident "else" :: e.spell)
  | .letCondition p e => .ident "let" :: p.spell ++ mark '=' :: e.spell
  | .matchOn scrutinee attrs arms =>
    .ident "match" :: scrutinee.spell ++ grouped .brace (spellAttributes true attrs ++ spellArms arms)
  | .loop label attrs body =>
    spellLabel label ++ .ident "loop" :: grouped .brace (spellAttributes true attrs ++ spellStmts body)
  | .whileLoop label condition attrs body =>
    spellLabel label ++ .ident "while" :: condition.spell ++
      grouped .brace (spellAttributes true attrs ++ spellStmts body)
  | .forLoop label p e attrs body =>
    spellLabel label ++ .ident "for" :: p.spell ++ .ident "in" :: e.spell ++
      grouped .brace (spellAttributes true attrs ++ spellStmts body)
  | .closure binder words params output body =>
    spellBinder binder ++ words.map Token.ident ++ mark '|' ::
      commaSeparated (spellPats params) ++ mark '|' :: spellOutput output ++ body.spell
  | .returnWith e => .ident "return" :: spellExpr? e
  | .breakWith label e => .ident "break" :: spellLifetime? label ++ spellExpr? e
  | .continueAt label => .ident "continue" :: spellLifetime? label
  | .yieldWith e => .ident "yield" :: spellExpr? e
  | .infer => [.ident "_"]
  | .macroCall m => m.spell
  | .attributed attrs e => spellAttributes false attrs ++ e.spell
  | .bare ts => ts

/-- The tokens of the arms of a `match`. -/
def spellArms : List Arm → List Token
  | [] => []
  | .mk attrs p guard body :: rest =>
    spellAttributes false attrs ++ p.spell ++
      (match guard with
        | none => []
        | some g => .ident "if" :: g.spell) ++
      operator ['=', '>'] ++ body.spell ++
      (match body with
        | .block .. => []
        | _ => [mark ',']) ++
      spellArms rest

/-- The tokens of statements. -/
def spellStmts : List Stmt → List Token
  | [] => []
  | .letBinding attrs p init otherwise :: rest =>
    spellAttributes false attrs ++ .ident "let" :: p.spell ++
      (match init with
        | none => []
        | some e => mark '=' :: e.spell) ++
      (match otherwise with
        | none => []
        | some e => .ident "else" :: e.spell) ++
      mark ';' :: spellStmts rest
  | .expr e semicolon :: rest =>
    e.spell ++ (if semicolon then [mark ';'] else []) ++ spellStmts rest
  | .macroCall attrs m semicolon :: rest =>
    spellAttributes false attrs ++ m.spell ++ (if semicolon then [mark ';'] else []) ++ spellStmts rest
  | .item i :: rest => i.spell ++ spellStmts rest
  | .empty :: rest => mark ';' :: spellStmts rest

/-- The tokens of the head of a function. -/
def Signature.spell : Signature → List Token
  | .mk words convention name generics params output =>
    words.map Token.ident ++ spellConvention convention ++ .ident "fn" :: .ident name ::
      generics.spellParams ++ grouped .paren (commaSeparated (spellFnParams params)) ++
      spellOutput output ++ generics.spellWhere

/-- The tokens of each field. -/
def spellFields : List Field → List (List Token)
  | [] => []
  | f :: rest => f.spell :: spellFields rest

/-- The tokens of fields, each with the comma that ends it. -/
def spellNamedFields : List Field → List Token
  | [] => []
  | f :: rest => f.spell ++ mark ',' :: spellNamedFields rest

/-- The tokens of a field. -/
def Field.spell : Field → List Token
  | .mk attrs vis name t =>
    spellAttributes false attrs ++ vis.spell ++
      (match name with
        | none => []
        | some n => [.ident n, mark ':']) ++ t.spell

/-- The tokens of fields in their brackets. -/
def Fields.spell : Fields → List Token
  | .unit => []
  | .tuple fs => grouped .paren (commaSeparated (spellFields fs))
  | .named fs => grouped .brace (spellNamedFields fs)

/-- The tokens of variants, each with the comma that ends it. -/
def spellVariants : List Variant → List Token
  | [] => []
  | .mk attrs name fields discriminant :: rest =>
    spellAttributes false attrs ++ .ident name :: fields.spell ++
      (match discriminant with
        | none => []
        | some e => mark '=' :: e.spell) ++ mark ',' :: spellVariants rest

/-- The tokens of an item. -/
def Item.spell : Item → List Token
  | .use attrs vis leading t =>
    spellAttributes false attrs ++ vis.spell ++ .ident "use" :: colonsIf leading ++ t.spell ++ [mark ';']
  | .enum attrs vis name generics variants =>
    spellAttributes false attrs ++ vis.spell ++ .ident "enum" :: .ident name :: generics.spellParams ++
      generics.spellWhere ++ grouped .brace (spellVariants variants)
  | .struct attrs vis name generics fields =>
    spellAttributes false attrs ++ vis.spell ++ .ident "struct" :: .ident name :: generics.spellParams ++
      match fields with
      | .named fs => generics.spellWhere ++ grouped .brace (spellNamedFields fs)
      | .tuple fs =>
        grouped .paren (commaSeparated (spellFields fs)) ++ generics.spellWhere ++ [mark ';']
      | .unit => generics.spellWhere ++ [mark ';']
  | .union attrs vis name generics fields =>
    spellAttributes false attrs ++ vis.spell ++ .ident "union" :: .ident name :: generics.spellParams ++
      generics.spellWhere ++ grouped .brace (spellNamedFields fields)
  | .trait attrs vis words name generics supertraits items =>
    spellAttributes false attrs ++ vis.spell ++ words.map Token.ident ++ .ident "trait" :: .ident name ::
      generics.spellParams ++ markedIf ':' (plusSeparated (spellBounds supertraits)) ++
      generics.spellWhere ++ grouped .brace (spellAttributes true attrs ++ spellItems items)
  | .traitSum attrs vis name generics bounds =>
    spellAttributes false attrs ++ vis.spell ++ .ident "trait" :: .ident name :: generics.spellParams ++
      mark '=' :: plusSeparated (spellBounds bounds) ++ generics.spellWhere ++ [mark ';']
  | .impl attrs words generics negative trait? self items =>
    spellAttributes false attrs ++ words.map Token.ident ++ .ident "impl" :: generics.spellParams ++
      (match trait? with
        | none => []
        | some p => (if negative then [mark '!'] else []) ++ p.spell ++ [.ident "for"]) ++
      self.spell ++ generics.spellWhere ++
      grouped .brace (spellAttributes true attrs ++ spellItems items)
  | .fn attrs vis isDefault signature body =>
    spellAttributes false attrs ++ vis.spell ++ wordIf isDefault "default" ++ signature.spell ++
      grouped .brace (spellAttributes true attrs ++ spellStmts body)
  | .fnHead attrs vis signature =>
    spellAttributes false attrs ++ vis.spell ++ signature.spell ++ [mark ';']
  | .module attrs vis isUnsafe name items =>
    spellAttributes false attrs ++ vis.spell ++ wordIf isUnsafe "unsafe" ++ .ident "mod" ::
      .ident name :: grouped .brace (spellAttributes true attrs ++ spellItems items)
  | .moduleHead attrs vis isUnsafe name =>
    spellAttributes false attrs ++ vis.spell ++ wordIf isUnsafe "unsafe" ++
      [.ident "mod", .ident name, mark ';']
  | .foreign attrs isUnsafe convention items =>
    spellAttributes false attrs ++ wordIf isUnsafe "unsafe" ++ spellConvention (some convention) ++
      grouped .brace (spellAttributes true attrs ++ spellItems items)
  | .const attrs vis isDefault name t value =>
    spellAttributes false attrs ++ vis.spell ++ wordIf isDefault "default" ++ .ident "const" ::
      .ident name :: mark ':' :: t.spell ++ markedIf '=' (spellExpr? value) ++ [mark ';']
  | .static attrs vis mutable name t value =>
    spellAttributes false attrs ++ vis.spell ++ .ident "static" :: wordIf mutable "mut" ++
      .ident name :: mark ':' :: t.spell ++ markedIf '=' (spellExpr? value) ++ [mark ';']
  | .type attrs vis isDefault name generics bounds t =>
    spellAttributes false attrs ++ vis.spell ++ wordIf isDefault "default" ++ .ident "type" ::
      .ident name :: generics.spellParams ++ markedIf ':' (plusSeparated (spellBounds bounds)) ++
      generics.spellWhere ++
      (match t with
        | none => []
        | some t => mark '=' :: t.spell) ++ [mark ';']
  | .externCrate attrs vis name newName =>
    spellAttributes false attrs ++ vis.spell ++ .ident "extern" :: .ident "crate" :: .ident name ::
      (match newName with
        | none => []
        | some n => [.ident "as", .ident n]) ++ [mark ';']
  | .macroCall attrs name m =>
    spellAttributes false attrs ++ m.path.spell ++ mark '!' ::
      (name.map fun n => [Token.ident n]).getD [] ++ grouped m.delimiter m.tokens ++
      if m.delimiter = .brace then [] else [mark ';']
  | .bare ts => ts

/-- The tokens of items. -/
def spellItems : List Item → List Token
  | [] => []
  | i :: rest => i.spell ++ spellItems rest

end

/-- The tokens of a source file. A line that names an interpreter has no tokens. -/
def SourceFile.spell (f : SourceFile) : List Token := spellAttributes true f.attrs ++ spellItems f.items

end DispatchLayer.Code
