import DispatchLayer.Code.Printer.Comment
import DispatchLayer.Code.Printer.Frame
import DispatchLayer.Code.Printer.Tokens

/-!
# Setting trees on lines

The document of every tree, by recursion on the tree. Lifetimes come before the other generic
parameters and arguments, the braces of an arm whose block holds a single expression are dropped,
and so are attributes on such a block. Every item and every statement ends its line.

Forms that are kept as loose tokens cannot be set: their documents are refusals.
-/

namespace DispatchLayer.Code.Printer

open Pretty

/-- Where a path stands: generic arguments take colons in an expression. -/
inductive PathPlace where
  | type
  | expr
  deriving DecidableEq, Repr

/-- Where an item stands. -/
inductive ItemPlace where
  | module
  | traitBody
  | implBody
  | foreignBody
  deriving DecidableEq, Repr

/-- The name of an item's form that cannot be set. -/
def ItemPlace.form : ItemPlace → String
  | .module => "Item::Verbatim"
  | .traitBody => "TraitItem::Verbatim"
  | .implBody => "ImplItem::Verbatim"
  | .foreignBody => "ForeignItem::Verbatim"

/-- A visibility. -/
def visibilityDoc : Visibility → Doc
  | .inherited => []
  | .pub => word "pub "
  | .restricted p =>
    let place := p.asName?.any ["self", "super", "crate"].contains
    word (if place then "pub(" else "pub(in ") ++ plainPathDoc p ++ word ") "

/-- Whether parameters end in the place of any further ones. -/
def endsVariadic (ps : List FnParam) : Bool :=
  match ps.getLast? with
  | some (.typed _ _ .variadic) => true
  | some (.nameless _ .variadic) => true
  | _ => false

/-- Whether every alternative is a literal or the wildcard. -/
def areShortAlternatives (ps : List Pat) : Bool :=
  ps.all fun p => match p with
    | .literal _ => true
    | .attributed _ (.literal _) => true
    | .wild => true
    | .attributed _ .wild => true
    | _ => false

/-- What stands before the braces of a block. -/
def blockKindDoc : BlockKind → Doc
  | .plain label => labelDoc label
  | .unsafeBlock => word "unsafe "
  | .constBlock => word "const "
  | .tryBlock => word "try "
  | .asyncBlock moves => word "async " ++ wordIfDoc moves "move"

/-! ## What a `use` brings in -/

/-- Whether a tree ends in a group. -/
def endsInGroup : UseTree → Bool
  | .path _ t => endsInGroup t
  | .group _ => true
  | _ => false

/-- Whether a tree needs braces around it even if nothing else is in them. -/
def needsGroup : UseTree → Bool
  | .name name => name == "self"
  | .rename name _ => name == "self"
  | _ => false

mutual

/-- What a `use` brings in. -/
def useTreeDoc : UseTree → Doc
  | .path name t => word name ++ word "::" ++ useTreeDoc t
  | .name name => word name
  | .rename name newName => word name ++ word " as " ++ word newName
  | .glob => word "*"
  | .group [] => word "\x7b\x7d"
  | .group (t :: ts) =>
    if ts.isEmpty && !needsGroup t then useTreeDoc t
    else
      word "\x7b" ++ consistent indent (zeroBreak ++
        inconsistent 0 (useTreeDoc t ++ useTreeDocs (endsInGroup t) ts) ++ trailingComma true ++
        shift (-indent)) ++ word "\x7d"

/-- Further trees of a group; `afterGroup` tells whether the one before them ends in a group. -/
def useTreeDocs (afterGroup : Bool) : List UseTree → Doc
  | [] => []
  | t :: rest =>
    word "," ++ (if afterGroup then hardBreak else space) ++ useTreeDoc t ++
      useTreeDocs (endsInGroup t) rest

end

/-! ## Trees -/

mutual

/-- A path. -/
def pathDoc (place : PathPlace) : Path → Doc
  | .mk leading segments =>
    (if leading then word "::" else []) ++ joined "::" (segmentDocs place segments)

/-- The segments of a path. -/
def segmentDocs (place : PathPlace) : List Segment → List Doc
  | [] => []
  | s :: rest => segmentDoc place s :: segmentDocs place rest

/-- A segment. -/
def segmentDoc (place : PathPlace) : Segment → Doc
  | .name n => word n
  | .angle n _ args =>
    let inside := lifetimesFirst (genericArgDocs args)
    word n ++ if args.isEmpty then [] else bracketed (if place = .expr then "::<" else "<") ">" inside
  | .paren n inputs output =>
    word n ++ consistent indent (word "(" ++ zeroBreak ++ commaItems (tyDocs inputs) ++
      shift (-indent) ++ word ")" ++ outputDoc output)

/-- Arguments in angle brackets, lifetimes being marked. -/
def genericArgDocs : List GenericArg → List (Bool × Doc)
  | [] => []
  | a :: rest => genericArgDoc a :: genericArgDocs rest

/-- An argument in angle brackets. -/
def genericArgDoc : GenericArg → Bool × Doc
  | .lifetime name => (true, lifetimeDoc name)
  | .type t => (false, tyDoc t)
  | .const e => (false, exprDoc .inner e)
  | .assocType s t => (false, segmentDoc .type s ++ word " = " ++ tyDoc t)
  | .assocConst s e => (false, segmentDoc .type s ++ word " = " ++ exprDoc .inner e)
  | .constraint s bounds =>
    (false, segmentDoc .type s ++ inconsistent indent (boundedDoc ": " (boundDocs bounds)))

/-- Bounds. -/
def boundDocs : List Bound → List Doc
  | [] => []
  | b :: rest => boundDoc b :: boundDocs rest

/-- A bound. -/
def boundDoc : Bound → Doc
  | .lifetime name => lifetimeDoc name
  | .trait parens optional binder path =>
    (if parens then word "(" else []) ++ binderDoc binder ++ (if optional then word "?" else []) ++
      pathDoc .type path ++ if parens then word ")" else []
  | .captures names => capturesDoc names
  | .bare ts => refused "TypeParamBound::Verbatim" ts

/-- The parameters of a `for`. -/
def binderDoc : Option (List GenericParam) → Doc
  | none => []
  | some ps => word "for<" ++ joined ", " ((genericParamDocs ps).map Prod.snd) ++ word "> "

/-- The type that a function returns. -/
def outputDoc : Option Ty → Doc
  | none => []
  | some t => word " -> " ++ tyDoc t

/-- A path that may be qualified. -/
def qpathDoc (place : PathPlace) : QPath → Doc
  | .plain p => pathDoc place p
  | .qualified t none rest =>
    word "<" ++ tyDoc t ++ word ">" ++ (segmentDocs place rest).flatMap fun d => word "::" ++ d
  | .qualified t (some p) rest =>
    word "<" ++ tyDoc t ++ word " as " ++ pathDoc .type p ++ word ">" ++
      (segmentDocs place rest).flatMap fun d => word "::" ++ d

/-- Types. -/
def tyDocs : List Ty → List Doc
  | [] => []
  | t :: rest => tyDoc t :: tyDocs rest

/-- A type. -/
def tyDoc : Ty → Doc
  | .path p => qpathDoc .type p
  | .reference life mutable t =>
    word "&" ++ (match life with
      | none => []
      | some l => lifetimeDoc l ++ word " ") ++ wordIfDoc mutable "mut" ++ tyDoc t
  | .pointer mutable t => word (if mutable then "*mut " else "*const ") ++ tyDoc t
  | .slice t => word "[" ++ tyDoc t ++ word "]"
  | .array t len => word "[" ++ tyDoc t ++ word "; " ++ exprDoc .inner len ++ word "]"
  | .tuple ts => tupleDoc (tyDocs ts)
  | .paren t => word "(" ++ tyDoc t ++ word ")"
  | .never => word "!"
  | .infer => word "_"
  | .function binder isUnsafe convention inputs output =>
    binderDoc binder ++ wordIfDoc isUnsafe "unsafe" ++ conventionDoc convention ++
      bracketed "fn(" ")" (paramItems (endsVariadic inputs) (fnParamDocs inputs)) ++
      outputDoc output
  | .object bounds => word "dyn " ++ joined " + " (boundDocs bounds)
  | .impl bounds => word "impl " ++ joined " + " (boundDocs bounds)
  | .macroCall m => macroDoc m none false
  | .variadic => word "..."
  | .bare ts => refused "Type::Verbatim" ts

/-- Parameters. -/
def fnParamDocs : List FnParam → List Doc
  | [] => []
  | p :: rest => fnParamDoc p :: fnParamDocs rest

/-- A parameter. -/
def fnParamDoc : FnParam → Doc
  | .receiver attrs reference mutable t =>
    attributesDoc false attrs ++
      (match reference with
        | none => []
        | some none => word "&"
        | some (some l) => word "&" ++ lifetimeDoc l ++ word " ") ++
      wordIfDoc mutable "mut" ++ word "self" ++
      (match t with
        | none => []
        | some t => word ": " ++ tyDoc t)
  | .typed attrs p t => attributesDoc false attrs ++ patDoc p ++ word ": " ++ tyDoc t
  | .nameless attrs t => attributesDoc false attrs ++ tyDoc t

/-- Those attributes that stand inside, or before, what they are about. -/
def attributesDoc (inner : Bool) : List Attribute → Doc
  | [] => []
  | a :: rest => (if a.isInner = inner then attributeDoc a else []) ++ attributesDoc inner rest

/-- An attribute. -/
def attributeDoc : Attribute → Doc
  | .word inner path =>
    word (if inner then "#![" else "#[") ++ plainPathDoc path ++ word "]" ++ space
  | .list inner path d ts =>
    word (if inner then "#![" else "#[") ++ plainPathDoc path ++
      attributeTokens 0 .word (Token.grouped d ts) ++ word "]" ++ space
  | .value inner path e =>
    match comment? inner path e with
    | some d => d
    | none =>
      word (if inner then "#![" else "#[") ++ plainPathDoc path ++ word " = " ++
        exprDoc .inner e ++ word "]" ++ space

/-- Generic parameters, lifetimes being marked. -/
def genericParamDocs : List GenericParam → List (Bool × Doc)
  | [] => []
  | p :: rest => genericParamDoc p :: genericParamDocs rest

/-- A generic parameter. -/
def genericParamDoc : GenericParam → Bool × Doc
  | .lifetime attrs name bounds =>
    (true, attributesDoc false attrs ++ lifetimeDoc name ++ outlivedDoc bounds)
  | .type attrs name bounds default =>
    (false, attributesDoc false attrs ++ word name ++
      inconsistent indent (boundedDoc ": " (boundDocs bounds) ++
        (match default with
          | none => []
          | some t => space ++ word "= " ++ tyDoc t)))
  | .const attrs name t default =>
    (false, attributesDoc false attrs ++ word "const " ++ word name ++ word ": " ++ tyDoc t ++
      (match default with
        | none => []
        | some e => word " = " ++ exprDoc .inner e))

/-- Conditions. -/
def whereDocs : List WherePredicate → List Doc
  | [] => []
  | c :: rest => whereDoc c :: whereDocs rest

/-- A condition. -/
def whereDoc : WherePredicate → Doc
  | .lifetime name bounds => conditionDoc (lifetimeDoc name) indent (bounds.map lifetimeDoc)
  | .type binder t bounds =>
    conditionDoc (binderDoc binder ++ tyDoc t) (if bounds.length = 1 then 0 else indent)
      (boundDocs bounds)

/-- Generic parameters in angle brackets. -/
def genericsDoc : Generics → Doc
  | .mk ps _ =>
    let inside := lifetimesFirst (genericParamDocs ps)
    if ps.isEmpty then []
    else word "<" ++ consistent 0 (zeroBreak ++ inside ++ shift (-indent)) ++ word ">"

/-- The conditions on generic parameters. -/
def conditionDocs : Generics → List Doc
  | .mk _ cs => whereDocs cs

/-- Patterns. -/
def patDocs : List Pat → List Doc
  | [] => []
  | p :: rest => patDoc p :: patDocs rest

/-- A pattern. -/
def patDoc : Pat → Doc
  | .wild => word "_"
  | .rest => word ".."
  | .ident byRef mutable name => wordIfDoc byRef "ref" ++ wordIfDoc mutable "mut" ++ word name
  | .whole byRef mutable name p =>
    wordIfDoc byRef "ref" ++ wordIfDoc mutable "mut" ++ word name ++ word " @ " ++ patDoc p
  | .literal text => word text
  | .path p => qpathDoc .expr p
  | .range start closed stop => rangeDoc (exprDoc? start) closed (exprDoc? stop)
  | .tupleStruct p ps => qpathDoc .expr p ++ bracketed "(" ")" (commaItems (patDocs ps))
  | .record p fields =>
    let (rest, members) := (recordPatDocs fields).partition Prod.fst
    consistent indent (qpathDoc .expr p ++ word " \x7b" ++ spaceIfNonempty ++
      fieldLines (members.map Prod.snd) (rest.head?.map Prod.snd)) ++ word "\x7d"
  | .member name p => word name ++ word ": " ++ patDoc p
  | .reference mutable p => word "&" ++ wordIfDoc mutable "mut" ++ patDoc p
  | .tuple [p] trailing =>
    bracketed "(" ")" (patDoc p ++ (if trailing then word "," else []) ++ zeroBreak)
  | .tuple ps _ => bracketed "(" ")" (commaItems (patDocs ps))
  | .paren p => word "(" ++ patDoc p ++ word ")"
  | .slice ps => word "[" ++ commaItems (patDocs ps) ++ word "]"
  | .alternatives _ ps =>
    let inside := parted "| " (patDocs ps)
    if areShortAlternatives ps then inconsistent 0 inside else consistent 0 inside
  | .constBlock attrs body =>
    word "const " ++ consistent indent (smallBlock (attrs.isEmpty && body.isEmpty)
      (attributesDoc true attrs ++ stmtsDoc true body))
  | .macroCall m => macroDoc m none false
  | .typed p t => patDoc p ++ word ": " ++ tyDoc t
  | .attributed attrs (.range start closed stop) =>
    word "(" ++ attributesDoc false attrs ++
      rangeDoc (exprDoc? start) closed (exprDoc? stop) ++ word ")"
  | .attributed attrs p => attributesDoc false attrs ++ patDoc p
  | .bare ts => refused "Pat::Verbatim" ts

/-- The fields of a struct pattern, the points at its end being marked. -/
def recordPatDocs : List Pat → List (Bool × Doc)
  | [] => []
  | .rest :: rest => (true, word "..") :: recordPatDocs rest
  | .attributed attrs .rest :: rest =>
    (true, attributesDoc false attrs ++ word "..") :: recordPatDocs rest
  | p :: rest => (false, patDoc p) :: recordPatDocs rest

/-- Expressions. -/
def exprDocs : List Expr → List Doc
  | [] => []
  | e :: rest => exprDoc .inner e :: exprDocs rest

/-- An expression, where there is one. -/
def exprDoc? : Option Expr → Doc
  | none => []
  | some e => exprDoc .inner e

/-- An expression in its setting. -/
def exprDoc (s : Setting) (e : Expr) : Doc :=
  s.framed e <| match e with
  | .literal text => word text
  | .path p => qpathDoc .expr p
  | .unary op e => word (String.singleton op) ++ exprDoc .inner e
  | .reference mutable e => word (if mutable then "&mut " else "&") ++ exprDoc .inner e
  | .rawReference mutable e =>
    word (if mutable then "&raw mut " else "&raw const ") ++ exprDoc .inner e
  | .binary op l r =>
    inconsistent indent (inconsistent (-indent) (exprDoc .inner l) ++ space ++ word op ++
      word " " ++ exprDoc .inner r)
  | .assign l r => inconsistent 0 (exprDoc .inner l ++ word " = " ++ neverBreak ++ exprDoc .inner r)
  | .range start closed stop => rangeDoc (exprDoc? start) closed (exprDoc? stop)
  | .cast e t =>
    inconsistent indent (inconsistent (-indent) (exprDoc .inner e) ++ space ++ word "as " ++
      tyDoc t)
  | .call f args => exprDoc s.callee f ++ callDoc args (exprDocs args)
  | .method receiver name args =>
    let unindented := !s.isLink && s.startsLine && receiver.isShortName
    s.chain (exprDoc (.link s.startsLine) receiver ++ memberBreak s.startsLine receiver ++
      word "." ++ segmentDoc .expr name ++
      consistent (if unindented then -indent else 0) (callDoc args (exprDocs args)))
  | .field base name =>
    s.chain (exprDoc (.link s.startsLine) base ++ memberBreak s.startsLine base ++ word "." ++
      word name)
  | .index base i => exprDoc s.operand base ++ word "[" ++ exprDoc .inner i ++ word "]"
  | .await base =>
    s.chain (exprDoc (.link s.startsLine) base ++ memberBreak s.startsLine base ++ word ".await")
  | .question base => exprDoc s.operand base ++ word "?"
  | .paren e => word "(" ++ exprDoc .inner e ++ word ")"
  | .tuple es =>
    match s, es with
    | .arm _, [] => blockLines []
    | _, _ => tupleDoc (exprDocs es)
  | .array es => arrayDoc es (exprDocs es)
  | .repeated e len => word "[" ++ exprDoc .inner e ++ word "; " ++ exprDoc .inner len ++ word "]"
  | .record p fields _ rest =>
    let restDoc := rest.map fun _ => word ".." ++ exprDoc? rest
    consistentWithin 34 indent (inconsistent (-indent) (qpathDoc .expr p) ++ word " \x7b" ++
      spaceIfNonempty ++ fieldLines (exprDocs fields) restDoc) ++ word "\x7d"
  | .member name none => word name
  | .member name (some e) => word name ++ word ": " ++ inconsistent 0 (exprDoc .inner e)
  | .block kind attrs body =>
    match s, kind, attrs, body with
    | .arm true, .plain none, [], [.expr e false] => exprDoc (.arm true) e
    | .arm _, .plain label, attrs, body =>
      labelDoc label ++ blockLines (attributesDoc true attrs ++ stmtsDoc false body)
    | .otherwise, .plain _, _, body => smallBlock body.isEmpty (stmtsDoc true body)
    | _, kind, attrs, body =>
      blockKindDoc kind ++ consistent indent (smallBlock (attrs.isEmpty && body.isEmpty)
        (attributesDoc true attrs ++ stmtsDoc true body))
  | .ifThen condition body otherwise =>
    let opening := word "if " ++
      consistent (-indent) (conditioned condition.wrapsOpenly (exprDoc .inner condition))
    match s, otherwise with
    | .otherwise, none => opening ++ smallBlock body.isEmpty (stmtsDoc true body)
    | .otherwise, some e =>
      opening ++ smallBlock body.isEmpty (stmtsDoc true body) ++ exprDoc .otherwise e
    | _, none =>
      consistent indent (opening ++
        if body.isEmpty then word "\x7b\x7d"
        else word "\x7b" ++ hardBreak ++ stmtsDoc false body ++ shift (-indent) ++ word "\x7d")
    | _, some e =>
      consistent indent (opening ++ smallBlock body.isEmpty (stmtsDoc true body) ++
        exprDoc .otherwise e)
  | .letCondition p e =>
    inconsistent 0 (word "let " ++ inconsistent 0 (patDoc p) ++ word " = " ++ neverBreak ++
      inconsistent 0 (exprDoc .inner e))
  | .matchOn scrutinee attrs arms =>
    inconsistent 0 (word "match " ++
      conditioned scrutinee.wrapsOpenly (exprDoc .inner scrutinee) ++
      blockLines (attributesDoc true attrs ++ armsDoc arms))
  | .loop label attrs body =>
    labelDoc label ++ word "loop \x7b" ++ lines (attributesDoc true attrs ++ stmtsDoc false body)
  | .whileLoop label condition attrs body =>
    labelDoc label ++ word "while " ++
      conditioned condition.wrapsOpenly (exprDoc .inner condition) ++
      blockLines (attributesDoc true attrs ++ stmtsDoc false body)
  | .forLoop label p e attrs body =>
    inconsistent 0 (labelDoc label ++ word "for " ++ patDoc p ++ word " in " ++ neverBreak ++
      conditioned e.wrapsOpenly (exprDoc .inner e) ++
      blockLines (attributesDoc true attrs ++ stmtsDoc false body))
  | .closure binder words params output body =>
    let start := word "|" ++ (if params.isEmpty then [] else zeroBreak) ++ filled (patDocs params)
    inconsistent 0 (binderDoc binder ++ wordsDoc words ++
      match output with
      | none =>
        consistent indent (start ++ word "|" ++ space ++ shift (-indent)) ++ neverBreak ++
          closureFrame body (exprDoc .inner body)
      | some t =>
        consistent indent (start ++
          (if params.isEmpty then [] else trailingComma true ++ shift (-indent)) ++ word "|") ++
          word " -> " ++ tyDoc t ++ word " " ++ neverBreak ++ exprDoc .inner body)
  | .returnWith none => word "return"
  | .returnWith (some e) => word "return " ++ exprDoc .inner e
  | .breakWith label none => word "break" ++ jumpDoc label
  | .breakWith label (some e) => word "break" ++ jumpDoc label ++ word " " ++ exprDoc .inner e
  | .continueAt label => word "continue" ++ jumpDoc label
  | .yieldWith none => word "yield"
  | .yieldWith (some e) => word "yield " ++ exprDoc .inner e
  | .infer => word "_"
  | .macroCall m => macroDoc m none false
  | .attributed attrs (.range start closed stop) =>
    word "(" ++ attributesDoc false attrs ++ rangeDoc (exprDoc? start) closed (exprDoc? stop) ++
      word ")"
  | .attributed attrs e =>
    match s with
    | .link b =>
      if e.isLink then exprDoc (.link b) e
      else attributesDoc false attrs ++ exprDoc .inner e
    | .arm _ =>
      if e.isArmBlock then exprDoc (.arm false) e
      else attributesDoc false attrs ++ exprDoc (.alone true) e
    | s => attributesDoc false attrs ++ exprDoc (.alone s.startsLine) e
  | .bare ts => refused "Expr::Verbatim" ts

/-- The arms of a `match`, one a line. -/
def armsDoc : List Arm → Doc
  | [] => []
  | .mk attrs p guard body :: rest =>
    attributesDoc false attrs ++ inconsistent 0 (patDoc p ++
      (match guard with
        | none => []
        | some g => word " if " ++ exprDoc .inner g) ++
      word " => " ++ exprDoc (.arm true) body) ++ hardBreak ++ armsDoc rest

/-- Statements. If they are a single expression in a `small` place, that one need not end its
line. -/
def stmtsDoc (small : Bool) : List Stmt → Doc
  | [] => []
  | [s] => stmtDoc small true s
  | s :: rest => stmtDoc false false s ++ stmtsDoc false rest

/-- A statement. -/
def stmtDoc (small isLast : Bool) : Stmt → Doc
  | .letBinding attrs p init otherwise =>
    attributesDoc false attrs ++ inconsistent 0 (word "let " ++ patDoc p ++
      (match init with
        | none => []
        | some e => word " = " ++ neverBreak ++ exprDoc .inner e) ++
      if otherwise.isSome then space ++ word "else " else []) ++
      (match otherwise with
        | none => []
        | some e => neverBreak ++ exprDoc .inner e) ++ word ";" ++ hardBreak
  | .expr e semicolon =>
    if small && !semicolon then inconsistent 0 (exprDoc (.alone true) e) ++ space
    else
      let ends := if semicolon then !e.losesSemicolon else e.getsSemicolon
      inconsistent 0 (exprDoc (.alone true) e ++ if ends then word ";" else []) ++ hardBreak
  | .macroCall attrs m semicolon =>
    attributesDoc false attrs ++ macroDoc m none (semicolon || !isLast) ++ hardBreak
  | .item i => itemDoc .module i
  | .empty => []

/-- The head of a function, without its conditions. -/
def signatureDoc : Signature → Doc
  | .mk words convention name generics params output =>
    wordsDoc words ++ conventionDoc convention ++ word "fn " ++ word name ++
      genericsDoc generics ++ word "(" ++ neverBreak ++
      consistent 0 (zeroBreak ++ paramItems (endsVariadic params) (fnParamDocs params) ++
        shift (-indent)) ++
      word ")" ++ consistent (-indent) (outputDoc output)

/-- The conditions of a function. -/
def signatureConditions : Signature → List Doc
  | .mk _ _ _ generics _ _ => conditionDocs generics

/-- Fields. -/
def fieldDocs : List Field → List Doc
  | [] => []
  | f :: rest => fieldDoc f :: fieldDocs rest

/-- A field. -/
def fieldDoc : Field → Doc
  | .mk attrs vis name t =>
    attributesDoc false attrs ++ visibilityDoc vis ++
      (match name with
        | none => []
        | some n => word n ++ word ": ") ++ tyDoc t

/-- The variants of an enum, one a line. -/
def variantsDoc : List Variant → Doc
  | [] => []
  | .mk attrs name fields discriminant :: rest =>
    attributesDoc false attrs ++ word name ++
      (match fields with
        | .unit => []
        | .tuple fs =>
          consistent indent (word "(" ++ zeroBreak ++ commaItems (fieldDocs fs) ++
            shift (-indent) ++ word ")")
        | .named fs =>
          word " \x7b" ++ consistent indent (space ++ fieldLines (fieldDocs fs) none) ++
            word "\x7d") ++
      (match discriminant with
        | none => []
        | some e => word " = " ++ exprDoc .inner e) ++ word "," ++ hardBreak ++ variantsDoc rest

/-- An item in its place. -/
def itemDoc (place : ItemPlace) : Item → Doc
  | .use attrs vis leading t =>
    attributesDoc false attrs ++ visibilityDoc vis ++ word "use " ++
      (if leading then word "::" else []) ++ useTreeDoc t ++ word ";" ++ hardBreak
  | .enum attrs vis name generics variants =>
    attributesDoc false attrs ++ [.box indent true] ++ visibilityDoc vis ++ word "enum " ++
      word name ++ genericsDoc generics ++ whereBeforeBody (conditionDocs generics) ++
      bodyLines (variantsDoc variants) ++ hardBreak
  | .struct attrs vis name generics fields =>
    attributesDoc false attrs ++ [.box indent true] ++ visibilityDoc vis ++ word "struct " ++
      word name ++ genericsDoc generics ++
      (match fields with
        | .named fs =>
          whereBeforeBody (conditionDocs generics) ++
            bodyLines ((fieldDocs fs).flatMap fun d => d ++ word "," ++ hardBreak)
        | .tuple fs =>
          word "(" ++ zeroBreak ++ commaItems (fieldDocs fs) ++ shift (-indent) ++ word ")" ++
            whereBeforeSemicolon (conditionDocs generics) ++ [.endBox]
        | .unit => whereBeforeSemicolon (conditionDocs generics) ++ [.endBox]) ++ hardBreak
  | .union attrs vis name generics fields =>
    attributesDoc false attrs ++ [.box indent true] ++ visibilityDoc vis ++ word "union " ++
      word name ++ genericsDoc generics ++ whereBeforeBody (conditionDocs generics) ++
      bodyLines ((fieldDocs fields).flatMap fun d => d ++ word "," ++ hardBreak) ++ hardBreak
  | .trait attrs vis words name generics supertraits items =>
    attributesDoc false attrs ++ [.box indent true] ++ visibilityDoc vis ++ wordsDoc words ++
      word "trait " ++ word name ++ genericsDoc generics ++
      (if supertraits.isEmpty then [] else word ": " ++ joined " + " (boundDocs supertraits)) ++
      whereBeforeBody (conditionDocs generics) ++
      bodyLines (attributesDoc true attrs ++ itemsDoc .traitBody items) ++ hardBreak
  | .traitSum attrs vis name generics bounds =>
    attributesDoc false attrs ++ consistent indent (visibilityDoc vis ++ word "trait " ++
      word name ++ genericsDoc generics ++ word " = " ++ neverBreak ++ parted "+ " (boundDocs bounds) ++
      whereBeforeSemicolon (conditionDocs generics)) ++ hardBreak
  | .impl attrs words generics negative trait? self items =>
    attributesDoc false attrs ++ [.box indent true] ++
      inconsistent (-indent) (consistent indent (wordsDoc words ++ word "impl" ++
        genericsDoc generics) ++ word " " ++
        (match trait? with
          | none => []
          | some p =>
            (if negative then word "!" else []) ++ pathDoc .type p ++ space ++ word "for ") ++
        tyDoc self) ++
      whereBeforeBody (conditionDocs generics) ++
      bodyLines (attributesDoc true attrs ++ itemsDoc .implBody items) ++ hardBreak
  | .fn attrs vis isDefault signature body =>
    attributesDoc false attrs ++ [.box indent true] ++ visibilityDoc vis ++
      wordIfDoc isDefault "default" ++ signatureDoc signature ++
      whereBeforeBody (signatureConditions signature) ++
      bodyLines (attributesDoc true attrs ++ stmtsDoc false body) ++ hardBreak
  | .fnHead attrs vis signature =>
    attributesDoc false attrs ++ consistent indent (visibilityDoc vis ++ signatureDoc signature ++
      whereBeforeSemicolon (signatureConditions signature)) ++ hardBreak
  | .module attrs vis isUnsafe name items =>
    attributesDoc false attrs ++ [.box indent true] ++ visibilityDoc vis ++
      wordIfDoc isUnsafe "unsafe" ++ word "mod " ++ word name ++ word " " ++
      bodyLines (attributesDoc true attrs ++ itemsDoc .module items) ++ hardBreak
  | .moduleHead attrs vis isUnsafe name =>
    attributesDoc false attrs ++ consistent indent (visibilityDoc vis ++
      wordIfDoc isUnsafe "unsafe" ++ word "mod " ++ word name ++ word ";") ++ hardBreak
  | .foreign attrs isUnsafe convention items =>
    attributesDoc false attrs ++ [.box indent true] ++ wordIfDoc isUnsafe "unsafe" ++
      conventionDoc (some convention) ++
      bodyLines (attributesDoc true attrs ++ itemsDoc .foreignBody items) ++ hardBreak
  | .const attrs vis isDefault name t value =>
    attributesDoc false attrs ++ consistent 0 (visibilityDoc vis ++
      wordIfDoc isDefault "default" ++ word "const " ++ word name ++ word ": " ++ tyDoc t ++
      (if value.isSome then word " = " ++ neverBreak else []) ++ exprDoc? value ++ word ";") ++
      hardBreak
  | .static attrs vis mutable name t value =>
    attributesDoc false attrs ++ consistent 0 (visibilityDoc vis ++ word "static " ++
      wordIfDoc mutable "mut" ++ word name ++ word ": " ++ tyDoc t ++
      (if value.isSome then word " = " ++ neverBreak else []) ++ exprDoc? value ++ word ";") ++
      hardBreak
  | .type attrs vis isDefault name generics bounds t =>
    let head := visibilityDoc vis ++ wordIfDoc isDefault "default" ++ word "type " ++ word name ++
      genericsDoc generics
    let value := match t with
      | none => []
      | some t => word "= " ++ neverBreak ++ inconsistent (-indent) (tyDoc t)
    let conditions := conditionDocs generics
    attributesDoc false attrs ++
      (match place with
        | .module =>
          consistent indent (head ++ whereBeforeEquals conditions ++ value ++ word ";")
        | .foreignBody => consistent 0 (head ++ word ";")
        | _ =>
          consistent indent (head ++ boundedDoc ": " (boundDocs bounds) ++
            (if t.isSome then word " " else []) ++ value ++ whereBehindType conditions)) ++ hardBreak
  | .externCrate attrs vis name newName =>
    attributesDoc false attrs ++ visibilityDoc vis ++ word "extern crate " ++ word name ++
      (match newName with
        | none => []
        | some n => word " as " ++ word n) ++ word ";" ++ hardBreak
  | .macroCall attrs name m => attributesDoc false attrs ++ macroDoc m name true ++ hardBreak
  | .bare ts => refused place.form ts

/-- Items, one after the other. -/
def itemsDoc (place : ItemPlace) : List Item → Doc
  | [] => []
  | i :: rest => itemDoc place i ++ itemsDoc place rest

end

/-- A source file. -/
def fileDoc (f : SourceFile) : Doc :=
  consistent 0 ((match f.interpreter with
    | none => []
    | some line => word line ++ hardBreak) ++ attributesDoc true f.attrs ++ itemsDoc .module f.items)

end DispatchLayer.Code.Printer
