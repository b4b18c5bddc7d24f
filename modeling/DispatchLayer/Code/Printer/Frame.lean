import DispatchLayer.Code.Shape
import DispatchLayer.Pretty.Document
import DispatchLayer.Token.Layout

/-!
# Frames

How the parts of a tree are put together once they are set: lists in brackets, bounds, clauses,
blocks, and what surrounds an expression. Lists in brackets go on one line or have one item a line.
A chain of members hangs behind its first part. An arm whose body does not fit on the line gets
brackets around it.
-/

namespace DispatchLayer.Code.Printer

open Pretty

/-! ## Lists -/

/-- Documents with a text between neighbours. -/
def joined (sep : String) : List Doc → Doc
  | [] => []
  | [d] => d
  | d :: rest => d ++ word sep ++ joined sep rest

/-- Documents with a text between neighbours, where the line may end before it. -/
def parted (sep : String) : List Doc → Doc
  | [] => []
  | d :: rest => d ++ rest.flatMap fun b => space ++ word sep ++ b

/-- Bounds after a colon, where there are any. -/
def boundedDoc (opener : String) (bounds : List Doc) : Doc :=
  if bounds.isEmpty then [] else word opener ++ parted "+ " bounds

/-- A list of items in brackets, one item a line where it does not fit on one. -/
def bracketed (opener closer : String) (inside : Doc) : Doc :=
  word opener ++ consistent indent (zeroBreak ++ inside ++ shift (-indent)) ++ word closer

/-- As `bracketed` for tuples: the comma behind a single item stays. -/
def tupleDoc (items : List Doc) : Doc :=
  match items with
  | [d] => bracketed "(" ")" (d ++ word "," ++ zeroBreak)
  | _ => bracketed "(" ")" (commaItems items)

/-- Items with a comma between neighbours, filling the lines. -/
def filled : List Doc → Doc
  | [] => []
  | [d] => d
  | d :: rest => d ++ word "," ++ space ++ filled rest

/-- Lifetimes first, then the other items, with their commas. -/
def lifetimesFirst (items : List (Bool × Doc)) : Doc :=
  let first := items.filter fun i => i.1
  let second := items.filter fun i => !i.1
  commaItems ((first ++ second).map Prod.snd)

/-- Fields between braces that are inside of a box already, and perhaps what follows them. -/
def fieldLines (fields : List Doc) (rest : Option Doc) : Doc :=
  withLast (fun d isLast => d ++ trailingCommaOrSpace (isLast && rest.isNone)) fields ++
    (match rest with
      | none => []
      | some d => d ++ space) ++ shift (-indent)

/-- Parameters, the last of which may stand for any further ones: then no comma follows it. -/
def paramItems (isVariadic : Bool) (items : List Doc) : Doc :=
  if isVariadic then withLast (fun d isLast => d ++ if isLast then zeroBreak else word "," ++ space)
    items
  else commaItems items

/-! ## Names -/

/-- A lifetime. -/
def lifetimeDoc (name : String) : Doc := word ("'" ++ name)

/-- A label and its colon, where there is one. -/
def labelDoc : Option String → Doc
  | none => []
  | some name => lifetimeDoc name ++ word ": "

/-- A space and a lifetime, where there is one. -/
def jumpDoc : Option String → Doc
  | none => []
  | some name => word " " ++ lifetimeDoc name

/-- Words, each with a space after it. -/
def wordsDoc (words : List String) : Doc := words.flatMap fun w => word (w ++ " ")

/-- A word with a space after it, where a flag asks for it. -/
def wordIfDoc (b : Bool) (w : String) : Doc := if b then word (w ++ " ") else []

/-- Lifetimes after a colon, where there are any. -/
def outlivedDoc (bounds : List String) : Doc :=
  if bounds.isEmpty then [] else word ": " ++ joined " + " (bounds.map lifetimeDoc)

/-- The parameters that a type captures. -/
def capturesDoc (names : List (Bool × String)) : Doc :=
  word "use<" ++ joined ", " (names.map fun n => if n.1 then lifetimeDoc n.2 else word n.2) ++
    word ">"

/-- A calling convention. -/
def conventionDoc : Option Convention → Doc
  | none => []
  | some none => word "extern "
  | some (some name) => word "extern " ++ word name ++ word " "

/-- A form that cannot be set, with its tokens. -/
def refused (form : String) (tokens : List Token) : Doc :=
  [.refusal ("not implemented: " ++ form ++ " `" ++ Token.line tokens ++ "`")]

/-! ## Clauses -/

/-- A condition: what it is about, and the bounds. -/
def conditionDoc (subject : Doc) (step : Int) (bounds : List Doc) : Doc :=
  subject ++ word ":" ++ inconsistent step (boundedDoc " " bounds)

/-- A `where` clause before a body, or the space that stands there without one. -/
def whereBeforeBody (conditions : List Doc) : Doc :=
  if conditions.isEmpty then word " "
  else
    hardBreak ++ shift (-indent) ++ word "where" ++ hardBreak ++
      (conditions.flatMap fun c => c ++ word "," ++ hardBreak) ++ shift (-indent)

/-- A `where` clause before a semicolon, and the semicolon. -/
def whereBeforeSemicolon (conditions : List Doc) : Doc :=
  if conditions.isEmpty then word ";"
  else
    hardBreak ++ shift (-indent) ++ word "where" ++ hardBreak ++
      withLast (fun c isLast => c ++ if isLast then word ";" else word "," ++ hardBreak) conditions

/-- A `where` clause before an equals sign, or the space that stands there without one. -/
def whereBeforeEquals (conditions : List Doc) : Doc :=
  if conditions.isEmpty then word " "
  else
    space ++ shift (-indent) ++ word "where" ++ space ++
      withLast (fun c isLast => c ++ trailingCommaOrSpace isLast) conditions ++ shift (-indent)

/-- A `where` clause behind a type, and the semicolon. -/
def whereBehindType (conditions : List Doc) : Doc :=
  if conditions.isEmpty then word ";"
  else
    space ++ shift (-indent) ++ word "where" ++ space ++
      withLast (fun c isLast => c ++ if isLast then word ";" else trailingCommaOrSpace false)
        conditions

/-! ## Blocks -/

/-- Braces around lines of their own, after the opening one. -/
def lines (inside : Doc) : Doc :=
  consistent indent (hardBreakIfNonempty ++ inside ++ shift (-indent)) ++ word "\x7d"

/-- Braces around lines of their own. -/
def blockLines (inside : Doc) : Doc := word "\x7b" ++ neverBreak ++ lines inside

/-- The body of an item, inside of a box that ends with it. -/
def bodyLines (inside : Doc) : Doc :=
  word "\x7b" ++ hardBreakIfNonempty ++ inside ++ shift (-indent) ++ [.endBox] ++ word "\x7d"

/-- A block that may stay on one line, inside of a box. -/
def smallBlock (isEmpty : Bool) (inside : Doc) : Doc :=
  if isEmpty then word "\x7b\x7d"
  else word "\x7b" ++ space ++ inside ++ shift (-indent) ++ word "\x7d"

/-- What comes before a block: a line end where it wraps, or else a space. -/
def conditioned (wraps : Bool) (d : Doc) : Doc :=
  consistent 0 (d ++ if wraps then space else word " ")

/-! ## What surrounds an expression -/

/-- What surrounds an expression. -/
inductive Setting where
  /-- Nothing special; the flag tells whether the expression begins a line. -/
  | alone (startsLine : Bool)
  /-- Something hangs behind it. -/
  | link (startsLine : Bool)
  /-- It is the body of an arm. A block of a single expression may give way to that expression. -/
  | arm (givesWay : Bool)
  /-- It follows the block of a conditional. -/
  | otherwise
  deriving DecidableEq, Repr

namespace Setting

/-- Nothing special, inside a line. -/
abbrev inner : Setting := .alone false

/-- Whether an expression in this setting begins a line. -/
def startsLine : Setting → Bool
  | .alone b => b
  | .link b => b
  | _ => true

/-- Whether something hangs behind the expression. -/
def isLink : Setting → Bool
  | .link _ => true
  | _ => false

/-- The setting of what an index or a question mark hangs behind. -/
def operand (s : Setting) : Setting := if s.isLink then s else .alone s.startsLine

/-- The setting of what arguments hang behind. -/
def callee (s : Setting) : Setting := if s.isLink then .link false else .alone s.startsLine

/-- A member with all that it hangs behind: one box for the whole chain. -/
def chain (s : Setting) (d : Doc) : Doc := if s.isLink then d else consistent indent d

end Setting

/-- The body of an arm that is no block: brackets appear around it where it does not fit. -/
def armFrame (e : Expr) (d : Doc) : Doc :=
  let braces := e.startsStatement
  neverBreak ++ consistent indent
    ([.brk { Break.zero with lineEnd := if braces then "\x7b" else "(" }] ++ d ++
      [.brk { Break.zero with
        offset := -indent
        lineEnd := if braces && e.getsSemicolon then ";" else ""
        lineStart := if braces then "\x7d" else "),"
        inLine := if e.standsAlone then "" else "," }])

/-- The body of a closure: brackets appear around it where it does not fit, unless it brings its
own. -/
def closureFrame (e : Expr) (d : Doc) : Doc :=
  if e.isClosureBody then d
  else
    let braces := e.startsStatement
    consistent indent
      ([.brk { Break.zero with lineEnd := if braces then "\x7b" else "(" }] ++ d ++
        [.brk { Break.zero with
          offset := -indent
          lineEnd := if braces && e.getsSemicolon then ";" else ""
          lineStart := if braces then "\x7d" else ")" }])

/-- What follows the block of a conditional: a block, a further conditional, or an expression that
gets a block around it. -/
def otherwiseFrame (e : Expr) (d : Doc) : Doc :=
  match e with
  | .ifThen .. => word " else " ++ d
  | .block (.plain _) .. => word " else " ++ d
  | _ =>
    word " else \x7b" ++ space ++ inconsistent indent d ++ space ++ shift (-indent) ++ word "\x7d"

/-- An expression in its setting. -/
def Setting.framed (s : Setting) (e : Expr) (d : Doc) : Doc :=
  match s with
  | .alone _ => d
  | .link _ => if e.isLink then d else consistent (-indent) d
  | .arm _ => if e.isArmBlock then d else armFrame e d
  | .otherwise => otherwiseFrame e d

/-- What stands between an expression and the point of a member. -/
def memberBreak (startsLine : Bool) (e : Expr) : Doc :=
  if startsLine && e.isShortName then [] else [.breakBeforePoint]

/-- Arguments in parentheses. A single one with brackets of its own needs no line to itself. -/
def callDoc (args : List Expr) (ds : List Doc) : Doc :=
  match args, ds with
  | [e], [d] =>
    if e.bringsBrackets then word "(" ++ d ++ word ")" else bracketed "(" ")" (commaItems [d])
  | _, _ => bracketed "(" ")" (commaItems ds)

/-- The elements of an array. Short literals fill the lines. -/
def arrayDoc (es : List Expr) (ds : List Doc) : Doc :=
  if es.isEmpty then word "[]"
  else if es.all Expr.isShortItem then
    consistent indent (word "[" ++ zeroBreak ++ inconsistent 0 (filled ds) ++ trailingComma true ++
      shift (-indent) ++ word "]")
  else bracketed "[" "]" (commaItems ds)

/-- The points of a range with what stands on their sides. -/
def rangeDoc (start : Doc) (closed : Bool) (stop : Doc) : Doc :=
  start ++ [.gapBeforePoints] ++ word (if closed then "..=" else "..") ++ stop

end DispatchLayer.Code.Printer
