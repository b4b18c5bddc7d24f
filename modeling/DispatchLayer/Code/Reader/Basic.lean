import DispatchLayer.Code
import DispatchLayer.Code.NumberLiteral
import DispatchLayer.Token.Keyword

/-!
# Reading trees: the basics

A reader takes tokens from the front of its input. What it meets inside a pair of brackets ends at
the closing one. A pair of brackets that is left before everything in it was read is not an error at
once: it is remembered, and reported when nothing else fails (`Input.leftover`).

Readers that depend on each other are tied together by a record of entry points (`Grammar`), which
every reader takes as an argument; the record for a nesting depth is built from the one below it.
-/

namespace DispatchLayer.Code

/-- Why tokens cannot be read. -/
inductive ReadError where
  /-- The text is not a sequence of tokens. -/
  | noTokens
  /-- Something else was expected; `atEnd` if there was nothing left. -/
  | expected (atEnd : Bool) (what : List String)
  /-- A name was expected where a keyword stands. -/
  | keyword (word : String)
  /-- Tokens were left over, in brackets or at the end. -/
  | leftover (inside : Option Delimiter)
  /-- A condition of the language other than the order of tokens. -/
  | rule (text : String)
  /-- The input is nested more deeply than it is long. -/
  | tooDeep
  deriving DecidableEq, Repr

namespace ReadError

/-- Alternatives, separated by commas. -/
def listing : List String → String
  | [] => ""
  | [a] => a
  | a :: rest => a ++ ", " ++ listing rest

/-- The alternatives of an expectation, at least one. -/
def alternatives : List String → String
  | [] => ""
  | [a] => "expected " ++ a
  | [a, b] => "expected " ++ a ++ " or " ++ b
  | all => "expected one of: " ++ listing all

/-- The report. -/
def message : ReadError → String
  | .noTokens => "cannot parse string into token stream"
  | .expected true [] => "unexpected end of input"
  | .expected false [] => "unexpected token"
  | .expected true what => "unexpected end of input, " ++ alternatives what
  | .expected false what => alternatives what
  | .keyword word => "expected identifier, found keyword `" ++ word ++ "`"
  | .leftover none => "unexpected token"
  | .leftover (some .paren) => "unexpected token, expected `)`"
  | .leftover (some .bracket) => "unexpected token, expected `]`"
  | .leftover (some .brace) => "unexpected token, expected `\x7d`"
  | .rule text => text
  | .tooDeep => "input is nested too deeply"

end ReadError

/-- What is left to read. -/
structure Input where
  /-- The tokens, up to the end of the input. -/
  tokens : List Token
  /-- The first pair of brackets that was left too early. -/
  leftover : Option Delimiter

/-- A reader takes tokens from the front and gives a value. -/
abbrev Reader := StateT Input (Except ReadError)

namespace Reader

/-! ## Looking ahead -/

/-- The tokens ahead, up to the end of the input. -/
def ahead : Reader (List Token) := return (← get).tokens

/-- Whether nothing is left in the innermost brackets. -/
def isEnd : List Token → Bool
  | [] => true
  | .closing _ :: _ => true
  | _ => false

/-- Whether the tokens begin with an operator: all of its characters but the last are joint. -/
def startsOp : List Char → List Token → Bool
  | [], _ => true
  | [c], .punct d _ :: _ => c = d
  | c :: rest, .punct d .joint :: ts => c = d && startsOp rest ts
  | _, _ => false

/-- Whether the tokens begin with a word. -/
def startsWord (word : String) : List Token → Bool
  | .ident w :: _ => w = word
  | _ => false

/-- Whether the tokens begin with one of the words. -/
def startsAnyWord (words : List String) (ts : List Token) : Bool :=
  words.any fun w => startsWord w ts

/-- Whether the tokens begin with a name that is no keyword. -/
def startsName : List Token → Bool
  | .ident w :: _ => !Keyword.isReserved w
  | _ => false

/-- Whether the tokens begin with any name, keywords included. -/
def startsAnyName : List Token → Bool
  | .ident _ :: _ => true
  | _ => false

/-- Whether the tokens begin with a lifetime. -/
def startsLifetime : List Token → Bool
  | .punct '\'' .joint :: .ident _ :: _ => true
  | _ => false

/-- Whether the tokens begin with an opening bracket. -/
def startsGroup (d : Delimiter) : List Token → Bool
  | .opening e :: _ => d = e
  | _ => false

/-- Whether a literal is a number. -/
def isNumber (text : String) : Bool := (text.toList.head?.map Char.isDigit).getD false

/-- Whether the tokens begin with a literal: a literal token, a truth value, or a number with a
minus sign. -/
def startsLiteral : List Token → Bool
  | .literal _ :: _ => true
  | .ident w :: _ => w = "true" || w = "false"
  | .punct '-' _ :: .literal text :: _ => isNumber text
  | _ => false

/-- The tokens after the closing bracket of a group in which `depth` further groups are open. -/
def afterGroup : Nat → List Token → List Token
  | _, [] => []
  | depth, .opening _ :: ts => afterGroup (depth + 1) ts
  | 0, .closing _ :: ts => ts
  | depth + 1, .closing _ :: ts => afterGroup depth ts
  | depth, _ :: ts => afterGroup depth ts

/-- The tokens up to the closing bracket of a group in which `depth` further groups are open. -/
def insideGroup : Nat → List Token → List Token
  | _, [] => []
  | depth, .opening d :: ts => .opening d :: insideGroup (depth + 1) ts
  | 0, .closing _ :: _ => []
  | depth + 1, .closing d :: ts => .closing d :: insideGroup depth ts
  | depth, t :: ts => t :: insideGroup depth ts

/-- The tokens after the first one, a lifetime or a bracketed group counting as one. -/
def skipTree : List Token → List Token
  | [] => []
  | .punct '\'' .joint :: .ident _ :: ts => ts
  | .opening _ :: ts => afterGroup 0 ts
  | .closing d :: ts => .closing d :: ts
  | _ :: ts => ts

/-- The tokens from one point of the input up to a later one. -/
def between (before after : List Token) : List Token := before.take (before.length - after.length)

/-! ## Failing -/

/-- Fail because one of several things was expected; the report tells if nothing is left. -/
def expected {α : Type} (what : List String) : Reader α := do
  throw (.expected (isEnd (← ahead)) what)

/-- Fail with a rule of the language. -/
def failRule {α : Type} (text : String) : Reader α := throw (.rule text)

/-! ## Taking tokens -/

/-- Drop the first tokens. -/
def drop (n : Nat) : Reader Unit := modify fun i => { i with tokens := i.tokens.drop n }

/-- Take an operator. Reports about operators do not mention the end of the input. -/
def op (cs : List Char) : Reader Unit := do
  if startsOp cs (← ahead) then drop cs.length
  else throw (.expected false ["`" ++ String.ofList cs ++ "`"])

/-- Take an operator if it comes next. -/
def op? (cs : List Char) : Reader Bool := do
  if startsOp cs (← ahead) then drop cs.length; return true
  else return false

/-- Take a word. -/
def word (w : String) : Reader Unit := do
  if startsWord w (← ahead) then drop 1 else expected ["`" ++ w ++ "`"]

/-- Take a word if it comes next. -/
def word? (w : String) : Reader Bool := do
  if startsWord w (← ahead) then drop 1; return true
  else return false

/-- Take those of some words that come next, in their order. -/
def wordsInOrder (words : List String) : Reader (List String) := do
  let found ← words.mapM fun w => return if ← word? w then some w else none
  return found.filterMap id

/-- Take a name that is no keyword. -/
def name : Reader String := do
  match ← ahead with
  | .ident w :: _ => if Keyword.isReserved w then throw (.keyword w) else drop 1; return w
  | _ => expected ["identifier"]

/-- Take any name. -/
def anyName : Reader String := do
  match ← ahead with
  | .ident w :: _ => drop 1; return w
  | _ => expected ["identifier"]

/-- Take a lifetime. -/
def lifetime : Reader String := do
  match ← ahead with
  | .punct '\'' .joint :: .ident n :: _ => drop 2; return n
  | _ => expected ["lifetime"]

/-- Take a lifetime if it comes next. -/
def lifetime? : Reader (Option String) := do
  if startsLifetime (← ahead) then return some (← lifetime) else return none

/-- Take a literal; the minus sign of a number belongs to it. -/
def literal : Reader String := do
  match ← ahead with
  | .literal text :: _ => drop 1; return text
  | .ident w :: _ => if w = "true" ∨ w = "false" then drop 1; return w else expected ["literal"]
  | .punct '-' _ :: .literal text :: _ =>
    if isNumber text then drop 2; return "-" ++ text else expected ["literal"]
  | _ => expected ["literal"]

/-- The position in a tuple that a number gives, in base ten. -/
def position (text : String) : Reader String := do
  match IntLiteral.ofText? text with
  | none => failRule "expected integer literal"
  | some i =>
    if i.suffix != "" then failRule "expected unsuffixed integer"
    else if i.negative then failRule "invalid digit found in string"
    else if i.value < 0x100000000 then return toString i.value
    else failRule "number too large to fit in target type"

/-- What a reader gives, together with the tokens that it took. -/
def withTokens {α : Type} (r : Reader α) : Reader (α × List Token) := do
  let before ← ahead
  let a ← r
  return (a, between before (← ahead))

/-- What a reader gives, or nothing where it fails. -/
def attempt {α : Type} (r : Reader α) : Reader (Option α) :=
  tryCatch (some <$> r) fun _ => pure none

/-- What a reader would give here, or nothing where it would fail. -/
def glimpse {α : Type} (r : Reader α) : Reader (Option α) := do
  let here ← get
  let a ← attempt r
  set here
  return a

/-- A member: a name or a position. The flag tells whether it is a name. -/
def member : Reader (Bool × String) := do
  if startsName (← ahead) then return (true, ← name)
  else
    match (← glimpse literal).filter fun text => (IntLiteral.ofText? text).isSome with
    | some text =>
      let _ ← literal
      return (false, ← position text)
    | none => expected ["identifier or integer"]

/-! ## Brackets and lists -/

/-- How reports call a kind of brackets. -/
def delimiterName : Delimiter → String
  | .paren => "parentheses"
  | .bracket => "square brackets"
  | .brace => "curly braces"

/-- Leave a pair of brackets, remembering it if something in it was not read. -/
def leave (d : Delimiter) : Reader Unit := modify fun i =>
  match i.tokens with
  | .closing _ :: ts => { i with tokens := ts }
  | ts => ⟨afterGroup 0 ts, i.leftover <|> some d⟩

/-- Read inside a pair of brackets. -/
def grouped {α : Type} (d : Delimiter) (inside : Reader α) : Reader α := do
  if startsGroup d (← ahead) then
    drop 1
    let a ← inside
    leave d
    return a
  else expected [delimiterName d]

/-- Take a pair of brackets with everything in it. -/
def rawGroup : Reader (Delimiter × List Token) := do
  match ← ahead with
  | .opening d :: ts => modify (fun i => { i with tokens := afterGroup 0 ts })
                        return (d, insideGroup 0 ts)
  | _ => expected ["delimiter"]

/-- Repeat a step until it gives a result, at most `fuel` times. -/
def repeatStep {σ α : Type} (step : σ → Reader (Except α σ)) : Nat → σ → Reader α
  | 0, _ => throw .tooDeep
  | fuel + 1, s => do
    match ← step s with
    | .error a => return a
    | .ok s' => repeatStep step fuel s'

/-- Items with commas between them and perhaps after the last one, until `stop` holds. -/
def commaList {α : Type} (fuel : Nat) (stop : List Token → Bool) (item : Reader α) :
    Reader (List α) :=
  repeatStep (fun (done : List α) => do
    if stop (← ahead) then return .error done.reverse
    let a ← item
    if stop (← ahead) then return .error (a :: done).reverse
    op [',']
    return .ok (a :: done)) fuel []

/-- Items one after the other until the end. -/
def itemsToEnd {α : Type} (fuel : Nat) (item : Reader α) : Reader (List α) :=
  repeatStep (fun (done : List α) => do
    if isEnd (← ahead) then return .error done.reverse
    return .ok ((← item) :: done)) fuel []

/-- The result of a reader on all of the tokens. -/
def run {α : Type} (r : Reader α) (ts : List Token) : Except ReadError α := do
  let (a, rest) ← StateT.run r ⟨ts, none⟩
  match rest.leftover with
  | some d => throw (.leftover (some d))
  | none => if rest.tokens.isEmpty then return a else throw (.leftover none)

/-- A name, or a given keyword in the place of one. -/
def nameOr (w : String) : Reader String := do
  if startsWord w (← ahead) then anyName else name

end Reader

/-- Where an expression stands. -/
inductive ExprPlace where
  /-- Anywhere. -/
  | free
  /-- Before a block: a brace after a path is that block, and begins no struct. -/
  | beforeBlock
  /-- At the beginning of a statement or of the body of an arm: an expression that ends in a block
  stands for itself. -/
  | beginning
  deriving DecidableEq, Repr

/-- The readers that depend on each other, for a nesting depth. -/
structure Grammar where
  /-- How often a loop may repeat. -/
  fuel : Nat
  /-- A path as types use it. -/
  path : Reader Path
  /-- A type; the flag tells whether bounds with `+` may follow. -/
  ty : Bool → Reader Ty
  /-- A generic parameter, as `for` binds it. -/
  param : Reader GenericParam
  /-- An expression. -/
  expr : ExprPlace → Reader Expr
  /-- A pattern without alternatives. -/
  pat : Reader Pat
  /-- The statements inside a block. -/
  stmts : Reader (List Stmt)
  /-- What a `use` brings in, and whether parts of it begin with colons; the flag tells whether they
  may. -/
  useTree : Bool → Reader (Option UseTree)
  /-- An item of a module or a block. -/
  item : Reader Item

/-- The grammar that reads nothing. -/
def Grammar.none : Grammar where
  fuel := 0
  path := throw .tooDeep
  ty _ := throw .tooDeep
  param := throw .tooDeep
  expr _ := throw .tooDeep
  pat := throw .tooDeep
  stmts := throw .tooDeep
  useTree _ := throw .tooDeep
  item := throw .tooDeep

end DispatchLayer.Code
