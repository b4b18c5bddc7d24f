import DispatchLayer.Code
import DispatchLayer.Pretty.Document
import DispatchLayer.Token.Layout

/-!
# Setting loose tokens on lines

The tokens of a macro call and of an attribute are not trees. Spaces between them are chosen by
their neighbours: a small machine remembers what kind of token came last.

The rules of a macro are an exception. Each is set as a matcher, an arrow, and the tokens it expands
to on lines of their own; a definition that is no sequence of such rules is refused.
-/

namespace DispatchLayer.Code.Printer

open Pretty

/-- A token as a text. -/
def tokenWord (t : Token) : Doc := word (String.ofList t.chars)

/-! ## The tokens of a macro call -/

/-- Words with a space before them. -/
def spacedWords : List String := [
  "as", "async", "await", "box", "break", "const", "continue", "dyn", "else", "enum", "extern",
  "fn", "for", "if", "impl", "in", "let", "loop", "macro", "match", "mod", "move", "mut", "pub",
  "ref", "return", "static", "struct", "trait", "type", "unsafe", "use", "where", "while", "yield"]

/-- What came last among the tokens of a macro call. -/
inductive MacroState where
  | start
  | dollar
  | dollarIdent
  | dollarIdentColon
  | dollarParen
  | dollarParenSep
  | pound
  | poundBang
  | dot
  | colon
  | colonPair
  | ident
  | identBang
  | delim
  | other
  deriving DecidableEq, Repr

/-- Whether a space stands before a token, and the state after it. A group is met as its opening
bracket. `matcher` tells whether the tokens are those that a rule matches. -/
def macroStep (matcher : Bool) (s : MacroState) (t : Token) : Bool × MacroState :=
  match s, t with
  | .dollar, .ident w =>
    if matcher then (false, .dollarIdent)
    else if spacedWords.contains w then (true, .other) else (true, .ident)
  | .dollarIdent, .punct ':' .alone => (false, .dollarIdentColon)
  | .dollarIdentColon, .ident _ => (false, .other)
  | .dollarParen, .punct '+' .alone => (false, .other)
  | .dollarParen, .punct '*' .alone => (false, .other)
  | .dollarParen, .punct '?' .alone => (false, .other)
  | .dollarParen, .ident _ => (false, .dollarParenSep)
  | .dollarParen, .literal _ => (false, .dollarParenSep)
  | .dollarParen, .punct _ .joint => (false, .dollarParen)
  | .dollarParen, .punct _ .alone => (false, .dollarParenSep)
  | .dollarParenSep, .punct '+' _ => (false, .other)
  | .dollarParenSep, .punct '*' _ => (false, .other)
  | .pound, .punct '!' _ => (false, .poundBang)
  | .dollar, .opening .paren => (false, .dollarParen)
  | .pound, .opening .bracket => (false, .other)
  | .poundBang, .opening .bracket => (false, .other)
  | .ident, .opening .paren => (false, .delim)
  | .ident, .opening .bracket => (false, .delim)
  | .ident, .punct '!' .alone => (false, .identBang)
  | .identBang, .opening .paren => (false, .other)
  | .identBang, .opening .bracket => (false, .other)
  | .colon, .punct ':' _ => (false, .colonPair)
  | _, .opening .brace => (true, .other)
  | _, .opening _ => (true, .delim)
  | _, .ident w =>
    if spacedWords.contains w then (true, .other) else (s != .dot && s != .colonPair, .ident)
  | _, .literal text => (s != .dot, if text.toList.getLast? == some '.' then .other else .ident)
  | _, .punct ',' _ => (false, .other)
  | _, .punct ';' _ => (false, .other)
  | _, .punct '.' _ => if matcher then (true, .other) else (s != .ident && s != .delim, .dot)
  | _, .punct ':' .joint => (s != .ident, .colon)
  | _, .punct '$' _ => (true, .dollar)
  | _, .punct '#' _ => (true, .pound)
  | _, _ => (true, .other)

/-- Whether a token sticks to what follows it. -/
def sticks : Token → Bool
  | .punct _ .joint => true
  | .punct '$' _ => true
  | _ => false

/-- What stands before a token. -/
def macroGap (stuck needsSpace : Bool) (t : Token) : Doc :=
  if stuck then []
  else if needsSpace then space
  else match t with
    | .punct '.' _ => zeroBreak
    | _ => []

/-- Whether the group that opens here is empty. -/
def opensEmpty : List Token → Bool
  | .closing _ :: _ => true
  | _ => false

/-- The tokens of a macro call. `outer` holds the states after the groups that are open, `stuck`
tells whether nothing may stand before the next token. -/
def macroTokens (matcher : Bool) :
    List MacroState → MacroState → Bool → List Token → Doc
  | _, _, _, [] => []
  | outer, s, stuck, .opening d :: rest =>
    let (needsSpace, after) := macroStep matcher s (.opening d)
    let inside := if d = .brace && !opensEmpty rest then space else []
    macroGap stuck needsSpace (.opening d) ++ tokenWord (.opening d) ++ inside ++
      macroTokens matcher (after :: outer) .start true rest
  | after :: outer, s, _, .closing d :: rest =>
    (if d = .brace && s != .start then space else []) ++ tokenWord (.closing d) ++
      macroTokens matcher outer after false rest
  | outer, s, stuck, t :: rest =>
    let (needsSpace, after) := macroStep matcher s t
    macroGap stuck needsSpace t ++ tokenWord t ++ macroTokens matcher outer after (sticks t) rest

/-- All tokens of a group, with the same break after its opening and before its closing bracket. -/
def groupInside (matcher : Bool) (ending : Doc) (ts : List Token) : Doc :=
  if ts.isEmpty then []
  else
    consistent indent (ending ++ inconsistent 0 (macroTokens matcher [] .start true ts) ++ ending ++
      shift (-indent))

/-! ## The rules of a macro -/

/-- A token outside of groups, or a whole group. -/
inductive Piece where
  | token (t : Token)
  | group (d : Delimiter) (inside : List Token)

/-- Sorting tokens into pieces, from left to right. -/
structure Sorting where
  /-- The pieces so far, in reverse. -/
  done : List Piece
  /-- The group that is open: its brackets, how many groups in it are open as well, and its tokens
  in reverse. -/
  inside : Option (Delimiter × Nat × List Token)

/-- Sort one token. -/
def Sorting.step (s : Sorting) (t : Token) : Sorting :=
  match s.inside, t with
  | none, .opening d => { s with inside := some (d, 0, []) }
  | none, t => { s with done := .token t :: s.done }
  | some (d, 0, ts), .closing _ => ⟨.group d ts.reverse :: s.done, none⟩
  | some (d, n + 1, ts), .closing e => { s with inside := some (d, n, .closing e :: ts) }
  | some (d, n, ts), .opening e => { s with inside := some (d, n + 1, .opening e :: ts) }
  | some (d, n, ts), t => { s with inside := some (d, n, t :: ts) }

/-- The pieces of a sequence of tokens. -/
def pieces (ts : List Token) : List Piece := (ts.foldl Sorting.step ⟨[], none⟩).done.reverse

/-- What came last in a sequence of rules. -/
inductive RuleState where
  | start
  | matcher
  | equals
  | arrow
  | expander
  deriving DecidableEq, Repr

/-- One piece of a rule. -/
def ruleStep (s : RuleState) (p : Piece) : Option (Doc × RuleState) :=
  match s, p with
  | .start, .group d ts =>
    some (word (String.singleton d.opener) ++ groupInside true zeroBreak ts ++
      word (String.singleton d.closer), .matcher)
  | .matcher, .token (.punct '=' .joint) => some (word " =", .equals)
  | .equals, .token (.punct '>' .alone) => some (word ">", .arrow)
  | .arrow, .group _ ts =>
    some (word " \x7b" ++ neverBreak ++ groupInside false hardBreak ts ++ word "\x7d", .expander)
  | .expander, .token (.punct ';' .alone) => some (word ";" ++ hardBreak, .start)
  | _, _ => none

/-- The pieces of rules. -/
def rulesDoc : RuleState → List Piece → Doc
  | .start, [] => []
  | .expander, [] => word ";" ++ hardBreak
  | _, [] => hardBreak
  | s, p :: rest =>
    match ruleStep s p with
    | some (d, after) => d ++ rulesDoc after rest
    | none => [.refusal "not implemented: bad macro_rules syntax"]

/-! ## Macro calls -/

/-- A path without generic arguments. -/
def plainPathDoc (p : PlainPath) : Doc :=
  word ((if p.leading then "::" else "") ++ String.intercalate "::" p.names)

/-- A macro call of any kind, perhaps with a name behind the exclamation mark, and with a semicolon
where one is asked for and brackets other than braces stand. -/
def callMacro (m : MacroCall) (name : Option String) (semicolon : Bool) : Doc :=
  let (opener, ending) : String × Doc := match m.delimiter with
    | .paren => ("(", zeroBreak)
    | .bracket => ("[", zeroBreak)
    | .brace => (" \x7b", hardBreak)
  plainPathDoc m.path ++ word "!" ++
    (match name with
      | none => []
      | some n => word (" " ++ n)) ++ word opener ++ groupInside false ending m.tokens ++
    word (String.singleton m.delimiter.closer) ++
    if semicolon && m.delimiter != .brace then word ";" else []

/-- A macro call. Where it defines a macro by rules, they are set one by one. -/
def macroDoc (m : MacroCall) (name : Option String) (semicolon : Bool) : Doc :=
  match name with
  | some n =>
    if m.path.asName? == some "macro_rules" then
      word ("macro_rules! " ++ n ++ " \x7b") ++
        consistent indent (hardBreakIfNonempty ++ rulesDoc .start (pieces m.tokens) ++
          shift (-indent)) ++ word "\x7d"
    else callMacro m name semicolon
  | none => callMacro m none semicolon

/-! ## The tokens of an attribute -/

/-- What came last among the tokens of an attribute. -/
inductive AttributeState where
  | word
  | punct
  | trailingComma
  deriving DecidableEq, Repr

/-- The tokens of an attribute. `opened` tells whether a group was opened and the outermost one is
not closed yet; spaces may then end the line. -/
def attributeTokens : Nat → AttributeState → List Token → Doc
  | _, _, [] => []
  | depth, s, t :: rest =>
    let gap := if depth = 0 then word " " else space
    match t with
    | .ident _ =>
      (if s = .word then gap else []) ++ tokenWord t ++ attributeTokens depth .word rest
    | .literal _ =>
      (if s = .word then gap else []) ++ tokenWord t ++ attributeTokens depth .word rest
    | .punct c _ =>
      let before := if s = .word ∧ c = '=' then word " " else []
      if c = ',' ∧ opensEmpty rest then
        before ++ trailingComma true ++ attributeTokens depth .trailingComma rest
      else
        let after := if c = '=' then word " " else if c = ',' then gap else []
        before ++ tokenWord t ++ after ++ attributeTokens depth .punct rest
    | .opening .paren =>
      tokenWord t ++ [.box indent true] ++ zeroBreak ++ attributeTokens (depth + 1) .punct rest
    | .opening _ => tokenWord t ++ attributeTokens (depth + 1) .punct rest
    | .closing .paren =>
      (if s = .trailingComma then [] else zeroBreak) ++ shift (-indent) ++ [.endBox] ++
        tokenWord t ++ attributeTokens (depth - 1) .punct rest
    | .closing _ => tokenWord t ++ attributeTokens (depth - 1) .punct rest

end DispatchLayer.Code.Printer
