import DispatchLayer.Code.Reader.Item
import DispatchLayer.Code.Reader.Statement
import DispatchLayer.Token.Lexer

/-!
# Reading source files and paths

The readers of all forms are tied together here: each nesting depth reads its parts with the readers
of the depth below. The length of the input bounds both the depth and the number of repetitions.

A source text may begin with a byte order mark, and with a line that names an interpreter: `#!` at
the very beginning, unless a square bracket follows, which makes it an attribute.
-/

namespace DispatchLayer.Code

/-- The grammar one nesting depth above another. -/
def Grammar.above (g : Grammar) : Grammar where
  fuel := g.fuel + 1
  path := Reader.pathInType g
  ty := Reader.typeWith g
  param := Reader.boundParam g
  expr := Reader.exprWith g
  pat := Reader.patternWith g
  stmts := Reader.stmtsWith g
  useTree := Reader.useTreeWith g
  item := Reader.itemWith g

/-- The grammar for a nesting depth. -/
def Grammar.ofDepth (n : Nat) : Grammar := Nat.repeat Grammar.above n Grammar.none

/-- A grammar that is deep enough for the tokens. -/
def Grammar.forTokens (ts : List Token) : Grammar := Grammar.ofDepth (2 * ts.length + 16)

/-- The path that the tokens are. -/
def Path.ofTokens? (ts : List Token) : Except ReadError Path :=
  Reader.run (Reader.pathInType (Grammar.forTokens ts)) ts

/-- The path that a text is. -/
def Path.ofText? (s : String) : Except ReadError Path :=
  match Token.ofText? s with
  | none => .error .noTokens
  | some ts => Path.ofTokens? ts

/-- The source file that the tokens are. -/
def SourceFile.ofTokens? (ts : List Token) : Except ReadError SourceFile :=
  Reader.run (Reader.sourceFile (Grammar.forTokens ts)) ts

/-- Whether the first token after white space and comments is a square bracket. -/
def startsAttribute (cs : List Char) : Nat → Bool
  | 0 => false
  | fuel + 1 =>
    match cs with
    | [] => false
    | '[' :: _ => true
    | c :: rest =>
      match Token.scanPiece (c :: rest) with
      | some ([], after) => startsAttribute after fuel
      | _ => false

/-- The line that names an interpreter, and the rest of the text. -/
def splitInterpreter (cs : List Char) : Option String × List Char :=
  match cs with
  | '#' :: '!' :: rest =>
    if startsAttribute rest (rest.length + 1) then (none, cs)
    else
      let line := cs.takeWhile (· != '\n')
      (some (String.ofList line), cs.drop line.length)
  | _ => (none, cs)

/-- The source file that a text is. -/
def SourceFile.ofText? (s : String) : Except ReadError SourceFile :=
  let (interpreter, rest) := splitInterpreter (Token.dropByteOrderMark s.toList)
  match Token.ofChars? rest with
  | none => .error .noTokens
  | some ts => (SourceFile.ofTokens? ts).map fun f => { f with interpreter }

end DispatchLayer.Code
