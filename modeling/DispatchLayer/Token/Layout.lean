import DispatchLayer.Token

/-!
# Tokens on one line

A sequence of tokens is written with one space between neighbours, except that parentheses and
square brackets hug what they hold, and that nothing stands between a joint punctuation character
and what it belongs to. Braces keep their spaces, and an empty pair of them has one.
-/

namespace DispatchLayer.Token

/-- The characters of a token. -/
def chars : Token → List Char
  | .ident text => text.toList
  | .punct c _ => [c]
  | .literal text => text.toList
  | .opening d => [d.opener]
  | .closing d => [d.closer]

/-- Whether a token hugs what follows it. -/
def hugsNext : Token → Bool
  | .opening .paren => true
  | .opening .bracket => true
  | .punct _ .joint => true
  | _ => false

/-- Whether a token hugs what stands before it. -/
def hugsPrevious : Token → Bool
  | .closing .paren => true
  | .closing .bracket => true
  | _ => false

/-- Whether two neighbours have a space between them. -/
def spaced (a b : Token) : Bool :=
  if b = .closing .brace then true else !(hugsNext a || hugsPrevious b)

/-- A token together with the space before it. -/
def charsAfter : Option Token → Token → List Char
  | none, b => b.chars
  | some a, b => if spaced a b then ' ' :: b.chars else b.chars

/-- Each token with its left neighbour. -/
def withPrevious (ts : List Token) : List (Option Token × Token) :=
  List.zip (none :: ts.map some) ts

/-- The tokens on one line. -/
def lineChars (ts : List Token) : List Char :=
  (withPrevious ts).flatMap fun p => charsAfter p.1 p.2

/-- The tokens on one line. -/
def line (ts : List Token) : String := String.ofList (lineChars ts)

end DispatchLayer.Token
