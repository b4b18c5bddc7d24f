/-!
# Tokens of Rust source

Source text is a sequence of tokens. Brackets are tokens of their own, an opening and a closing one
per pair, so a sequence is flat; `balanced` says that every closing bracket answers the last opening
one. A lifetime is the punctuation character `'` followed by a name.
-/

namespace DispatchLayer

/-- The three kinds of brackets. -/
inductive Delimiter where
  | paren
  | bracket
  | brace
  deriving DecidableEq, Repr

/-- The character that opens a pair. -/
def Delimiter.opener : Delimiter → Char
  | .paren => '('
  | .bracket => '['
  | .brace => '\x7b'

/-- The character that closes a pair. -/
def Delimiter.closer : Delimiter → Char
  | .paren => ')'
  | .bracket => ']'
  | .brace => '\x7d'

/-- Whether a punctuation character belongs together with what follows it. -/
inductive Spacing where
  | alone
  | joint
  deriving DecidableEq, Repr

/-- One token. Names keep their raw mark (`r#type`), literals their text. -/
inductive Token where
  | ident (text : String)
  | punct (c : Char) (spacing : Spacing)
  | literal (text : String)
  | opening (d : Delimiter)
  | closing (d : Delimiter)
  deriving DecidableEq, Repr

namespace Token

/-- Whether brackets pair up, `stack` being those that are open. -/
def balancedFrom : List Delimiter → List Token → Bool
  | stack, [] => stack.isEmpty
  | stack, .opening d :: rest => balancedFrom (d :: stack) rest
  | [], .closing _ :: _ => false
  | d :: stack, .closing e :: rest => d = e && balancedFrom stack rest
  | stack, _ :: rest => balancedFrom stack rest

/-- Whether every bracket is answered by one of its kind. -/
def balanced (ts : List Token) : Bool := balancedFrom [] ts

/-- A punctuation character that stands by itself. -/
def mark (c : Char) : Token := .punct c .alone

/-- Several punctuation characters written as one operator: all but the last are joint. -/
def operator : List Char → List Token
  | [] => []
  | [c] => [.punct c .alone]
  | c :: rest => .punct c .joint :: operator rest

/-- A lifetime `'name`. -/
def lifetime (name : String) : List Token := [.punct '\'' .joint, .ident name]

/-- Tokens between a pair of brackets. -/
def grouped (d : Delimiter) (ts : List Token) : List Token := .opening d :: (ts ++ [.closing d])

end Token

end DispatchLayer
