import DispatchLayer.Token.Scan

/-!
# The value of an integer literal

A number is an integer if it has neither a point nor an exponent. Base sixteen, eight and two have a
mark in front; underscores between the digits do not count, and a suffix may follow them.
-/

namespace DispatchLayer.Code

open Scan

/-- An integer as a literal gives it. -/
structure IntLiteral where
  negative : Bool
  value : Nat
  suffix : String
  deriving DecidableEq, Repr

namespace IntLiteral

/-- Whether characters can be a suffix, or there are none. -/
def isSuffix (cs : List Char) : Bool :=
  match cs with
  | [] => true
  | c :: rest => isNameStart c && rest.all isNameContinue

/-- Whether an exponent stands here, after its letter: a sign, or digits up to the end or a
suffix. -/
def isExponent (found : Bool) : List Char → Bool
  | [] => found
  | c :: rest =>
    if c = '_' then isExponent found rest
    else if c = '-' ∨ c = '+' then true
    else if c.isDigit then isExponent true rest
    else found && isSuffix (c :: rest)

/-- The digit of a character in a base, if it can be one. -/
def digit? (base : Nat) (c : Char) : Option Nat :=
  if c.isDigit || base = 16 then hexValue? c else none

/-- The value of digits after those of the value `v`, and what follows them; none where the number is
no integer. At least one digit has to come, unless one was `seen` before. -/
def digits (base : Nat) (seen : Bool) (v : Nat) : List Char → Option (Nat × List Char)
  | [] => if seen then some (v, []) else none
  | c :: rest =>
    if c = '_' then digits base seen v rest
    else match digit? base c with
    | some d => if d < base then digits base true (v * base + d) rest else none
    | none =>
      if base = 10 && (c = '.' || ((c = 'e' || c = 'E') && isExponent false rest)) then none
      else if seen then some (v, c :: rest)
      else none

/-- The value of an integer literal without sign, and what follows its digits. -/
def unsigned? : List Char → Option (Nat × List Char)
  | '0' :: 'x' :: cs => digits 16 false 0 cs
  | '0' :: 'o' :: cs => digits 8 false 0 cs
  | '0' :: 'b' :: cs => digits 2 false 0 cs
  | c :: cs => if c.isDigit then digits 10 false 0 (c :: cs) else none
  | [] => none

/-- The integer that a literal gives, if it is one. -/
def ofText? (text : String) : Option IntLiteral :=
  let (negative, cs) := match text.toList with
    | '-' :: cs => (true, cs)
    | cs => (false, cs)
  match unsigned? cs with
  | some (v, rest) => if isSuffix rest then some ⟨negative, v, String.ofList rest⟩ else none
  | none => none

end IntLiteral

/-- Whether a literal is a number with a point or an exponent. -/
def isFloatLiteral (text : String) : Bool :=
  let cs := text.toList
  let unsigned := if cs.head? == some '-' then cs.drop 1 else cs
  (unsigned.head?.any Char.isDigit) && (IntLiteral.ofText? text).isNone

/-- Whether a literal is short: a byte, a character, an integer or a truth value. -/
def isShortLiteral (text : String) : Bool :=
  match text.toList with
  | '\'' :: _ => true
  | 'b' :: '\'' :: _ => true
  | _ => text == "true" || text == "false" || (IntLiteral.ofText? text).isSome

end DispatchLayer.Code
